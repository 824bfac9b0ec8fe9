import StructuralTyping.Proofs.Visibility
/-!
# Members that nobody touches

An action names the holder that it writes on and the names that it writes there, or takes
away. Whatever a holder owns itself stays as it is until an action touches it there under
its name: a run may change everything else, the levels that the holder delegates to and
the holders that a member came from included. An action that is refused touches nothing.

Applying an implementation puts the callables into the own members of the target. So they
stay what they were, and the target goes on to conform, for as long as no action of a run
touches a declared name on the target itself.
-/
set_option autoImplicit false

namespace StructuralTyping

/-- The outcomes that tell of a refusal. -/
def Outcome.refused : Outcome → Bool
  | .cycle _ | .rejected _ | .unsupported => true
  | .done | .created _ | .made _ | .replaced _ => false

/-- The members that an action writes or takes away, each by its holder and its name. -/
def Action.touched : Action → List (HolderId × String)
  | .set holder name _ | .define holder name _ | .remove holder name => [(holder, name)]
  | .apply target d _ => d.names.map (target, ·)
  | .create _ _ | .copy _ _ | .make _ _ | .relink _ _ => []

namespace World

variable {w after : World} {id : HolderId} {name : String} {member : Member}

/-- A run that leaves some names of a holder alone: every action of it is refused, or
touches none of these names there. -/
def Spares (id : HolderId) (names : List String) : World → List Action → Prop
  | _, [] => True
  | w, action :: later =>
    ((w.perform action).1.refused = true ∨ ∀ name ∈ names, (id, name) ∉ action.touched) ∧
      Spares id names (w.perform action).2 later

/-- An action that is refused leaves the world as it was. -/
theorem perform_of_refused {action : Action} (refused : (w.perform action).1.refused = true) :
    (w.perform action).2 = w := by
  fun_cases perform w action <;> simp_all [perform, Outcome.refused]

/-- Supplying a member touches none. -/
theorem own?_obtain (w : World) (source : Source) (id : HolderId) (name : String) :
    (w.obtain source).2.own? id name = w.own? id name := by
  rw [own?, holder?, holders_obtain, own?, holder?]

/-- A new holder takes nobody's place. -/
theorem own?_add_of_owned (h : Holder) (owned : w.own? id name = some member) :
    (w.add h).2.own? id name = some member := by
  have old : id ≠ w.holders.size := by
    rintro rfl
    simp [own?, holder?] at owned
  rw [own?_add, if_neg old, owned]

/-- Writing under other names, or on another holder, leaves a member alone. -/
theorem own?_set_of_untouched {target : HolderId} {written : String} (new : Member)
    (untouched : (id, name) ≠ (target, written)) :
    (w.set target written new).2.own? id name = w.own? id name := by
  rw [own?_set, if_neg]
  rintro ⟨rfl, rfl⟩
  exact untouched rfl

/-- Callables under other names, or on another holder, leave a member alone. -/
theorem own?_defineAll_of_untouched {target : HolderId} {callables : List (String × Callable)}
    (untouched : ∀ entry ∈ callables, (id, name) ≠ (target, entry.1)) :
    (w.defineAll target callables).own? id name = w.own? id name := by
  induction callables generalizing w with
  | nil => rfl
  | cons first later inductionHypothesis =>
    obtain ⟨apart, apartLater⟩ := List.forall_mem_cons.1 untouched
    rw [defineAll, inductionHypothesis apartLater, define_eq, own?_set_of_untouched _ apart]

/-- Moving a link leaves every member alone, also when the link is refused. -/
theorem own?_relink (w : World) (target : HolderId) (parent : Option HolderId) (id : HolderId)
    (name : String) : (w.perform (.relink target parent)).2.own? id name = w.own? id name := by
  rcases w.linked_or_refused target parent with moved | kept
  · rw [moved, own?_link]
  · rw [kept]

/-- One action leaves alone every member that it does not touch. -/
theorem own?_perform_of_untouched {action : Action} (owned : w.own? id name = some member)
    (untouched : (id, name) ∉ action.touched) :
    (w.perform action).2.own? id name = some member := by
  cases action with
  | create kind parent =>
    simp only [perform]
    split
    · exact own?_add_of_owned _ owned
    · exact owned
  | copy kind source =>
    simp only [perform]
    split
    · exact own?_add_of_owned _ owned
    · exact owned
  | make arity body => exact owned
  | set holder written source =>
    have apart : (id, name) ≠ (holder, written) := by simpa [Action.touched] using untouched
    have supply := w.own?_obtain source id name
    simp only [perform]
    split
    · rename_i new supplied obtained
      rw [obtained] at supply
      rw [own?_set_of_untouched new apart, supply, owned]
    · exact owned
  | define holder written source =>
    have apart : (id, name) ≠ (holder, written) := by simpa [Action.touched] using untouched
    have supply := w.own?_obtain source id name
    simp only [perform]
    split
    · rename_i f supplied obtained
      rw [obtained] at supply
      rw [define_eq, own?_set_of_untouched (.function f) apart, supply, owned]
    · exact owned
  | remove holder written =>
    have apart : ¬(id = holder ∧ name = written) := by simpa [Action.touched] using untouched
    simp only [perform]
    split
    · rw [own?_remove, if_neg apart, owned]
    · exact owned
  | relink holder parent => rw [own?_relink, owned]
  | apply target d candidate =>
    cases found : implementation (w.resolve candidate) d with
    | ok callables =>
      have names := (implements_of_implementation found).names
      have apart : ∀ entry ∈ callables, (id, name) ≠ (target, entry.1) := by
        rintro entry member same
        obtain ⟨rfl, rfl⟩ := Prod.mk.inj same
        have declared : entry.1 ∈ d.names := by
          rw [Interface.names, ← names]
          exact List.mem_map_of_mem member
        exact untouched (List.mem_map_of_mem declared)
      rw [perform_apply_of_ok found, own?_defineAll_of_untouched apart, owned]
    | error rejection => rw [perform_apply_of_error found, owned]

/-- A run leaves alone every member that it spares. -/
theorem own?_run_of_spared {names : List String} {actions : List Action}
    (owned : w.own? id name = some member) (listed : name ∈ names)
    (spared : Spares id names w actions) : (w.run actions).own? id name = some member := by
  induction actions generalizing w with
  | nil => exact owned
  | cons action later inductionHypothesis =>
    obtain ⟨first, further⟩ := spared
    have kept : (w.perform action).2.own? id name = some member := by
      rcases first with refused | untouched
      · rw [perform_of_refused refused, owned]
      · exact own?_perform_of_untouched owned (untouched name listed)
    exact inductionHypothesis kept further

/-- An applied implementation lasts. After an implementation was applied, the target
resolves every declared name to the callable that the name stood for on the candidate at
that time, and conforms, at the end of every run that leaves the declared names of the
target itself alone. Whatever else a run does to the candidate, to the target and to what
they delegate to makes no difference. -/
theorem applied_implementation_lasts {target candidate : HolderId} {d : Interface}
    (present : (w.holder? target).isSome = true)
    (applied : w.perform (.apply target d candidate) = (.done, after)) {actions : List Action}
    (spared : Spares target d.names after actions) :
    (∀ name ∈ d.names, ∃ f, w.resolve candidate name = some (.function f) ∧
        (after.run actions).own? target name = some (.function f) ∧
        (after.run actions).resolve target name = some (.function f)) ∧
      conforms ((after.run actions).resolve target) d = true := by
  obtain ⟨satisfied, writes⟩ := overwrites_of_applied present applied
  have kept : ∀ name ∈ d.names, ∀ f, w.resolve candidate name = some (.function f) →
      (after.run actions).own? target name = some (.function f) := by
    intro name declared f found
    refine own?_run_of_spared ?_ declared spared
    rw [writes.own, if_pos rfl, if_pos declared, found, Option.some_or]
  constructor
  · intro name declared
    obtain ⟨f, found⟩ := exists_function_of_mem_names satisfied declared
    have own := kept name declared f found
    exact ⟨f, found, own, resolve_of_own own⟩
  · refine (conforms_iff_satisfies _ d).2 fun s member => ?_
    obtain ⟨f, found, arity⟩ := satisfied s member
    exact ⟨f, resolve_of_own (kept s.name (List.mem_map_of_mem member) f found), arity⟩

/-- What happens to a family after an implementation was applied to one of its objects:
the candidate loses a function, the prototype above it does, too, and the object itself is
given data under another name and put below another prototype. Applying once more is
refused, because the candidate no longer conforms. -/
def upheaval : List Action :=
  [.set 1 "g" (.data .null), .set 0 "f" (.data (.boolean true)), .set 2 "h" (.data .null),
    .relink 2 (some 1), .apply 2 pairedInterface 1, .relink 1 none]

/-- The object keeps what was applied to it, although nothing that it came from is left. -/
theorem object_outlives_its_candidate :
    Spares 2 pairedInterface.names
        ((empty.run family).perform (.apply 2 pairedInterface 1)).2 upheaval ∧
      (((empty.run family).perform (.apply 2 pairedInterface 1)).2.run upheaval).resolve 1 "f" =
        none ∧
      conforms ((((empty.run family).perform (.apply 2 pairedInterface 1)).2.run upheaval).resolve 2)
        pairedInterface = true := by
  have present : ((empty.run family).holder? 2).isSome = true := rfl
  have applied : (empty.run family).perform (.apply 2 pairedInterface 1) =
      (.done, ((empty.run family).perform (.apply 2 pairedInterface 1)).2) := Prod.ext rfl rfl
  have spared : Spares 2 pairedInterface.names
      ((empty.run family).perform (.apply 2 pairedInterface 1)).2 upheaval :=
    ⟨.inr (by decide), .inr (by decide), .inr (by decide), .inr (by decide), .inl rfl,
      .inr (by decide), trivial⟩
  exact ⟨spared, by decide, (applied_implementation_lasts present applied spared).2⟩

end World

end StructuralTyping
