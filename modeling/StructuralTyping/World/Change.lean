import StructuralTyping.World
/-!
# What an operation changes

Every operation on a world adds one holder or changes one holder, and of that one
it changes the members or the link. The lemmas say what each operation does to
the holders, to the members that they own, and to their links; everything that an
operation does not name stays as it was.
-/
set_option autoImplicit false

namespace StructuralTyping.World

/-- Changing a holder adds none and drops none. -/
@[simp]
theorem size_update (w : World) (id : HolderId) (change : Holder → Holder) :
    (w.update id change).holders.size = w.holders.size := by
  simp [update]

/-- Only the holder that is named is changed; one that does not exist is not made. -/
theorem holder?_update (w : World) (id other : HolderId) (change : Holder → Holder) :
    (w.update id change).holder? other =
      if other = id then (w.holder? other).map change else w.holder? other := by
  simp only [update, holder?, Array.getElem?_modify, eq_comm (a := id)]

/-- A change that leaves kinds alone leaves the kind of every holder alone. -/
theorem kind?_update (w : World) (id other : HolderId) {change : Holder → Holder}
    (keeps : ∀ h, (change h).kind = h.kind) :
    (w.update id change).kind? other = w.kind? other := by
  simp only [kind?, holder?_update]
  split
  · cases w.holder? other <;> simp [keeps]
  · rfl

/-- A new holder stands behind all others, which stay what they are. -/
theorem holder?_add (w : World) (h : Holder) (other : HolderId) :
    (w.add h).2.holder? other = if other = w.holders.size then some h else w.holder? other := by
  simp only [add, holder?, Array.getElem?_push]

/-- A new holder has the kind it came with. -/
theorem kind?_add (w : World) (h : Holder) (other : HolderId) :
    (w.add h).2.kind? other = if other = w.holders.size then some h.kind else w.kind? other := by
  simp only [kind?, holder?_add]
  split <;> rfl

/-- A new holder owns what it came with. -/
theorem own?_add (w : World) (h : Holder) (other : HolderId) (name : String) :
    (w.add h).2.own? other name =
      if other = w.holders.size then h.own? name else w.own? other name := by
  simp only [own?, holder?_add]
  split <;> rfl

/-- A new holder delegates to what it came with. -/
theorem parent?_add (w : World) (h : Holder) (other : HolderId) :
    (w.add h).2.parent? other = if other = w.holders.size then h.parent? else w.parent? other := by
  simp only [parent?, holder?_add]
  split <;> rfl

/-- A member that was set is owned under its name by its holder, if there is one; no
other name and no other holder is touched. -/
theorem own?_set (w : World) (id other : HolderId) (name asked : String) (member : Member) :
    (w.set id name member).2.own? other asked =
      if other = id ∧ asked = name then (w.holder? id).map (fun _ => member)
      else w.own? other asked := by
  simp only [set, own?, holder?_update]
  by_cases here : other = id
  · subst here
    cases w.holder? other with
    | none => simp
    | some h => simp [h.own?_set]
  · simp [here]

/-- Setting a member moves no link. -/
theorem parent?_set (w : World) (id other : HolderId) (name : String) (member : Member) :
    (w.set id name member).2.parent? other = w.parent? other := by
  simp only [set, parent?, holder?_update]
  split
  · cases w.holder? other <;> simp
  · rfl

/-- Setting a member changes no kind. -/
theorem kind?_set (w : World) (id other : HolderId) (name : String) (member : Member) :
    (w.set id name member).2.kind? other = w.kind? other :=
  w.kind?_update id other fun h => h.kind_set name member

/-- To define a callable is to set it as a member. -/
theorem define_eq (w : World) (id : HolderId) (name : String) (f : Callable) :
    w.define id name f = (w.set id name (.function f)).2 := by
  simp only [define, set, Holder.define_eq_set]

/-- A member that was removed is gone; no other name and no other holder is touched. -/
theorem own?_remove (w : World) (id other : HolderId) (name asked : String) :
    (w.remove id name).2.own? other asked =
      if other = id ∧ asked = name then none else w.own? other asked := by
  simp only [remove, own?, holder?_update]
  by_cases here : other = id
  · subst here
    cases w.holder? other with
    | none => simp
    | some h => simp [h.own?_remove]
  · simp [here]

/-- Removing a member moves no link. -/
theorem parent?_remove (w : World) (id other : HolderId) (name : String) :
    (w.remove id name).2.parent? other = w.parent? other := by
  simp only [remove, parent?, holder?_update]
  split
  · cases w.holder? other <;> simp
  · rfl

/-- Removing a member changes no kind. -/
theorem kind?_remove (w : World) (id other : HolderId) (name : String) :
    (w.remove id name).2.kind? other = w.kind? other :=
  w.kind?_update id other fun h => h.kind_remove name

/-- Moving a link changes no members. -/
theorem own?_link (w : World) (id other : HolderId) (parent : Option HolderId) (name : String) :
    (w.link id parent).own? other name = w.own? other name := by
  simp only [link, own?, holder?_update]
  split
  · cases w.holder? other <;> simp
  · rfl

/-- A link that was moved leads where it was told to, if its holder exists and may delegate; no
other link is touched. -/
theorem parent?_link (w : World) (id other : HolderId) (parent : Option HolderId) :
    (w.link id parent).parent? other =
      if other = id then
        (w.kind? id).bind fun kind => if kind.delegates = true then parent else none
      else w.parent? other := by
  simp only [link, parent?, kind?, holder?_update]
  by_cases here : other = id
  · subst here
    cases w.holder? other <;> simp [Holder.parent?_link]
  · simp [here]

/-- Moving a link changes no kind. -/
theorem kind?_link (w : World) (id other : HolderId) (parent : Option HolderId) :
    (w.link id parent).kind? other = w.kind? other :=
  w.kind?_update id other fun h => h.kind_link parent

/-- A holder that exists still does after a callable was put under a name. -/
theorem holder?_isSome_define (w : World) (id other : HolderId) (name : String) (f : Callable) :
    ((w.define id name f).holder? other).isSome = (w.holder? other).isSome := by
  simp only [define, holder?_update]
  split <;> simp

/-- Callables that are put under different names are all owned in the end; no other name
and no other holder is touched. -/
theorem own?_defineAll {w : World} {id : HolderId} (present : (w.holder? id).isSome = true)
    {callables : List (String × Callable)} (distinct : (callables.map Prod.fst).Nodup)
    (other : HolderId) (name : String) :
    (w.defineAll id callables).own? other name =
      if other = id then ((callables.lookup name).map .function).or (w.own? other name)
      else w.own? other name := by
  induction callables generalizing w with
  | nil => simp [defineAll]
  | cons first later inductionHypothesis =>
    obtain ⟨written, f⟩ := first
    obtain ⟨fresh, distinctLater⟩ := List.nodup_cons.1 distinct
    have presentAfter : ((w.define id written f).holder? id).isSome = true := by
      rw [holder?_isSome_define, present]
    rw [defineAll, inductionHypothesis presentAfter distinctLater, define_eq, own?_set]
    by_cases here : other = id
    · subst here
      by_cases same : name = written
      · subst same
        -- no later callable goes under the same name, so this one stays
        have last : later.lookup name = none := Table.lookup_eq_none_of_notMem fresh
        obtain ⟨h, found⟩ := Option.isSome_iff_exists.1 present
        simp [last, found]
      · simp [Table.lookup_cons_eq, same]
    · simp [here]

/-- Putting callables under names adds no holder. -/
@[simp]
theorem size_defineAll (w : World) (id : HolderId) (callables : List (String × Callable)) :
    (w.defineAll id callables).holders.size = w.holders.size := by
  induction callables generalizing w with
  | nil => rfl
  | cons first later inductionHypothesis =>
    rw [defineAll, inductionHypothesis, define, size_update]

/-- Putting callables under names moves no link. -/
theorem parent?_defineAll (w : World) (id other : HolderId) (callables : List (String × Callable)) :
    (w.defineAll id callables).parent? other = w.parent? other := by
  induction callables generalizing w with
  | nil => rfl
  | cons first later inductionHypothesis =>
    rw [defineAll, inductionHypothesis, define_eq, parent?_set]

/-- Putting callables under names changes no kind. -/
theorem kind?_defineAll (w : World) (id other : HolderId) (callables : List (String × Callable)) :
    (w.defineAll id callables).kind? other = w.kind? other := by
  induction callables generalizing w with
  | nil => rfl
  | cons first later inductionHypothesis =>
    rw [defineAll, inductionHypothesis, define_eq, kind?_set]

/-- Putting callables under names creates none. -/
theorem callables_defineAll (w : World) (id : HolderId) (callables : List (String × Callable)) :
    (w.defineAll id callables).callables = w.callables := by
  induction callables generalizing w with
  | nil => rfl
  | cons first later inductionHypothesis =>
    rw [defineAll, inductionHypothesis]
    rfl

/-- A holder that exists still does after callables were put under names. -/
theorem holder?_isSome_defineAll (w : World) (id other : HolderId)
    (callables : List (String × Callable)) :
    ((w.defineAll id callables).holder? other).isSome = (w.holder? other).isSome := by
  have kinds := congrArg Option.isSome (w.kind?_defineAll id other callables)
  simpa only [kind?, Option.isSome_map] using kinds

/-- Two lots of callables can be put under names one after the other. -/
theorem defineAll_append (w : World) (id : HolderId) (first second : List (String × Callable)) :
    w.defineAll id (first ++ second) = (w.defineAll id first).defineAll id second := by
  induction first generalizing w with
  | nil => rfl
  | cons entry later inductionHypothesis => exact inductionHypothesis _

/-- A world is known by the kinds, the links and the members of its holders, and by its
callables. -/
theorem ext {w v : World} (kinds : ∀ id, w.kind? id = v.kind? id)
    (links : ∀ id, w.parent? id = v.parent? id) (own : ∀ id name, w.own? id name = v.own? id name)
    (callables : w.callables = v.callables) : w = v := by
  have holders : w.holders = v.holders := by
    refine Array.ext_getElem? fun id => ?_
    change w.holder? id = v.holder? id
    have kind := kinds id
    have link := links id
    have members := own id
    simp only [kind?, parent?, own?] at kind link members
    cases first : w.holder? id with
    | none =>
      cases second : v.holder? id with
      | none => rfl
      | some g => simp [first, second] at kind
    | some h =>
      cases second : v.holder? id with
      | none => simp [first, second] at kind
      | some g =>
        simp only [first, second, Option.map_some, Option.bind_some, Option.some.injEq]
          at kind link members
        rw [Holder.ext kind link members]
  cases w
  cases v
  congr

end StructuralTyping.World
