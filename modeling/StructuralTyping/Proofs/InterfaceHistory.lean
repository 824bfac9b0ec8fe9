import StructuralTyping.Proofs.TomlContracts
import StructuralTyping.Proofs.ValueContracts
import StructuralTyping.Session
import StructuralTyping.Table.Lookup
/-!
# The history of an interface

An interface begins empty, or with what a value, a text or a file declares, and grows by one
declaration after the other. Wherever it began, it lists what was declared, in this order.
What a value or a text declares is said without its reader: by the mapping that writes the
declarations, by the grammar of JSON contracts, or by the lines of a TOML document. A name
that is declared a second time is refused, whatever its parameters, and leaves no trace.
-/
set_option autoImplicit false

namespace StructuralTyping

namespace Session

variable {session : Session} {id : String} {d e : Interface} {s : Signature}

/-- A declaration that is refused is answered with its cause, and nothing changes. -/
theorem execute_declare_of_error {cause : Interface.Duplicate}
    (bound : session.interface? id = some d) (refused : d.insert s = .error cause) :
    session.execute (.declare id s) = (.malformed (.duplicate cause.name), session) := by
  simp [execute, bound, refused]

/-- After a declaration, the name stands for the interface that has it. -/
theorem execute_declare_of_ok (bound : session.interface? id = some d)
    (inserted : d.insert s = .ok e) :
    session.execute (.declare id s) =
      (.state (.interface e), session.bind id (.interface e)) := by
  simp [execute, bound, inserted, showName, bind, Table.get?_insert]

end Session

namespace Interface

variable {report : Toml.Report} {d e : Interface} {declared listed : List Signature}
  {s : Signature}

/-- A text of a format that lists declarations, in this order. -/
def TextLists (format : ContractFormat) (text : String) (listed : List Signature) : Prop :=
  match format with
  | .json => Json.ContractText text.toList listed
  | .toml => Toml.DocumentLists text.toList listed

/-- A text that is accepted in a format lists the declarations of its interface. -/
theorem textLists_of_ofText {format : ContractFormat} {path text : String}
    (accepted : ofText report format path text = .ok d) : TextLists format text d.signatures := by
  cases format with
  | json => exact Json.contract_eq_ok_iff.1 (ofJsonAt_eq_ok_iff.1 accepted)
  | toml => exact Toml.documentLists_of_contract (ofTomlAt_eq_ok_iff.1 accepted)

/-- A text that lists declarations is accepted as the interface of exactly these. -/
theorem ofText_eq_ok_iff_of_lists {format : ContractFormat} {text : String}
    (report : Toml.Report) (path : String) (lists : TextLists format text listed) :
    ofText report format path text = .ok d ↔ d.signatures = listed := by
  cases format with
  | json => exact ofJsonAt_eq_ok_iff.trans (Json.contract_eq_ok_iff_of_written lists)
  | toml => exact ofTomlAt_eq_ok_iff.trans (Toml.contract_eq_ok_iff_of_lists lists)

/-- What an interface can begin with. Values have two readers. -/
inductive Origin where
  | blank
  | value (v : Value)
  | shape (v : Value)
  | json (text : String)
  | toml (text : String)
  | file (files : FileSystem) (path : String)

namespace Origin

/-- The origin is read as the interface, with whatever is reported of texts that are no TOML
documents. -/
def Gives (report : Toml.Report) : Origin → Interface → Prop
  | blank, d => d = .empty
  | value v, d => ofValue v = .ok d
  | shape v, d => Interface.read v = .ok d
  | json text, d => ofJson text = .ok d
  | toml text, d => ofToml report text = .ok d
  | file files path, d => load report files path = .ok d

/-- The origin lists the declarations, in this order, whether or not their names differ. -/
def Lists : Origin → List Signature → Prop
  | blank, listed => listed = []
  | value v, listed | shape v, listed => v = valueOfSignatures listed
  | json text, listed => TextLists .json text listed
  | toml text, listed => TextLists .toml text listed
  | file files path, listed =>
    ∃ format text, ContractFormat.ofPath? path = some format ∧ files.readText path = .ok text ∧
      TextLists format text listed

/-- No origin is read as an interface of other declarations than it lists. -/
theorem lists_of_gives {o : Origin} (given : o.Gives report d) : o.Lists d.signatures := by
  cases o with
  | blank =>
    cases given
    rfl
  | value v => exact ofValue_eq_ok_iff.1 given
  | shape v => exact ofValue_eq_ok_iff.1 (read_eq_ok_iff.1 given)
  | json text =>
    have accepted : ofText report .json inlinePath text = .ok d := given
    exact textLists_of_ofText accepted
  | toml text =>
    have accepted : ofText report .toml inlinePath text = .ok d := given
    exact textLists_of_ofText accepted
  | file files path =>
    obtain ⟨format, text, named, found, accepted⟩ := load_eq_ok_iff.1 given
    exact ⟨format, text, named, found, textLists_of_ofText accepted⟩

/-- An origin that lists declarations is read as the interface that holds exactly them, if
there is one. -/
theorem gives_iff_of_lists {o : Origin} (lists : o.Lists listed) :
    o.Gives report d ↔ d.signatures = listed := by
  cases o with
  | blank =>
    cases lists
    exact Interface.ext_iff
  | value v =>
    cases lists
    rw [Gives, ofValue_eq_ok_iff, valueOfSignatures_inj, eq_comm]
  | shape v =>
    cases lists
    rw [Gives, read_eq_ok_iff, ofValue_eq_ok_iff, valueOfSignatures_inj, eq_comm]
  | json text =>
    have accepted : ofText report .json inlinePath text = .ok d ↔ d.signatures = listed :=
      ofText_eq_ok_iff_of_lists report inlinePath lists
    exact accepted
  | toml text =>
    have accepted : ofText report .toml inlinePath text = .ok d ↔ d.signatures = listed :=
      ofText_eq_ok_iff_of_lists report inlinePath lists
    exact accepted
  | file files path =>
    obtain ⟨format, text, named, found, textLists⟩ := lists
    rw [← ofText_eq_ok_iff_of_lists report path textLists, Gives, load_eq_ok_iff]
    simp [named, found]

end Origin

/-- The interfaces that can be had, each with the declarations that were accepted on the
way to it: those that its origin lists, and those that were added one by one. -/
inductive Built (report : Toml.Report) : Interface → List Signature → Prop where
  | origin {o : Origin} {d : Interface} {listed : List Signature} (given : o.Gives report d)
      (lists : o.Lists listed) : Built report d listed
  | accepted {d e : Interface} {declared : List Signature} {s : Signature}
      (before : Built report d declared) (inserted : d.insert s = .ok e) :
      Built report e (declared ++ [s])
  | refused {d : Interface} {declared : List Signature} {s : Signature} {cause : Duplicate}
      (before : Built report d declared) (refusal : d.insert s = .error cause) :
      Built report d declared

/-- An interface lists what was declared. -/
theorem signatures_of_built (built : Built report d declared) : d.signatures = declared := by
  induction built with
  | origin given lists => exact (Origin.gives_iff_of_lists lists).1 given
  | accepted before inserted inductionHypothesis =>
    rw [insert_eq_ok_iff.1 inserted, inductionHypothesis]
  | refused before refusal inductionHypothesis => exact inductionHypothesis

/-- Everything an interface says is about the declarations, in their order. -/
structure Records (d : Interface) (declared : List Signature) : Prop where
  distinct : (declared.map Signature.name).Nodup
  listed : d.signatures = declared
  named : d.names = declared.map Signature.name
  counted : d.size = declared.length
  found : ∀ name s, d.get? name = some s ↔ s ∈ declared ∧ s.name = name
  missing : ∀ name, d.get? name = none ↔ name ∉ declared.map Signature.name

/-- An interface records its own declarations. -/
theorem records_signatures (d : Interface) : d.Records d.signatures where
  distinct := d.distinct
  listed := rfl
  named := rfl
  counted := rfl
  found _ _ := get?_eq_some_iff
  missing _ := get?_eq_none_iff

/-- An interface records what was declared, wherever it began and whatever was refused on
the way. What its origin declares comes first, in the order in which it stands there; an
origin that declares a name twice is not read at all. Further declarations come to the end.
One is refused exactly if its name is taken, and then the interface stays as it was. -/
theorem interfaces_record_declarations (report : Toml.Report) :
    (∀ (o : Origin) (d : Interface), o.Gives report d → o.Lists d.signatures) ∧
    (∀ (o : Origin) (listed : List Signature), o.Lists listed →
      ∀ d, o.Gives report d ↔ d.signatures = listed) ∧
    ∀ (d : Interface) (declared : List Signature), Built report d declared →
      d.Records declared ∧
      (∀ s, s.name ∈ declared.map Signature.name →
        d.insert s = .error ⟨s.name⟩ ∧
        ∀ (session : Session) (id : String), session.interface? id = some d →
          session.execute (.declare id s) = (.malformed (.duplicate s.name), session)) ∧
      ∀ s, s.name ∉ declared.map Signature.name →
        ∃ e, d.insert s = .ok e ∧ e.signatures = declared ++ [s] ∧
          ∀ (session : Session) (id : String), session.interface? id = some d →
            session.execute (.declare id s) =
              (.state (.interface e), session.bind id (.interface e)) := by
  refine ⟨fun o d => Origin.lists_of_gives, fun o listed lists d => Origin.gives_iff_of_lists lists,
    fun d declared built => ?_⟩
  obtain rfl := signatures_of_built built
  refine ⟨d.records_signatures, fun s taken => ?_, fun s fresh => ?_⟩
  · have refused : d.insert s = .error ⟨s.name⟩ := insert_eq_error_iff.2 ⟨taken, rfl⟩
    exact ⟨refused, fun session id bound => Session.execute_declare_of_error bound refused⟩
  · cases inserted : d.insert s with
    | error cause => exact absurd (insert_eq_error_iff.1 inserted).1 fresh
    | ok e =>
      exact ⟨e, rfl, insert_eq_ok_iff.1 inserted,
        fun session id bound => Session.execute_declare_of_ok bound inserted⟩

/-- Two declarations. -/
def pair : Interface := ⟨[⟨"f", ["x"]⟩, ⟨"g", []⟩], by decide⟩

/-- A text declares `f`, another `f` is refused, and `g` comes behind the first one. A
session refuses a third `f` as well, and still has room for `h`. -/
theorem second_declaration_is_refused :
    (∀ e, (Origin.json (Json.print (valueOfSignatures [⟨"f", ["x"]⟩]))).Gives .silent e ↔
      e.signatures = [⟨"f", ["x"]⟩]) ∧
    pair.Records [⟨"f", ["x"]⟩, ⟨"g", []⟩] ∧
    (Session.empty.bind "pair" (.interface pair)).execute (.declare "pair" ⟨"f", []⟩) =
      (.malformed (.duplicate "f"), Session.empty.bind "pair" (.interface pair)) ∧
    ∃ e, pair.insert ⟨"h", []⟩ = .ok e ∧
      e.signatures = [⟨"f", ["x"]⟩, ⟨"g", []⟩, ⟨"h", []⟩] := by
  obtain ⟨lists, gives, records⟩ := interfaces_record_declarations .silent
  let single : Interface := ⟨[⟨"f", ["x"]⟩], by decide⟩
  let o : Origin := .json (Json.print (valueOfSignatures [⟨"f", ["x"]⟩]))
  have given : o.Gives .silent single := ofJson_printed_eq_ok_iff.2 rfl
  have built : Built .silent pair [⟨"f", ["x"]⟩, ⟨"g", []⟩] :=
    Built.accepted
      (Built.refused (Built.origin given (lists o single given))
        (insert_eq_error_iff.2 ⟨List.mem_singleton_self "f", rfl⟩ :
          single.insert ⟨"f", []⟩ = .error ⟨"f"⟩))
      (insert_eq_ok_iff.2 rfl)
  obtain ⟨recorded, taken, fresh⟩ := records pair _ built
  obtain ⟨e, inserted, extended, -⟩ := fresh ⟨"h", []⟩ (by decide)
  exact ⟨gives o _ (lists o single given), recorded,
    (taken ⟨"f", []⟩ (by decide)).2 _ "pair" rfl, e, inserted, extended⟩

end Interface

end StructuralTyping
