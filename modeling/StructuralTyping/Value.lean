import StructuralTyping.Double
/-!
# Data values

The data that object members hold, that functions take and return, and that
interfaces are written in: null, booleans, numbers, strings, lists, and mappings
whose entries keep their order.
-/
set_option autoImplicit false

namespace StructuralTyping

/-- A number keeps the form it was written in: `5` and `5.0` are different. -/
inductive Number where
  | integer (value : Int)
  | double (value : Double)
deriving DecidableEq

namespace Number

/-- The nearest binary64 number. -/
def toDouble : Number → Double
  | integer value => Double.ofInt value
  | double value => value

/-- Whether the number is zero, in either form and with either sign. -/
def isZero : Number → Bool
  | integer value => value = 0
  | double value => value.isZero

end Number

/-- A data value. -/
inductive Value where
  | null
  | boolean (value : Bool)
  | number (value : Number)
  | string (value : String)
  | list (items : List Value)
  | mapping (entries : List (String × Value))

namespace Value

/-- What sort of value it is, without its content. -/
inductive Kind where
  | null
  | boolean
  | number
  | string
  | list
  | mapping
deriving DecidableEq

/-- The sort of a value. -/
def kind : Value → Kind
  | null => .null
  | boolean _ => .boolean
  | number _ => .number
  | string _ => .string
  | list _ => .list
  | mapping _ => .mapping

/-- The wording for a sort of value in messages. -/
def Kind.phrase : Kind → String
  | .null => "null"
  | .boolean => "a boolean"
  | .number => "a number"
  | .string => "a string"
  | .list => "a list"
  | .mapping => "a mapping"

/-- A double as data. Only finite numbers are data; any other is null. -/
def ofDouble (d : Double) : Value :=
  if d.isFinite then number (.double d) else null

/-- A natural number as data. -/
def ofNat (n : Nat) : Value := number (.integer n)

/-- A list of strings as data. -/
def ofStrings (strings : List String) : Value := list (strings.map string)

/-- The entries with one added at the end, or put in the place of the entry of
the same name. -/
def setEntry (name : String) (value : Value) :
    List (String × Value) → List (String × Value)
  | [] => [(name, value)]
  | (other, old) :: later =>
    if other = name then (name, value) :: later
    else (other, old) :: setEntry name value later

/-- The mapping that a sequence of entries describes: a repeated name keeps its
first place and takes its last value. -/
def ofEntries (entries : List (String × Value)) : Value :=
  mapping (entries.foldl (fun all entry => setEntry entry.1 entry.2 all) [])

/-- An entry of a new name comes to the end. -/
theorem setEntry_of_fresh {name : String} {value : Value} {entries : List (String × Value)}
    (fresh : name ∉ entries.map Prod.fst) :
    setEntry name value entries = entries ++ [(name, value)] := by
  induction entries with
  | nil => rfl
  | cons entry later inductionHypothesis =>
    obtain ⟨other, old⟩ := entry
    rw [List.map_cons, List.mem_cons, not_or] at fresh
    rw [setEntry, if_neg (Ne.symm fresh.1), inductionHypothesis fresh.2, List.cons_append]

/-- Entries of different names make up a mapping as they are. -/
theorem ofEntries_of_nodup {entries : List (String × Value)}
    (distinct : (entries.map Prod.fst).Nodup) : ofEntries entries = mapping entries := by
  -- what was put into the mapping so far stays in front of what is still to come
  suffices gathered : ∀ all : List (String × Value), ((all ++ entries).map Prod.fst).Nodup →
      entries.foldl (fun all entry => setEntry entry.1 entry.2 all) all = all ++ entries from
    congrArg mapping (gathered [] distinct)
  clear distinct
  induction entries with
  | nil => simp
  | cons entry later inductionHypothesis =>
    intro all distinct
    have fresh : entry.1 ∉ all.map Prod.fst := by
      rw [List.map_append, List.nodup_append] at distinct
      exact fun taken => distinct.2.2 entry.1 taken entry.1 (by simp) rfl
    rw [List.foldl_cons, setEntry_of_fresh fresh, inductionHypothesis, List.append_assoc,
      List.singleton_append]
    rwa [List.append_assoc, List.singleton_append]

/-- The value of the first entry of that name in a mapping. -/
def field? (name : String) : Value → Option Value
  | mapping entries => entries.lookup name
  | _ => none

end Value

end StructuralTyping
