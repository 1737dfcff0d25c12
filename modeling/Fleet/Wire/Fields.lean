import Fleet.Instant.Rfc3339
import Fleet.Json
import Fleet.Table

/-!
# Reading fields

How the fields of a record are read from a JSON value. Exact reading asks for every field that may
not be absent and refuses a repeated one; it also takes an array that holds the fields in order.
Lenient reading fills in for a missing field what a base record holds there.
-/

namespace Fleet.Wire

/-- How much a reader asks of a record. -/
inductive Reading where
  | exact
  | lenient
deriving DecidableEq

/-- The fields found in a JSON value. -/
structure Fields where
  reading : Reading
  members : List (String × Json)

/-- Whether each of the names occurs at most once. -/
def noneRepeated (names : List String) (members : List (String × Json)) : Bool :=
  names.all fun name => (members.filter (·.1 = name)).length ≤ 1

/-- The fields of a record with the given names. -/
def fields? (reading : Reading) (names : List String) (value : Json) : Option Fields :=
  match reading, value with
  | .exact, .obj members => if noneRepeated names members then some ⟨.exact, members⟩ else none
  | .exact, .arr items =>
    if items.length = names.length then some ⟨.exact, names.zip items⟩ else none
  | .lenient, .obj members => some ⟨.lenient, members.reverse⟩
  | _, _ => none

namespace Fields

/-- What a field holds; of a repeated one, what it holds last. -/
def find? (fields : Fields) (name : String) : Option Json :=
  fields.members.lookup name

/-- A field that may not be absent. -/
def required {α : Type} (fields : Fields) (name : String) (base : α) (read : Json → Option α) :
    Option α :=
  match fields.find? name with
  | some value => read value
  | none => if fields.reading = .lenient then some base else none

/-- A field that may be absent or null. -/
def optional {α : Type} (fields : Fields) (name : String) (base : Option α)
    (read : Json → Option α) : Option (Option α) :=
  match fields.find? name with
  | some .null => some none
  | some value => (read value).map some
  | none => some (if fields.reading = .lenient then base else none)

end Fields

/-! ## Values -/

/-- A text. -/
def text? : Json → Option String
  | .str s => some s
  | _ => none

/-- A truth value. -/
def bool? : Json → Option Bool
  | .bool b => some b
  | _ => none

/-- A whole number between two bounds, both included. -/
def int? (least greatest : Int) : Json → Option Int
  | .int n => if least ≤ n ∧ n ≤ greatest then some n else none
  | _ => none

/-- A whole number of thirty-two bits. -/
def int32? (value : Json) : Option Int32 :=
  (int? Int32.minValue.toInt Int32.maxValue.toInt value).map Int32.ofInt

/-- A whole number of sixty-four bits. -/
def int64? : Json → Option Int :=
  int? Int64.minValue.toInt Int64.maxValue.toInt

/-- A natural number below a bound. -/
def nat? (bound : Nat) (value : Json) : Option Nat :=
  (int? 0 (bound - 1) value).map Int.toNat

/-- A natural number of sixty-four bits. -/
def word? : Json → Option Nat :=
  nat? UInt64.size

/-- An instant. -/
def instant? : Json → Option Instant
  | .str s => Instant.read? s
  | _ => none

/-- A list. -/
def list? {α : Type} (read : Json → Option α) : Json → Option (List α)
  | .arr items => items.mapM read
  | _ => none

/-- A table; of a repeated key, the last value. -/
def table? {α : Type} (read : Json → Option α) : Json → Option (Table α)
  | .obj members =>
    (members.mapM fun entry => (read entry.2).map (entry.1, ·)).map Table.ofList
  | _ => none

/-- One of a list of values, by its label: the label as a text, or as the only member of an object,
with null. -/
def labelled? {α : Type} (values : List α) (label : α → String) : Json → Option α
  | .str s => values.find? (label · = s)
  | .obj [(s, .null)] => values.find? (label · = s)
  | _ => none

/-- An instant as a value. -/
def ofInstant (t : Instant) : Json := .str t.write

/-- A table as an object. -/
def ofTable {α : Type} (write : α → Json) (table : Table α) : Json :=
  .obj (table.entries.map fun entry => (entry.1, write entry.2))

/-- A number of thirty-two bits as a value. -/
def ofInt32 (n : Int32) : Json := .int n.toInt

end Fleet.Wire
