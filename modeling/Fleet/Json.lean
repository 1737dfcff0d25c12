/-!
# JSON values

The values that requests, records and answers are exchanged as. An object keeps its members in the
order of the text, repeated names included; what a repeated name means is for the reader of the
object to say. Whole numbers are exact; any other number keeps its text, since no field here holds
one. A text can be well formed and still stand for no value, if a string in it is not
made of characters; whoever passes over such a string need not mind.
-/

namespace Fleet

/-- A JSON value. -/
inductive Json where
  | null
  | bool (value : Bool)
  | int (value : Int)
  | real (literal : String)
  | str (value : String)
  | arr (items : List Json)
  | obj (members : List (String × Json))
  /-- A string with half of a surrogate pair in it, or an object with such a name. -/
  | unreadable
deriving Inhabited

namespace Json

/-- The object with one member. -/
def single (name : String) (value : Json) : Json := .obj [(name, value)]

/-- The value, or null in its absence. -/
def ofOption {α : Type} (write : α → Json) : Option α → Json
  | none => .null
  | some value => write value

/-- A list of values. -/
def ofList {α : Type} (write : α → Json) (values : List α) : Json :=
  .arr (values.map write)

/-- A natural number. -/
def ofNat (n : Nat) : Json := .int n

/-- A value that may be absent. -/
def ofText? : Option String → Json := ofOption .str

end Json

end Fleet
