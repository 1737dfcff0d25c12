import Fleet.Json
import Fleet.Text.Decimal

/-!
# JSON text: writing

A value as text of ASCII characters, without blanks: what is not printable ASCII is escaped by its
UTF-16 units. A writer that leaves such characters as they are, or has short escapes for some of them,
writes another text for the same value; readers take both.
-/

namespace Fleet.Json

open Fleet.Text

/-- A UTF-16 unit as an escape of four hexadecimal digits. -/
def escapeUnit (unit : Nat) : List Char :=
  let digits := Nat.toDigits 16 unit
  '\\' :: 'u' :: (List.replicate (4 - digits.length) '0' ++ digits)

/-- The escapes of a character: one unit, or two beyond the first plane. -/
def escapeUnits (c : Char) : List Char :=
  let n := c.toNat
  if n < 0x10000 then escapeUnit n
  else escapeUnit (0xD800 + (n - 0x10000) / 0x400) ++ escapeUnit (0xDC00 + (n - 0x10000) % 0x400)

/-- A character inside a string. Only quotes, backslashes and characters that are not printable ASCII are
escaped; a tab is one of these, so it is escaped by its number as any other is. -/
def writeChar (c : Char) : List Char :=
  if c = '"' then ['\\', '"']
  else if c = '\\' then ['\\', '\\']
  else if 0x20 ≤ c.toNat ∧ c.toNat < 0x7F then [c]
  else escapeUnits c

/-- A string between quotes. -/
def writeString (s : String) : List Char :=
  '"' :: (s.toList.flatMap writeChar ++ ['"'])

mutual

/-- The text of a value; null, where there is none. -/
def writeValue : Json → List Char
  | .unreadable => "null".toList
  | .null => "null".toList
  | .bool true => "true".toList
  | .bool false => "false".toList
  | .int n => (writeInt n).toList
  | .real literal => literal.toList
  | .str s => writeString s
  | .arr items => '[' :: writeItems items
  | .obj members => '\x7b' :: writeMembers members

/-- The rest of an array after its opening bracket. -/
def writeItems : List Json → List Char
  | [] => [']']
  | [item] => writeValue item ++ [']']
  | item :: rest => writeValue item ++ ',' :: writeItems rest

/-- The rest of an object after its opening brace. -/
def writeMembers : List (String × Json) → List Char
  | [] => ['\x7d']
  | [(name, value)] => writeString name ++ ':' :: (writeValue value ++ ['\x7d'])
  | (name, value) :: rest =>
    writeString name ++ ':' :: (writeValue value ++ ',' :: writeMembers rest)

end

/-- The text of a value. -/
def write (value : Json) : String :=
  String.ofList (writeValue value)

end Fleet.Json
