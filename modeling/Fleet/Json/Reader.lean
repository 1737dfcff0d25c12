import Fleet.Json
import Fleet.Text.Decimal

/-!
# JSON text: reading

The grammar of RFC 8259 and nothing beyond it: no leading zeros, no trailing comma, no bare control
character in a string, and nothing after the value but blanks. A string may escape half of a surrogate
pair, but then neither it nor an object that it is a name in can be read.
-/

namespace Fleet.Json

open Fleet.Text

/-- Whether a character is blank between the parts of a text. -/
def isSpace (c : Char) : Bool :=
  c = ' ' || c = '\t' || c = '\n' || c = '\r'

/-- What follows the blanks at the front. -/
def skipSpace (text : List Char) : List Char :=
  text.dropWhile isSpace

/-! ## Strings -/

/-- A piece of a string: a character as it stands, or a UTF-16 unit given by its number. -/
inductive Piece where
  | char (c : Char)
  | unit (n : Nat)

/-- The value of a hexadecimal digit in either case. -/
def hexValue? (c : Char) : Option Nat :=
  if c.isDigit then some (c.toNat - '0'.toNat)
  else if 'a' ≤ c ∧ c ≤ 'f' then some (c.toNat - 'a'.toNat + 10)
  else if 'A' ≤ c ∧ c ≤ 'F' then some (c.toNat - 'A'.toNat + 10)
  else none

/-- The number of four hexadecimal digits. -/
def hexUnit? (a b c d : Char) : Option Nat := do
  some ((← hexValue? a) * 4096 + (← hexValue? b) * 256 + (← hexValue? c) * 16 + (← hexValue? d))

/-- The character that a letter after a backslash stands for. -/
def escaped? (c : Char) : Option Char :=
  if c = '"' ∨ c = '\\' ∨ c = '/' then some c
  else if c = 'b' then some '\x08'
  else if c = 'f' then some '\x0c'
  else if c = 'n' then some '\n'
  else if c = 'r' then some '\r'
  else if c = 't' then some '\t'
  else none

/-- The pieces of a string up to its closing quote, and what follows the quote. -/
def readPieces : List Char → Option (List Piece × List Char)
  | [] => none
  | '"' :: rest => some ([], rest)
  | '\\' :: 'u' :: a :: b :: c :: d :: rest => do
    let n ← hexUnit? a b c d
    let (pieces, rest) ← readPieces rest
    some (.unit n :: pieces, rest)
  | '\\' :: c :: rest => do
    let c ← escaped? c
    let (pieces, rest) ← readPieces rest
    some (.char c :: pieces, rest)
  | c :: rest =>
    if c.toNat < 0x20 ∨ c = '\\' then none
    else do
      let (pieces, rest) ← readPieces rest
      some (.char c :: pieces, rest)

/-- The characters of the pieces; a unit that is half of a pair needs the other half after it. -/
def joinPieces : List Piece → Option (List Char)
  | [] => some []
  | .char c :: rest => (joinPieces rest).map (c :: ·)
  | .unit high :: .unit low :: rest =>
    if 0xD800 ≤ high ∧ high < 0xDC00 then
      if 0xDC00 ≤ low ∧ low < 0xE000 then
        (joinPieces rest).map
          (Char.ofNat (0x10000 + (high - 0xD800) * 0x400 + (low - 0xDC00)) :: ·)
      else none
    else if 0xDC00 ≤ high ∧ high < 0xE000 then none
    else (joinPieces (.unit low :: rest)).map (Char.ofNat high :: ·)
  | .unit n :: rest =>
    if 0xD800 ≤ n ∧ n < 0xE000 then none
    else (joinPieces rest).map (Char.ofNat n :: ·)

/-- A string whose opening quote has been read, if it is made of characters, and what follows it. -/
def readString (text : List Char) : Option (Option String × List Char) := do
  let (pieces, rest) ← readPieces text
  some ((joinPieces pieces).map String.ofList, rest)

/-- The value of a string. -/
def ofString : Option String → Json
  | some s => .str s
  | none => .unreadable

/-- The value of an object with the given names and values. -/
def ofMembers (members : List (Option String × Json)) : Json :=
  match members.mapM fun member => member.1.map (·, member.2) with
  | some members => .obj members
  | none => .unreadable

/-! ## Numbers -/

/-- A sign, if there is one, and what follows it. -/
def takeMinus : List Char → List Char × List Char
  | '-' :: rest => (['-'], rest)
  | text => ([], text)

/-- A run of digits that does not start with a needless zero. -/
def takeWhole (text : List Char) : Option (List Char × List Char) :=
  match text with
  | '0' :: rest => some (['0'], rest)
  | _ =>
    let digits := text.takeWhile Char.isDigit
    if digits = [] then none else some (digits, text.drop digits.length)

/-- A point and one or more digits, if there is a point. -/
def takeDecimals : List Char → Option (List Char × List Char)
  | '.' :: rest =>
    let digits := rest.takeWhile Char.isDigit
    if digits = [] then none else some ('.' :: digits, rest.drop digits.length)
  | text => some ([], text)

/-- An exponent with its sign and one or more digits, if there is one. -/
def takeExponent : List Char → Option (List Char × List Char)
  | [] => some ([], [])
  | e :: rest =>
    if e = 'e' ∨ e = 'E' then
      let sign := rest.take 1 |>.filter (fun c => c = '+' ∨ c = '-')
      let digits := (rest.drop sign.length).takeWhile Char.isDigit
      if digits = [] then none
      else some (e :: (sign ++ digits), rest.drop (sign.length + digits.length))
    else some ([], e :: rest)

/-- A number. It is whole if it has neither decimals nor exponent and is not minus zero. -/
def readNumber (text : List Char) : Option (Json × List Char) := do
  let (sign, rest) := takeMinus text
  let (whole, rest) ← takeWhole rest
  let (decimals, rest) ← takeDecimals rest
  let (exponent, rest) ← takeExponent rest
  if decimals = [] ∧ exponent = [] ∧ ¬ (sign ≠ [] ∧ whole = ['0']) then
    let n : Int := ofDigits whole
    some (.int (if sign = [] then n else -n), rest)
  else some (.real (String.ofList (sign ++ whole ++ decimals ++ exponent)), rest)

/-! ## Values -/

mutual

/-- A value and what follows it. Each character of the text pays for one step of the fuel. -/
def readValue : Nat → List Char → Option (Json × List Char)
  | 0, _ => none
  | fuel + 1, text =>
    match skipSpace text with
    | 'n' :: 'u' :: 'l' :: 'l' :: rest => some (.null, rest)
    | 't' :: 'r' :: 'u' :: 'e' :: rest => some (.bool true, rest)
    | 'f' :: 'a' :: 'l' :: 's' :: 'e' :: rest => some (.bool false, rest)
    | '"' :: rest => (readString rest).map fun (s, rest) => (ofString s, rest)
    | '[' :: rest =>
      match skipSpace rest with
      | ']' :: rest => some (.arr [], rest)
      | rest => (readItems fuel rest).map fun (items, rest) => (.arr items, rest)
    | '\x7b' :: rest =>
      match skipSpace rest with
      | '\x7d' :: rest => some (.obj [], rest)
      | rest => (readMembers fuel rest).map fun (members, rest) => (ofMembers members, rest)
    | text => readNumber text

/-- The items of an array up to its closing bracket, at least one. -/
def readItems : Nat → List Char → Option (List Json × List Char)
  | 0, _ => none
  | fuel + 1, text => do
    let (item, rest) ← readValue fuel text
    match skipSpace rest with
    | ',' :: rest =>
      let (items, rest) ← readItems fuel rest
      some (item :: items, rest)
    | ']' :: rest => some ([item], rest)
    | _ => none

/-- The members of an object up to its closing brace, at least one. -/
def readMembers : Nat → List Char → Option (List (Option String × Json) × List Char)
  | 0, _ => none
  | fuel + 1, text =>
    match skipSpace text with
    | '"' :: rest => do
      let (name, rest) ← readString rest
      match skipSpace rest with
      | ':' :: rest =>
        let (value, rest) ← readValue fuel rest
        match skipSpace rest with
        | ',' :: rest =>
          let (members, rest) ← readMembers fuel rest
          some ((name, value) :: members, rest)
        | '\x7d' :: rest => some ([(name, value)], rest)
        | _ => none
      | _ => none
    | _ => none

end

/-- The value of a text that holds one value and nothing else. -/
def read? (text : String) : Option Json := do
  let chars := text.toList
  let (value, rest) ← readValue (2 * chars.length + 2) chars
  if skipSpace rest = [] then some value else none

end Fleet.Json
