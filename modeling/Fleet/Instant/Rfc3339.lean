import Fleet.Calendar
import Fleet.Instant
import Fleet.Text.Blank
import Fleet.Text.Decimal

/-!
# Instants as text

The form of RFC 3339. An instant is written in UTC with a `Z` and with the fewest of no, three, six
or nine decimals that tell it exactly. It is read in any offset, and the reader is lenient where the
parts cannot be confused: blanks may stand around the parts, a part may lack its leading zeros, a
blank may stand for the `T`, and the year may carry a sign.
-/

namespace Fleet.Instant

open Fleet.Text

/-! ## Writing -/

/-- A number in decimal with leading zeros up to a width. -/
def padded (width n : Nat) : List Char :=
  let digits := Nat.toDigits 10 n
  List.replicate (width - digits.length) '0' ++ digits

/-- Four digits, and a sign in front of a year that needs more or lies before the year 0. -/
def writeYear (year : Int) : List Char :=
  if 0 ≤ year ∧ year ≤ 9999 then padded 4 year.toNat
  else (if year < 0 then '-' else '+') :: padded 4 year.natAbs

/-- The decimals of a second: none, or three, six or nine, whichever is exact. -/
def writeFraction (nanos : Nat) : List Char :=
  if nanos = 0 then []
  else if nanos % 1000000 = 0 then '.' :: padded 3 (nanos / 1000000)
  else if nanos % 1000 = 0 then '.' :: padded 6 (nanos / 1000)
  else '.' :: padded 9 nanos

/-- The text of an instant. A leap second is the sixtieth of its minute. -/
def write (t : Instant) : String :=
  let extra : Nat := if t.leap then 1 else 0
  let nanos := t.nanos - extra * nanosPerSecond
  let seconds := nanos / nanosPerSecond
  let fraction := (nanos % nanosPerSecond).toNat
  let date := Date.ofDayNumber (seconds / 86400)
  let ofDay := (seconds % 86400).toNat
  String.ofList (writeYear date.year ++ '-' :: padded 2 date.month ++ '-' :: padded 2 date.day
    ++ 'T' :: padded 2 (ofDay / 3600) ++ ':' :: padded 2 (ofDay / 60 % 60)
    ++ ':' :: padded 2 (ofDay % 60 + extra) ++ writeFraction fraction ++ ['Z'])

/-! ## Reading -/

/-- What follows the blanks at the front. -/
def skipBlanks (text : List Char) : List Char :=
  text.dropWhile isBlank

/-- What follows a given character. -/
def skip (c : Char) : List Char → Option (List Char)
  | [] => none
  | head :: rest => if head = c then some rest else none

/-- A run of one or more digits, and what follows it. -/
def takeDigits (text : List Char) : Option (List Char × List Char) :=
  let digits := text.takeWhile Char.isDigit
  if digits = [] then none else some (digits, text.drop digits.length)

/-- A number of at most `limit` digits after blanks, and what follows it. -/
def takeNumber (limit : Nat) (text : List Char) : Option (Nat × List Char) := do
  let text := skipBlanks text
  let (digits, _) ← takeDigits (text.take limit)
  some (ofDigits digits, text.drop digits.length)

/-- A year: four digits at most, or any number of them after a sign. -/
def takeYear (text : List Char) : Option (Int × List Char) :=
  match skipBlanks text with
  | '-' :: rest => (takeDigits rest).map fun (digits, rest) => (-(ofDigits digits : Int), rest)
  | '+' :: rest => (takeDigits rest).map fun (digits, rest) => ((ofDigits digits : Int), rest)
  | text => (takeNumber 4 text).map fun (year, rest) => ((year : Int), rest)

/-- The decimals of a second in nanoseconds, those after the ninth dropped; none need be there. -/
def takeFraction : List Char → Option (Nat × List Char)
  | '.' :: rest => (takeDigits rest).map fun (digits, rest) =>
      let kept := digits.take 9
      (ofDigits kept * Nat.pow 10 (9 - kept.length), rest)
  | text => some (0, text)

/-- Two digits below a bound, and what follows them. -/
def takePair (bound : Nat) : List Char → Option (Nat × List Char)
  | tens :: units :: rest =>
    if tens.isDigit ∧ units.isDigit ∧ ofDigits [tens, units] < bound then
      some (ofDigits [tens, units], rest)
    else none
  | _ => none

/-- Whether the text starts with the letters UTC in either case. -/
def startsWithUtc (text : List Char) : Bool :=
  (text.take 3).map Char.toUpper = ['U', 'T', 'C']

/-- A signed offset from UTC in seconds: hours, perhaps a colon or blanks, and minutes. -/
def takeOffset (text : List Char) : Option (Int × List Char) := do
  let (sign, rest) ← match text with
    | '+' :: rest => some ((1 : Int), rest)
    | '-' :: rest => some (-1, rest)
    | '\u2212' :: rest => some (-1, rest)
    | _ => none
  let (hours, rest) ← takePair 24 rest
  let (minutes, rest) ← takePair 60 (rest.dropWhile fun c => c = ':' ∨ isBlank c)
  some (sign * (hours * 3600 + minutes * 60), rest)

/-- The zone at the end: `Z` or UTC, or an offset. -/
def takeZone (text : List Char) : Option (Int × List Char) :=
  match skipBlanks text with
  | 'Z' :: rest => some (0, rest)
  | 'z' :: rest => some (0, rest)
  | text => if startsWithUtc text then some (0, text.drop 3) else takeOffset text

/-- The separator between the date and the time. -/
def skipSeparator : List Char → Option (List Char)
  | c :: rest => if c = 'T' ∨ c = 't' ∨ c = ' ' then some rest else none
  | [] => none

/-- The years that instants lie in. -/
def yearInRange (year : Int) : Bool :=
  -262143 ≤ year && year ≤ 262142

/-- Read an instant; nothing if the text does not have the form, or the date or time of day does not
exist. -/
def read? (text : String) : Option Instant := do
  let (year, rest) ← takeYear text.toList
  let (month, rest) ← takeNumber 2 (← skip '-' (skipBlanks rest))
  let (day, rest) ← takeNumber 2 (← skip '-' (skipBlanks rest))
  let (hour, rest) ← takeNumber 2 (← skipSeparator rest)
  let (minute, rest) ← takeNumber 2 (← skip ':' (skipBlanks rest))
  let (second, rest) ← takeNumber 2 (← skip ':' (skipBlanks rest))
  let (fraction, rest) ← takeFraction rest
  let (offset, rest) ← takeZone rest
  let date : Date := ⟨year, month, day⟩
  let seconds := date.dayNumber * 86400 + hour * 3600 + minute * 60 + second - offset
  let utc := Date.ofDayNumber ((seconds - second / 60) / 86400)
  if skipBlanks rest = [] ∧ date.exists? ∧ yearInRange year ∧ yearInRange utc.year
      ∧ hour < 24 ∧ minute < 60 ∧ second ≤ 60 then
    some ⟨seconds * nanosPerSecond + fraction, second = 60⟩
  else none

end Fleet.Instant
