/-!
# Decimal numbers

Whole numbers written with the ten ASCII digits: how they are written, and how a run of digits and
a setting are read.
-/

namespace Fleet.Text

/-- A natural number in decimal, without leading zeros. -/
def writeNat (n : Nat) : String :=
  String.ofList (Nat.toDigits 10 n)

/-- An integer in decimal, with a minus sign if it is negative. -/
def writeInt : Int → String
  | .ofNat n => writeNat n
  | .negSucc n => "-" ++ writeNat (n + 1)

/-- The value of a digit. -/
def digitValue (c : Char) : Nat :=
  c.toNat - '0'.toNat

/-- The value of a run of digits, leading zeros included. -/
def ofDigits (digits : List Char) : Nat :=
  digits.foldl (fun n c => 10 * n + digitValue c) 0

@[simp] theorem ofDigits_toDigits (n : Nat) : ofDigits (Nat.toDigits 10 n) = n :=
  Nat.ofDigitChars_ten_toDigits

/-- Different numbers are written differently. -/
theorem writeNat_inj {m n : Nat} (h : writeNat m = writeNat n) : m = n := by
  have hdigits : Nat.toDigits 10 m = Nat.toDigits 10 n := String.ofList_injective h
  rw [← ofDigits_toDigits m, hdigits, ofDigits_toDigits]

/-- One or more digits and nothing else. -/
def readDigits? (text : List Char) : Option Nat :=
  if text ≠ [] ∧ text.all Char.isDigit then some (ofDigits text) else none

/-- One or more digits after at most one plus sign. -/
def readNat? (text : String) : Option Nat :=
  match text.toList with
  | '+' :: digits => readDigits? digits
  | digits => readDigits? digits

/-- A natural number that fits sixty-four bits. -/
def readWord? (text : String) : Option Nat :=
  (readNat? text).filter (· < UInt64.size)

end Fleet.Text
