import Fleet.Text.Extending
import Fleet.Text.Unprintable

/-!
# Quoted text

The form in which messages show a text that came from outside: between double quotes, with the
characters that would be misread written as escapes.
-/

namespace Fleet.Text

/-- The code point of a character in hexadecimal, between braces. -/
def codePoint (c : Char) : List Char :=
  '\\' :: 'u' :: '\x7b' :: (Nat.toDigits 16 c.toNat ++ ['\x7d'])

/-- A character inside quotes. A quote and a backslash get a backslash, four controls their letter,
and what has no printed form, or would join the character before it, its code point. -/
def escapeChar (c : Char) : List Char :=
  if c = '\x00' then ['\\', '0']
  else if c = '\t' then ['\\', 't']
  else if c = '\n' then ['\\', 'n']
  else if c = '\r' then ['\\', 'r']
  else if c = '"' then ['\\', '"']
  else if c = '\\' then ['\\', '\\']
  else if 0x20 ≤ c.toNat ∧ c.toNat < 0x7F then [c]
  else if isExtending c || isUnprintable c then codePoint c
  else [c]

/-- A text between double quotes. -/
def quoted (text : String) : String :=
  String.ofList ('"' :: (text.toList.flatMap escapeChar ++ ['"']))

end Fleet.Text
