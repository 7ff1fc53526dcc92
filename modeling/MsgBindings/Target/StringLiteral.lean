import MsgBindings.Text.Printable

/-!
String literals of generated code: a text between double quotes, with short escapes for the quote,
the backslash and four control characters, and the code point of each other character that does
not show by itself. Every literal stands on one line.
-/
namespace MsgBindings.Target

/-- The digits of a natural to the base sixteen. -/
def hexDigits (n : Nat) : List Char := Nat.toDigits 16 n

/-- How a character is written in a string literal. -/
def escapeInString (c : Char) : List Char :=
  if c = '\x00' then ['\\', '0']
  else if c = '\t' then ['\\', 't']
  else if c = '\r' then ['\\', 'r']
  else if c = '\n' then ['\\', 'n']
  else if c = '\\' then ['\\', '\\']
  else if c = '"' then ['\\', '"']
  else if Text.isPrintable c then [c]
  else ['\\', 'u', '\x7b'] ++ hexDigits c.toNat ++ ['\x7d']

/-- The string literal of a text. -/
def stringLiteral (s : String) : String := .ofList ('"' :: s.toList.flatMap escapeInString ++ ['"'])

end MsgBindings.Target
