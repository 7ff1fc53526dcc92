import MsgBindings.Text.Cut

/-!
String literals of message files: a text between two equal quotes, in which a backslash writes the
quote, the backslash and three control characters. A text that is not quoted stands for itself.
-/
namespace MsgBindings.Text

/-- The character that a backslash and `c` write between quotes `quote`, if they write one. -/
def escaped? (quote c : Char) : Option Char :=
  if c = 'n' then some '\n'
  else if c = 't' then some '\t'
  else if c = 'r' then some '\r'
  else if c = '\\' then some '\\'
  else if c = quote then some c
  else none

/-- Replaces the escapes in the text between two quotes. A backslash that starts no escape stands
    for itself. -/
def unescape (quote : Char) : List Char → List Char
  | [] => []
  | [c] => [c]
  | c :: next :: rest =>
    if c = '\\' then
      match escaped? quote next with
      | some e => e :: unescape quote rest
      | none => c :: unescape quote (next :: rest)
    else c :: unescape quote (next :: rest)

/-- How a character is written between quotes `quote`. -/
def escapeChar (quote c : Char) : List Char :=
  if c = '\n' then ['\\', 'n']
  else if c = '\t' then ['\\', 't']
  else if c = '\r' then ['\\', 'r']
  else if c = '\\' then ['\\', '\\']
  else if c = quote then ['\\', quote]
  else [c]

/-- The literal that stands for a text, between quotes `quote`. -/
def quote (q : Char) (s : List Char) : List Char := q :: s.flatMap (escapeChar q) ++ [q]

/-- The quote at both ends of a text and what is between, if it is enclosed in quotes. -/
def enclosed? : List Char → Option (Char × List Char)
  | [] => none
  | q :: rest =>
    if q = '"' ∨ q = '\'' then
      if rest.getLast? = some q then some (q, rest.dropLast) else none
    else none

/-- The text that a string literal stands for. -/
def readQuoted (text : List Char) : List Char :=
  match enclosed? (trim text) with
  | some (q, inside) => unescape q inside
  | none => trim text

end MsgBindings.Text
