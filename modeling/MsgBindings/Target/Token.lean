import MsgBindings.Number.Integer
import MsgBindings.Text.Cut
import MsgBindings.Text.Identifiers

/-!
The tokens of paths and types in generated code. White space and comments part tokens; comments
that document something are refused, since no path or type holds one.
-/
namespace MsgBindings.Target

/-- The brackets of token groups. -/
inductive Bracket where
  | round
  | square
  | curly
  deriving DecidableEq, Repr

inductive Token where
  /-- An identifier or a keyword. A raw identifier has its mark. -/
  | identifier (text : String)
  /-- A lifetime, without the mark in front of its name. -/
  | lifetime (name : String)
  /-- A punctuation character; `joint` says whether another one follows at once. -/
  | mark (c : Char) (joint : Bool)
  /-- A literal; a number may have a minus sign in front of it. -/
  | literal (text : String) (number : Bool)
  | opening (bracket : Bracket)
  | closing (bracket : Bracket)
  deriving DecidableEq, Repr

namespace Token

/-- What follows the comment that has `depth` open ends, if it closes. -/
def skipComment : (depth : Nat) → List Char → Option (List Char)
  | 0, rest => some rest
  | _ + 1, [] => none
  | depth + 1, '/' :: '*' :: rest => skipComment (depth + 2) rest
  | depth + 1, '*' :: '/' :: rest => skipComment depth rest
  | depth + 1, _ :: rest => skipComment (depth + 1) rest

/-- Whether a comment that starts with two slashes documents something. -/
def isLineDoc : List Char → Bool
  | '/' :: '/' :: _ => false
  | '/' :: _ | '!' :: _ => true
  | _ => false

/-- Whether a comment that starts with a slash and a star documents something. -/
def isBlockDoc : List Char → Bool
  | '*' :: '*' :: _ | '*' :: '/' :: _ => false
  | '*' :: _ | '!' :: _ => true
  | _ => false

/-- White space between tokens: the blank characters and the two marks of writing direction. -/
def isSeparator (c : Char) : Bool := Text.isBlank c || c.toNat == 0x200E || c.toNat == 0x200F

/-- The text from its next token on, after at most `fuel` comments and blank characters. None if a
    comment does not end or documents something. -/
def skipSeparators : (fuel : Nat) → List Char → Option (List Char)
  | 0, s => some s
  | fuel + 1, s =>
    match s with
    | '/' :: '/' :: rest =>
      if isLineDoc rest then none else skipSeparators fuel (rest.dropWhile (· != '\n'))
    | '/' :: '*' :: rest =>
      if isBlockDoc rest then none else (skipComment 1 rest).bind (skipSeparators fuel)
    | c :: rest => if isSeparator c then skipSeparators fuel rest else some s
    | [] => some []

/-- The name at the start of a text and the rest. -/
def name? : List Char → Option (List Char × List Char)
  | [] => none
  | c :: rest =>
    if Text.startsIdentifier c then
      some (c :: rest.takeWhile Text.continuesIdentifier, rest.dropWhile Text.continuesIdentifier)
    else none

/-- The identifier at the start of a text, with its mark if it is raw, and the rest. The names
    with a meaning of their own are not raw. -/
def identifier? : List Char → Option (List Char × List Char)
  | 'r' :: '#' :: rest =>
    (name? rest).bind fun (name, rest) =>
      if String.ofList name ∈ ["_", "super", "self", "Self", "crate"] then none
      else some ('r' :: '#' :: name, rest)
  | s => name? s

/-- Whether a text starts as a literal with letters in front of its quote does. -/
def startsPrefixedLiteral (s : List Char) : Bool :=
  ["r\"", "r#\"", "r##", "b\"", "b'", "br\"", "br#", "c\"", "cr\"", "cr#"].any fun start =>
    start.toList.isPrefixOf s

def isMark (c : Char) : Bool := "~!@#$%^&*-=+|;:,<.>/?'".toList.contains c

/-- Whether a text goes on with a punctuation character that starts no comment. -/
def startsMark : List Char → Bool
  | '/' :: '/' :: _ | '/' :: '*' :: _ => false
  | c :: _ => isMark c
  | [] => false

/-- What follows the letters after a literal, which may not start with a digit. -/
def skipSuffix (s : List Char) : List Char := ((name? s).map (·.2)).getD s

/-- What follows a character of a literal in which `quote` ends the text. -/
def skipCharacter (quote : Char) : List Char → Option (List Char)
  | '\\' :: 'x' :: a :: b :: rest =>
    if (digitBelow? 8 a).isSome && (digitBelow? 16 b).isSome then some rest else none
  | '\\' :: 'u' :: '\x7b' :: rest =>
    let digits := rest.takeWhile fun c => (digitBelow? 16 c).isSome || c == '_'
    match rest.drop digits.length with
    | '\x7d' :: after =>
      let value := ofDigits 16 (digits.filterMap (digitBelow? 16))
      if digits.head?.any (· != '_') && value.isValidChar then some after else none
    | _ => none
  | '\\' :: c :: rest => if "nrt\\0'\"".toList.contains c then some rest else none
  | '\\' :: [] => none
  | c :: rest => if c = quote then none else some rest
  | [] => none

/-- What follows the quoted text whose characters start here, after at most `fuel` of them. -/
def skipQuoted : (fuel : Nat) → List Char → Option (List Char)
  | 0, _ => none
  | _ + 1, '"' :: rest => some rest
  | fuel + 1, '\\' :: '\n' :: rest => skipQuoted fuel (rest.dropWhile Char.isWhitespace)
  | fuel + 1, s => (skipCharacter '"' s).bind (skipQuoted fuel)

/-- What follows the character literal at the start of a text. -/
def skipCharLiteral : List Char → Option (List Char)
  | '\'' :: rest =>
    match (if rest.head? = some '\'' then some rest.tail else skipCharacter '\x00' rest) with
    | some ('\'' :: after) => some (skipSuffix after)
    | _ => none
  | _ => none

/-- A digit or an underscore within a number. -/
def isNumberChar (c : Char) : Bool := c.isDigit || c == '_'

/-- What follows a number: its letters are skipped, and no identifier may go on. -/
def endNumber (s : List Char) : Option (List Char) :=
  let rest := skipSuffix s
  if rest.head?.any Text.continuesIdentifier then none else some rest

/-- What follows the exponent after its mark, if it has a digit. -/
def skipExponent (s : List Char) : Option (List Char) :=
  let digits :=
    match s with
    | '+' :: rest | '-' :: rest => rest
    | rest => rest
  if (digits.takeWhile isNumberChar).any Char.isDigit then some (digits.dropWhile isNumberChar)
  else none

/-- What follows the number with a point or an exponent at the start of a text. -/
def skipFloat (s : List Char) : Option (List Char) :=
  match s.dropWhile isNumberChar with
  | '.' :: rest =>
    if rest.head?.any fun c => c == '.' || Text.startsIdentifier c then none
    else
      match rest.dropWhile isNumberChar with
      | c :: after =>
        if c = 'e' ∨ c = 'E' then endNumber ((skipExponent after).getD (c :: after))
        else endNumber (c :: after)
      | [] => some []
  | c :: rest => if c = 'e' ∨ c = 'E' then (skipExponent rest).bind endNumber else none
  | [] => none

/-- What follows the digits below `base` at the start of a text, if there is one. A decimal digit
    that is not below `base` is an error. -/
def skipDigits (base : Nat) (s : List Char) : Option (List Char) :=
  let digits := s.takeWhile fun c => c.isDigit || c == '_' || (digitBelow? base c).isSome
  if digits.any (fun c => c.isDigit && (digitBelow? base c).isNone) then none
  else if base = 10 && digits.head? == some '_' then none
  else if digits.all (· == '_') then none
  else some (s.drop digits.length)

/-- What follows the whole number at the start of a text. -/
def skipInteger : List Char → Option (List Char)
  | '0' :: 'x' :: rest => (skipDigits 16 rest).bind endNumber
  | '0' :: 'o' :: rest => (skipDigits 8 rest).bind endNumber
  | '0' :: 'b' :: rest => (skipDigits 2 rest).bind endNumber
  | s => (skipDigits 10 s).bind endNumber

/-- The literal at the start of a text and the rest. -/
def literal? (s : List Char) : Option (Token × List Char) :=
  let token (number : Bool) (rest : List Char) : Token × List Char :=
    (.literal (.ofList (s.take (s.length - rest.length))) number, rest)
  match s with
  | '"' :: rest => (skipQuoted (rest.length + 1) rest).map fun after => token false (skipSuffix after)
  | '\'' :: _ => (skipCharLiteral s).map (token false)
  | c :: _ => if c.isDigit then ((skipFloat s).or (skipInteger s)).map (token true) else none
  | [] => none

/-- The lifetime at the start of a text and the rest. -/
def lifetime? : List Char → Option (Token × List Char)
  | '\'' :: rest =>
    (identifier? rest).bind fun (name, after) =>
      if after.head? = some '\'' ∨ (after.head? = some '#' ∧ ¬ "r#".toList.isPrefixOf rest) then none
      else some (.lifetime (.ofList name), after)
  | _ => none

/-- The bracket that a character is, if it is one. -/
def bracket? : Char → Option Token
  | '(' => some (.opening .round)
  | '[' => some (.opening .square)
  | '\x7b' => some (.opening .curly)
  | ')' => some (.closing .round)
  | ']' => some (.closing .square)
  | '\x7d' => some (.closing .curly)
  | _ => none

/-- The token at the start of a text and the rest. -/
def first? : List Char → Option (Token × List Char)
  | [] => none
  | c :: rest =>
    match bracket? c with
    | some token => some (token, rest)
    | none =>
      match literal? (c :: rest) with
      | some found => some found
      | none =>
        if c = '\'' then lifetime? (c :: rest)
        else if startsMark (c :: rest) then some (.mark c (startsMark rest), rest)
        else if startsPrefixedLiteral (c :: rest) then none
        else (identifier? (c :: rest)).map fun (name, rest) => (.identifier (.ofList name), rest)

/-- The tokens of a text, at most `fuel` of them. -/
def readFrom : (fuel : Nat) → List Char → Option (List Token)
  | 0, _ => none
  | fuel + 1, s =>
    (skipSeparators s.length s).bind fun s =>
      if s.isEmpty then some []
      else (first? s).bind fun (token, rest) => (readFrom fuel rest).map (token :: ·)

/-- The tokens of a text. A mark of byte order at its start is no part of it. -/
def readAll (s : List Char) : Option (List Token) :=
  match s with
  | c :: rest => if c.toNat = 0xFEFF then readFrom (s.length + 1) rest else readFrom (s.length + 1) s
  | [] => some []

end Token

end MsgBindings.Target
