import MsgBindings.Text.Cut
import MsgBindings.Text.Letters

/-!
The words of a name and the names in snake case and upper camel case made of them. A word ends at
a character that is neither letter nor digit, before an upper-case letter that follows a lower-case
one, and before the last upper-case letter of a run of them that a lower-case letter follows.
-/
namespace MsgBindings.Text

/-- The case of the last cased letter of the word read so far. -/
inductive WordCase where
  /-- No cased letter yet. -/
  | none
  | lower
  | upper
  deriving DecidableEq, Repr

/-- The case after one more character of the same word. -/
def WordCase.step (before : WordCase) (c : Char) : WordCase :=
  if isLowercase c then .lower else if isUppercase c then .upper else before

/-- The words of a run of letters and digits, where `word` has been read of the first one and
    `before` is its case. -/
def caseWordsFrom (before : WordCase) (word : List Char) : List Char → List (List Char)
  | [] => []
  | [c] => [word ++ [c]]
  | c :: next :: rest =>
    if before.step c = .lower ∧ isUppercase next then
      (word ++ [c]) :: caseWordsFrom .none [] (next :: rest)
    else if before = .upper ∧ isUppercase c ∧ isLowercase next then
      word :: caseWordsFrom .none [c] (next :: rest)
    else caseWordsFrom (before.step c) (word ++ [c]) (next :: rest)

/-- The words of a name, in order. -/
def caseWords (name : List Char) : List (List Char) :=
  (cutBy (fun c => !isAlphanumeric c) name).flatMap (caseWordsFrom .none [])

/-- A word in lower case. A capital sigma that ends the word becomes the final sigma. -/
def lowerWord : List Char → List Char
  | [] => []
  | [c] => if c.toNat = 0x3A3 then [Char.ofNat 0x3C2] else lowercase c
  | c :: rest => lowercase c ++ lowerWord rest

/-- A word with its first character in upper case and the others in lower case. The names that it
    is used for are ASCII, where a character has an upper-case form of one character. -/
def capitalWord : List Char → List Char
  | [] => []
  | c :: rest => c.toUpper :: lowerWord rest

/-- The name in snake case: the words in lower case with underscores between them. -/
def snakeCase (name : List Char) : List Char := join ['_'] ((caseWords name).map lowerWord)

/-- The name in upper camel case: the words one after the other, each with a capital. -/
def upperCamelCase (name : List Char) : List Char := (caseWords name).flatMap capitalWord

end MsgBindings.Text
