/-!
Cutting text: the blank characters, trimming, the words and the lines of a text, and the cut at
the first character of a kind. All of it works on lists of characters and recurses on the text,
so that nothing is lost but the separators.
-/
namespace MsgBindings.Text

/-- The blank characters, those that Unicode calls white space. -/
def isBlank (c : Char) : Bool :=
  let n := c.toNat
  (9 ≤ n && n ≤ 13) || n == 0x20 || n == 0x85 || n == 0xA0 || n == 0x1680 ||
    (0x2000 ≤ n && n ≤ 0x200A) || n == 0x2028 || n == 0x2029 || n == 0x202F || n == 0x205F ||
    n == 0x3000

/-- The text from its first character that is not blank. -/
def trimStart (s : List Char) : List Char := s.dropWhile isBlank

/-- The text up to its last character that is not blank. -/
def trimEnd (s : List Char) : List Char := (s.reverse.dropWhile isBlank).reverse

/-- The text between its first and its last character that is not blank. -/
def trim (s : List Char) : List Char := trimEnd (trimStart s)

/-- The pieces between the characters that `p` holds of, empty pieces included: always one more
    than there are such characters. -/
def cutBy (p : Char → Bool) : List Char → List (List Char)
  | [] => [[]]
  | c :: rest =>
    if p c then [] :: cutBy p rest
    else
      match cutBy p rest with
      | [] => [[c]]
      | piece :: pieces => (c :: piece) :: pieces

/-- The maximal runs of characters that are not blank. -/
def words (s : List Char) : List (List Char) := (cutBy isBlank s).filter (!·.isEmpty)

/-- The text before and after the first character that `p` holds of, if there is one. -/
def splitFirst (p : Char → Bool) : List Char → Option (List Char × List Char)
  | [] => none
  | c :: rest =>
    if p c then some ([], rest) else (splitFirst p rest).map fun (before, after) => (c :: before, after)

/-- The text without the carriage return that may end it. -/
def dropReturn (s : List Char) : List Char :=
  match s.reverse with
  | '\r' :: rest => rest.reverse
  | _ => s

/-- Drops the end-of-line marks of the pieces between line feeds. The last piece is a line only if
    it holds something, and no line feed ends it, so that its carriage return stays. -/
def linesOfPieces : List (List Char) → List (List Char)
  | [] => []
  | [last] => if last.isEmpty then [] else [last]
  | piece :: pieces => dropReturn piece :: linesOfPieces pieces

/-- The lines of a text, each ended by a line feed, or a carriage return and a line feed, or the
    end of the text. -/
def lines (s : List Char) : List (List Char) := linesOfPieces (cutBy (· == '\n') s)

/-- The texts one after the other with `separator` between them. -/
def join (separator : List Char) : List (List Char) → List Char
  | [] => []
  | [piece] => piece
  | piece :: pieces => piece ++ separator ++ join separator pieces

end MsgBindings.Text
