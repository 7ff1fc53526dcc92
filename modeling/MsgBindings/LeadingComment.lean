import MsgBindings.Text.Cut

/-!
The comment at the top of a message definition: the comment lines before the first declaration.
Blank lines and comment lines without text part it into paragraphs, between which the comment has
one empty line.
-/
namespace MsgBindings.LeadingComment

/-- The text of a line that is blank or a comment; other lines have none. A blank line and a
    comment of number signs alone have the empty text. -/
def lineText? (line : List Char) : Option (List Char) :=
  match Text.trim line with
  | [] => some []
  | '#' :: rest => some (Text.trim (rest.dropWhile (· == '#')))
  | _ => none

/-- The texts of the lines before the first one that is neither blank nor a comment. -/
def texts : List (List Char) → List (List Char)
  | [] => []
  | line :: rest =>
    match lineText? line with
    | some text => text :: texts rest
    | none => []

/-- Appends the texts to a comment, where `parted` says whether an empty text stands between the
    comment so far and the next text. -/
def append (comment : List Char) (parted : Bool) : List (List Char) → List Char
  | [] => comment
  | [] :: rest => append comment (!comment.isEmpty) rest
  | text :: rest =>
    let mark := if parted then ['\n', '\n'] else if comment.isEmpty then [] else ['\n']
    append (comment ++ mark ++ text) false rest

/-- The comment at the top of a definition, unless it has no text. -/
def read (source : String) : Option String :=
  let comment := append [] false (texts (Text.lines source.toList))
  if comment.isEmpty then none else some (.ofList comment)

end MsgBindings.LeadingComment
