import MsgBindings.Target.Item

/-!
How items are laid out. Each item starts a line, and each of its members is on lines of its own.
A comment is written above what it belongs to. The record in a default value stands on one line
only where it is short.
-/
namespace MsgBindings.Target

open Layout

/-- The lines of a comment, each after a space unless it is empty. -/
def commentLines (comment : Option String) : List String :=
  (comment.map fun text =>
    (Text.lines text.toList).map fun line =>
      let line := Text.trimEnd line
      String.ofList (if line.isEmpty then [] else ' ' :: line)).getD []

def commentPieces (comment : Option String) : List Piece :=
  (commentLines comment).flatMap fun line => [.word ("///" ++ line), .hard 0]

/-- Members on lines of their own after the head of an item, and the closing brace. The gap after
    the last member ends the indentation. -/
def bodyPieces (head : List Piece) (members : List (List Piece)) : List Piece :=
  let lines (i : Nat) (member : List Piece) : List Piece :=
    member ++ [.hard (if i + 1 = members.length then -step else 0)]
  box .consistent step
      (head ++ (if members.isEmpty then [] else [.hard 0]) ++ (members.mapIdx lines).flatten) ++
    [.word "\x7d", .hard 0]

/-- The head of an implementation. -/
def implementationHead (subject : List Piece) : List Piece :=
  box .inconsistent (-step) (box .consistent step [.word "impl"] ++ .word " " :: subject) ++
    [.word " \x7b"]

/-- The widest value of a record that stands on one line. -/
def widestRecord : Nat := 34

def recordPieces (values : List (String × ValueExpr)) : List Piece :=
  let entries := values.map fun (name, value) =>
    .word (name ++ ": ") :: box .inconsistent 0 value.pieces
  let inside : List Piece :=
    if entries.isEmpty then [.word "Self \x7b"]
    else .word "Self \x7b" :: .space :: filled entries ++ [.lastComma 1]
  box .consistent step ((if widestRecord < width inside then [.wide] else []) ++ inside) ++
    [.word "\x7d"]

/-- The function that makes the default value of a record. -/
def defaultFunction (values : List (String × ValueExpr)) : List Piece :=
  [.word "#[inline]", .hard 0] ++
    box .consistent step
      (.word "fn default() -> Self \x7b" :: .hard 0 :: box .inconsistent 0 (recordPieces values) ++
        [.hard (-step)]) ++
    [.word "\x7d"]

namespace Item

def pieces : Item → List Piece
  | record comment derives name fields =>
    commentPieces comment ++ (if derives.isEmpty then [] else derivePieces derives) ++
      bodyPieces [.word s!"pub struct {name} \x7b"]
        (fields.map fun f =>
          commentPieces f.comment ++ .word s!"pub {f.name}: " :: f.type.pieces ++ [.word ","])
  | defaults name values =>
    bodyPieces
      (implementationHead [.word "::core::default::Default", .space, .word ("for " ++ name)])
      [defaultFunction values]
  | constants name members =>
    bodyPieces (implementationHead [.word name])
      (members.map fun c =>
        commentPieces c.comment ++ .word s!"pub const {c.name}: " :: c.type.pieces ++
          .word " = " :: .seam :: c.value.pieces ++ [.word ";"])
  | enumeration comment repr name variants =>
    commentPieces comment ++
      [.word "#[derive(Debug, Clone, Copy, PartialEq, Eq, Hash)]", .hard 0,
        .word s!"#[repr({repr})]", .hard 0] ++
      bodyPieces [.word s!"pub enum {name} \x7b"]
        (variants.map fun v =>
          commentPieces v.comment ++ [.word s!"{v.name} = {v.number},"])

end Item

def itemsText (items : List Item) : String :=
  render (box .consistent 0 (items.flatMap Item.pieces))

end MsgBindings.Target
