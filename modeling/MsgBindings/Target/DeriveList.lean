import MsgBindings.Layout
import MsgBindings.Target.TypeReader

/-!
The list of derives on a generated type. A derive is written with the tokens of its path, in which
the lifetimes of an argument list come before its other arguments and no colons stand in front of
parentheses. Between the tokens stands a space only after a comma, around an equals sign and
between two words.
-/
namespace MsgBindings.Target

open Layout

namespace DeriveList

/-- Whether an argument is a lifetime. -/
def isLifetime : List Token → Bool
  | [.lifetime _] => true
  | _ => false

/-- The tokens of arguments, given as chunks between commas of which the last one is empty where a
    comma ends the list. Lifetimes come first, and a comma stands between any two arguments. -/
def arrangeArguments (chunks : List (List Token)) : List Token :=
  let arguments := chunks.filter (!·.isEmpty)
  let (lifetimes, others) := arguments.partition isLifetime
  let closed :=
    match others.isEmpty, chunks.getLast? with
    | _, some [] => true
    | false, some last => isLifetime last
    | _, _ => false
  let comma : Token := .mark ',' false
  let joined := ((lifetimes ++ others).intersperse [comma]).flatten
  if closed && !arguments.isEmpty then joined ++ [comma] else joined

/-- Adds tokens in front of the first chunk. -/
def prepend (tokens : List Token) : List (List Token) → List (List Token)
  | [] => [tokens]
  | first :: rest => (tokens ++ first) :: rest

/-- The chunks up to the end of a group, with everything arranged in them, and the tokens from the
    one that ends the group on. -/
def chunks : (fuel : Nat) → List Token → List (List Token) × List Token
  | 0, tokens => ([[]], tokens)
  | _ + 1, [] => ([[]], [])
  | _ + 1, .closing bracket :: rest => ([[]], .closing bracket :: rest)
  | fuel + 1, .mark '-' true :: .mark '>' joint :: rest =>
    let (more, rest) := chunks fuel rest
    (prepend [.mark '-' true, .mark '>' joint] more, rest)
  | _ + 1, .mark '>' joint :: rest => ([[]], .mark '>' joint :: rest)
  | fuel + 1, .mark ',' _ :: rest =>
    let (more, rest) := chunks fuel rest
    ([] :: more, rest)
  | fuel + 1, .mark '<' joint :: rest =>
    let (inside, rest) := chunks fuel rest
    let (more, after) := chunks fuel (rest.drop 1)
    (prepend (.mark '<' joint :: arrangeArguments inside ++ rest.take 1) more, after)
  | fuel + 1, .mark ':' true :: .mark ':' _ :: .opening .round :: rest =>
    chunks fuel (.opening .round :: rest)
  | fuel + 1, .opening bracket :: rest =>
    let (inside, rest) := chunks fuel rest
    let (more, after) := chunks fuel (rest.drop 1)
    let tokens := (inside.intersperse [.mark ',' false]).flatten
    (prepend (.opening bracket :: tokens ++ rest.take 1) more, after)
  | fuel + 1, token :: rest =>
    let (more, rest) := chunks fuel rest
    (prepend [token] more, rest)

/-- The tokens of a path with the lifetimes first in each argument list. -/
def arrange (tokens : List Token) : List Token :=
  ((chunks (tokens.length + 1) tokens).1.intersperse [.mark ',' false]).flatten

/-- The text of a derive as tokens, if it is a path. -/
def tokens? (text : String) : Option (List Token) := do
  let text := Text.trim text.toList
  let _ ← Path.read? text
  return arrange (← Token.readAll text)

/-- The tokens of all derives with commas between them. -/
def join (derives : List (List Token)) : List Token :=
  (derives.intersperse [.mark ',' false]).flatten

/-- Whether the tokens of a group end before these. -/
def isLast : List Token → Bool
  | [] | .closing _ :: _ => true
  | _ => false

/-- What the token before a token was. -/
inductive Before where
  | word
  | mark
  /-- A comma at the end of its group. -/
  | lastComma
  deriving DecidableEq, Repr

/-- The pieces of tokens. -/
def pieces (before : Before) : List Token → List Piece
  | [] => []
  | token :: rest =>
    let between := if before = .word then [.space] else []
    match token with
    | .identifier text => between ++ .word text :: pieces .word rest
    | .literal text _ => between ++ .word text :: pieces .word rest
    | .lifetime name => .word ("'" ++ name) :: pieces .word rest
    | .mark ',' _ =>
      if isLast rest then .lastComma 0 :: pieces .lastComma rest
      else .word "," :: .space :: pieces .mark rest
    | .mark '=' _ =>
      (if before = .word then [.word " "] else []) ++ .word "= " :: pieces .mark rest
    | .mark c _ => .word (.singleton c) :: pieces .mark rest
    | .opening .round => .word "(" :: .opening .consistent step :: .zero 0 :: pieces .mark rest
    | .opening .square => .word "[" :: pieces .mark rest
    | .opening .curly => .word "\x7b" :: pieces .mark rest
    | .closing .round =>
      (if before = .lastComma then [] else [.zero (-step)]) ++
        .closing :: .word ")" :: pieces .mark rest
    | .closing .square => .word "]" :: pieces .mark rest
    | .closing .curly => .word "\x7d" :: pieces .mark rest

end DeriveList

/-- The attribute that lists derives. -/
def derivePieces (derives : List (List Token)) : List Piece :=
  .word "#[derive" ::
    DeriveList.pieces .mark (.opening .round :: DeriveList.join derives ++ [.closing .round]) ++
    [.word "]", .hard 0]

end MsgBindings.Target
