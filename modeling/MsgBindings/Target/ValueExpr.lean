import MsgBindings.Field
import MsgBindings.Target.StringLiteral
import MsgBindings.Target.TypeLayout
import MsgBindings.Target.TypeText

/-!
The values of generated code and how they are laid out. Arrays of integers and truth values fill
their lines; other arrays have one element on each line where they do not fit. The elements of a
growing array are laid out as single tokens.
-/
namespace MsgBindings.Target

open Layout

inductive ScalarExpr where
  /-- A literal or a named number; `p` is its type. -/
  | literal (p : Primitive) (v : Literal)
  /-- Text that is not borrowed. -/
  | owned (text : String)
  deriving DecidableEq, Repr

inductive ValueExpr where
  | scalar (e : ScalarExpr)
  /-- An array of a fixed number of elements. -/
  | array (elements : List ScalarExpr)
  /-- An array that can grow. -/
  | vector (elements : List ScalarExpr)
  /-- The default value of a type. -/
  | default
  /-- An array of the default values of a type. -/
  | defaults
  deriving DecidableEq, Repr

/-- The text of a floating-point number without its sign. -/
def magnitudeText (p : Primitive) (v : Binary64) : String :=
  let type := if p = .float32 then "f32" else "f64"
  match v with
  | .nan => type ++ "::NAN"
  | .infinite negative => type ++ if negative then "::NEG_INFINITY" else "::INFINITY"
  | .finite _ mantissa exponent => .ofList (Binary64.codeDigits mantissa exponent)

/-- Whether a minus sign stands in front of a literal. -/
def hasMinus : Literal → Bool
  | .integer v => v < 0
  | .float (.finite negative _ _) => negative
  | _ => false

/-- The text of a literal without its minus sign. -/
def unsignedText (p : Primitive) : Literal → String
  | .bool v => if v then "true" else "false"
  | .integer v => toString v.natAbs
  | .float v => magnitudeText p v
  | .string v => stringLiteral v

/-- The call that makes owned text. -/
def ownedCall : String := stringType ++ "::from("

namespace ScalarExpr

/-- The value of a type that a literal of a default value stands for. Text is owned. -/
def ofLiteral (p : Primitive) : Literal → ScalarExpr
  | .string v => .owned v
  | v => .literal p v

def pieces : ScalarExpr → List Piece
  | literal p v => [.word ((if hasMinus v then "-" else "") ++ unsignedText p v)]
  | owned text =>
    .word ownedCall :: box .consistent step (bracketed [[.word (stringLiteral text)]]) ++ [.word ")"]

/-- The pieces of a value as single tokens: a gap is after a minus sign and nowhere else. -/
def tokenPieces : ScalarExpr → List Piece
  | literal p v => (if hasMinus v then [.word "-", .space] else []) ++ [.word (unsignedText p v)]
  | owned text => [.word (ownedCall ++ stringLiteral text ++ ")")]

/-- The values whose arrays fill their lines: integers without a sign and truth values. -/
def isShort : ScalarExpr → Bool
  | literal _ (.bool _) => true
  | literal _ (.integer v) => 0 ≤ v
  | _ => false

end ScalarExpr

/-- Items with a comma and a gap between each two of them. -/
def filled : List (List Piece) → List Piece
  | [] => []
  | [last] => last
  | item :: rest => item ++ .word "," :: .space :: filled rest

/-- The call of the default value. -/
def defaultCall : String := "::core::default::Default::default()"

namespace ValueExpr

def pieces : ValueExpr → List Piece
  | scalar e => e.pieces
  | array [] => [.word "[]"]
  | array elements =>
    let items := elements.map ScalarExpr.pieces
    if elements.all ScalarExpr.isShort then
      box .consistent step <|
        .word "[" :: .zero 0 :: box .inconsistent 0 (filled items) ++ [.lastComma 0, .word "]"]
    else .word "[" :: box .consistent step (bracketed items) ++ [.word "]"]
  | vector [] => [.word "::std::vec![]"]
  | vector elements =>
    .word "::std::vec![" ::
      box .consistent step
        (.zero 0 :: box .inconsistent 0 (filled (elements.map ScalarExpr.tokenPieces)) ++
          [.zero (-step)]) ++
      [.word "]"]
  | default => [.word defaultCall]
  | defaults =>
    .word "::core::array::from_fn(" ::
      box .consistent step [.word "|", .zero 0, .word "_|", .gap 1 (-step) false] ++
      [.seam, .word defaultCall, .word ")"]

/-- The value that a member starts with: its default value, or that of its type. -/
def ofField (field : Field) : ValueExpr :=
  match field.default?, field.type.base.primitive? with
  | some (.single v), some p => .scalar (.ofLiteral p v)
  | some (.array vs), some p =>
    match field.type.array with
    | some (.fixed _) => .array (vs.map (ScalarExpr.ofLiteral p))
    | _ => .vector (vs.map (ScalarExpr.ofLiteral p))
  | _, _ =>
    match field.type.array with
    | some (.fixed _) => .defaults
    | _ => .default

end ValueExpr

end MsgBindings.Target
