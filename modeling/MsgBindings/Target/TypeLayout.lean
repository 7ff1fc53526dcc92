import MsgBindings.Layout
import MsgBindings.Target.TypeExpr

/-!
How types are laid out. A path stays on its line, and so does everything that takes no list; the
arguments of a segment, the elements of a tuple and the parameters of a function go on lines of
their own where they do not fit.
-/
namespace MsgBindings.Target

open Layout

/-- Items with a comma after each, where the comma after the last one is written only if the line
    ends there. -/
def delimited : List (List Piece) → List Piece
  | [] => []
  | [last] => last ++ [.lastComma 0]
  | item :: rest => item ++ .word "," :: .space :: delimited rest

/-- The gap after an opening bracket, the items, and the gap before the closing one, where items
    that are not there leave one gap. -/
def bracketed : List (List Piece) → List Piece
  | [] => [.zero (-step)]
  | items => .zero 0 :: delimited items

/-- A box around items and the gaps at the brackets. Without items there is nothing. -/
def bracketBox : List (List Piece) → List Piece
  | [] => []
  | items => box .consistent step (bracketed items)

/-- Texts with a separator between them. -/
def separated (separator : String) : List (List Piece) → List Piece
  | [] => []
  | [last] => last
  | item :: rest => item ++ .word separator :: separated separator rest

/-- The arguments between angle brackets, each with the mark of a lifetime. Lifetimes come first,
    and no arguments have no brackets. -/
def anglePieces (arguments : List (Bool × List Piece)) : List Piece :=
  let (lifetimes, others) := arguments.partition (·.1)
  match (lifetimes ++ others).map (·.2) with
  | [] => []
  | items => .word "<" :: bracketBox items ++ [.word ">"]

/-- The segments of a path, behind an empty one if it is global. -/
def globalPieces (isGlobal : Bool) (segments : List (List Piece)) : List (List Piece) :=
  if isGlobal then [] :: segments else segments

/-- The bounds of an associated type. -/
def constraintPieces : List (List Piece) → List Piece
  | [] => []
  | first :: rest =>
    .word ": " :: first ++ (rest.map fun bound => .space :: .word "+ " :: bound).flatten

/-- The lifetimes that something is general in. -/
def generalityPieces : Option (List String) → List Piece
  | none => []
  | some names => [.word ("for<" ++ ", ".intercalate (names.map ("'" ++ ·)) ++ "> ")]

namespace ConstantExpr

def pieces : ConstantExpr → List Piece
  | literal negative text => [.word (if negative then "-" ++ text else text)]
  | path isGlobal names => [.word ((if isGlobal then "::" else "") ++ "::".intercalate names)]
  | block content =>
    box .consistent step <|
      [.word "\x7b", .space] ++ box .inconsistent 0 content.pieces ++
        [.gap 1 (-step) false, .word "\x7d"]

end ConstantExpr

namespace FunctionQualifiers

def pieces (q : FunctionQualifiers) : List Piece :=
  generalityPieces q.lifetimes ++
    [.word (if q.isUnsafe then "unsafe " else "")] ++
    match q.convention with
    | none => []
    | some none => [.word "extern "]
    | some (some name) => [.word ("extern " ++ name ++ " ")]

end FunctionQualifiers

mutual

def TypeExpr.pieces : TypeExpr → List Piece
  | .path isGlobal segments => separated "::" (globalPieces isGlobal (segmentsPieces segments))
  | .item owner isGlobal through segments =>
    let traitPieces := segmentsPieces through
    .word "<" :: owner.pieces ++
      (if traitPieces.isEmpty then []
       else .word " as " :: separated "::" (globalPieces isGlobal traitPieces)) ++
      .word ">::" :: separated "::" (segmentsPieces segments)
  | .reference lifetime isMutable target =>
    .word "&" :: (lifetime.map fun name => Piece.word ("'" ++ name ++ " ")).toList ++
      (if isMutable then [.word "mut "] else []) ++ target.pieces
  | .pointer isMutable target =>
    .word (if isMutable then "*mut " else "*const ") :: target.pieces
  | .slice element => .word "[" :: element.pieces ++ [.word "]"]
  | .array element size => .word "[" :: element.pieces ++ .word "; " :: size.pieces ++ [.word "]"]
  | .tuple elements =>
    let inside :=
      match typesPieces elements with
      | [only] => box .consistent step (.zero 0 :: only ++ [.word ",", .zero (-step)])
      | items => bracketBox items
    .word "(" :: inside ++ [.word ")"]
  | .parenthesized inner => .word "(" :: inner.pieces ++ [.word ")"]
  | .never => [.word "!"]
  | .hole => [.word "_"]
  | .function qualifiers parameters result =>
    qualifiers.pieces ++ .word "fn(" ::
      bracketBox (parametersPieces parameters) ++ .word ")" :: resultPieces result
  | .object _ bounds => .word "dyn " :: separated " + " (boundsPieces bounds)
  | .implementing bounds => .word "impl " :: separated " + " (boundsPieces bounds)

def typesPieces : List TypeExpr → List (List Piece)
  | [] => []
  | type :: rest => type.pieces :: typesPieces rest

def resultPieces : Option TypeExpr → List Piece
  | none => []
  | some type => .word " -> " :: type.pieces

def parametersPieces : List Parameter → List (List Piece)
  | [] => []
  | .mk none type :: rest => type.pieces :: parametersPieces rest
  | .mk (some name) type :: rest => (.word (name ++ ": ") :: type.pieces) :: parametersPieces rest

def segmentsPieces : List Segment → List (List Piece)
  | [] => []
  | .mk name arguments :: rest => (.word name :: arguments.pieces) :: segmentsPieces rest

def Arguments.pieces : Arguments → List Piece
  | .none => []
  | .angle arguments => anglePieces (argumentsPieces arguments)
  | .round inputs result =>
    box .consistent step <|
      .word "(" :: bracketed (typesPieces inputs) ++ .word ")" :: resultPieces result

/-- The pieces of each argument, with the mark of a lifetime. -/
def argumentsPieces : List Argument → List (Bool × List Piece)
  | [] => []
  | .lifetime name :: rest => (true, [.word ("'" ++ name)]) :: argumentsPieces rest
  | .type type :: rest => (false, type.pieces) :: argumentsPieces rest
  | .constant constant :: rest => (false, constant.pieces) :: argumentsPieces rest
  | .binding name arguments type :: rest =>
    (false, .word name :: arguments.pieces ++ .word " = " :: type.pieces) :: argumentsPieces rest
  | .constantBinding name arguments constant :: rest =>
    (false, .word name :: arguments.pieces ++ .word " = " :: constant.pieces) ::
      argumentsPieces rest
  | .constraint name arguments bounds :: rest =>
    (false,
      .word name :: arguments.pieces ++ box .inconsistent step (constraintPieces (boundsPieces bounds)))
      :: argumentsPieces rest

def boundsPieces : List Bound → List (List Piece)
  | [] => []
  | .lifetime name :: rest => [.word ("'" ++ name)] :: boundsPieces rest
  | .trait isParenthesized lifetimes isOptional isGlobal segments :: rest =>
    ([.word (if isParenthesized then "(" else "")] ++
      generalityPieces lifetimes ++ (if isOptional then [.word "?"] else []) ++
      separated "::" (globalPieces isGlobal (segmentsPieces segments)) ++
      [.word (if isParenthesized then ")" else "")]) :: boundsPieces rest

end

end MsgBindings.Target
