/-!
The types and paths of generated code as trees. A path is a list of segments, each of which may
carry arguments; types and arguments contain each other.
-/
namespace MsgBindings.Target

/-- A constant within a type: the size of an array or an argument. -/
inductive ConstantExpr where
  /-- A literal, with or without a minus sign. -/
  | literal (negative : Bool) (text : String)
  /-- The path of a constant; a global path starts with two colons. -/
  | path (isGlobal : Bool) (names : List String)
  | block (content : ConstantExpr)
  deriving DecidableEq, Repr

/-- What stands in front of a function type. -/
structure FunctionQualifiers where
  /-- The lifetimes that the type is general in, if they are named. -/
  lifetimes : Option (List String)
  isUnsafe : Bool
  /-- The calling convention, if it is external; its name may be left out. -/
  convention : Option (Option String)
  deriving DecidableEq, Repr

mutual

inductive TypeExpr where
  /-- A path; a global one starts with two colons. -/
  | path (isGlobal : Bool) (segments : List Segment)
  /-- The item `segments` of a type, as the trait `through` gives it. Without segments there is no
      trait. -/
  | item (owner : TypeExpr) (isGlobal : Bool) (through segments : List Segment)
  | reference (lifetime : Option String) (isMutable : Bool) (target : TypeExpr)
  | pointer (isMutable : Bool) (target : TypeExpr)
  | slice (element : TypeExpr)
  | array (element : TypeExpr) (size : ConstantExpr)
  | tuple (elements : List TypeExpr)
  | parenthesized (inner : TypeExpr)
  /-- The type of what does not return. -/
  | never
  /-- The type that is left to be found. -/
  | hole
  | function (qualifiers : FunctionQualifiers) (parameters : List Parameter)
      (result : Option TypeExpr)
  /-- Any value within bounds; `marked` says whether a word in front says so. -/
  | object (marked : Bool) (bounds : List Bound)
  /-- Some one type within bounds. -/
  | implementing (bounds : List Bound)

inductive Parameter where
  | mk (name : Option String) (type : TypeExpr)

inductive Segment where
  | mk (name : String) (arguments : Arguments)

inductive Arguments where
  | none
  /-- Arguments between angle brackets. -/
  | angle (arguments : List Argument)
  /-- The parameters and the result of a function. -/
  | round (inputs : List TypeExpr) (result : Option TypeExpr)

inductive Argument where
  | lifetime (name : String)
  | type (type : TypeExpr)
  | constant (constant : ConstantExpr)
  /-- An associated type that is set. -/
  | binding (name : String) (arguments : Arguments) (type : TypeExpr)
  /-- An associated constant that is set. -/
  | constantBinding (name : String) (arguments : Arguments) (constant : ConstantExpr)
  /-- An associated type that is bounded. -/
  | constraint (name : String) (arguments : Arguments) (bounds : List Bound)

inductive Bound where
  | lifetime (name : String)
  /-- A trait, general in lifetimes if they are given; an optional one has a question mark. -/
  | trait (isParenthesized : Bool) (lifetimes : Option (List String)) (isOptional : Bool)
      (isGlobal : Bool) (segments : List Segment)

end

/-- A path on its own. -/
structure Path where
  isGlobal : Bool
  segments : List Segment

namespace Segment

def plain (name : String) : Segment := .mk name .none

def isPlain : Segment → Bool
  | mk _ .none => true
  | _ => false

end Segment

/-- The segments with arguments for the last one. -/
def withLastArguments (arguments : Arguments) : List Segment → List Segment
  | [] => []
  | [.mk name _] => [.mk name arguments]
  | segment :: rest => segment :: withLastArguments arguments rest

namespace TypeExpr

/-- The name and the arguments of a path of one segment that names an associated item. -/
def associated? : TypeExpr → Option (String × Arguments)
  | path false [.mk _ (.round _ _)] => none
  | path false [.mk name arguments] => some (name, arguments)
  | _ => none

/-- The bound that a type in parentheses is, if more bounds may follow it. -/
def bound? : TypeExpr → Option Bound
  | path isGlobal segments => some (.trait true none false isGlobal segments)
  | object false [.trait _ (some lifetimes) isOptional isGlobal segments] =>
    some (.trait true (some lifetimes) isOptional isGlobal segments)
  | object false [.trait _ none true isGlobal segments] =>
    some (.trait true none true isGlobal segments)
  | _ => none

end TypeExpr

end MsgBindings.Target
