import MsgBindings.Target.TypeReader

/-!
The expressions of generated code as trees, and reading them. Of all expressions there are those
that values are written as: literals and paths, signs, calls, arrays, the expansions of macros and
functions that leave their argument aside. What is read here is an expression; other expressions
are not read.
-/
namespace MsgBindings.Target

inductive Expression where
  /-- A literal without a sign, or the path of a constant. -/
  | constant (content : ConstantExpr)
  | negation (operand : Expression)
  /-- A call of what a path names. -/
  | call (isGlobal : Bool) (names : List String) (arguments : List Expression)
  /-- An expansion of the macro that a path names, with elements between square brackets. -/
  | expansion (isGlobal : Bool) (names : List String) (elements : List Expression)
  | array (elements : List Expression)
  /-- A function of one argument that its body does without. -/
  | function (body : Expression)

namespace Reader

/-- Whether a macro is expanded here, with square brackets around what it is given. -/
def atExpansion (s : List Token) : Bool := atMark '!' s && atOpening .square (s.drop 1)

mutual

def expression : (fuel : Nat) → Reader Expression
  | 0 => failure
  | fuel + 1 => do
    if ← optional (atMark '-') 1 then return .negation (← expression fuel)
    else if ← optional (atOpening .square) 1 then return .array (← expressionsToClose .square fuel)
    else if ← optional (atMark '|') 1 then
      require (atWord "_") 1
      require (atMark '|') 1
      return .function (← expression fuel)
    else
      match ← constant fuel with
      | .path isGlobal names => afterPath isGlobal names fuel
      | content => return .constant content

/-- Takes the rest of an expression after a path at its start. -/
def afterPath (isGlobal : Bool) (names : List String) : (fuel : Nat) → Reader Expression
  | 0 => failure
  | fuel + 1 => do
    if ← optional (atOpening .round) 1 then
      return .call isGlobal names (← expressionsToClose .round fuel)
    else if ← optional atExpansion 2 then
      return .expansion isGlobal names (← expressionsToClose .square fuel)
    else return .constant (.path isGlobal names)

/-- Takes expressions with commas between them, up to the bracket that closes. -/
def expressionsToClose (bracket : Bracket) : (fuel : Nat) → Reader (List Expression)
  | 0 => failure
  | fuel + 1 => do
    if ← optional (atClosing bracket) 1 then return []
    let first ← expression fuel
    if ← optional (atClosing bracket) 1 then return [first]
    require (atMark ',') 1
    return first :: (← expressionsToClose bracket fuel)

end

end Reader

def Expression.read? (text : List Char) : Option Expression := Reader.readAll Reader.expression text

end MsgBindings.Target
