import MsgBindings.DefinitionError
import MsgBindings.Number.Shortest
import MsgBindings.Primitive
import MsgBindings.Text.Cut
import MsgBindings.Text.Quoted

/-!
Literal values of built-in types. The type decides how a text is read; whether an integer fits
into the width of its type is not asked.
-/
namespace MsgBindings

inductive Literal where
  | bool (v : Bool)
  | integer (v : Int)
  | float (v : Binary64)
  | string (v : String)
  deriving DecidableEq, Repr

namespace Literal

def integer? : Literal → Option Int
  | integer v => some v
  | _ => none

/-- The text of a value as it is shown. Strings stand between quotes as they are. -/
def text : Literal → String
  | bool v => if v then "true" else "false"
  | integer v => toString v
  | float v => v.plainText
  | string v => "\"" ++ v ++ "\""

/-- The words for the truth values. The letters of `true` and `false` are the only ones whose
    small forms those are, so that looking at ASCII letters is enough. -/
def readBool (text : List Char) : Option Bool :=
  let word := text.map Char.toLower
  if word = "true".toList ∨ word = ['1'] then some true
  else if word = "false".toList ∨ word = ['0'] then some false
  else none

def read (p : Primitive) (text : List Char) : Except DefinitionError Literal :=
  let text := Text.trim text
  let fault (reason : ValueFault) : Except DefinitionError Literal :=
    .error (.value (.ofList text) p.name reason)
  if p = .bool then
    match readBool text with
    | some v => .ok (.bool v)
    | none => fault .notBool
  else if p.isFloat then
    match Binary64.read? text with
    | some v => .ok (.float v)
    | none => fault .notFloat
  else if p.isString then .ok (.string (.ofList (Text.readQuoted text)))
  else
    match readInteger text with
    | .value v => .ok (.integer v)
    | .malformed => fault .notInteger
    | .overflow => .error .overflow

end Literal

end MsgBindings
