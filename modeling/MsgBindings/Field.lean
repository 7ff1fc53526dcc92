import MsgBindings.FieldType
import MsgBindings.Literal

/-!
The fields of a message: members, which may have a default value, and constants, which have a
value. What a field is decides which of the two it has.
-/
namespace MsgBindings

inductive DefaultValue where
  | single (v : Literal)
  | array (vs : List Literal)
  deriving DecidableEq, Repr

/-- What a field is, with its value. -/
inductive FieldRole where
  | constant (value : Literal)
  | member (default : Option DefaultValue)
  deriving DecidableEq, Repr

structure Field where
  name : String
  type : FieldType
  role : FieldRole
  /-- The comment on the line of the declaration. -/
  comment : Option String
  /-- The line of the declaration, counted from one; zero when there is none. -/
  line : Nat
  deriving DecidableEq, Repr

namespace DefaultValue

def text : DefaultValue → String
  | single v => v.text
  | array vs => "[" ++ ", ".intercalate (vs.map Literal.text) ++ "]"

/-- The texts of the elements of an array value, given what stands between its brackets. -/
def elements (inside : List Char) : List (List Char) :=
  if (Text.trim inside).isEmpty then [] else Text.cutBy (· == ',') inside

/-- What is wrong with the number of elements, if something is. -/
def countFault? : ArrayShape → Nat → Option ValueFault
  | .unbounded, _ => none
  | .fixed size, count => if count = size then none else some (.wrongCount size count)
  | .bounded bound, count => if count ≤ bound then none else some (.tooMany bound count)

/-- The text between the brackets around an array value. -/
def bracketed? (text : List Char) : Option (List Char) :=
  match Text.trim text with
  | '[' :: rest => if rest.getLast? = some ']' then some rest.dropLast else none
  | _ => none

def read (type : FieldType) (text : List Char) : Except DefinitionError DefaultValue :=
  let fault (reason : ValueFault) : Except DefinitionError DefaultValue :=
    .error (.value (.ofList text) type.text reason)
  match type.base.primitive?, type.array with
  | none, _ => fault .noDefault
  | some p, none => (Literal.read p text).map single
  | some p, some shape =>
    match bracketed? text with
    | none => fault .notBracketed
    | some inside =>
      match countFault? shape (elements inside).length with
      | some reason => fault reason
      | none => ((elements inside).mapM (Literal.read p)).map array

end DefaultValue

namespace Field

def member (type : FieldType) (name : String) (default : Option (List Char)) :
    Except DefinitionError Field := do
  unless isFieldName name do
    throw (.badName name .field)
  let default ← default.mapM (DefaultValue.read type)
  return { name, type, role := .member default, comment := none, line := 0 }

/-- A constant. Only single values of built-in types are. -/
def constant (type : FieldType) (name : String) (value : List Char) :
    Except DefinitionError Field :=
  match type.base.primitive?, type.array with
  | some p, none => do
    unless isConstantName name do
      throw (.badName name .constant)
    let value ← Literal.read p value
    return { name, type, role := .constant value, comment := none, line := 0 }
  | _, _ => .error (.constant (.notScalar name))

/-- The field with the comment and the line of its declaration. -/
def declaredAt (field : Field) (comment : Option String) (line : Nat) : Field :=
  { field with comment, line }

def value? (field : Field) : Option Literal :=
  match field.role with
  | .constant v => some v
  | .member _ => none

def default? (field : Field) : Option DefaultValue :=
  match field.role with
  | .constant _ => none
  | .member v => v

def isConstant (field : Field) : Bool := field.value?.isSome

def integer? (field : Field) : Option Int := field.value?.bind Literal.integer?

def text (field : Field) : String :=
  s!"{field.type.text} {field.name}" ++
    match field.role with
    | .constant v => "=" ++ v.text
    | .member (some v) => " " ++ v.text
    | .member none => ""

end Field

end MsgBindings
