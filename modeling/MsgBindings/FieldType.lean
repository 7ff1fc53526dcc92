import MsgBindings.DefinitionError
import MsgBindings.Number.Integer
import MsgBindings.Primitive
import MsgBindings.Text.Cut

/-!
The types of fields: a built-in type, a string of bounded length or a message, alone or as an
array of one of three shapes, with the reader of type tokens and their text.
-/
namespace MsgBindings

/-- The type of an element. -/
inductive BaseType where
  /-- A built-in type; the bound is the greatest length of a string. -/
  | primitive (primitive : Primitive) (bound : Option Nat)
  /-- A message. Without a package it belongs to the package of the definition. -/
  | message (package : Option String) (name : String)
  deriving DecidableEq, Repr

inductive ArrayShape where
  | unbounded
  /-- Exactly `size` elements. -/
  | fixed (size : Nat)
  /-- At most `bound` elements. -/
  | bounded (bound : Nat)
  deriving DecidableEq, Repr

structure FieldType where
  base : BaseType
  /-- The shape of an array; a single element has none. -/
  array : Option ArrayShape
  deriving DecidableEq, Repr

namespace BaseType

def primitive? : BaseType → Option Primitive
  | primitive p _ => some p
  | message _ _ => none

def isPrimitive : BaseType → Bool
  | primitive _ _ => true
  | message _ _ => false

def text : BaseType → String
  | primitive p none => p.name
  | primitive p (some bound) => s!"{p.name}<={bound}"
  | message none name => name
  | message (some package) name => s!"{package}/{name}"

/-- The text before and after the first mark of an upper bound. -/
def splitBound : List Char → Option (List Char × List Char)
  | [] => none
  | '<' :: '=' :: rest => some ([], rest)
  | c :: rest => (splitBound rest).map fun (before, after) => (c :: before, after)

/-- Reads a string type with a bound, where the token is `base<=bound`. -/
def readBounded (token base : String) (bound : List Char) : Except DefinitionError BaseType :=
  match (Primitive.ofName? base).filter Primitive.isString with
  | none => .error (.type token .notBoundable)
  | some p =>
    match size? bound with
    | none => .error (.type token .badBound)
    | some 0 => .error (.type token .zeroBound)
    | some (n + 1) => .ok (.primitive p (some (n + 1)))

/-- Reads the name of a message, where the token names it in a package or in none. -/
def readMessage (token : String) (package : Option String) (name : String) :
    Except DefinitionError BaseType :=
  if isMessageName name then .ok (.message package name) else .error (.type token .unknown)

/-- Reads a type token without brackets. A message of the package `context` is held as one of the
    package of the definition. -/
def read (context : Option String) (token : String) : Except DefinitionError BaseType :=
  match Primitive.ofName? token with
  | some p => .ok (.primitive p none)
  | none =>
    match splitBound token.toList with
    | some (base, bound) => readBounded token (.ofList base) bound
    | none =>
      match Text.splitFirst (· == '/') token.toList with
      | none => readMessage token none token
      | some (package, name) =>
        let package := String.ofList package
        if isPackageName package then
          readMessage token (if context = some package then none else some package) (.ofList name)
        else .error (.type token .badPackage)

end BaseType

namespace ArrayShape

def text : ArrayShape → String
  | unbounded => "[]"
  | fixed size => s!"[{size}]"
  | bounded bound => s!"[<={bound}]"

/-- Reads what stands between the brackets of a type token. -/
def read (token : String) : List Char → Except DefinitionError ArrayShape
  | [] => .ok .unbounded
  | '<' :: '=' :: rest =>
    match size? rest with
    | none => .error (.type token .badSize)
    | some 0 => .error (.type token .zeroArrayBound)
    | some (n + 1) => .ok (.bounded (n + 1))
  | inside =>
    match size? inside with
    | none => .error (.type token .badSize)
    | some n => .ok (.fixed n)

end ArrayShape

namespace FieldType

/-- The type of a single element of a built-in type. -/
def ofPrimitive (p : Primitive) : FieldType := ⟨.primitive p none, none⟩

def text (type : FieldType) : String :=
  type.base.text ++ (type.array.map ArrayShape.text).getD ""

def isPrimitive (type : FieldType) : Bool := type.base.isPrimitive

def isArray (type : FieldType) : Bool := type.array.isSome

/-- Whether the type is an array without a fixed number of elements. -/
def isDynamic (type : FieldType) : Bool :=
  match type.array with
  | some .unbounded | some (.bounded _) => true
  | _ => false

/-- Whether the type is an array with a greatest number of elements. -/
def isBounded (type : FieldType) : Bool :=
  match type.array with
  | some (.bounded _) => true
  | _ => false

/-- The shape of the array whose brackets open before `rest`. -/
def readBrackets (token : String) (rest : List Char) : Except DefinitionError ArrayShape :=
  if rest.getLast? = some ']' then
    if rest.dropLast.any fun c => c == '[' || c == ']' then .error (.type token .nested)
    else ArrayShape.read token rest.dropLast
  else .error (.type token .unclosed)

/-- Reads a type token. What is wrong with the brackets comes before what is wrong with the
    type of the elements. -/
def read (context : Option String) (token : String) : Except DefinitionError FieldType :=
  match Text.splitFirst (· == '[') token.toList with
  | none =>
    if token.toList.contains ']' then .error (.type token .unbalanced)
    else (BaseType.read context token).map fun base => ⟨base, none⟩
  | some (base, rest) => do
    let shape ← readBrackets token rest
    let base ← BaseType.read context (.ofList base)
    return ⟨base, some shape⟩

end FieldType

end MsgBindings
