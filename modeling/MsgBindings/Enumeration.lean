import MsgBindings.Field
import MsgBindings.Text.CaseWords

/-!
Enumerations: named groups of integer constants of one type. The variants are named after the
constants without the segments that all of their names begin with.
-/
namespace MsgBindings

structure EnumValue where
  name : String
  number : Int
  comment : Option String
  deriving DecidableEq, Repr

/-- A group of integer constants. -/
structure Enumeration where
  name : String
  /-- The type of all values. -/
  repr : Primitive
  values : List EnumValue
  comment : Option String
  /-- Whether a header declares the group, rather than the names of its constants. -/
  explicit : Bool
  deriving DecidableEq, Repr

namespace Enumeration

/-- The value that a constant gives to an enumeration `name` of the type `repr`. -/
def valueOf (name : String) (repr : Primitive) (constant : Field) :
    Except DefinitionError EnumValue :=
  if constant.type.base.primitive? = some repr then
    match constant.integer? with
    | some number => .ok ⟨constant.name, number, constant.comment⟩
    | none => .error (.enumeration (.notInteger constant.name))
  else .error (.enumeration (.mixedTypes name constant.name constant.type.text repr.name))

def ofConstants (name : String) (constants : List Field) (comment : Option String)
    (explicit : Bool) : Except DefinitionError Enumeration :=
  if isMessageName name then
    match constants with
    | [] => .error (.enumeration (.empty name))
    | first :: _ =>
      match first.type.base.primitive?.filter Primitive.isInteger with
      | none => .error (.enumeration (.notIntegerType name first.type.text))
      | some repr => do
        let values ← constants.mapM (valueOf name repr)
        return { name, repr, values, comment, explicit }
  else .error (.enumeration (.badName name))

/-- The segments of a name between its underscores. -/
def segments (name : String) : List (List Char) := Text.cutBy (· == '_') name.toList

/-- The number of segments that can be dropped so that every name keeps one. -/
def droppable (names : List (List (List Char))) : Nat :=
  ((names.map fun s => s.length - 1).min?).getD 0

/-- Whether all names have the same segment at position `i`. -/
def agreeAt (names : List (List (List Char))) (i : Nat) : Bool :=
  names.all fun s => s[i]? == (names.head?.bind fun first => first[i]?)

/-- The number of leading segments that all names share, where each keeps one. -/
def shared (names : List (List (List Char))) : Nat :=
  ((List.range (droppable names)).takeWhile (agreeAt names)).length

/-- Whether in all names the segment at position `i` begins with a letter. -/
def letterAt (names : List (List (List Char))) (i : Nat) : Bool :=
  names.all fun s => ((s[i]?.bind List.head?).map Char.isAlpha).getD false

/-- The greatest number up to `k` of segments after which all names go on with a letter, and
    otherwise zero. -/
def backOff (names : List (List (List Char))) : (k : Nat) → Nat
  | 0 => 0
  | k + 1 => if letterAt names (k + 1) then k + 1 else backOff names k

/-- The number of leading segments that the variants do without. -/
def strip (names : List (List (List Char))) : Nat := backOff names (shared names)

/-- The name of the variant for a name of which `k` leading segments are dropped. -/
def variantName (k : Nat) (name : List (List Char)) : String :=
  .ofList (Text.upperCamelCase (Text.join ['_'] (name.drop k)))

/-- The names of the variants, one for each value. -/
def variantNames (e : Enumeration) : List String :=
  let names := e.values.map fun v => segments v.name
  names.map (variantName (strip names))

/-- The first of the values, given with their variants, that repeats the number or the variant of
    one before it; `earlier` are those before. -/
def conflictAfter (name : String) (earlier : List (EnumValue × String)) :
    List (EnumValue × String) → Option (Nat × EnumFault)
  | [] => none
  | (v, variant) :: rest =>
    match earlier.find? fun e => e.1.number == v.number with
    | some e => some (earlier.length, .duplicateValue v.name v.number e.1.name name)
    | none =>
      match earlier.find? fun e => e.2 == variant with
      | some e => some (earlier.length, .sameVariant e.1.name v.name variant name)
      | none => conflictAfter name (earlier ++ [(v, variant)]) rest

/-- The position of the first value that repeats an earlier number or variant, and the reason. -/
def conflict? (e : Enumeration) : Option (Nat × EnumFault) :=
  conflictAfter e.name [] (e.values.zip e.variantNames)

end Enumeration

end MsgBindings
