import MsgBindings.Target.DeriveList
import MsgBindings.Target.TypeExpr
import MsgBindings.Target.ValueExpr

/-!
The items of generated code: the record of a message, its default value, its constants and its
enumerations.
-/
namespace MsgBindings.Target

structure RecordField where
  comment : Option String
  name : String
  type : TypeExpr

structure ConstantItem where
  comment : Option String
  name : String
  type : TypeExpr
  value : ValueExpr

/-- A variant of an enumeration with its number. -/
structure Variant where
  comment : Option String
  name : String
  number : Int
  deriving DecidableEq, Repr

inductive Item where
  /-- A record with the derives in front of it. -/
  | record (comment : Option String) (derives : List (List Token)) (name : String)
      (fields : List RecordField)
  /-- The default value of a record, with a value for each field. -/
  | defaults (name : String) (values : List (String × ValueExpr))
  /-- The constants of a record. -/
  | constants (name : String) (constants : List ConstantItem)
  /-- An enumeration; `repr` is the type of its numbers. -/
  | enumeration (comment : Option String) (repr : String) (name : String) (variants : List Variant)

end MsgBindings.Target
