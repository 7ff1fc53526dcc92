import MsgBindings.FieldType

/-!
The generated types that stand for the types of fields, as text. The bound of a string or of an
array is only noted in a comment.
-/
namespace MsgBindings.Target

/-- The type of text. The whole path keeps it apart from a message of the same name. -/
def stringType : String := "::std::string::String"

/-- The comment that notes a bound. -/
def boundComment (bound : Nat) : String := s!" /* max_size: {bound} */"

/-- The type for a built-in type; the bound is the greatest length of a string. -/
def primitiveText (p : Primitive) (bound : Option Nat) : String :=
  match p with
  | .bool => "bool"
  | .byte | .char | .uint8 => "u8"
  | .int8 => "i8"
  | .int16 => "i16"
  | .uint16 => "u16"
  | .int32 => "i32"
  | .uint32 => "u32"
  | .int64 => "i64"
  | .uint64 => "u64"
  | .float32 => "f32"
  | .float64 => "f64"
  | .string | .wstring => stringType ++ (bound.map boundComment).getD ""

/-- The type for an array of elements, or for a single one. -/
def arrayText (element : String) : Option ArrayShape → String
  | none => element
  | some .unbounded => s!"Vec<{element}>"
  | some (.bounded bound) => s!"Vec<{element}>" ++ boundComment bound
  | some (.fixed size) => s!"[{element}; {size}]"

/-- The type for the type of a field, given the path of the message that it refers to. -/
def typeText (type : FieldType) (messagePath : Option String) : Option String :=
  match type.base with
  | .primitive p bound => some (arrayText (primitiveText p bound) type.array)
  | .message _ _ => messagePath.map fun path => arrayText path type.array

/-- The type of a constant. Text is borrowed. -/
def constantTypeText (p : Primitive) : String := if p.isString then "&str" else primitiveText p none

end MsgBindings.Target
