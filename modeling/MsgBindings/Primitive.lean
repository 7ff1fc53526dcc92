/-!
The built-in types of message definitions, their spelling, width and kind.
-/
namespace MsgBindings

/-- The built-in types. -/
inductive Primitive where
  | bool
  | byte
  | char
  | int8
  | uint8
  | int16
  | uint16
  | int32
  | uint32
  | int64
  | uint64
  | float32
  | float64
  | string
  | wstring
  deriving DecidableEq, Repr

namespace Primitive

/-- The built-in types in the order in which they are listed. -/
def all : List Primitive :=
  [bool, byte, char, int8, uint8, int16, uint16, int32, uint32, int64, uint64, float32, float64,
    string, wstring]

/-- How a type is spelled in a message definition. -/
def name : Primitive → String
  | bool => "bool"
  | byte => "byte"
  | char => "char"
  | int8 => "int8"
  | uint8 => "uint8"
  | int16 => "int16"
  | uint16 => "uint16"
  | int32 => "int32"
  | uint32 => "uint32"
  | int64 => "int64"
  | uint64 => "uint64"
  | float32 => "float32"
  | float64 => "float64"
  | string => "string"
  | wstring => "wstring"

def ofName? (text : String) : Option Primitive := all.find? fun p => p.name == text

/-- The width in bits. Strings have none. -/
def bits? : Primitive → Option Nat
  | bool | byte | char | int8 | uint8 => some 8
  | int16 | uint16 => some 16
  | int32 | uint32 | float32 => some 32
  | int64 | uint64 | float64 => some 64
  | string | wstring => none

def isSigned : Primitive → Bool
  | int8 | int16 | int32 | int64 | float32 | float64 => true
  | _ => false

/-- The integer types, with `byte` and `char` among them. -/
def isInteger : Primitive → Bool
  | byte | char | int8 | uint8 | int16 | uint16 | int32 | uint32 | int64 | uint64 => true
  | _ => false

def isFloat : Primitive → Bool
  | float32 | float64 => true
  | _ => false

def isString : Primitive → Bool
  | string | wstring => true
  | _ => false

end Primitive

end MsgBindings
