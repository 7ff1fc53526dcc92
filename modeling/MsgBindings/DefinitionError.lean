import MsgBindings.Names

/-!
What can be wrong with a message definition. Every kind of error has a type of its own for the
reasons that it can have, and a reason in the caller's words; the wording of all of them is in one
place. `DefinitionError.located` says on which line of a definition an error arose.
-/
namespace MsgBindings

/-- Why a name is refused. -/
inductive NameFault where
  | pattern (expression : String)
  /-- The path does not name a message file. -/
  | notMessageFile
  /-- Another message of the package has the name. -/
  | duplicate (package : String)
  /-- Another message of the package lives in the module that the name leads to. -/
  | moduleTaken (module holder : String)
  | other (reason : String)
  deriving DecidableEq, Repr

/-- Why a type token has no meaning. -/
inductive TypeFault where
  /-- The part before the slash is no package name. -/
  | badPackage
  /-- The token is neither a built-in type nor a message name. -/
  | unknown
  /-- Something other than a string has a length bound. -/
  | notBoundable
  | badBound
  | zeroBound
  | unbalanced
  | unclosed
  | nested
  | badSize
  | zeroArrayBound
  | other (reason : String)
  deriving DecidableEq, Repr

/-- Why a text is no value of a type. -/
inductive ValueFault where
  | notBool
  | notFloat
  | notInteger
  /-- Messages and arrays of them have no default values. -/
  | noDefault
  | notBracketed
  /-- The array has exactly `size` elements. -/
  | wrongCount (size count : Nat)
  /-- The array has at most `bound` elements. -/
  | tooMany (bound count : Nat)
  | other (reason : String)
  deriving DecidableEq, Repr

inductive ConstantFault where
  /-- Before the equals sign there is something else than a type and a name. -/
  | form
  | noValue (name : String)
  /-- Only built-in types that are no arrays have constants. -/
  | notScalar (name : String)
  | other (reason : String)
  deriving DecidableEq, Repr

inductive FieldFault where
  | missingName (type : String)
  | unknownMarker (marker : String)
  | other (reason : String)
  deriving DecidableEq, Repr

/-- Why an enumeration is refused. -/
inductive EnumFault where
  | unnamed
  /-- The header goes on after the name. -/
  | unexpected (extra : String)
  | badName (name : String)
  | empty (name : String)
  /-- The first value has no integer type. -/
  | notIntegerType (name type : String)
  /-- A value has another type than the first one. -/
  | mixedTypes (name value type expected : String)
  | notInteger (value : String)
  /-- A constant after the header has another type than the ones before. -/
  | otherType (value type expected : String)
  | duplicateValue (value : String) (number : Int) (earlier name : String)
  | sameVariant (earlier value variant name : String)
  /-- The message or one of its enumerations has the name. -/
  | nameTaken (name message : String)
  | other (reason : String)
  deriving DecidableEq, Repr

/-- What is wrong with a message definition. -/
inductive DefinitionError where
  | name (name : String) (fault : NameFault)
  | type (token : String) (fault : TypeFault)
  | value (text type : String) (fault : ValueFault)
  | constant (fault : ConstantFault)
  | field (fault : FieldFault)
  | enumeration (fault : EnumFault)
  | located (line : Nat) (text : String) (cause : DefinitionError)
  /-- An integer literal negates the least value of 128 bits. Reading stops for good, so that no
      line is attached. -/
  | overflow
  deriving DecidableEq, Repr

def NameFault.message : NameFault → String
  | pattern expression => s!"should match pattern: {expression}"
  | notMessageFile => "expected a '.msg' file"
  | duplicate package => s!"duplicate message name in package '{package}'"
  | moduleTaken module holder => s!"module '{module}' is already used by message '{holder}'"
  | other reason => reason

def TypeFault.message : TypeFault → String
  | badPackage => "invalid package name"
  | unknown => "not a primitive type or a valid message name"
  | notBoundable => "only string and wstring may have an upper bound"
  | badBound => "string upper bound must be a valid positive integer"
  | zeroBound => "string upper bound must be > 0"
  | unbalanced => "unbalanced ']'"
  | unclosed => "array specifier must end with ']'"
  | nested => "arrays of arrays are not supported"
  | badSize => "array size must be a valid non-negative integer"
  | zeroArrayBound => "array bound must be > 0"
  | other reason => reason

def ValueFault.message : ValueFault → String
  | notBool => "must be either 'true' / '1' or 'false' / '0'"
  | notFloat => "must be a valid float"
  | notInteger => "must be a valid integer"
  | noDefault => "only primitive types and primitive arrays can have default values"
  | notBracketed => "array value must start with '[' and end with ']'"
  | wrongCount size count => s!"array must have exactly {size} elements, not {count}"
  | tooMany bound count => s!"array must have not more than {bound} elements, not {count}"
  | other reason => reason

def ConstantFault.message : ConstantFault → String
  | form => "expected '<type> <NAME>=<value>'"
  | noValue name => s!"constant '{name}' has no value"
  | notScalar name => s!"constant '{name}' must have a non-array primitive type"
  | other reason => reason

def FieldFault.message : FieldFault → String
  | missingName type => s!"missing field name after type '{type}'"
  | unknownMarker marker => s!"unknown annotation '{marker}'"
  | other reason => reason

def EnumFault.message : EnumFault → String
  | unnamed => "'@enum' requires a name"
  | unexpected extra => s!"unexpected '{extra}' after enum name"
  | badName name => s!"'{name}' is not a valid type name"
  | empty name => s!"enum '{name}' has no values"
  | notIntegerType name type => s!"enum '{name}' must use an integer type, not '{type}'"
  | mixedTypes name value type expected =>
    s!"enum '{name}' mixes types: '{value}' is {type}, expected {expected}"
  | notInteger value => s!"'{value}' is not an integer constant"
  | otherType value type expected =>
    s!"'{value}' has type {type}, other values have type {expected}"
  | duplicateValue value number earlier name =>
    s!"'{value}' repeats the value {number} of '{earlier}' in enum '{name}'"
  | sameVariant earlier value variant name =>
    s!"'{earlier}' and '{value}' both map to variant '{variant}' in enum '{name}'"
  | nameTaken name message => s!"enum name '{name}' is already used in message '{message}'"
  | other reason => reason

namespace DefinitionError

def message : DefinitionError → String
  | .name text fault => s!"Invalid resource name: {text} - {fault.message}"
  | .type token fault => s!"Cannot resolve type '{token}': {fault.message}"
  | .value text expected fault => s!"Invalid value: {text} for type {expected} - {fault.message}"
  | .constant fault => s!"Invalid constant definition: {fault.message}"
  | .field fault => s!"Invalid field definition: {fault.message}"
  | .enumeration fault => s!"Invalid enum definition: {fault.message}"
  | .located line text cause => s!"Parse error at line {line} ('{text}'): {cause.message}"
  | .overflow => "attempt to negate with overflow"

/-- Says on which line an error arose. An error that is on a line already stays there. -/
def onLine (line : Nat) (text : String) : DefinitionError → DefinitionError
  | located line' text' cause => located line' text' cause
  | overflow => overflow
  | error => located line text error

/-- The line that an error arose on, if it is known. -/
def line? : DefinitionError → Option Nat
  | located line _ _ => some line
  | _ => none

/-- The error without the line that it arose on. -/
def root : DefinitionError → DefinitionError
  | located _ _ cause => cause.root
  | error => error

def badName (name : String) (pattern : NamePattern) : DefinitionError :=
  .name name (.pattern pattern.expression)

end DefinitionError

end MsgBindings
