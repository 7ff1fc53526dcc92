/-!
The names of packages, messages, fields and constants. Each kind of name is a first character of
one class followed by characters of another, all of them ASCII.
-/
namespace MsgBindings

/-- The patterns that names are held to. -/
inductive NamePattern where
  /-- A package: a small letter, then small letters, digits and underscores. -/
  | package
  /-- A message or an enumeration: a capital, then letters, digits and underscores. -/
  | message
  /-- A field: as a package. -/
  | field
  /-- A constant: a capital, then capitals, digits and underscores. -/
  | constant
  deriving DecidableEq, Repr

namespace NamePattern

/-- Whether a name of the kind may start with a character. -/
def starts : NamePattern → Char → Bool
  | .package, c | .field, c => c.isLower
  | .message, c | .constant, c => c.isUpper

/-- Whether a name of the kind may go on with a character. -/
def continues : NamePattern → Char → Bool
  | .package, c | .field, c => c.isLower || c.isDigit || c == '_'
  | .message, c => c.isAlphanum || c == '_'
  | .constant, c => c.isUpper || c.isDigit || c == '_'

def accepts (pattern : NamePattern) (name : String) : Bool :=
  match name.toList with
  | [] => false
  | c :: rest => pattern.starts c && rest.all pattern.continues

/-- The pattern as a regular expression, for messages. -/
def expression : NamePattern → String
  | .package | .field => "^[a-z][a-z0-9_]*$"
  | .message => "^[A-Z][A-Za-z0-9_]*$"
  | .constant => "^[A-Z][A-Z0-9_]*$"

end NamePattern

def isPackageName (name : String) : Bool := NamePattern.package.accepts name

def isMessageName (name : String) : Bool := NamePattern.message.accepts name

def isFieldName (name : String) : Bool := NamePattern.field.accepts name

def isConstantName (name : String) : Bool := NamePattern.constant.accepts name

end MsgBindings
