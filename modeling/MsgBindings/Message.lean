import MsgBindings.Enumeration

/-!
Messages: a name in a package, a comment, fields and enumerations. A message is built up from an
empty one; the names of its enumerations differ from each other and from the name of the message.
-/
namespace MsgBindings

structure Message where
  package : String
  name : String
  /-- The comment at the top of the definition, empty when there is none. -/
  comment : String
  /-- Members and constants in the order of their declarations. -/
  fields : List Field
  enumerations : List Enumeration
  deriving DecidableEq, Repr

namespace Message

/-- A message without anything in it, if the two names may be given. -/
def empty (package name : String) : Except DefinitionError Message :=
  if isPackageName package then
    if isMessageName name then .ok ⟨package, name, "", [], []⟩
    else .error (.badName name .message)
  else .error (.badName package .package)

def withComment (m : Message) (comment : String) : Message := { m with comment }

def addField (m : Message) (field : Field) : Message := { m with fields := m.fields ++ [field] }

def field? (m : Message) (name : String) : Option Field := m.fields.find? (·.name == name)

def enumeration? (m : Message) (name : String) : Option Enumeration :=
  m.enumerations.find? (·.name == name)

/-- Whether an enumeration may still get a name. -/
def isFree (m : Message) (name : String) : Bool :=
  name != m.name && (m.enumeration? name).isNone

/-- The message with one more enumeration, if its name is free. -/
def addEnumeration (m : Message) (e : Enumeration) : Except DefinitionError Message :=
  if m.isFree e.name then .ok { m with enumerations := m.enumerations ++ [e] }
  else .error (.enumeration (.nameTaken e.name m.name))

/-- The fields that are part of each value of the message. -/
def members (m : Message) : List Field := m.fields.filter (!·.isConstant)

/-- The fields that are constants. -/
def constants (m : Message) : List Field := m.fields.filter Field.isConstant

/-- The messages that the members refer to, each one once, in the order of first use. -/
def references (m : Message) : List BaseType :=
  ((m.members.map fun f => f.type.base).filter (!·.isPrimitive)).foldl
    (fun seen base => if seen.contains base then seen else seen ++ [base]) []

/-- The text of the message: a line with its name and one for each field. -/
def text (m : Message) : String :=
  s!"# {m.package}/{m.name}\n" ++ String.join (m.fields.map fun f => f.text ++ "\n")

end Message

end MsgBindings
