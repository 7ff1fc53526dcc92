import MsgBindings.Declaration
import MsgBindings.LeadingComment
import MsgBindings.Message

/-!
Reading a message definition, with the constants gathered into enumerations. A header opens a
block, and the constants after it belong to its enumeration. Outside of a block, integer constants
in a row that share their type and the first segment of their names form a run, and a run of two
or more becomes an enumeration if nothing speaks against it. Blocks and runs end at a blank line,
at a field, at a header and at the end of the definition.
-/
namespace MsgBindings

structure EnumHeader where
  name : String
  comment : Option String
  line : Nat
  text : String
  deriving DecidableEq, Repr

structure GroupedConstant where
  constant : Field
  text : String
  deriving DecidableEq, Repr

/-- The constants that may still become an enumeration. -/
inductive ConstantGroup where
  /-- The constants after a header. -/
  | block (header : EnumHeader) (members : List GroupedConstant)
  /-- Constants in a row without a header, perhaps none. -/
  | run (members : List GroupedConstant)
  deriving DecidableEq, Repr

/-- The first segment of a name, if it is not empty and something follows its underscore. -/
def segmentPrefix? (name : String) : Option String :=
  match Text.splitFirst (· == '_') name.toList with
  | some (first, rest) => if first.isEmpty || rest.isEmpty then none else some (.ofList first)
  | none => none

namespace ConstantGroup

def idle : ConstantGroup := .run []

/-- Whether the names of the members go on with a letter after the first underscore. -/
def remaindersStartWithLetter (members : List GroupedConstant) : Bool :=
  members.all fun m =>
    match Text.splitFirst (· == '_') m.constant.name.toList with
    | some (_, c :: _) => c.isAlpha
    | _ => false

/-- The error of the value at a position of a block, on the line of that value. -/
def conflictError (members : List GroupedConstant) (i : Nat) (reason : EnumFault) :
    DefinitionError :=
  match members[i]? with
  | some m => (DefinitionError.enumeration reason).onLine m.constant.line m.text
  | none => .enumeration reason

/-- Adds the enumeration of a block to a message. -/
def closeBlock (header : EnumHeader) (members : List GroupedConstant) (m : Message) :
    Except DefinitionError Message := do
  let onHeader (e : DefinitionError) := e.onLine header.line header.text
  let e ← (Enumeration.ofConstants header.name (members.map (·.constant)) header.comment true)
    |>.mapError onHeader
  match e.conflict? with
  | some (position, reason) => throw (conflictError members position reason)
  | none => (m.addEnumeration e).mapError onHeader

/-- Adds the enumeration of a run to a message, if the run makes one: there are two or more
    members, the names go on with a letter, the name of the enumeration is free, and no number or
    variant comes twice. -/
def closeRun (members : List GroupedConstant) (m : Message) : Except DefinitionError Message :=
  match members with
  | [] | [_] => .ok m
  | first :: _ =>
    match segmentPrefix? first.constant.name with
    | none => .ok m
    | some segment =>
      let name := String.ofList (Text.upperCamelCase segment.toList)
      if remaindersStartWithLetter members && isMessageName name && m.isFree name then do
        let e ← Enumeration.ofConstants name (members.map (·.constant)) none false
        if e.conflict?.isNone then m.addEnumeration e else return m
      else .ok m

/-- Ends a group, and adds its enumeration to a message if it makes one. -/
def close : ConstantGroup → Message → Except DefinitionError Message
  | block header members, m => closeBlock header members m
  | run members, m => closeRun members m

/-- Adds a constant to a block. All constants of a block have one integer type. -/
def extendBlock (members : List GroupedConstant) (constant : GroupedConstant) :
    Except DefinitionError (List GroupedConstant) :=
  let c := constant.constant
  match c.type.base.primitive?.filter Primitive.isInteger with
  | none => .error (.enumeration (.notInteger c.name))
  | some p =>
    match members with
    | [] => .ok [constant]
    | first :: _ =>
      if first.constant.type.base.primitive? = some p then .ok (members ++ [constant])
      else .error (.enumeration (.otherType c.name c.type.text first.constant.type.text))

/-- Whether a constant may be part of a run. -/
def isGroupable (c : Field) : Bool := c.integer?.isSome && (segmentPrefix? c.name).isSome

/-- Whether a constant continues a run: it has the type and the first segment of the last one. -/
def continues (members : List GroupedConstant) (c : Field) : Bool :=
  match members.getLast? with
  | some last =>
    last.constant.type.base == c.type.base &&
      segmentPrefix? last.constant.name == segmentPrefix? c.name
  | none => false

/-- The run after a constant: a constant that does not continue it ends it and, if it may, starts
    another one. -/
def pushRun (members : List GroupedConstant) (constant : GroupedConstant) (m : Message) :
    Except DefinitionError (ConstantGroup × Message) := do
  let c := constant.constant
  let (members, m) ←
    if continues members c then pure (members, m) else (closeRun members m).map ([], ·)
  return (.run (if isGroupable c then members ++ [constant] else members), m)

/-- The group after a constant, and the message with what the constant ends. -/
def push (group : ConstantGroup) (constant : GroupedConstant) (m : Message) :
    Except DefinitionError (ConstantGroup × Message) :=
  match group with
  | block header members => (extendBlock members constant).map fun ms => (block header ms, m)
  | run members => pushRun members constant m

end ConstantGroup

/-- How far reading a definition has come: the message so far, and the constants that may still
    become an enumeration of it. -/
structure ReadingState where
  group : ConstantGroup
  message : Message
  deriving DecidableEq, Repr

namespace ReadingState

def close (s : ReadingState) : Except DefinitionError ReadingState :=
  (s.group.close s.message).map fun m => ⟨.idle, m⟩

def addConstant (s : ReadingState) (line : SourceLine) (type name value : String) :
    Except DefinitionError ReadingState :=
  Except.mapError (DefinitionError.onLine line.number line.text) do
    let type ← FieldType.read (some s.message.package) type
    let constant ← Field.constant type name value.toList
    let constant := constant.declaredAt line.comment line.number
    let (group, m) ← s.group.push ⟨constant, line.text⟩ s.message
    return ⟨group, m.addField constant⟩

def addMember (s : ReadingState) (line : SourceLine) (type name : String)
    (default : Option String) : Except DefinitionError ReadingState :=
  Except.mapError (DefinitionError.onLine line.number line.text) do
    let type ← FieldType.read (some s.message.package) type
    let field ← Field.member type name (default.map String.toList)
    return { s with message := s.message.addField (field.declaredAt line.comment line.number) }

def declare (s : ReadingState) (line : SourceLine) : Except DefinitionError ReadingState :=
  match line.declaration with
  | .enumeration name => do
    let s ← s.close
    return { s with group := .block ⟨name, line.comment, line.number, line.text⟩ [] }
  | .constant type name value => s.addConstant line type name value
  | .field type name default => do (← s.close).addMember line type name default

/-- The state after a line. A blank line above it closes the group first. -/
def step (s : ReadingState) (line : SourceLine) : Except DefinitionError ReadingState := do
  let s ← if line.followsBlank then s.close else pure s
  s.declare line

/-- The state after the lines that are left. The first error, of reading a line or of what it
    declares, ends it. -/
def run (s : ReadingState) : List (Except DefinitionError SourceLine) →
    Except DefinitionError ReadingState
  | [] => .ok s
  | .error e :: _ => .error e
  | .ok line :: rest => do (← s.step line).run rest

end ReadingState

def Message.read (package name source : String) : Except DefinitionError Message := do
  let m ← Message.empty package name
  let m := m.withComment ((LeadingComment.read source).getD "")
  let s ← (ReadingState.mk .idle m).run (SourceLine.readAll source)
  return (← s.close).message

end MsgBindings
