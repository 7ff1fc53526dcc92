import MsgBindings.Message
import MsgBindings.PackageIndex
import MsgBindings.Style
import MsgBindings.Target.ItemLayout

/-!
Generating the code of a message. The references of all members are resolved first, in order; then
the texts of derives and types are read, and what is no path or type is refused. The code has the
record of the message, its default value if it is asked for, its constants and its enumerations.
-/
namespace MsgBindings

inductive GenerationFault where
  /-- A member refers to a message that is not registered. -/
  | unresolved (type field message : String)
  /-- A derive is no path, or the type of a member is no type. -/
  | malformed
  deriving DecidableEq, Repr

def GenerationFault.message : GenerationFault → String
  | unresolved type field message =>
    s!"Unresolved type '{type}' for field '{field}' in message '{message}'"
  | malformed => "Failed to format generated code"

structure GeneratedModule where
  code : String
  recordName : String
  moduleName : String
  deriving DecidableEq, Repr

namespace GeneratedModule

/-- The file that the code belongs in. -/
def fileName (m : GeneratedModule) : String := Target.fileName m.moduleName

end GeneratedModule

namespace Message

/-- The text of the type of a member, with its reference resolved. -/
def memberTypeText (m : Message) (index : PackageIndex) (member : Field) :
    Except GenerationFault String :=
  match Target.typeText member.type (index.resolve member.type.base) with
  | some text => .ok text
  | none => .error (.unresolved member.type.base.text member.name m.name)

/-- The field of the record for a member with the text of its type, if that is a type. -/
def recordField? (member : Field) (typeText : String) : Option Target.RecordField :=
  (Target.TypeExpr.read? typeText.toList).map fun type =>
    ⟨member.comment, Target.identifier member.name, type⟩

def constantItem? (field : Field) : Option Target.ConstantItem := do
  let p ← field.type.base.primitive?
  let v ← field.value?
  let type ← Target.TypeExpr.read? (Target.constantTypeText p).toList
  return ⟨field.comment, Target.identifier field.name, type, .scalar (.literal p v)⟩

def enumerationItem (e : Enumeration) : Target.Item :=
  .enumeration e.comment (Target.primitiveText e.repr none) (Target.identifier e.name)
    (List.zipWith (fun v name => ⟨v.comment, Target.identifier name, v.number⟩) e.values
      e.variantNames)

/-- The record of a message, given the texts of the types of its members, if all derives are
    paths and all types are types. -/
def recordItem? (m : Message) (style : Style) (types : List String) : Option Target.Item := do
  let derives ← style.recordDerives.mapM Target.DeriveList.tokens?
  let fields ← (m.members.zip types).mapM fun (member, type) => recordField? member type
  return .record (if m.comment.isEmpty then none else some m.comment) derives
    (Target.identifier m.name) fields

def items (m : Message) (style : Style) (index : PackageIndex) :
    Except GenerationFault (List Target.Item) := do
  let types ← m.members.mapM (m.memberTypeText index)
  let name := Target.identifier m.name
  match m.recordItem? style types with
  | none => throw .malformed
  | some record =>
    let values := m.members.map fun f => (Target.identifier f.name, Target.ValueExpr.ofField f)
    let defaults := if style.wantsDefault then [Target.Item.defaults name values] else []
    let constants := m.constants.filterMap constantItem?
    let constants := if constants.isEmpty then [] else [Target.Item.constants name constants]
    return record :: defaults ++ constants ++ m.enumerations.map enumerationItem

def generate (m : Message) (style : Style) (index : PackageIndex) :
    Except GenerationFault GeneratedModule := do
  let items ← m.items style index
  return {
    code := style.preamble ++ Target.itemsText items
    recordName := Target.identifier m.name
    moduleName := Target.moduleName m.name }

end Message

end MsgBindings
