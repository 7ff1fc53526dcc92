import MsgBindings.Proofs.EmittedNames
import MsgBindings.Proofs.References
import MsgBindings.Proofs.TypedMessages

/-!
The types of the fields of records. The references of a message that is read are names that messages may have
(`isMessageName_of_reference`), and the field of the record for a member has the type that its text is read as
(`record_of_items`). With a plain index that is an array of a path (`typeText_of_plain`).
-/
namespace MsgBindings

/-! ### References of messages that are read -/

namespace Message

variable {m : Message} {package name source : String} {style : Style} {index : PackageIndex}
  {items : List Target.Item}

/-- The messages that the fields of a message refer to have names that messages may have. -/
theorem isMessageName_of_reference (read : Message.read package name source = .ok m) {f : Field}
    (member : f ∈ m.fields) {other : Option String} {target : String}
    (reference : f.type.base = .message other target) : isMessageName target = true := by
  have normal := (forall_fields_of_read isNormal_of_placedEntry read f member).base
  rw [reference] at normal
  cases normal with
  | own named => exact named
  | foreign _ _ named => exact named

end Message

/-! ### The fields of records -/

/-- The name and the fields of the record that an item declares. -/
def Target.Item.record? : Target.Item → Option (String × List Target.RecordField)
  | record _ _ name fields => some (name,fields)
  | _ => none

namespace Message

variable {m : Message} {style : Style} {index : PackageIndex} {items : List Target.Item}

/-- The code of a message has one record, with a field for each member. -/
theorem record_of_items (made : m.items style index = .ok items) :
    ∃ fields, items.filterMap Target.Item.record? = [(Target.identifier m.name,fields)] ∧
      List.Forall₂ (IsRecordField m index) m.members fields := by
  obtain ⟨derives,fields,_,each,rfl⟩ := items_eq_of_ok made
  refine ⟨fields,?_,each⟩
  refine (List.filterMap_cons_some (f := Target.Item.record?) (b := (Target.identifier m.name,fields)) rfl).trans ?_
  refine congrArg ((Target.identifier m.name,fields) :: ·) (List.filterMap_eq_nil_iff.mpr fun item member => ?_)
  rcases item_cases member with rfl | rfl | ⟨e,_,rfl⟩ <;> rfl

/-- With a plain index the type of a member is read as an array of a path: that of the built-in type, or one with a
    module in it. -/
theorem typeText_of_plain {member : Field} {text : String} (plain : index.IsPlain)
    (named : ∀ package name, member.type.base = .message package name → isMessageName name = true)
    (made : m.memberTypeText index member = .ok text) :
    ∃ isGlobal names, Target.TypeExpr.read? text.toList =
        some (Target.arrayType (.path isGlobal (names.map .plain)) member.type.array) ∧
      match member.type.base with
      | .primitive p _ => (isGlobal,names) = Target.primitivePath p
      | .message _ _ => 1 < names.length := by
  unfold memberTypeText Target.typeText at made
  cases base : member.type.base with
  | primitive p bound =>
    simp only [base] at made
    cases made
    exact ⟨_,_,Target.read?_arrayText (Target.isElement_primitive p bound) _,rfl⟩
  | message package name =>
    simp only [base] at made
    cases resolved : index.resolve (.message package name) with
    | none =>
      rw [resolved] at made
      cases made
    | some path =>
      rw [resolved] at made
      cases made
      obtain ⟨isGlobal,names,element,long⟩ := index.isElement_resolve plain (named package name base) resolved
      exact ⟨isGlobal,names,Target.read?_arrayText element _,long⟩

end Message

end MsgBindings
