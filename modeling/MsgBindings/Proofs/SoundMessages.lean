import MsgBindings.Proofs.Gathering

/-!
What holds of every message that is read (`isSound_of_read`). Each field has a name of its kind, the names
of the message and of its enumerations are different, and each enumeration is made of constants that stand
in a row among the fields, with no number and no variant twice. The state of reading keeps this together with
the place of the constants that may still become an enumeration: they are the last fields.
-/
namespace MsgBindings

/-- A field with a name of its kind. -/
def Field.IsNamed (f : Field) : Prop :=
  match f.role with
  | .constant _ => isConstantName f.name = true
  | .member _ => isFieldName f.name = true

namespace Enumeration

/-- An enumeration of constants that stand in a row among some fields, with no number and no variant
    twice. -/
structure IsAmong (fields : List Field) (e : Enumeration) : Prop where
  gathered : ∃ cs, cs <:+: fields ∧ e.IsOf cs
  numbers : (e.values.map EnumValue.number).Nodup
  variants : e.variantNames.Nodup

theorem IsAmong.append {fields : List Field} {e : Enumeration} (among : e.IsAmong fields) (more : List Field) :
    e.IsAmong (fields ++ more) := by
  obtain ⟨⟨cs,inside,isOf⟩,numbers,variants⟩ := among
  exact ⟨⟨cs,inside.trans (List.prefix_append fields more).isInfix,isOf⟩,numbers,variants⟩

/-- The values of an enumeration among well-named fields have names of constants. -/
theorem IsAmong.named {fields : List Field} {e : Enumeration} (among : e.IsAmong fields)
    (named : ∀ f ∈ fields, f.IsNamed) : ∀ v ∈ e.values, isConstantName v.name = true := by
  obtain ⟨⟨cs,inside,isOf⟩,_,_⟩ := among
  intro v member
  obtain ⟨c,here,value⟩ := exists_of_mem_right isOf.values member
  obtain ⟨n,number,rfl⟩ := Option.map_eq_some_iff.mp value
  have field := named c (inside.subset here)
  -- Only constants have a value.
  cases role : c.role with
  | constant value => simpa only [Field.IsNamed,role] using field
  | member default => simp [Field.integer?,Field.value?,role] at number

end Enumeration

namespace Message

/-- The names of the types that a message declares. -/
def typeNames (m : Message) : List String := m.name :: m.enumerations.map (·.name)

structure IsSound (m : Message) : Prop where
  named : isMessageName m.name = true
  fields : ∀ f ∈ m.fields, f.IsNamed
  typeNames : m.typeNames.Nodup
  enumerations : ∀ e ∈ m.enumerations, e.IsAmong m.fields

/-- Every type that a sound message declares has the name of a message. -/
theorem IsSound.isMessageName_of_mem {m : Message} (sound : m.IsSound) :
    ∀ n ∈ m.typeNames, isMessageName n = true := by
  intro n member
  rcases List.mem_cons.mp member with rfl | member
  · exact sound.named
  · obtain ⟨e,inside,rfl⟩ := List.mem_map.mp member
    obtain ⟨cs,_,isOf⟩ := (sound.enumerations e inside).gathered
    exact isOf.named

theorem IsSound.members {m : Message} (sound : m.IsSound) : ∀ f ∈ m.members, isFieldName f.name = true := by
  intro f member
  obtain ⟨inside,kind⟩ := List.mem_filter.mp member
  have named := sound.fields f inside
  cases role : f.role with
  | constant value => simp [Field.isConstant,Field.value?,role] at kind
  | member default => simpa only [Field.IsNamed,role] using named

theorem IsSound.append {m : Message} (sound : m.IsSound) {fields : List Field} (named : ∀ f ∈ fields, f.IsNamed) :
    { m with fields := m.fields ++ fields }.IsSound := by
  refine ⟨sound.named,fun f member => ?_,sound.typeNames,fun e member => (sound.enumerations e member).append fields⟩
  rcases List.mem_append.mp member with old | new
  · exact sound.fields f old
  · exact named f new

theorem IsSound.addEnumeration {m m' : Message} {e : Enumeration} (sound : m.IsSound)
    (among : e.IsAmong m.fields) (added : m.addEnumeration e = .ok m') : m'.IsSound := by
  obtain ⟨free,rfl⟩ := addEnumeration_eq_ok.mp added
  obtain ⟨other,fresh⟩ := ConstantGroup.isFree_iff.mp free
  refine ⟨sound.named,sound.fields,?_,fun e' member => ?_⟩
  · have distinct := sound.typeNames
    simp only [Message.typeNames,List.map_append,List.map_cons,List.map_nil] at distinct ⊢
    rw [← List.cons_append,List.nodup_append]
    refine ⟨distinct,by simp,?_⟩
    intro a held b single
    obtain rfl : b = e.name := by simpa using single
    rcases List.mem_cons.mp held with rfl | held
    · exact other.symm
    · obtain ⟨e',inside,rfl⟩ := List.mem_map.mp held
      exact fresh e' inside
  · rcases List.mem_append.mp member with old | new
    · exact sound.enumerations e' old
    · obtain rfl := List.mem_singleton.mp new
      exact among

end Message

/-! ### What a step of reading keeps -/

/-- Ending a group of the last fields of a sound message leaves it sound. -/
theorem ConstantGroup.close_isSound {g : ConstantGroup} {m m' : Message} (sound : m.IsSound)
    (pending : g.members.map (·.constant) <:+ m.fields) (closed : g.close m = .ok m') : m'.IsSound := by
  rcases close_cases closed with rfl | ⟨_,_,_,e,made,quiet,added⟩
  · exact sound
  · obtain ⟨numbers,variants⟩ := Enumeration.conflict?_eq_none.mp quiet
    exact sound.addEnumeration
      ⟨⟨_,pending.isInfix,Enumeration.isOf_of_ofConstants made⟩,numbers,variants⟩ added

/-- The constants of a group that an entry opens are the last fields once its field is there. -/
theorem Entry.opened_suffix (e : Entry) (fields : List Field) :
    (ConstantGroup.opened e).members.map (·.constant) <:+ fields ++ e.field?.toList := by
  cases e with
  | header h => exact List.nil_suffix
  | member f => exact List.nil_suffix
  | constant c =>
    simp only [ConstantGroup.opened,ConstantGroup.members,Entry.field?]
    split
    · exact List.suffix_append fields _
    · exact List.nil_suffix

theorem ConstantGroup.members_grow (g : ConstantGroup) (c : GroupedConstant) :
    (g.grow c).members = g.members ++ [c] := by
  cases g <;> rfl

namespace ReadingState

structure IsSound (s : ReadingState) : Prop where
  message : s.message.IsSound
  isRun : s.group.IsRun
  pending : s.group.members.map (·.constant) <:+ s.message.fields

/-- Following an entry leaves a sound state sound. -/
theorem follow_isSound {s s' : ReadingState} {e : PlacedEntry} (sound : s.IsSound) (read : e.entry.WellRead)
    (named : ∀ f ∈ e.entry.field?.toList, f.IsNamed) (followed : s.follow e = .ok s') : s'.IsSound := by
  have appended : s.Appends s' e.entry.field?.toList := follow_appends followed
  unfold Appends at appended
  cases on : PlacedEntry.goesOn s.group.alike e with
  | true =>
    obtain ⟨c,entry,grown,isRun,same⟩ := ConstantGroup.follow_of_goesOn sound.isRun read on followed
    rw [same] at appended
    refine ⟨?_,isRun,?_⟩
    · rw [appended]
      exact sound.message.append named
    · obtain ⟨before,fields⟩ := sound.pending
      rw [grown,appended,ConstantGroup.members_grow,entry]
      refine ⟨before,?_⟩
      simp [← fields,Entry.field?]
  | false =>
    obtain ⟨m,closed,opened,same⟩ := ConstantGroup.follow_of_stop sound.isRun read on followed
    have ended := ConstantGroup.close_isSound sound.message sound.pending closed
    have fields : m.fields = s.message.fields := by rw [ConstantGroup.close_keeps closed]
    have message : s'.message = { m with fields := m.fields ++ e.entry.field?.toList } := by
      rw [appended,same,ConstantGroup.close_keeps closed]
    refine ⟨?_,?_,?_⟩
    · rw [message]
      exact ended.append named
    · rw [opened]
      exact ConstantGroup.isRun_opened read
    · rw [opened,message]
      exact e.entry.opened_suffix m.fields

theorem followAll_isSound {es : List PlacedEntry} {s s' : ReadingState} (sound : s.IsSound)
    (read : ∀ e ∈ es, e.entry.WellRead ∧ ∀ f ∈ e.entry.field?.toList, f.IsNamed)
    (followed : es.foldlM follow s = .ok s') : s'.IsSound := by
  induction es generalizing s with
  | nil =>
    obtain rfl := pure_eq_ok.mp followed
    exact sound
  | cons e es ih =>
    rw [List.foldlM_cons] at followed
    obtain ⟨s₁,first,rest⟩ := bind_eq_ok.mp followed
    simp only [List.mem_cons,forall_eq_or_imp] at read
    obtain ⟨⟨wellRead,named⟩,others⟩ := read
    exact ih (follow_isSound sound wellRead named first) others rest

end ReadingState

/-! ### Whole definitions -/

/-- What holds of the field of every line holds of all fields of a message that is read. -/
theorem Message.forall_fields_of_read {package name source : String} {m : Message} {p : Field → Prop}
    (each : ∀ {line : SourceLine} {e : PlacedEntry}, line.placedEntry package = .ok e →
      ∀ f ∈ e.entry.field?.toList, p f)
    (read : Message.read package name source = .ok m) : ∀ f ∈ m.fields, p f := by
  obtain ⟨_,_,es,s,entries,followed,closed⟩ := Message.read_eq_ok.mp read
  intro f member
  rw [Message.fields_of_follow followed closed,List.mem_filterMap] at member
  obtain ⟨e,inside,here⟩ := member
  exact forall_of_entries each entries e inside f (by simp [here])

/-- What holds of each member and each constant that a line makes holds of the field of the line. -/
theorem SourceLine.forall_field_of_placedEntry {package : String} {line : SourceLine} {e : PlacedEntry}
    {p : Field → Prop} (read : line.placedEntry package = .ok e)
    (member : ∀ {token name : String} {default : Option (List Char)} {type : FieldType} {f : Field},
      FieldType.read (some package) token = .ok type → Field.member type name default = .ok f →
        p (f.declaredAt line.comment line.number))
    (constant : ∀ {token name : String} {value : List Char} {type : FieldType} {c : Field},
      FieldType.read (some package) token = .ok type → Field.constant type name value = .ok c →
        p (c.declaredAt line.comment line.number)) : ∀ f ∈ e.entry.field?.toList, p f := by
  obtain ⟨blank,entry⟩ := e
  intro f inside
  cases SourceLine.makes_of_placedEntry read with
  | header declares => simp [Entry.field?] at inside
  | member declares typed made =>
    obtain rfl := List.mem_singleton.mp inside
    exact member typed made
  | constant declares typed made =>
    obtain rfl := List.mem_singleton.mp inside
    exact constant typed made

theorem isNamed_of_placedEntry {package : String} {line : SourceLine} {e : PlacedEntry}
    (read : line.placedEntry package = .ok e) : ∀ f ∈ e.entry.field?.toList, f.IsNamed := by
  refine SourceLine.forall_field_of_placedEntry read (fun typed made => ?_) fun typed made => ?_
  · obtain ⟨named,v,_,rfl⟩ := Field.member_eq_ok.mp made
    exact named
  · obtain ⟨p,bound,v,_,named,_,rfl⟩ := Field.constant_eq_ok.mp made
    exact named

/-- Every message that is read is sound. -/
theorem Message.isSound_of_read {package name source : String} {m : Message}
    (read : Message.read package name source = .ok m) : m.IsSound := by
  obtain ⟨_,named,es,s,entries,followed,closed⟩ := Message.read_eq_ok.mp read
  have start : ReadingState.IsSound ⟨.idle,Message.start package name source⟩ := by
    have message : (Message.start package name source).IsSound := by
      constructor <;> simp [Message.start,Message.typeNames,named]
    exact ⟨message,ConstantGroup.isRun_idle,List.nil_suffix⟩
  have each : ∀ e ∈ es, e.entry.WellRead ∧ ∀ f ∈ e.entry.field?.toList, f.IsNamed := fun e member =>
    ⟨wellRead_of_entries entries e member,forall_of_entries isNamed_of_placedEntry entries e member⟩
  have sound := ReadingState.followAll_isSound start each followed
  exact ConstantGroup.close_isSound sound.message sound.pending closed

end MsgBindings
