import MsgBindings.Proofs.SoundMessages
import MsgBindings.Proofs.TypeTexts

/-!
The types of messages that are read (`isWellTyped_of_read`). A value that is read belongs to its type, a default
value has the shape of its type with as many elements as that has room for, and every bound is positive. What holds
of the field of each line holds of all fields of the message.
-/
namespace MsgBindings

/-! ### Values -/

namespace Literal

/-- The values of a built-in type. -/
inductive IsOf : Primitive → Literal → Prop
  | bool (v : Bool) : IsOf .bool (.bool v)
  | integer {p : Primitive} (v : Int) : p.isInteger = true → IsOf p (.integer v)
  | float {p : Primitive} (v : Binary64) : p.isFloat = true → IsOf p (.float v)
  | string {p : Primitive} (v : String) : p.isString = true → IsOf p (.string v)

theorem isOf_of_read {p : Primitive} {text : List Char} {v : Literal} (ok : read p text = .ok v) : v.IsOf p := by
  cases whole : p.isInteger with
  | true =>
    rw [read_of_isInteger whole] at ok
    split at ok <;> cases ok
    exact .integer _ whole
  | false =>
    unfold read at ok
    by_cases bool : p = .bool
    · subst bool
      simp only [↓reduceIte] at ok
      split at ok <;> cases ok
      exact .bool _
    · by_cases float : p.isFloat = true
      · simp only [bool,float,↓reduceIte] at ok
        split at ok <;> cases ok
        exact .float _ float
      · have string : p.isString = true := by
          rcases isInteger_eq_false.mp whole with same | same | same
          · exact absurd same bool
          · exact absurd same float
          · exact same
        simp only [bool,float,string,↓reduceIte,Bool.false_eq_true] at ok
        cases ok
        exact .string _ string

end Literal

/-- Whether an array may have a number of elements. -/
def ArrayShape.Allows : ArrayShape → Nat → Prop
  | unbounded, _ => True
  | fixed size, count => count = size
  | bounded bound, count => count ≤ bound

namespace DefaultValue

theorem countFault?_eq_none {shape : ArrayShape} {count : Nat} :
    countFault? shape count = none ↔ shape.Allows count := by
  cases shape <;> simp [countFault?,ArrayShape.Allows]

/-- The default values of a type. The elements of an array belong to one built-in type. -/
inductive IsOf : FieldType → DefaultValue → Prop
  | single {p : Primitive} {bound : Option Nat} {v : Literal} : v.IsOf p → IsOf ⟨.primitive p bound,none⟩ (.single v)
  | array {p : Primitive} {bound : Option Nat} {shape : ArrayShape} {vs : List Literal} : (∀ v ∈ vs, v.IsOf p) →
      shape.Allows vs.length → IsOf ⟨.primitive p bound,some shape⟩ (.array vs)

theorem isOf_of_read {type : FieldType} {text : List Char} {v : DefaultValue} (ok : read type text = .ok v) :
    v.IsOf type := by
  obtain ⟨base,array⟩ := type
  cases base with
  | message package name => simp [read,BaseType.primitive?] at ok
  | primitive p bound =>
    cases array with
    | none =>
      obtain ⟨value,made,rfl⟩ := map_eq_ok.mp ok
      exact .single (Literal.isOf_of_read made)
    | some shape =>
      simp only [read,BaseType.primitive?] at ok
      split at ok
      · cases ok
      · rename_i inside _
        split at ok
        · cases ok
        · rename_i counted
          obtain ⟨vs,made,rfl⟩ := map_eq_ok.mp ok
          have each := mapM_eq_ok.mp made
          refine .array ?_ ?_
          · intro v member
            obtain ⟨_,_,here⟩ := exists_of_mem_right each member
            exact Literal.isOf_of_read here
          · rw [← each.length_eq]
            exact countFault?_eq_none.mp counted

end DefaultValue

/-! ### Types -/

/-- A type without a bound of zero. Only strings have a bound of their length. -/
structure FieldType.IsBounded (type : FieldType) : Prop where
  length : ∀ p bound, type.base = .primitive p (some bound) → p.isString = true ∧ 0 < bound
  elements : ∀ bound, type.array = some (.bounded bound) → 0 < bound

theorem FieldType.isBounded_of_read {context : Option String} {token : String} {type : FieldType}
    (ok : read context token = .ok type) : type.IsBounded := by
  obtain ⟨base,array⟩ := isNormal_of_read ok
  constructor
  · intro p bound same
    rw [same] at base
    cases base with
    | string string positive _ => exact ⟨string,positive⟩
  · intro bound same
    cases array _ same with
    | bounded positive _ => exact positive

/-! ### Fields -/

namespace Field

/-- A constant: a single value of a built-in type, under a name for constants. -/
structure IsTypedConstant (f : Field) : Prop where
  named : isConstantName f.name = true
  typed : ∃ p bound v, f.type = ⟨.primitive p bound,none⟩ ∧ f.value? = some v ∧ v.IsOf p
  noDefault : f.default? = none

/-- A member: it has no value, and a default only of its type. -/
structure IsTypedMember (f : Field) : Prop where
  named : isFieldName f.name = true
  noValue : f.value? = none
  typed : ∀ v, f.default? = some v → v.IsOf f.type

/-- A field of its kind, of a type without a bound of zero. -/
structure IsWellTyped (f : Field) : Prop where
  constant : f.isConstant = true → f.IsTypedConstant
  member : f.isConstant = false → f.IsTypedMember
  bounded : f.type.IsBounded

theorem isWellTyped_of_constant {type : FieldType} {name : String} {text : List Char} {f : Field}
    (made : Field.constant type name text = .ok f) (bounded : type.IsBounded) : f.IsWellTyped := by
  obtain ⟨p,bound,v,rfl,named,read,rfl⟩ := constant_eq_ok.mp made
  refine ⟨fun _ => ⟨named,⟨p,bound,v,rfl,rfl,Literal.isOf_of_read read⟩,rfl⟩,?_,bounded⟩
  intro other
  cases other

theorem isWellTyped_of_member {type : FieldType} {name : String} {default : Option (List Char)} {f : Field}
    (made : Field.member type name default = .ok f) (bounded : type.IsBounded) : f.IsWellTyped := by
  obtain ⟨named,value,read,rfl⟩ := member_eq_ok.mp made
  refine ⟨?_,fun _ => ⟨named,rfl,?_⟩,bounded⟩
  · intro other
    cases other
  · rintro v rfl
    obtain ⟨text,rfl,here⟩ := optionMapM_eq_some.mp read
    exact DefaultValue.isOf_of_read here

theorem IsWellTyped.declaredAt {f : Field} (typed : f.IsWellTyped) (comment : Option String) (line : Nat) :
    (f.declaredAt comment line).IsWellTyped :=
  ⟨fun kind => ⟨(typed.constant kind).named,(typed.constant kind).typed,(typed.constant kind).noDefault⟩,
    fun kind => ⟨(typed.member kind).named,(typed.member kind).noValue,(typed.member kind).typed⟩,typed.bounded⟩

end Field

/-- The type of a field is held as it is in definitions of its package. -/
theorem isNormal_of_placedEntry {package : String} {line : SourceLine} {e : PlacedEntry}
    (read : line.placedEntry package = .ok e) : ∀ f ∈ e.entry.field?.toList, f.type.IsNormal (some package) := by
  refine SourceLine.forall_field_of_placedEntry read (fun typed made => ?_) fun typed made => ?_
  · obtain ⟨_,v,_,rfl⟩ := Field.member_eq_ok.mp made
    exact FieldType.isNormal_of_read typed
  · obtain ⟨p,bound,v,rfl,_,_,rfl⟩ := Field.constant_eq_ok.mp made
    exact FieldType.isNormal_of_read typed

theorem isWellTyped_of_placedEntry {package : String} {line : SourceLine} {e : PlacedEntry}
    (read : line.placedEntry package = .ok e) : ∀ f ∈ e.entry.field?.toList, f.IsWellTyped := by
  refine SourceLine.forall_field_of_placedEntry read (fun typed made => ?_) fun typed made => ?_
  · exact (Field.isWellTyped_of_member made (FieldType.isBounded_of_read typed)).declaredAt _ _
  · exact (Field.isWellTyped_of_constant made (FieldType.isBounded_of_read typed)).declaredAt _ _

/-! ### Messages -/

namespace Message

/-- A message whose constants and members are of their types, and whose enumerations have values of an integer type
    and names of their own. -/
structure IsWellTyped (m : Message) : Prop where
  constants : ∀ f ∈ m.constants, f.IsTypedConstant
  members : ∀ f ∈ m.members, f.IsTypedMember
  bounded : ∀ f ∈ m.fields, f.type.IsBounded
  enumerations : ∀ e ∈ m.enumerations, e.values ≠ [] ∧ e.repr.isInteger = true ∧ isMessageName e.name = true
  distinct : (m.enumerations.map (·.name)).Nodup
  apart : ∀ e ∈ m.enumerations, e.name ≠ m.name

/-- Every message that is read is well typed. -/
theorem isWellTyped_of_read {package name source : String} {m : Message}
    (read : Message.read package name source = .ok m) : m.IsWellTyped := by
  have fields := forall_fields_of_read isWellTyped_of_placedEntry read
  have sound := isSound_of_read read
  obtain ⟨apart,distinct⟩ := List.nodup_cons.mp sound.typeNames
  refine ⟨?_,?_,fun f inside => (fields f inside).bounded,?_,distinct,?_⟩
  · intro f inside
    obtain ⟨inside,kind⟩ := List.mem_filter.mp inside
    exact (fields f inside).constant kind
  · intro f inside
    obtain ⟨inside,kind⟩ := List.mem_filter.mp inside
    exact (fields f inside).member (by simpa using kind)
  · intro e inside
    obtain ⟨cs,_,isOf⟩ := (sound.enumerations e inside).gathered
    refine ⟨?_,isOf.whole,isOf.named⟩
    -- There is a value for each constant, and some constant.
    intro empty
    have values := isOf.values
    rw [empty,List.forall₂_nil_right_iff] at values
    exact isOf.nonempty values
  · intro e inside same
    exact apart (List.mem_map.mpr ⟨e,inside,same⟩)

/-- An enumeration, a string constant, and members with and without a default value. -/
theorem isWellTyped_of_sample :
    let source := "@enum Mode\nuint8 IDLE=0\nuint8 BUSY=1\n\nstring NAME=\"x\"\nint32[2] pair [1, 2]\n" ++
      "bool[<=3] flags [true]\nfloat64 scale 0.5\nstring<=8 label\n"
    let m : Message := ⟨"test_msgs","Sample","",
      [⟨"IDLE",.ofPrimitive .uint8,.constant (.integer 0),none,2⟩,
        ⟨"BUSY",.ofPrimitive .uint8,.constant (.integer 1),none,3⟩,
        ⟨"NAME",.ofPrimitive .string,.constant (.string "x"),none,5⟩,
        ⟨"pair",⟨.primitive .int32 none,some (.fixed 2)⟩,.member (some (.array [.integer 1,.integer 2])),none,6⟩,
        ⟨"flags",⟨.primitive .bool none,some (.bounded 3)⟩,.member (some (.array [.bool true])),none,7⟩,
        ⟨"scale",.ofPrimitive .float64,.member (some (.single (.float (.finite false 4503599627370496 (-53))))),
          none,8⟩,
        ⟨"label",⟨.primitive .string (some 8),none⟩,.member none,none,9⟩],
      [⟨"Mode",.uint8,[⟨"IDLE",0,none⟩,⟨"BUSY",1,none⟩],none,true⟩]⟩
    Message.read "test_msgs" "Sample" source = .ok m ∧ m.IsWellTyped := by
  intro source m
  have read : Message.read "test_msgs" "Sample" source = .ok m := by decide +kernel
  exact ⟨read,isWellTyped_of_read read⟩

end Message

end MsgBindings
