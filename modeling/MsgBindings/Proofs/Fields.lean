import MsgBindings.Field
import MsgBindings.Proofs.LeastInteger
import MsgBindings.Proofs.Results

/-!
What making a field says of it: a constant has a value of its type, and the integer constants are
those of the integer types (`isSome_integer?`). Making a field overflows exactly if the text of an
integer of it negates the least one (`constant_eq_overflow`, `member_eq_overflow`).
-/
namespace MsgBindings

namespace Literal

theorem isInteger_eq_false {p : Primitive} :
    p.isInteger = false ↔ p = .bool ∨ p.isFloat = true ∨ p.isString = true := by
  cases p <;> decide

theorem read_of_isInteger {p : Primitive} {text : List Char} (whole : p.isInteger = true) :
    read p text =
      match readInteger (Text.trim text) with
      | .value v => .ok (.integer v)
      | .malformed => .error (.value (.ofList (Text.trim text)) p.name .notInteger)
      | .overflow => .error .overflow := by
  have other : ¬ (p = .bool ∨ p.isFloat = true ∨ p.isString = true) := by
    rw [← isInteger_eq_false,whole]
    simp
  rw [not_or,not_or] at other
  obtain ⟨bool,float,string⟩ := other
  unfold read
  cases number : readInteger (Text.trim text) <;>
    simp only [bool,float,string,↓reduceIte,Bool.false_eq_true,number]

/-- Reading a value of another type gives one that is no integer, or refuses the text. -/
theorem read_of_not_isInteger {p : Primitive} (text : List Char) (other : p.isInteger = false) :
    (∃ v, read p text = .ok v ∧ v.integer? = none) ∨
      ∃ reason, read p text = .error (.value (.ofList (Text.trim text)) p.name reason) := by
  unfold read
  by_cases bool : p = .bool
  · simp only [bool,↓reduceIte]
    cases readBool (Text.trim text) with
    | none => exact .inr ⟨_,rfl⟩
    | some v => exact .inl ⟨_,rfl,rfl⟩
  · by_cases float : p.isFloat = true
    · simp only [bool,float,↓reduceIte]
      cases Binary64.read? (Text.trim text) with
      | none => exact .inr ⟨_,rfl⟩
      | some v => exact .inl ⟨_,rfl,rfl⟩
    · have string : p.isString = true := by
        rcases isInteger_eq_false.mp other with same | same | same
        · exact absurd same bool
        · exact absurd same float
        · exact same
      simp only [bool,float,string,↓reduceIte]
      exact .inl ⟨_,rfl,rfl⟩

/-- A value is an integer exactly if its type is an integer type. -/
theorem isSome_integer? {p : Primitive} {text : List Char} {v : Literal} (ok : read p text = .ok v) :
    v.integer?.isSome = p.isInteger := by
  cases whole : p.isInteger with
  | true =>
    rw [read_of_isInteger whole] at ok
    split at ok <;> cases ok
    rfl
  | false =>
    rcases read_of_not_isInteger text whole with ⟨w,read,none⟩ | ⟨reason,refused⟩
    · rw [read] at ok
      cases ok
      rw [none]
      rfl
    · simp [refused] at ok

/-- Reading a value overflows exactly if it is an integer and its text negates the least one. -/
theorem read_eq_overflow {p : Primitive} {text : List Char} :
    read p text = .error .overflow ↔ p.isInteger = true ∧ NegatesLeast (Text.trim text) := by
  cases whole : p.isInteger with
  | true =>
    rw [read_of_isInteger whole,← readInteger_eq_overflow]
    cases readInteger (Text.trim text) <;> simp
  | false =>
    rcases read_of_not_isInteger text whole with ⟨w,read,_⟩ | ⟨reason,refused⟩
    · simp [read]
    · simp [refused]

end Literal

namespace DefaultValue

/-- The default values that overflow: the text, or the first element that is no value, negates the
    least integer. The elements of an array are read only if there are as many as there may be. -/
def Overflows (type : FieldType) (text : List Char) : Prop :=
  ∃ p, type.base.primitive? = some p ∧ p.isInteger = true ∧
    match type.array with
    | none => NegatesLeast (Text.trim text)
    | some shape =>
      ∃ inside, bracketed? text = some inside ∧ countFault? shape (elements inside).length = none ∧
        ∃ before element after vs, elements inside = before ++ element :: after ∧
          before.mapM (Literal.read p) = .ok vs ∧ NegatesLeast (Text.trim element)

theorem read_eq_overflow {type : FieldType} {text : List Char} :
    read type text = .error .overflow ↔ Overflows type text := by
  unfold read Overflows
  cases typed : type.base.primitive? with
  | none => simp
  | some p =>
    cases shaped : type.array with
    | none => simp [Literal.read_eq_overflow]
    | some shape =>
      simp only [Option.some.injEq,exists_eq_left']
      cases bracketed? text with
      | none => simp
      | some inside =>
        simp only [Option.some.injEq,exists_eq_left']
        cases countFault? shape (elements inside).length with
        | some reason => simp
        | none =>
          simp only [map_eq_error,mapM_eq_error,Literal.read_eq_overflow,true_and]
          constructor
          · rintro ⟨before,element,after,vs,split,read,whole,negates⟩
            exact ⟨whole,before,element,after,vs,split,read,negates⟩
          · rintro ⟨whole,before,element,after,vs,split,read,negates⟩
            exact ⟨before,element,after,vs,split,read,whole,negates⟩

end DefaultValue

namespace Field

theorem constant_eq_ok {type : FieldType} {name : String} {text : List Char} {f : Field} :
    Field.constant type name text = .ok f ↔
      ∃ p bound v, type = ⟨.primitive p bound,none⟩ ∧ isConstantName name = true ∧
        Literal.read p text = .ok v ∧ f = ⟨name,type,.constant v,none,0⟩ := by
  obtain ⟨base,array⟩ := type
  cases base with
  | message package message => simp [Field.constant,BaseType.primitive?]
  | primitive p bound =>
    cases array with
    | some shape => simp [Field.constant,BaseType.primitive?]
    | none =>
      cases named : isConstantName name with
      | false => simp [Field.constant,BaseType.primitive?,named]
      | true =>
        simp only [Field.constant,BaseType.primitive?,named,↓reduceIte,bind_eq_ok,pure_eq_ok]
        constructor
        · rintro ⟨v,read,rfl⟩
          exact ⟨p,bound,v,rfl,trivial,read,rfl⟩
        · rintro ⟨_,_,v,same,_,read,rfl⟩
          cases same
          exact ⟨v,read,rfl⟩

theorem member_eq_ok {type : FieldType} {name : String} {default : Option (List Char)} {f : Field} :
    Field.member type name default = .ok f ↔
      isFieldName name = true ∧
        ∃ v, default.mapM (DefaultValue.read type) = .ok v ∧ f = ⟨name,type,.member v,none,0⟩ := by
  cases named : isFieldName name with
  | false => simp [Field.member,named]
  | true =>
    simp only [Field.member,named,↓reduceIte,bind_eq_ok,pure_eq_ok,true_and]
    exact exists_congr fun v => and_congr_right fun _ => eq_comm

/-- Making a constant overflows exactly if it is an integer with a good name and its text negates the
    least one. -/
theorem constant_eq_overflow {type : FieldType} {name : String} {text : List Char} :
    Field.constant type name text = .error .overflow ↔
      ∃ p bound, type = ⟨.primitive p bound,none⟩ ∧ p.isInteger = true ∧ isConstantName name = true ∧
        NegatesLeast (Text.trim text) := by
  obtain ⟨base,array⟩ := type
  cases base with
  | message package message => simp [Field.constant,BaseType.primitive?]
  | primitive p bound =>
    cases array with
    | some shape => simp [Field.constant,BaseType.primitive?]
    | none =>
      cases named : isConstantName name with
      | false => simp [Field.constant,BaseType.primitive?,named,DefinitionError.badName]
      | true =>
        simp only [Field.constant,BaseType.primitive?,named,↓reduceIte,bind_eq_error,pure_ne_error,and_false,
          exists_false,or_false,Literal.read_eq_overflow]
        constructor
        · rintro ⟨whole,negates⟩
          exact ⟨p,bound,rfl,whole,trivial,negates⟩
        · rintro ⟨_,_,same,whole,_,negates⟩
          cases same
          exact ⟨whole,negates⟩

theorem member_eq_overflow {type : FieldType} {name : String} {default : Option (List Char)} :
    Field.member type name default = .error .overflow ↔
      isFieldName name = true ∧ ∃ text, default = some text ∧ DefaultValue.Overflows type text := by
  cases named : isFieldName name with
  | false => simp [Field.member,named,DefinitionError.badName]
  | true =>
    simp only [Field.member,named,↓reduceIte,bind_eq_error,pure_ne_error,and_false,exists_false,or_false,
      true_and]
    cases default with
    | none => simp
    | some text =>
      have mapped : (some text).mapM (DefaultValue.read type) = (DefaultValue.read type text).map some := rfl
      rw [mapped,map_eq_error,DefaultValue.read_eq_overflow]
      simp

theorem isSome_integer?_of_constant {type : FieldType} {name : String} {text : List Char} {f : Field}
    (made : Field.constant type name text = .ok f) :
    f.integer?.isSome = f.type.base.primitive?.any Primitive.isInteger := by
  obtain ⟨p,bound,v,rfl,_,read,rfl⟩ := Field.constant_eq_ok.mp made
  exact Literal.isSome_integer? read

end Field

end MsgBindings
