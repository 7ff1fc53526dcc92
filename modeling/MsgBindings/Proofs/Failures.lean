import MsgBindings.Grouping
import MsgBindings.Proofs.Results

/-!
The errors that a reading can fail with (`FailsAs`). Names, types, declarations and enumerations are
refused with an error of their own: no line is attached to it and it is no overflow (`IsBare`). Values may
overflow besides, but no line is attached to their errors either. So an error that is put on a line is an
error on that very line (`failsAs_onLine`).
-/
namespace MsgBindings

section

variable {ε δ α β : Type}

/-- If a reading fails, then with an error that `p` holds of. -/
def FailsAs (p : ε → Prop) (x : Except ε α) : Prop := ∀ e, x = .error e → p e

variable {p q : ε → Prop} {x : Except ε α}

@[simp] theorem failsAs_ok (a : α) : FailsAs p (.ok a) := nofun

@[simp] theorem failsAs_pure (a : α) : FailsAs p (pure a : Except ε α) := nofun

@[simp] theorem failsAs_error {e : ε} : FailsAs (α := α) p (.error e) ↔ p e := by
  simp [FailsAs]

@[simp] theorem failsAs_throw {e : ε} : FailsAs p (throw e : Except ε α) ↔ p e := failsAs_error

theorem FailsAs.mono (fails : FailsAs p x) (weaker : ∀ e, p e → q e) : FailsAs q x :=
  fun e error => weaker e (fails e error)

theorem FailsAs.bind {f : α → Except ε β} (first : FailsAs p x) (rest : ∀ a, x = .ok a → FailsAs p (f a)) :
    FailsAs p (x >>= f) := by
  intro e error
  rcases bind_eq_error.mp error with fails | ⟨a,ok,fails⟩
  · exact first e fails
  · exact rest a ok e fails

@[simp] theorem failsAs_map {f : α → β} : FailsAs p (x.map f) ↔ FailsAs p x := by
  simp [FailsAs]

theorem failsAs_mapError {f : ε → δ} {p : δ → Prop} :
    FailsAs p (x.mapError f) ↔ FailsAs (fun e => p (f e)) x := by
  simp [FailsAs]

theorem failsAs_mapM {f : α → Except ε β} {xs : List α} (each : ∀ x ∈ xs, FailsAs p (f x)) :
    FailsAs p (xs.mapM f) := by
  intro e error
  obtain ⟨before,x,after,_,rfl,_,fails⟩ := mapM_eq_error.mp error
  exact each x (by simp) e fails

end

namespace DefinitionError

/-- An error without a line that is no overflow. -/
def IsBare (e : DefinitionError) : Prop := e.line? = none ∧ e ≠ .overflow

/-- An error that arose on a line. -/
def IsOn (number : Nat) (text : String) (e : DefinitionError) : Prop :=
  ∃ cause, cause.IsBare ∧ e = .located number text cause

@[simp] theorem isBare_name (name : String) (fault : NameFault) : (DefinitionError.name name fault).IsBare :=
  ⟨rfl,nofun⟩

@[simp] theorem isBare_badName (name : String) (pattern : NamePattern) : (badName name pattern).IsBare :=
  isBare_name name _

@[simp] theorem isBare_type (token : String) (fault : TypeFault) : (DefinitionError.type token fault).IsBare :=
  ⟨rfl,nofun⟩

@[simp] theorem isBare_constant (fault : ConstantFault) : (DefinitionError.constant fault).IsBare :=
  ⟨rfl,nofun⟩

@[simp] theorem isBare_field (fault : FieldFault) : (DefinitionError.field fault).IsBare := ⟨rfl,nofun⟩

@[simp] theorem isBare_enumeration (fault : EnumFault) : (DefinitionError.enumeration fault).IsBare :=
  ⟨rfl,nofun⟩

/-- An error of a type token or of a part of one. -/
def IsTypeError (e : DefinitionError) : Prop := ∃ part fault, e = .type part fault

@[simp] theorem isTypeError_type (part : String) (fault : TypeFault) : (DefinitionError.type part fault).IsTypeError :=
  ⟨part,fault,rfl⟩

/-- Putting an error without a line on one says where it arose, but for an overflow. -/
theorem onLine_of_line?_eq_none {e : DefinitionError} (free : e.line? = none) (number : Nat) (text : String) :
    e.onLine number text = .overflow ∨ (e.onLine number text).IsOn number text := by
  cases e with
  | located => simp [line?] at free
  | overflow => exact .inl rfl
  | _ =>
    refine .inr ⟨_,?_,rfl⟩
    exact ⟨free,nofun⟩

theorem IsBare.onLine {e : DefinitionError} (bare : e.IsBare) (number : Nat) (text : String) :
    (e.onLine number text).IsOn number text := by
  refine (onLine_of_line?_eq_none bare.1 number text).resolve_left fun overflow => bare.2 ?_
  cases e with
  | overflow => rfl
  | _ => cases overflow

end DefinitionError

open DefinitionError

theorem failsAs_onLine {α : Type} {x : Except DefinitionError α} (bare : FailsAs IsBare x) (number : Nat)
    (text : String) : FailsAs (IsOn number text) (x.mapError (onLine number text)) :=
  failsAs_mapError.mpr (bare.mono fun _ bare => bare.onLine number text)

/-! ### What is refused with an error of its own -/

namespace BaseType

theorem failsAs_readMessage (token : String) (package : Option String) (name : String) :
    FailsAs IsTypeError (readMessage token package name) := by
  unfold readMessage
  split <;> simp

theorem failsAs_readBounded (token base : String) (bound : List Char) :
    FailsAs IsTypeError (readBounded token base bound) := by
  unfold readBounded
  split
  · simp
  · split <;> simp

theorem failsAs_read (context : Option String) (token : String) : FailsAs IsTypeError (read context token) := by
  unfold read
  split
  · simp
  · split
    · exact failsAs_readBounded _ _ _
    · split
      · exact failsAs_readMessage _ _ _
      · dsimp only
        split
        · exact failsAs_readMessage _ _ _
        · simp

end BaseType

namespace FieldType

theorem failsAs_readBrackets (token : String) (rest : List Char) : FailsAs IsTypeError (readBrackets token rest) := by
  unfold readBrackets
  split
  · split
    · simp
    · unfold ArrayShape.read
      split
      · simp
      · split <;> simp
      · split <;> simp
  · simp

theorem refuses_read (context : Option String) (token : String) : FailsAs IsTypeError (read context token) := by
  unfold read
  split
  · split
    · simp
    · exact failsAs_map.mpr (BaseType.failsAs_read context token)
  · refine (failsAs_readBrackets _ _).bind fun shape _ => (BaseType.failsAs_read _ _).bind fun base _ => ?_
    simp

theorem failsAs_read (context : Option String) (token : String) : FailsAs IsBare (read context token) := by
  refine (refuses_read context token).mono ?_
  rintro _ ⟨part,fault,rfl⟩
  exact isBare_type part fault

end FieldType

namespace Declaration

theorem failsAs_readMarker (content : List Char) : FailsAs IsBare (readMarker content) := by
  unfold readMarker
  split
  · simp
  · split
    · split <;> simp
    · simp

theorem failsAs_readConstant (declared value : List Char) : FailsAs IsBare (readConstant declared value) := by
  unfold readConstant
  split
  · dsimp only
    split <;> simp
  · simp

theorem failsAs_readField (content : List Char) : FailsAs IsBare (readField content) := by
  unfold readField
  split
  · simp
  · dsimp only
    split <;> simp

theorem failsAs_read (content : List Char) : FailsAs IsBare (read content) := by
  unfold read
  split
  · exact failsAs_readMarker content
  · split
    · exact failsAs_readConstant _ _
    · exact failsAs_readField content

end Declaration

namespace Enumeration

theorem failsAs_valueOf (name : String) (repr : Primitive) (c : Field) :
    FailsAs IsBare (valueOf name repr c) := by
  unfold valueOf
  split
  · split <;> simp
  · simp

theorem failsAs_ofConstants (name : String) (cs : List Field) (comment : Option String) (explicit : Bool) :
    FailsAs IsBare (ofConstants name cs comment explicit) := by
  unfold ofConstants
  split
  · split
    · simp
    · split
      · simp
      · refine (failsAs_mapM fun c _ => failsAs_valueOf _ _ c).bind fun vs _ => ?_
        simp
  · simp

end Enumeration

namespace Message

theorem failsAs_empty (package name : String) : FailsAs IsBare (empty package name) := by
  unfold empty
  split
  · split <;> simp
  · simp

theorem failsAs_addEnumeration (m : Message) (e : Enumeration) : FailsAs IsBare (m.addEnumeration e) := by
  unfold addEnumeration
  split <;> simp

end Message

theorem ConstantGroup.failsAs_extendBlock (members : List GroupedConstant) (c : GroupedConstant) :
    FailsAs IsBare (extendBlock members c) := by
  unfold extendBlock
  dsimp only
  split
  · simp
  · split
    · simp
    · split <;> simp

/-! ### What may overflow -/

theorem Literal.failsAs_read (p : Primitive) (text : List Char) :
    FailsAs (fun e => e.line? = none) (read p text) := by
  unfold read
  dsimp only
  split
  · split <;> simp [line?]
  · split
    · split <;> simp [line?]
    · split
      · simp
      · split <;> simp [line?]

theorem DefaultValue.failsAs_read (type : FieldType) (text : List Char) :
    FailsAs (fun e => e.line? = none) (read type text) := by
  unfold read
  dsimp only
  split
  · simp [line?]
  · exact failsAs_map.mpr (Literal.failsAs_read _ text)
  · split
    · simp [line?]
    · split
      · simp [line?]
      · exact failsAs_map.mpr (failsAs_mapM fun element _ => Literal.failsAs_read _ element)

namespace Field

theorem failsAs_constant (type : FieldType) (name : String) (text : List Char) :
    FailsAs (fun e => e.line? = none) (Field.constant type name text) := by
  unfold Field.constant
  split
  · split
    · refine (Literal.failsAs_read _ text).bind fun v _ => ?_
      simp
    · refine FailsAs.bind ?_ nofun
      exact failsAs_throw.mpr rfl
  · simp [line?]

theorem failsAs_member (type : FieldType) (name : String) (default : Option (List Char)) :
    FailsAs (fun e => e.line? = none) (Field.member type name default) := by
  have value : FailsAs (fun e => e.line? = none) (default.mapM (DefaultValue.read type)) := by
    cases default with
    | none => exact failsAs_pure _
    | some text => exact failsAs_map.mpr (DefaultValue.failsAs_read type text)
  unfold Field.member
  split
  · refine value.bind fun v _ => ?_
    simp
  · refine FailsAs.bind ?_ nofun
    exact failsAs_throw.mpr rfl

end Field

end MsgBindings
