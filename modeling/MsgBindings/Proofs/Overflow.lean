import MsgBindings.Proofs.Entries
import MsgBindings.Proofs.Failures
import MsgBindings.Proofs.Fields

/-!
Where reading a definition overflows. Names, types and groups are refused in ordinary ways; what
overflows is the value of a line (`Overflows`), and reading overflows exactly if it comes to such a
line (`read_eq_overflow`).
-/
namespace MsgBindings

/-- An outcome that is no overflow. -/
def Contained {α : Type} (x : Except DefinitionError α) : Prop := x ≠ .error .overflow

namespace DefinitionError

@[simp] theorem onLine_eq_overflow {line : Nat} {text : String} {e : DefinitionError} :
    e.onLine line text = .overflow ↔ e = .overflow := by
  cases e <;> simp [onLine]

end DefinitionError

section

variable {α β : Type} {x : Except DefinitionError α}

@[simp] theorem contained_ok (a : α) : Contained (.ok a) := by
  simp [Contained]

@[simp] theorem contained_pure (a : α) : Contained (pure a) := contained_ok a

theorem Contained.bind {f : α → Except DefinitionError β} (first : Contained x)
    (rest : ∀ a, x = .ok a → Contained (f a)) : Contained (x >>= f) := by
  unfold Contained
  rw [ne_eq,bind_eq_error]
  rintro (fails | ⟨a,ok,fails⟩)
  · exact first fails
  · exact rest a ok fails

theorem contained_map {f : α → β} : Contained (x.map f) ↔ Contained x := by
  simp [Contained]

theorem contained_onLine {line : Nat} {text : String} :
    Contained (x.mapError (DefinitionError.onLine line text)) ↔ Contained x := by
  simp [Contained]

/-- What is refused with an error of its own never overflows. -/
theorem FailsAs.contained (bare : FailsAs DefinitionError.IsBare x) : Contained x :=
  fun overflow => (bare .overflow overflow).2 rfl

end

/-! ### What never overflows -/

namespace ConstantGroup

theorem contained_close (g : ConstantGroup) (m : Message) : Contained (g.close m) := by
  cases g with
  | block h members =>
    refine (contained_onLine.mpr (Enumeration.failsAs_ofConstants _ _ _ _).contained).bind fun e _ => ?_
    split
    · unfold conflictError Contained
      split <;> simp
    · exact contained_onLine.mpr (m.failsAs_addEnumeration e).contained
  | run members =>
    simp only [close,closeRun]
    split
    · simp
    · simp
    · split
      · simp
      · split
        · refine (Enumeration.failsAs_ofConstants _ _ _ _).contained.bind fun e _ => ?_
          split
          · exact (m.failsAs_addEnumeration e).contained
          · simp
        · simp

theorem contained_push (g : ConstantGroup) (c : GroupedConstant) (m : Message) : Contained (g.push c m) := by
  cases g with
  | block h members => exact contained_map.mpr (failsAs_extendBlock members c).contained
  | run members =>
    cases same : continues members c.constant with
    | true =>
      rw [push,pushRun_of_continues m same]
      simp
    | false =>
      rw [push,pushRun_of_not_continues m same,contained_map]
      exact contained_close (.run members) m

end ConstantGroup

theorem ReadingState.contained_close (s : ReadingState) : Contained s.close :=
  contained_map.mpr (s.group.contained_close s.message)

theorem ReadingState.contained_settle (s : ReadingState) (followsBlank : Bool) :
    Contained (s.settle followsBlank) := by
  cases followsBlank with
  | true => exact s.contained_close
  | false => simp [settle,Contained]

/-! ### Lines that overflow -/

/-- The lines whose value overflows: all that comes before the value in reading the line is good. -/
def SourceLine.Overflows (package : String) (line : SourceLine) : Prop :=
  match line.declaration with
  | .enumeration _ => False
  | .constant type name value =>
    ∃ p bound, FieldType.read (some package) type = .ok ⟨.primitive p bound,none⟩ ∧ p.isInteger = true ∧
      isConstantName name = true ∧ NegatesLeast (Text.trim value.toList)
  | .field type name default =>
    ∃ read value, FieldType.read (some package) type = .ok read ∧ isFieldName name = true ∧
      default = some value ∧ DefaultValue.Overflows read value.toList

namespace SourceLine

variable {package : String} {line : SourceLine}

theorem constant_eq_overflow {type name value : String} :
    line.constant package type name value = .error .overflow ↔
      ∃ p bound, FieldType.read (some package) type = .ok ⟨.primitive p bound,none⟩ ∧ p.isInteger = true ∧
        isConstantName name = true ∧ NegatesLeast (Text.trim value.toList) := by
  have typed := (FieldType.failsAs_read (some package) type).contained
  simp only [constant,bind_eq_error,pure_ne_error,and_false,exists_false,or_false,Field.constant_eq_overflow]
  constructor
  · rintro (fails | ⟨_,read,p,bound,rfl,whole,named,negates⟩)
    · exact absurd fails typed
    · exact ⟨p,bound,read,whole,named,negates⟩
  · rintro ⟨p,bound,read,whole,named,negates⟩
    exact .inr ⟨_,read,p,bound,rfl,whole,named,negates⟩

theorem member_eq_overflow {type name : String} {default : Option String} :
    line.member package type name default = .error .overflow ↔
      ∃ read value, FieldType.read (some package) type = .ok read ∧ isFieldName name = true ∧
        default = some value ∧ DefaultValue.Overflows read value.toList := by
  have typed := (FieldType.failsAs_read (some package) type).contained
  simp only [member,bind_eq_error,pure_ne_error,and_false,exists_false,or_false,Field.member_eq_overflow,
    Option.map_eq_some_iff]
  constructor
  · rintro (fails | ⟨read,ok,named,_,⟨value,rfl,rfl⟩,overflows⟩)
    · exact absurd fails typed
    · exact ⟨read,value,ok,named,rfl,overflows⟩
  · rintro ⟨read,value,ok,named,rfl,overflows⟩
    exact .inr ⟨read,ok,named,_,⟨value,rfl,rfl⟩,overflows⟩

end SourceLine

namespace ReadingState

/-- The state in front of what a line declares: a blank line above and a member end the group. -/
def arrive (s : ReadingState) (line : SourceLine) : Except DefinitionError ReadingState :=
  s.settle line.followsBlank >>= fun s =>
    match line.declaration with
    | .field _ _ _ => s.close
    | _ => .ok s

theorem contained_enter (s : ReadingState) (e : Entry) : Contained (s.enter e) := by
  cases e with
  | header h =>
    refine s.contained_close.bind fun s _ => ?_
    simp
  | constant c =>
    refine (s.group.contained_push c s.message).bind fun pushed _ => ?_
    simp
  | member f =>
    refine s.contained_close.bind fun s _ => ?_
    simp

theorem declare_eq_overflow {s : ReadingState} {line : SourceLine} :
    s.declare line = .error .overflow ↔
      (∃ s', (match line.declaration with
        | .field _ _ _ => s.close
        | _ => .ok s) = .ok s') ∧ line.Overflows s.message.package := by
  have located : ∀ {α : Type} {x : Except DefinitionError α},
      line.locate x = .error .overflow ↔ x = .error .overflow := by
    intro α x
    simp [SourceLine.locate]
  unfold SourceLine.Overflows
  cases declares : line.declaration with
  | enumeration name =>
    rw [declare_header declares]
    simp only [and_false,iff_false]
    exact s.contained_enter _
  | constant type name value =>
    rw [declare_constant declares,located,bind_eq_error,SourceLine.constant_eq_overflow]
    simp only [Except.ok.injEq,exists_eq',true_and]
    refine or_iff_left ?_
    rintro ⟨c,_,fails⟩
    exact s.contained_enter _ fails
  | field type name default =>
    rw [declare_field declares,bind_eq_error]
    simp only [located,bind_eq_error,pure_ne_error,and_false,exists_false,or_false,SourceLine.member_eq_overflow]
    -- The type is read in the package of the message, which ending the group leaves as it is.
    constructor
    · rintro (fails | ⟨s₁,closed,overflows⟩)
      · exact absurd fails s.contained_close
      · rw [close_keeps closed] at overflows
        exact ⟨⟨s₁,closed⟩,overflows⟩
    · rintro ⟨⟨s₁,closed⟩,overflows⟩
      refine .inr ⟨s₁,closed,?_⟩
      rw [close_keeps closed]
      exact overflows

/-- Reading a line overflows exactly if its value does. -/
theorem step_eq_overflow {s : ReadingState} {line : SourceLine} :
    s.step line = .error .overflow ↔
      ∃ s', s.arrive line = .ok s' ∧ line.Overflows s.message.package := by
  rw [step_eq,bind_eq_error]
  simp only [arrive,declare_eq_overflow,bind_eq_ok]
  constructor
  · rintro (fails | ⟨s₁,settled,⟨s₂,closed⟩,overflows⟩)
    · exact absurd fails (s.contained_settle _)
    · rw [settle_keeps settled] at overflows
      exact ⟨s₂,⟨s₁,settled,closed⟩,overflows⟩
  · rintro ⟨s₂,⟨s₁,settled,closed⟩,overflows⟩
    refine .inr ⟨s₁,settled,⟨s₂,closed⟩,?_⟩
    rw [settle_keeps settled]
    exact overflows

/-- Reading lines overflows exactly if it comes to a line whose value overflows. -/
theorem run_eq_overflow {lines : List (Except DefinitionError SourceLine)} {s : ReadingState}
    (contained : ∀ line ∈ lines, Contained line) :
    s.run lines = .error .overflow ↔
      ∃ before line after s' s'', lines = before ++ .ok line :: after ∧ s.run before = .ok s' ∧
        s'.arrive line = .ok s'' ∧ line.Overflows s.message.package := by
  induction lines generalizing s with
  | nil => simp [run]
  | cons first rest ih =>
    simp only [List.mem_cons,forall_eq_or_imp] at contained
    obtain ⟨here,later⟩ := contained
    cases first with
    | error e =>
      have other : Except.error e ≠ Except.error (α := SourceLine) DefinitionError.overflow := here
      simp only [run,ne_eq,Except.error.injEq] at other ⊢
      simp only [other,false_iff]
      rintro ⟨before,line,after,s',s'',split,ran,_⟩
      cases before with
      | nil => cases split
      | cons head before =>
        cases split
        cases ran
    | ok line =>
      rw [run,bind_eq_error,step_eq_overflow]
      constructor
      · rintro (⟨s',arrived,overflows⟩ | ⟨s₁,stepped,fails⟩)
        · exact ⟨[],line,rest,s,s',rfl,rfl,arrived,overflows⟩
        · obtain ⟨before,line',after,s',s'',rfl,ran,arrived,overflows⟩ := (ih later).mp fails
          obtain ⟨e,_,followed⟩ := step_eq_ok.mp stepped
          rw [follow_appends followed] at overflows
          exact ⟨.ok line :: before,line',after,s',s'',rfl,bind_eq_ok.mpr ⟨s₁,stepped,ran⟩,arrived,overflows⟩
      · rintro ⟨before,line',after,s',s'',split,ran,arrived,overflows⟩
        cases before with
        | nil =>
          cases split
          cases ran
          exact .inl ⟨s'',arrived,overflows⟩
        | cons head before =>
          cases split
          obtain ⟨s₁,stepped,ran⟩ := bind_eq_ok.mp ran
          obtain ⟨e,_,followed⟩ := step_eq_ok.mp stepped
          refine .inr ⟨s₁,stepped,(ih later).mpr ⟨before,line',after,s',s'',rfl,ran,arrived,?_⟩⟩
          rw [follow_appends followed]
          exact overflows

end ReadingState

theorem contained_lines (source : String) : ∀ line ∈ SourceLine.readAll source, Contained line := by
  have all : ∀ number blank lines, ∀ line ∈ SourceLine.readFrom number blank lines, Contained line := by
    intro number blank lines
    induction lines generalizing number blank with
    | nil => simp [SourceLine.readFrom]
    | cons text rest ih =>
      rw [SourceLine.readFrom]
      dsimp only
      split
      · exact ih _ _
      · split
        · exact ih _ _
        · simp only [List.mem_cons,forall_eq_or_imp]
          refine ⟨?_,ih _ _⟩
          have read := (Declaration.failsAs_read (Declaration.splitComment (Text.trim text)).1).contained
          split
          · simp
          · rename_i e fails
            intro overflow
            simp only [Except.error.injEq,DefinitionError.onLine_eq_overflow] at overflow
            exact read (overflow ▸ fails)
  exact all _ _ _

/-- Reading a definition overflows exactly if its names are good and reading comes to a line whose
    value overflows. -/
theorem Message.read_eq_overflow {package name source : String} :
    Message.read package name source = .error .overflow ↔
      isPackageName package = true ∧ isMessageName name = true ∧
        ∃ before line after s s', SourceLine.readAll source = before ++ .ok line :: after ∧
          ReadingState.run ⟨.idle,Message.start package name source⟩ before = .ok s ∧
          s.arrive line = .ok s' ∧ line.Overflows package := by
  have empty := (Message.failsAs_empty package name).contained
  unfold Message.read
  simp only [bind_eq_error,pure_ne_error,and_false,exists_false,or_false,Message.empty_eq_ok]
  constructor
  · rintro (fails | ⟨_,⟨package_ok,name_ok,rfl⟩,fails | ⟨s,_,fails⟩⟩)
    · exact absurd fails empty
    · exact ⟨package_ok,name_ok,(ReadingState.run_eq_overflow (contained_lines source)).mp fails⟩
    · exact absurd fails s.contained_close
  · rintro ⟨package_ok,name_ok,comes⟩
    exact .inr ⟨_,⟨package_ok,name_ok,rfl⟩,.inl ((ReadingState.run_eq_overflow (contained_lines source)).mpr comes)⟩

/-- What overflows in reading integers, constants, members and definitions: the texts that negate the
    least value, where they stand as the value of an integer and are come to, and nothing else. -/
theorem overflows_iff (text : List Char) (type : FieldType) (name : String) (default : Option (List Char))
    (package message source : String) :
    (readInteger text = .overflow ↔ NegatesLeast text) ∧
    (Field.constant type name text = .error .overflow ↔
      ∃ p bound, type = ⟨.primitive p bound,none⟩ ∧ p.isInteger = true ∧ isConstantName name = true ∧
        NegatesLeast (Text.trim text)) ∧
    (Field.member type name default = .error .overflow ↔
      isFieldName name = true ∧ ∃ value, default = some value ∧ DefaultValue.Overflows type value) ∧
    (Message.read package message source = .error .overflow ↔
      isPackageName package = true ∧ isMessageName message = true ∧
        ∃ before line after s s', SourceLine.readAll source = before ++ .ok line :: after ∧
          ReadingState.run ⟨.idle,Message.start package message source⟩ before = .ok s ∧
          s.arrive line = .ok s' ∧ line.Overflows package) :=
  ⟨readInteger_eq_overflow,Field.constant_eq_overflow,Field.member_eq_overflow,Message.read_eq_overflow⟩

/-- A minus sign in front of the least value in base sixteen. -/
theorem overflows_of_negated_least :
    let text := "-0x-80000000000000000000000000000000"
    readInteger text.toList = .overflow ∧
      Field.constant (.ofPrimitive .int64) "LEAST" text.toList = .error .overflow ∧
      Field.member (.ofPrimitive .int64) "least" (some text.toList) = .error .overflow ∧
      Message.read "test_msgs" "Least" ("int64 LEAST=" ++ text) = .error .overflow := by
  decide +kernel

end MsgBindings
