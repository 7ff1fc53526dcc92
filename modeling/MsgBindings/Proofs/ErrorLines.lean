import MsgBindings.Proofs.Failures
import MsgBindings.Proofs.Gathering

/-!
Where reading a definition fails. An error is on a line that declares something, with the number and the
text of that line (`error_of_line`): it is the line that is read, or the header or a constant of the block that
ends there. Only the names of the package and of the message are refused without a line. The lines that
errors may be on are a parameter of what is said about states (`place`).
-/
namespace MsgBindings

open SourceText DefinitionError

/-- An overflow, or an error on one of the lines that `place` holds of. -/
def DefinitionError.StopsAt (place : Nat → String → Prop) (e : DefinitionError) : Prop :=
  e = .overflow ∨ ∃ number text, place number text ∧ e.IsOn number text

section

variable {place : Nat → String → Prop} {α : Type} {x : Except DefinitionError α}

theorem stopsAt_of_isOn {number : Nat} {text : String} (inside : place number text)
    (fails : FailsAs (IsOn number text) x) : FailsAs (StopsAt place) x :=
  fails.mono fun _ isOn => .inr ⟨number,text,inside,isOn⟩

theorem SourceLine.locate_stopsAt {line : SourceLine} (inside : place line.number line.text)
    (free : FailsAs (fun e => e.line? = none) x) : FailsAs (StopsAt place) (line.locate x) := by
  refine failsAs_mapError.mpr (free.mono fun e free => ?_)
  rcases onLine_of_line?_eq_none free line.number line.text with overflow | isOn
  · exact .inl overflow
  · exact .inr ⟨line.number,line.text,inside,isOn⟩

namespace ConstantGroup

/-- A group whose header and constants are on the given lines. The lines of a run do not matter, since
    ending a run never fails. -/
def Within (place : Nat → String → Prop) : ConstantGroup → Prop
  | block h members => place h.line h.text ∧ ∀ c ∈ members, place c.constant.line c.text
  | run _ => True

theorem conflictError_isOn {members : List GroupedConstant} {i : Nat} (bound : i < members.length)
    (reason : EnumFault) :
    ∃ c ∈ members, (conflictError members i reason).IsOn c.constant.line c.text := by
  refine ⟨members[i],List.getElem_mem bound,?_⟩
  rw [conflictError,List.getElem?_eq_getElem bound]
  exact (isBare_enumeration reason).onLine _ _

theorem closeBlock_stopsAt {h : EnumHeader} {members : List GroupedConstant}
    (within : (block h members).Within place) (m : Message) : FailsAs (StopsAt place) (closeBlock h members m) := by
  obtain ⟨header,constants⟩ := within
  refine FailsAs.bind ?_ fun e made => ?_
  · exact stopsAt_of_isOn header (failsAs_onLine (Enumeration.failsAs_ofConstants _ _ _ _) _ _)
  · split
    · rename_i i reason found
      -- The positions of a block and of the values of its enumeration are the same.
      have same := (Enumeration.isOf_of_ofConstants (mapError_eq_ok.mp made)).values.length_eq
      rw [List.length_map] at same
      have bound : i < members.length := by
        rw [same]
        exact Enumeration.lt_of_conflict? found
      obtain ⟨c,member,isOn⟩ := conflictError_isOn bound reason
      exact failsAs_throw.mpr (.inr ⟨_,_,constants c member,isOn⟩)
    · exact stopsAt_of_isOn header (failsAs_onLine (m.failsAs_addEnumeration e) _ _)

/-- Ending a group fails on a line of the group. -/
theorem close_stopsAt {g : ConstantGroup} (isRun : g.IsRun) (within : g.Within place) (m : Message) :
    FailsAs (StopsAt place) (g.close m) := by
  cases g with
  | block h members => exact closeBlock_stopsAt within m
  | run members =>
    obtain ⟨m',closed⟩ := closeRun_ok isRun m
    rw [close,closed]
    exact failsAs_ok m'

/-- A constant is refused by the group that it would join, with an error of its own. -/
theorem failsAs_push {g : ConstantGroup} (isRun : g.IsRun) (c : GroupedConstant) (m : Message) :
    FailsAs IsBare (g.push c m) := by
  cases g with
  | block h members => exact failsAs_map.mpr (failsAs_extendBlock members c)
  | run members =>
    cases same : continues members c.constant with
    | true =>
      rw [push,pushRun_of_continues m same]
      exact failsAs_ok _
    | false =>
      obtain ⟨m',closed⟩ := closeRun_ok isRun m
      rw [push,pushRun_of_not_continues m same,closed]
      exact failsAs_ok _

end ConstantGroup

/-! ### What reading a line keeps -/

def Entry.Within (place : Nat → String → Prop) : Entry → Prop
  | header h => place h.line h.text
  | constant c => place c.constant.line c.text
  | member _ => True

theorem Entry.within_opened {e : Entry} (within : e.Within place) : (ConstantGroup.opened e).Within place := by
  cases e with
  | header h => exact ⟨within,by simp⟩
  | constant c => exact True.intro
  | member f => exact True.intro

theorem SourceLine.within_of_placedEntry {package : String} {line : SourceLine} {e : PlacedEntry}
    (inside : place line.number line.text) (read : line.placedEntry package = .ok e) : e.entry.Within place := by
  obtain ⟨blank,entry⟩ := e
  cases SourceLine.makes_of_placedEntry read with
  | header declares => exact inside
  | constant declares typed made => exact inside
  | member declares typed made => exact True.intro

namespace ReadingState

/-- A state whose group is on the given lines. -/
structure Within (place : Nat → String → Prop) (s : ReadingState) : Prop where
  isRun : s.group.IsRun
  group : s.group.Within place

theorem close_stopsAt {s : ReadingState} (within : s.Within place) : FailsAs (StopsAt place) s.close :=
  failsAs_map.mpr (ConstantGroup.close_stopsAt within.isRun within.group s.message)

theorem within_of_close {s s' : ReadingState} (closed : s.close = .ok s') : s'.Within place := by
  obtain ⟨_,idle⟩ := close_eq_ok.mp closed
  constructor
  · rw [idle]
    exact ConstantGroup.isRun_idle
  · rw [idle]
    exact True.intro

theorem settle_stopsAt {s : ReadingState} (within : s.Within place) (followsBlank : Bool) :
    FailsAs (StopsAt place) (s.settle followsBlank) := by
  cases followsBlank with
  | true => exact close_stopsAt within
  | false => exact failsAs_ok s

theorem within_of_settle {s s' : ReadingState} {followsBlank : Bool} (within : s.Within place)
    (settled : s.settle followsBlank = .ok s') : s'.Within place := by
  cases followsBlank with
  | true => exact within_of_close settled
  | false =>
    cases settled
    exact within

theorem declare_stopsAt {s : ReadingState} {line : SourceLine} (within : s.Within place)
    (inside : place line.number line.text) : FailsAs (StopsAt place) (s.declare line) := by
  cases declares : line.declaration with
  | enumeration name =>
    rw [declare_header declares]
    exact (close_stopsAt within).bind fun s' _ => failsAs_pure _
  | constant type name value =>
    rw [declare_constant declares]
    refine SourceLine.locate_stopsAt inside (FailsAs.bind ?_ fun c _ => ?_)
    · refine ((FieldType.failsAs_read _ type).mono fun _ bare => bare.1).bind fun type _ => ?_
      exact (Field.failsAs_constant type name _).bind fun c _ => failsAs_pure _
    · refine ((ConstantGroup.failsAs_push within.isRun _ _).mono fun _ bare => bare.1).bind fun pushed _ => ?_
      exact failsAs_pure _
  | field type name default =>
    rw [declare_field declares]
    refine (close_stopsAt within).bind fun s' _ => SourceLine.locate_stopsAt inside (FailsAs.bind ?_ fun f _ => ?_)
    · refine ((FieldType.failsAs_read _ type).mono fun _ bare => bare.1).bind fun type _ => ?_
      exact (Field.failsAs_member type name _).bind fun f _ => failsAs_pure _
    · exact failsAs_pure _

/-- Reading a line fails on that line or on one of the group that ends there. -/
theorem step_stopsAt {s : ReadingState} {line : SourceLine} (within : s.Within place)
    (inside : place line.number line.text) : FailsAs (StopsAt place) (s.step line) := by
  rw [step_eq]
  exact (settle_stopsAt within _).bind fun s' settled => declare_stopsAt (within_of_settle within settled) inside

/-- Reading a line leaves a state whose group is on the lines read. -/
theorem within_of_step {s s' : ReadingState} {line : SourceLine} (within : s.Within place)
    (inside : place line.number line.text) (stepped : s.step line = .ok s') : s'.Within place := by
  obtain ⟨e,read,followed⟩ := step_eq_ok.mp stepped
  have wellRead := wellRead_of_placedEntry read
  have entry := SourceLine.within_of_placedEntry inside read
  cases on : PlacedEntry.goesOn s.group.alike e with
  | true =>
    obtain ⟨c,constant,grown,isRun,_⟩ := ConstantGroup.follow_of_goesOn within.isRun wellRead on followed
    refine ⟨isRun,?_⟩
    rw [constant] at entry
    rw [grown]
    have group := within.group
    cases kind : s.group with
    | run members => exact True.intro
    | block h members =>
      rw [kind] at group
      refine ⟨group.1,fun d member => ?_⟩
      rcases List.mem_append.mp member with old | new
      · exact group.2 d old
      · obtain rfl := List.mem_singleton.mp new
        exact entry
  | false =>
    obtain ⟨_,_,opened,_⟩ := ConstantGroup.follow_of_stop within.isRun wellRead on followed
    constructor
    · rw [opened]
      exact ConstantGroup.isRun_opened wellRead
    · rw [opened]
      exact Entry.within_opened entry

/-- A line that can be read is on a given line, and the error of one that cannot is on one. -/
def ReadWithin (place : Nat → String → Prop) : Except DefinitionError SourceLine → Prop
  | .ok line => place line.number line.text
  | .error e => e.StopsAt place

/-- Reading lines fails on one of them, and leaves a state whose group is on them. -/
theorem run_stopsAt {lines : List (Except DefinitionError SourceLine)} {s : ReadingState}
    (within : s.Within place) (inside : ∀ line ∈ lines, ReadWithin place line) :
    FailsAs (StopsAt place) (s.run lines) ∧ ∀ s', s.run lines = .ok s' → s'.Within place := by
  induction lines generalizing s with
  | nil =>
    refine ⟨failsAs_ok s,fun s' ran => ?_⟩
    cases ran
    exact within
  | cons line rest ih =>
    simp only [List.mem_cons,forall_eq_or_imp] at inside
    obtain ⟨here,later⟩ := inside
    cases line with
    | error e => exact ⟨failsAs_error.mpr here,nofun⟩
    | ok line =>
      rw [run]
      constructor
      · exact (step_stopsAt within here).bind fun s₁ stepped => (ih (within_of_step within here stepped) later).1
      · intro s' ran
        obtain ⟨s₁,stepped,ran⟩ := bind_eq_ok.mp ran
        exact (ih (within_of_step within here stepped) later).2 s' ran

end ReadingState

end

/-! ### The lines of a definition -/

/-- The number and the text of a line of a definition that declares something. -/
def SourceText.IsPlace (source : String) (number : Nat) (text : String) : Prop :=
  ∃ line, (line,number) ∈ declaring source ∧ text = .ofList (Text.trim line)

theorem SourceText.readAll_within (source : String) :
    ∀ line ∈ SourceLine.readAll source, ReadingState.ReadWithin (IsPlace source) line := by
  intro result member
  obtain ⟨⟨line,number⟩,declared,here⟩ := exists_of_mem_right (readAll_lines source) member
  have inside : IsPlace source number (.ofList (Text.trim line)) := ⟨line,declared,rfl⟩
  unfold ReadsAs at here
  have bare := Declaration.failsAs_read (SourceText.declared line)
  cases read : Declaration.read (SourceText.declared line) with
  | ok declaration =>
    simp only [read] at here
    rw [here]
    exact inside
  | error e =>
    simp only [read] at here
    rw [here]
    exact .inr ⟨number,_,inside,(bare e read).onLine _ _⟩

theorem Message.empty_eq_error {package name : String} {e : DefinitionError} :
    Message.empty package name = .error e ↔
      isPackageName package = false ∧ e = .badName package .package ∨
        isPackageName package = true ∧ isMessageName name = false ∧ e = .badName name .message := by
  unfold Message.empty
  cases isPackageName package
  · simp [eq_comm (a := e)]
  · cases isMessageName name <;> simp [eq_comm (a := e)]

/-- Reading a definition with good names fails on one of its lines. -/
theorem Message.read_stopsAt {package name : String} (source : String) (package_ok : isPackageName package = true)
    (name_ok : isMessageName name = true) : FailsAs (StopsAt (IsPlace source)) (Message.read package name source) := by
  have start : ReadingState.Within (IsPlace source) ⟨.idle,Message.start package name source⟩ :=
    ⟨ConstantGroup.isRun_idle,True.intro⟩
  obtain ⟨fails,within⟩ := ReadingState.run_stopsAt start (readAll_within source)
  unfold Message.read
  rw [Message.empty_eq_ok.mpr ⟨package_ok,name_ok,rfl⟩]
  refine FailsAs.bind (failsAs_ok _) fun m started => ?_
  cases started
  refine FailsAs.bind fails fun s ran => ?_
  exact (ReadingState.close_stopsAt (within s ran)).bind fun s' _ => failsAs_pure _

/-- An error of reading a definition with good names is on a line that declares something, with the number
    and the text of that line, and its cause is on no line. An error without a line is that of a name. An
    overflow is no error that reading returns. -/
theorem error_of_line {package name source : String} {e : DefinitionError}
    (fails : Message.read package name source = .error e) (returned : e ≠ .overflow) :
    (isPackageName package = true → isMessageName name = true →
      ∃ line number cause, (line,number) ∈ declaring source ∧
        e = .located number (.ofList (Text.trim line)) cause ∧ cause.IsBare) ∧
    (e.line? = none →
      isPackageName package = false ∧ e = .badName package .package ∨
        isPackageName package = true ∧ isMessageName name = false ∧ e = .badName name .message) := by
  have located : isPackageName package = true → isMessageName name = true →
      ∃ line number cause, (line,number) ∈ declaring source ∧
        e = .located number (.ofList (Text.trim line)) cause ∧ cause.IsBare := by
    intro package_ok name_ok
    obtain ⟨number,_,⟨line,declared,rfl⟩,cause,bare,located⟩ :=
      (Message.read_stopsAt source package_ok name_ok e fails).resolve_left returned
    exact ⟨line,number,cause,declared,located,bare⟩
  refine ⟨located,fun free => ?_⟩
  cases made : Message.empty package name with
  | error e' =>
    have same : e' = e := by
      rw [Message.read,made] at fails
      exact Except.error.inj fails
    exact Message.empty_eq_error.mp (same ▸ made)
  | ok m =>
    obtain ⟨package_ok,name_ok,_⟩ := Message.empty_eq_ok.mp made
    obtain ⟨_,_,_,_,rfl,_⟩ := located package_ok name_ok
    cases free

/-- A constant that repeats a number of its block, where the blank line below ends the block. -/
theorem error_of_repeated_number :
    let source := "# Modes.\n\n@enum Mode\nuint8 MODE_OFF=0\n# same again\n  uint8 MODE_IDLE=0 # idle\n\nint32 x\n"
    let e := DefinitionError.located 6 "uint8 MODE_IDLE=0 # idle"
      (.enumeration (.duplicateValue "MODE_IDLE" 0 "MODE_OFF" "Mode"))
    Message.read "test_msgs" "State" source = .error e ∧ e ≠ .overflow ∧
      (isPackageName "test_msgs" = true → isMessageName "State" = true →
        ∃ line number cause, (line,number) ∈ declaring source ∧
          e = .located number (.ofList (Text.trim line)) cause ∧ cause.IsBare) ∧
      (e.line? = none →
        isPackageName "test_msgs" = false ∧ e = .badName "test_msgs" .package ∨
          isPackageName "test_msgs" = true ∧ isMessageName "State" = false ∧ e = .badName "State" .message) := by
  intro source e
  have fails : Message.read "test_msgs" "State" source = .error e := by decide +kernel
  exact ⟨fails,nofun,error_of_line fails nofun⟩

end MsgBindings
