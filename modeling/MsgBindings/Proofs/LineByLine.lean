import MsgBindings.Proofs.BareReading
import MsgBindings.Proofs.ErrorLines
import MsgBindings.Proofs.FieldsOfLines

/-!
Definitions without headers of enumerations. Such a definition is read line by line (`Message.fields_of_read`): what a
line makes does not depend on the others, and gathering constants into enumerations cannot fail. So the definition is
read exactly if every line is good by itself, and otherwise the first line that is not decides the error
(`Message.read_line_by_line`).
-/
namespace MsgBindings

open SourceText

/-- The field that a declaration makes in a package. The header of an enumeration makes none. -/
def Declaration.field? (package : String) : Declaration → Except DefinitionError (Option Field)
  | .enumeration _ => .ok none
  | .constant type name value => do
    let type ← FieldType.read (some package) type
    return some (← Field.constant type name value.toList)
  | .field type name default => do
    let type ← FieldType.read (some package) type
    return some (← Field.member type name (default.map String.toList))

namespace SourceText

/-- What a line with a number declares by itself: its field, with the comment and the number of the line. -/
def fieldOf? (package : String) (line : List Char × Nat) : Except DefinitionError (Option Field) := do
  let declaration ← Declaration.read (declared line.1)
  let field ← declaration.field? package
  return field.map fun f => f.declaredAt (comment? line.1) line.2

/-- Whether a line is a good declaration of a field by itself. -/
def DeclaresField (package : String) (line : List Char × Nat) : Prop := ∃ f, fieldOf? package line = .ok (some f)

/-- An error that arose on a line. -/
def onLine (line : List Char × Nat) (e : DefinitionError) : DefinitionError :=
  e.onLine line.2 (.ofList (Text.trim line.1))

end SourceText

/-! ### Lines by themselves -/

/-- The field of the entry of a line is what its declaration makes, where errors say on which line they arose. -/
theorem SourceLine.field_of_placedEntry (package : String) (line : SourceLine) :
    (line.placedEntry package).map (fun e => e.entry.field?) =
      line.locate
        ((line.declaration.field? package).map (Option.map fun f => f.declaredAt line.comment line.number)) := by
  unfold placedEntry entry locate
  cases line.declaration with
  | enumeration name => rfl
  | constant type name value =>
    simp only [constant,Declaration.field?]
    cases FieldType.read (some package) type with
    | error e => rfl
    | ok type =>
      cases made : Field.constant type name value.toList <;> simp [bind,Except.bind,made] <;> rfl
  | field type name default =>
    simp only [member,Declaration.field?]
    cases FieldType.read (some package) type with
    | error e => rfl
    | ok type =>
      cases made : Field.member type name (default.map String.toList) <;> simp [bind,Except.bind,made] <;> rfl

/-- Reading the entry of a line is reading what the line declares by itself, but that errors say where they arose. -/
theorem field_of_reading {package : String} {lines : List (List Char)} {line : List Char × Nat}
    {result : Except DefinitionError SourceLine} (reads : ReadsAs lines line result) :
    (result >>= SourceLine.placedEntry package).map (fun e => e.entry.field?) =
      (fieldOf? package line).mapError (onLine line) := by
  unfold ReadsAs at reads
  unfold fieldOf?
  cases declares : Declaration.read (declared line.1) with
  | error e =>
    simp only [declares] at reads
    subst reads
    rfl
  | ok d =>
    simp only [declares] at reads
    subst reads
    refine (SourceLine.field_of_placedEntry package _).trans ?_
    show SourceLine.locate _ ((d.field? package).map _) = _
    cases made : d.field? package <;> simp [bind,Except.bind,made] <;> rfl

theorem fields_of_readAll (package source : String) :
    (PlacedEntry.readAll package source).map (List.map fun e => e.entry.field?) =
      (declaring source).mapM fun line => (fieldOf? package line).mapError (onLine line) := by
  unfold PlacedEntry.readAll
  have reads := readAll_lines source
  generalize declaring source = lines at reads
  generalize SourceLine.readAll source = results at reads
  induction reads with
  | nil => rfl
  | cons first _ ih =>
    rw [List.mapM_cons,List.mapM_cons,← field_of_reading first,← ih]
    refine map_bind_of fun e => ?_
    exact map_bind_of fun es => rfl

/-! ### Outside of blocks -/

/-- The constants of a run have a key in common, and the group is no block. -/
def ConstantGroup.IsOpenRun : ConstantGroup → Prop
  | block _ _ => False
  | run members => (run members).IsRun

namespace ConstantGroup

variable {g : ConstantGroup}

theorem IsOpenRun.isRun (outside : g.IsOpenRun) : g.IsRun := by
  cases g with
  | block h members => exact outside.elim
  | run members => exact outside

/-- Outside of a block ending a group never fails. -/
theorem close_ok (outside : g.IsOpenRun) (m : Message) : ∃ m', g.close m = .ok m' := by
  cases g with
  | block h members => exact outside.elim
  | run members => exact closeRun_ok outside m

/-- Outside of a block any constant can follow. -/
theorem push_ok (outside : g.IsOpenRun) (c : GroupedConstant) (m : Message) : ∃ pushed, g.push c m = .ok pushed := by
  cases g with
  | block h members => exact outside.elim
  | run members =>
    cases same : continues members c.constant with
    | true =>
      rw [push,pushRun_of_continues m same]
      exact ⟨_,rfl⟩
    | false =>
      obtain ⟨m',closed⟩ := closeRun_ok outside m
      rw [push,pushRun_of_not_continues m same,closed]
      exact ⟨_,rfl⟩

end ConstantGroup

namespace ReadingState

variable {s s' : ReadingState} {line : SourceLine}

theorem close_ok (outside : s.group.IsOpenRun) :
    ∃ s', s.close = .ok s' ∧ s'.group = .idle ∧ s'.message.package = s.message.package := by
  obtain ⟨m,closed⟩ := ConstantGroup.close_ok outside s.message
  have ended : s.close = .ok ⟨.idle,m⟩ := close_eq_ok.mpr ⟨closed,rfl⟩
  exact ⟨_,ended,rfl,by rw [close_keeps ended]⟩

theorem settle_ok (outside : s.group.IsOpenRun) (followsBlank : Bool) :
    ∃ s', s.settle followsBlank = .ok s' ∧ s'.group.IsOpenRun ∧ s'.message.package = s.message.package := by
  cases followsBlank with
  | true =>
    obtain ⟨s',ended,idle,package⟩ := close_ok outside
    refine ⟨s',ended,?_,package⟩
    rw [idle]
    exact ConstantGroup.isRun_idle
  | false => exact ⟨s,rfl,outside,rfl⟩

/-- Outside of a block nothing but reading its own declaration makes a line fail. -/
theorem step_outcome (outside : s.group.IsOpenRun) (plain : ∀ name, line.declaration ≠ .enumeration name) :
    (s.step line).map (fun _ => ()) = (line.placedEntry s.message.package).map fun _ => () := by
  obtain ⟨s₁,settled,outside₁,package⟩ := settle_ok outside line.followsBlank
  rw [step_eq,settled,← package]
  show (s₁.declare line).map _ = _
  cases declares : line.declaration with
  | enumeration name => exact absurd declares (plain name)
  | constant type name value =>
    rw [declare_constant declares]
    simp only [SourceLine.placedEntry,SourceLine.entry,declares]
    cases line.constant s₁.message.package type name value with
    | error e => rfl
    | ok c =>
      obtain ⟨pushed,push⟩ := ConstantGroup.push_ok outside₁ ⟨c,line.text⟩ s₁.message
      have entered : s₁.enter (.constant ⟨c,line.text⟩) = .ok ⟨pushed.1,pushed.2.addField c⟩ := by
        rw [enter,push]
        rfl
      show (line.locate (s₁.enter (.constant ⟨c,line.text⟩))).map _ = _
      rw [entered]
      rfl
  | field type name default =>
    obtain ⟨s₂,ended,_,same⟩ := close_ok outside₁
    rw [declare_field declares,ended,← same]
    simp only [SourceLine.placedEntry,SourceLine.entry,declares]
    show (line.locate (line.member s₂.message.package type name default >>= _)).map _ = _
    cases line.member s₂.message.package type name default <;> rfl

/-- A line that is no header leaves a state outside of a block. -/
theorem isOpenRun_of_step (outside : s.group.IsOpenRun) (plain : ∀ name, line.declaration ≠ .enumeration name)
    (stepped : s.step line = .ok s') : s'.group.IsOpenRun ∧ s'.message.package = s.message.package := by
  obtain ⟨e,read,followed⟩ := step_eq_ok.mp stepped
  have wellRead := wellRead_of_placedEntry read
  refine ⟨?_,by rw [follow_appends followed]⟩
  cases on : PlacedEntry.goesOn s.group.alike e with
  | true =>
    obtain ⟨c,_,grown,isRun,_⟩ := ConstantGroup.follow_of_goesOn outside.isRun wellRead on followed
    rw [grown] at isRun ⊢
    cases kind : s.group with
    | block h members =>
      rw [kind] at outside
      exact outside.elim
    | run members =>
      rw [kind] at isRun
      exact isRun
  | false =>
    obtain ⟨_,_,opened,_⟩ := ConstantGroup.follow_of_stop outside.isRun wellRead on followed
    have isRun := ConstantGroup.isRun_opened wellRead
    rw [opened]
    obtain ⟨_,entry⟩ := e
    cases SourceLine.makes_of_placedEntry read with
    | header declares => exact absurd declares (plain _)
    | constant declares typed made => exact isRun
    | member declares typed made => exact isRun

/-- Lines without a header are read exactly if each of them is, and the first one that is not decides the error. -/
theorem run_outcome {lines : List (Except DefinitionError SourceLine)} (outside : s.group.IsOpenRun)
    (plain : ∀ line, .ok line ∈ lines → ∀ name, line.declaration ≠ .enumeration name) :
    (s.run lines).map (fun _ => ()) =
        (lines.mapM fun line => line >>= SourceLine.placedEntry s.message.package).map (fun _ => ()) ∧
      ∀ s', s.run lines = .ok s' → s'.group.IsOpenRun := by
  induction lines generalizing s with
  | nil =>
    refine ⟨rfl,fun s' ran => ?_⟩
    cases ran
    exact outside
  | cons line rest ih =>
    cases line with
    | error e =>
      refine ⟨rfl,fun s' ran => ?_⟩
      cases ran
    | ok line =>
      have here := plain line (by simp)
      have outcome := step_outcome outside here
      rw [run,List.mapM_cons]
      cases stepped : s.step line with
      | error e =>
        rw [stepped] at outcome
        have fails : line.placedEntry s.message.package = .error e := map_eq_error.mp outcome.symm
        constructor
        · show _ = Except.map _ (line.placedEntry s.message.package >>= _)
          rw [fails]
          rfl
        · intro s' ran
          cases ran
      | ok s₁ =>
        rw [stepped] at outcome
        obtain ⟨e,read,_⟩ := map_eq_ok.mp outcome.symm
        obtain ⟨outside₁,package⟩ := isOpenRun_of_step outside here stepped
        obtain ⟨same,kept⟩ := ih outside₁ fun line member => plain line (List.mem_cons_of_mem _ member)
        refine ⟨?_,kept⟩
        show (s₁.run rest).map _ = Except.map _ (line.placedEntry s.message.package >>= _)
        rw [same,read,package]
        show _ = Except.map _ (_ >>= _)
        cases rest.mapM fun line => line >>= SourceLine.placedEntry s.message.package <;> rfl

end ReadingState

/-! ### Whole definitions -/

theorem SourceText.not_header_of_readAll {source : String}
    (plain : ∀ line ∈ declaring source, isHeader line.1 = false) :
    ∀ line, .ok line ∈ SourceLine.readAll source → ∀ name, line.declaration ≠ .enumeration name := by
  intro line member name declares
  obtain ⟨text,inside,reads⟩ := exists_of_mem_right (readAll_lines source) member
  unfold ReadsAs at reads
  cases read : Declaration.read (declared text.1) with
  | error e => simp [read] at reads
  | ok d =>
    simp only [read] at reads
    cases reads
    have header := (isHeader_iff read).mpr ⟨name,declares⟩
    rw [plain text inside] at header
    cases header

/-- The outcome of reading a definition without headers is that of its entries. -/
theorem Message.read_outcome {package name source : String} (package_ok : isPackageName package = true)
    (name_ok : isMessageName name = true) (plain : ∀ line ∈ declaring source, isHeader line.1 = false) :
    (Message.read package name source).map (fun _ => ()) = (PlacedEntry.readAll package source).map fun _ => () := by
  obtain ⟨same,kept⟩ := ReadingState.run_outcome (s := ⟨.idle,Message.start package name source⟩)
    ConstantGroup.isRun_idle (not_header_of_readAll plain)
  refine Eq.trans ?_ same
  unfold Message.read
  rw [Message.empty_eq_ok.mpr ⟨package_ok,name_ok,rfl⟩]
  show Except.map _ (ReadingState.run ⟨.idle,Message.start package name source⟩ _ >>= _) = _
  cases ran : ReadingState.run ⟨.idle,Message.start package name source⟩ (SourceLine.readAll source) with
  | error e => rfl
  | ok s =>
    obtain ⟨s',closed,_⟩ := ReadingState.close_ok (kept s ran)
    show Except.map _ (s.close >>= _) = _
    rw [closed]
    rfl

/-- A definition without headers is read line by line: its fields are what its lines declare by themselves, and the
first line that declares nothing decides the error. -/
theorem Message.fields_of_read {package name source : String} (package_ok : isPackageName package = true)
    (name_ok : isMessageName name = true) (plain : ∀ line ∈ declaring source, isHeader line.1 = false) :
    (Message.read package name source).map (fun m => m.fields.map some) =
      (declaring source).mapM fun line => (fieldOf? package line).mapError (onLine line) := by
  rw [← fields_of_readAll]
  have outcome := Message.read_outcome package_ok name_ok plain
  cases read : Message.read package name source with
  | error e =>
    rw [read] at outcome
    rw [map_eq_error.mp outcome.symm]
    rfl
  | ok m =>
    obtain ⟨_,_,es,s,entries,followed,closed⟩ := Message.read_eq_ok.mp read
    rw [entries]
    refine congrArg Except.ok ?_
    show m.fields.map some = es.map fun e => e.entry.field?
    have each : ∀ e ∈ es, ∃ f, e.entry.field? = some f := by
      intro e member
      obtain ⟨line,inside,entry⟩ := exists_of_mem_right (entries_of_lines entries) member
      rcases field_of_entry entry with ⟨header,_⟩ | ⟨_,f,some,_⟩
      · rw [plain line inside] at header
        cases header
      · exact ⟨f,some⟩
    obtain ⟨fs,pairs⟩ := exists_forall₂ each
    rw [Message.fields_of_follow followed closed,filterMap_of_forall₂ pairs]
    exact (map_of_forall₂ pairs fun _ _ same => same).symm

theorem SourceText.not_header_of_declaresField {package : String} {line : List Char × Nat}
    (declares : DeclaresField package line) : isHeader line.1 = false := by
  obtain ⟨f,made⟩ := declares
  simp only [fieldOf?,bind_eq_ok,pure_eq_ok] at made
  obtain ⟨d,read,field?,made,some⟩ := made
  rw [← Bool.not_eq_true,isHeader_iff read]
  rintro ⟨name,rfl⟩
  cases made
  cases some

/-- Lines that declare fields by themselves make a message of these fields. -/
theorem Message.read_of_fieldLines {package name source : String} {fs : List Field}
    (package_ok : isPackageName package = true) (name_ok : isMessageName name = true)
    (lines : List.Forall₂ (fun line f => fieldOf? package line = .ok (some f)) (declaring source) fs) :
    ∃ m, Message.read package name source = .ok m ∧ m.fields = fs := by
  have plain : ∀ line ∈ declaring source, isHeader line.1 = false := by
    intro line member
    obtain ⟨f,_,made⟩ := exists_of_mem_right lines.flip member
    exact not_header_of_declaresField ⟨f,made⟩
  have fields := Message.fields_of_read package_ok name_ok plain
  have all : List.Forall₂ (fun line f? => (fieldOf? package line).mapError (onLine line) = .ok f?) (declaring source)
      (fs.map some) := by
    rw [List.forall₂_map_right_iff]
    exact lines.imp fun _ _ made => mapError_eq_ok.mpr made
  rw [mapM_eq_ok.mpr all,map_eq_ok] at fields
  obtain ⟨m,read,same⟩ := fields
  exact ⟨m,read,List.map_injective_iff.mpr (fun _ _ => Option.some.inj) same⟩

/-- The error of a line by itself is an overflow, or one that is put on the line. -/
theorem SourceText.onLine_of_fieldOf? {package : String} {line : List Char × Nat} {e : DefinitionError}
    (fails : fieldOf? package line = .error e) :
    onLine line e = if e = .overflow then .overflow else .located line.2 (.ofList (Text.trim line.1)) e := by
  have free : FailsAs (fun e => e.line? = none) (fieldOf? package line) := by
    refine ((Declaration.failsAs_read _).mono fun _ bare => bare.1).bind fun d _ => ?_
    refine FailsAs.bind ?_ fun f _ => failsAs_pure _
    cases d with
    | enumeration name => exact failsAs_ok _
    | constant type name value =>
      refine ((FieldType.failsAs_read _ type).mono fun _ bare => bare.1).bind fun type _ => ?_
      exact (Field.failsAs_constant type name _).bind fun c _ => failsAs_pure _
    | field type name default =>
      refine ((FieldType.failsAs_read _ type).mono fun _ bare => bare.1).bind fun type _ => ?_
      exact (Field.failsAs_member type name _).bind fun f _ => failsAs_pure _
  have here := free e fails
  cases e with
  | located number text cause => cases here
  | _ => rfl

theorem SourceText.declaresField_of_ok {package : String} {line : List Char × Nat} {field? : Option Field}
    (plain : isHeader line.1 = false) (made : fieldOf? package line = .ok field?) : DeclaresField package line := by
  cases field? with
  | some f => exact ⟨f,made⟩
  | none =>
    -- Only a header makes no field.
    exfalso
    simp only [fieldOf?,bind_eq_ok,pure_eq_ok,Option.map_eq_none_iff] at made
    obtain ⟨d,read,_,made,rfl⟩ := made
    cases d with
    | enumeration name =>
      rw [(isHeader_iff read).mpr ⟨name,rfl⟩] at plain
      cases plain
    | constant type name value =>
      simp only [Declaration.field?,bind_eq_ok,pure_eq_ok] at made
      obtain ⟨_,_,_,_,some⟩ := made
      cases some
    | field type name default =>
      simp only [Declaration.field?,bind_eq_ok,pure_eq_ok] at made
      obtain ⟨_,_,_,_,some⟩ := made
      cases some

/-- A definition without headers is read exactly if each of its lines declares a field by itself. Otherwise the
error is that of the first line that does not, on that line, unless an integer on it overflows. In particular
gathering constants into enumerations never makes a definition fail. -/
theorem Message.read_line_by_line {package name source : String} (package_ok : isPackageName package = true)
    (name_ok : isMessageName name = true) (plain : ∀ line ∈ declaring source, isHeader line.1 = false) :
    ((∃ m, Message.read package name source = .ok m) ↔ ∀ line ∈ declaring source, DeclaresField package line) ∧
      ((∃ line ∈ declaring source, ¬ DeclaresField package line) →
        ∃ before line number after e, declaring source = before ++ (line,number) :: after ∧
          (∀ earlier ∈ before, DeclaresField package earlier) ∧ fieldOf? package (line,number) = .error e ∧
          Message.read package name source =
            .error (if e = .overflow then .overflow else .located number (.ofList (Text.trim line)) e)) := by
  have fields := Message.fields_of_read package_ok name_ok plain
  have succeeds : (∃ m, Message.read package name source = .ok m) ↔
      ∀ line ∈ declaring source, DeclaresField package line := by
    constructor
    · rintro ⟨m,read⟩ line member
      rw [read] at fields
      obtain ⟨_,_,made⟩ := exists_of_mem_right (mapM_eq_ok.mp fields.symm).flip member
      exact declaresField_of_ok (plain line member) (mapError_eq_ok.mp made)
    · intro each
      obtain ⟨fs,lines⟩ := exists_forall₂ each
      obtain ⟨m,read,_⟩ := Message.read_of_fieldLines package_ok name_ok lines
      exact ⟨m,read⟩
  refine ⟨succeeds,?_⟩
  rintro ⟨silent,member,declaresNothing⟩
  cases read : Message.read package name source with
  | ok m => exact absurd (succeeds.mp ⟨m,read⟩ silent member) declaresNothing
  | error e' =>
    rw [read] at fields
    obtain ⟨before,⟨line,number⟩,after,fs,split,earlier,fails⟩ := mapM_eq_error.mp fields.symm
    obtain ⟨e,error,rfl⟩ := mapError_eq_error.mp fails
    refine ⟨before,line,number,after,e,split,?_,error,?_⟩
    · intro l here
      obtain ⟨_,_,made⟩ := exists_of_mem_right (mapM_eq_ok.mp earlier).flip here
      exact declaresField_of_ok (plain l (by simp [split,here])) (mapError_eq_ok.mp made)
    · exact congrArg Except.error (onLine_of_fieldOf? error)

/-- Constants that clash in a run do no harm, but a line below them is no declaration. -/
theorem read_of_clash_and_bad_line :
    let source := "uint8 KIND_A=0\nuint8 KIND_B=0 # again\n\n# Next.\nint32 x\nbool y maybe\nint32 x y z\n"
    isPackageName "test_msgs" = true ∧ isMessageName "Clash" = true ∧
      (∀ line ∈ declaring source, isHeader line.1 = false) ∧
      ((∃ m, Message.read "test_msgs" "Clash" source = .ok m) ↔
        ∀ line ∈ declaring source, DeclaresField "test_msgs" line) ∧
      ((∃ line ∈ declaring source, ¬ DeclaresField "test_msgs" line) →
        ∃ before line number after e, declaring source = before ++ (line,number) :: after ∧
          (∀ earlier ∈ before, DeclaresField "test_msgs" earlier) ∧ fieldOf? "test_msgs" (line,number) = .error e ∧
          Message.read "test_msgs" "Clash" source =
            .error (if e = .overflow then .overflow else .located number (.ofList (Text.trim line)) e)) := by
  intro source
  have plain : ∀ line ∈ declaring source, isHeader line.1 = false := by decide +kernel
  exact ⟨by decide,by decide,plain,Message.read_line_by_line (by decide) (by decide) plain⟩

/-- The one line of a definition has an error by itself, and reading the definition overflows without saying where. -/
theorem read_of_overflowing_line :
    let source := "int64 LEAST=-0x-80000000000000000000000000000000\n"
    isPackageName "test_msgs" = true ∧ isMessageName "Least" = true ∧
      (∀ line ∈ declaring source, isHeader line.1 = false) ∧
      (∃ line ∈ declaring source, ¬ DeclaresField "test_msgs" line) ∧
      ¬ ∃ line number cause, (line,number) ∈ declaring source ∧
        Message.read "test_msgs" "Least" source = .error (.located number (.ofList (Text.trim line)) cause) := by
  intro source
  let line := "int64 LEAST=-0x-80000000000000000000000000000000".toList
  have lines : declaring source = [(line,1)] := by decide +kernel
  have read : Message.read "test_msgs" "Least" source = .error .overflow := by decide +kernel
  have fails : fieldOf? "test_msgs" (line,1) = .error .overflow := by decide +kernel
  refine ⟨by decide,by decide,by decide +kernel,⟨_,by rw [lines]; exact List.mem_singleton_self _,?_⟩,?_⟩
  · rintro ⟨f,made⟩
    rw [fails] at made
    cases made
  · rintro ⟨line,number,cause,_,located⟩
    rw [read] at located
    cases located

end MsgBindings
