import MsgBindings.Proofs.FieldsOfLines
import MsgBindings.Proofs.JoinedDefinitions

/-!
How the blocks of a definition end. A block that reading comes to is a header and the constants on the lines below it
(`ReadingState.entries_of_isReached`), and its constants always have an enumeration that they make
(`EnumHeader.Gathers`). Where the block ends, the message gets that enumeration if it admits it; otherwise the
definition is refused with the first of the faults in `Message.Refuses`, each on its own line (`ending_of_block`).
-/
namespace MsgBindings

open SourceText

/-! ### The enumeration of a block -/

/-- The enumeration that a header and the constants below it make. -/
structure EnumHeader.Gathers (h : EnumHeader) (members : List GroupedConstant) (e : Enumeration) : Prop where
  name : e.name = h.name
  comment : e.comment = h.comment
  explicit : e.explicit = true
  whole : e.repr.isInteger = true
  typed : ∀ c ∈ members, c.constant.type.base.primitive? = some e.repr
  values : List.Forall₂ (fun c v => c.constant.enumValue? = some v) members e.values

namespace Message

/-- What an enumeration must be to become one of a message. -/
structure Admits (m : Message) (e : Enumeration) : Prop where
  named : isMessageName e.name = true
  filled : e.values ≠ []
  numbers : (e.values.map EnumValue.number).Nodup
  variants : e.variantNames.Nodup
  free : e.name ≠ m.name ∧ ∀ e' ∈ m.enumerations, e'.name ≠ e.name

/-- The line on which a block is refused, and the fault. The first fault that there is decides: the name of the
    enumeration, that there is no constant, the first constant that repeats a number or a variant, and last that the
    name is taken. -/
inductive Refuses (m : Message) (h : EnumHeader) (members : List GroupedConstant) (e : Enumeration) :
    Nat → String → EnumFault → Prop where
  | badName (bad : isMessageName e.name = false) : Refuses m h members e h.line h.text (.badName e.name)
  | empty (named : isMessageName e.name = true) (empty : e.values = []) :
      Refuses m h members e h.line h.text (.empty e.name)
  | repeated {i : Nat} {c : GroupedConstant} {fault : EnumFault} (named : isMessageName e.name = true)
      (here : members[i]? = some c) (repeats : Enumeration.RepeatsAt e.name (e.values.zip e.variantNames) i fault)
      (first : ∀ j < i, ∀ f, ¬ Enumeration.RepeatsAt e.name (e.values.zip e.variantNames) j f) :
      Refuses m h members e c.constant.line c.text fault
  | taken (named : isMessageName e.name = true) (filled : e.values ≠ [])
      (numbers : (e.values.map EnumValue.number).Nodup) (variants : e.variantNames.Nodup)
      (taken : e.name = m.name ∨ ∃ e' ∈ m.enumerations, e'.name = e.name) :
      Refuses m h members e h.line h.text (.nameTaken e.name m.name)

end Message

namespace ConstantGroup

variable {h : EnumHeader} {members : List GroupedConstant} {e : Enumeration}

theorem ofConstants_of_gathers (gathers : h.Gathers members e) (named : isMessageName h.name = true)
    (filled : members ≠ []) : Enumeration.ofConstants h.name (members.map (·.constant)) h.comment true = .ok e := by
  obtain ⟨name,repr,values,comment,explicit⟩ := e
  obtain ⟨rfl,rfl,rfl,whole,typed,each⟩ := gathers
  obtain ⟨c,cs,rfl⟩ := List.exists_cons_of_ne_nil filled
  have first : c.constant.type.base.primitive?.filter Primitive.isInteger = some repr :=
    Option.filter_eq_some_iff.mpr ⟨typed c List.mem_cons_self,whole⟩
  have made : ((c :: cs).map (·.constant)).mapM (Enumeration.valueOf h.name repr) = .ok values := by
    rw [mapM_eq_ok,List.forall₂_map_left_iff]
    refine (List.forall₂_and_left _ _).mpr ⟨fun c member => typed c member,each⟩ |>.imp fun c v both => ?_
    exact Enumeration.valueOf_eq_ok.mpr both
  simp only [Enumeration.ofConstants,named,↓reduceIte,List.map_cons,first]
  rw [List.map_cons] at made
  rw [made]
  rfl

theorem values_eq_nil_of_gathers (gathers : h.Gathers members e) : e.values = [] ↔ members = [] := by
  rw [← List.length_eq_zero_iff,← gathers.values.length_eq,List.length_eq_zero_iff]

theorem closeBlock_of_gathers (gathers : h.Gathers members e) (named : isMessageName e.name = true)
    (filled : e.values ≠ []) (m : Message) :
    closeBlock h members m =
      match e.conflict? with
      | some (i,fault) => .error (conflictError members i fault)
      | none => (m.addEnumeration e).mapError (DefinitionError.onLine h.line h.text) := by
  have some := mt (values_eq_nil_of_gathers gathers).mpr filled
  have made := ofConstants_of_gathers gathers (gathers.name ▸ named) some
  unfold closeBlock
  rw [made]
  rfl

/-- A block that the message admits becomes one of its enumerations. -/
theorem closeBlock_of_admits {m : Message} (gathers : h.Gathers members e) (admits : m.Admits e) :
    closeBlock h members m = .ok { m with enumerations := m.enumerations ++ [e] } := by
  have quiet := Enumeration.conflict?_eq_none.mpr ⟨admits.numbers,admits.variants⟩
  have added := Message.addEnumeration_eq_ok.mpr ⟨isFree_iff.mpr admits.free,rfl⟩
  rw [closeBlock_of_gathers gathers admits.named admits.filled,quiet]
  exact mapError_eq_ok.mpr added

/-- A block that the message does not admit is refused on one of its lines. -/
theorem closeBlock_of_not_admits {m : Message} (gathers : h.Gathers members e) (refused : ¬ m.Admits e) :
    ∃ line text fault, m.Refuses h members e line text fault ∧
      closeBlock h members m = .error (.located line text (.enumeration fault)) := by
  cases named : isMessageName e.name with
  | false =>
    refine ⟨_,_,_,.badName named,?_⟩
    rw [gathers.name] at named ⊢
    simp only [closeBlock,Enumeration.ofConstants,named]
    rfl
  | true =>
    by_cases filled : e.values = []
    · refine ⟨_,_,_,.empty named filled,?_⟩
      have none := (values_eq_nil_of_gathers gathers).mp filled
      rw [gathers.name] at named ⊢
      simp only [closeBlock,Enumeration.ofConstants,named,none]
      rfl
    · rw [closeBlock_of_gathers gathers named filled]
      cases conflict : e.conflict? with
      | some found =>
        obtain ⟨i,fault⟩ := found
        obtain ⟨repeats,first⟩ := Enumeration.repeatsAt_of_conflict? conflict
        have bound : i < members.length := by
          rw [gathers.values.length_eq]
          exact Enumeration.lt_of_conflict? conflict
        have here : members[i]? = some members[i] := List.getElem?_eq_getElem bound
        refine ⟨_,_,_,.repeated named here repeats first,?_⟩
        simp only [conflictError,here]
        rfl
      | none =>
        obtain ⟨numbers,variants⟩ := Enumeration.conflict?_eq_none.mp conflict
        have taken : ¬ (e.name ≠ m.name ∧ ∀ e' ∈ m.enumerations, e'.name ≠ e.name) := fun free =>
          refused ⟨named,filled,numbers,variants,free⟩
        have bad : m.isFree e.name = false := Bool.eq_false_iff.mpr (mt isFree_iff.mp taken)
        refine ⟨_,_,_,.taken named filled numbers variants ?_,?_⟩
        · exact (not_and_or.mp taken).imp not_not.mp fun other => by simpa using other
        · simp only [Message.addEnumeration,bad]
          rfl

end ConstantGroup

/-! ### The constants that a block takes -/

namespace ConstantGroup

/-- A constant that a block takes has an integer type, that of the constants before it. -/
theorem typed_of_extendBlock {members members' : List GroupedConstant} {c : GroupedConstant}
    (more : extendBlock members c = .ok members') :
    ∃ p, c.constant.type.base.primitive? = some p ∧ p.isInteger = true ∧
      ∀ first ∈ members.head?, first.constant.type.base.primitive? = some p := by
  unfold extendBlock at more
  dsimp only at more
  split at more
  · cases more
  · rename_i p typed
    obtain ⟨primitive,whole⟩ := Option.filter_eq_some_iff.mp typed
    refine ⟨p,primitive,whole,fun first head => ?_⟩
    split at more
    · cases head
    · obtain rfl := Option.some.inj head
      split at more
      · assumption
      · cases more

end ConstantGroup

/-- Entries that end with a header and constants below it without a blank line. The constants are integers of one
    type. -/
structure PlacedEntry.EndWith (es : List PlacedEntry) (h : EnumHeader) (members : List GroupedConstant) : Prop where
  entries : ∃ before blank, es = before ++ ⟨blank,.header h⟩ :: members.map fun c => ⟨false,.constant c⟩
  typed : ∃ p, p.isInteger = true ∧ ∀ c ∈ members, c.constant.type.base.primitive? = some p
  read : ∀ c ∈ members, WellRead c.constant

namespace PlacedEntry

variable {es : List PlacedEntry} {h : EnumHeader} {members : List GroupedConstant}

theorem endWith_header (es : List PlacedEntry) (blank : Bool) (h : EnumHeader) :
    EndWith (es ++ [⟨blank,.header h⟩]) h [] :=
  ⟨⟨es,blank,rfl⟩,⟨.uint8,rfl,List.forall_mem_nil _⟩,List.forall_mem_nil _⟩

theorem EndWith.concat {c : GroupedConstant} (ends : EndWith es h members) (read : WellRead c.constant)
    (more : ConstantGroup.extendBlock members c = .ok (members ++ [c])) :
    EndWith (es ++ [⟨false,.constant c⟩]) h (members ++ [c]) := by
  obtain ⟨⟨before,blank,rfl⟩,⟨p,whole,typed⟩,each⟩ := ends
  obtain ⟨q,own,whole',first⟩ := ConstantGroup.typed_of_extendBlock more
  refine ⟨⟨before,blank,by simp⟩,⟨q,whole',?_⟩,?_⟩
  · rw [List.forall_mem_append,List.forall_mem_singleton]
    refine ⟨fun d member => ?_,own⟩
    cases members with
    | nil => cases member
    | cons head rest =>
      rw [typed d member,← typed head List.mem_cons_self]
      exact first head rfl
  · rw [List.forall_mem_append,List.forall_mem_singleton]
    exact ⟨each,read⟩

/-- The constants of a block make an enumeration. -/
theorem EndWith.exists_gathers (ends : EndWith es h members) : ∃ e, h.Gathers members e := by
  obtain ⟨p,whole,typed⟩ := ends.typed
  have each : ∀ c ∈ members, ∃ v, c.constant.enumValue? = some v := by
    intro c member
    have integer : c.constant.integer?.isSome = true := by
      rw [(ends.read c member).2,typed c member]
      exact whole
    obtain ⟨n,number⟩ := Option.isSome_iff_exists.mp integer
    exact ⟨_,by rw [Field.enumValue?,number]; rfl⟩
  obtain ⟨values,pairs⟩ := exists_forall₂ each
  exact ⟨⟨h.name,p,values,h.comment,true⟩,rfl,rfl,rfl,whole,typed,pairs⟩

end PlacedEntry

/-! ### The blocks that reading comes to -/

namespace ReadingState

/-- What following entries keeps: the constants of a block are on the last lines, below its header. -/
structure Follows (es : List PlacedEntry) (s : ReadingState) : Prop where
  isRun : s.group.IsRun
  block : ∀ h members, s.group = .block h members → PlacedEntry.EndWith es h members

theorem follow_constant_of_block {h : EnumHeader} {members : List GroupedConstant} {m : Message}
    {c : GroupedConstant} {s' : ReadingState} (followed : follow ⟨.block h members,m⟩ ⟨false,.constant c⟩ = .ok s') :
    ConstantGroup.extendBlock members c = .ok (members ++ [c]) := by
  obtain ⟨_,settled,entered⟩ := bind_eq_ok.mp followed
  cases settled
  obtain ⟨pushed,push,_⟩ := bind_eq_ok.mp entered
  obtain ⟨members',more,_⟩ := map_eq_ok.mp push
  rw [more,ConstantGroup.extendBlock_eq_ok more]

theorem Follows.follow {es : List PlacedEntry} {s s' : ReadingState} {e : PlacedEntry} (follows : Follows es s)
    (read : e.entry.WellRead) (followed : s.follow e = .ok s') : Follows (es ++ [e]) s' := by
  obtain ⟨g,m⟩ := s
  cases on : PlacedEntry.goesOn g.alike e with
  | true =>
    obtain ⟨c,constant,grown,isRun,_⟩ := ConstantGroup.follow_of_goesOn follows.isRun read on followed
    refine ⟨isRun,fun h members block => ?_⟩
    rw [grown] at block
    cases g with
    | run members => cases block
    | block h₀ members₀ =>
      cases block
      obtain ⟨blank,entry⟩ := e
      subst constant
      obtain rfl : blank = false := by simpa [PlacedEntry.goesOn,ConstantGroup.alike] using on
      exact (follows.block h members₀ rfl).concat read (follow_constant_of_block followed)
  | false =>
    obtain ⟨_,_,opened,_⟩ := ConstantGroup.follow_of_stop follows.isRun read on followed
    refine ⟨opened ▸ ConstantGroup.isRun_opened read,fun h members block => ?_⟩
    rw [opened] at block
    obtain ⟨blank,entry⟩ := e
    cases entry with
    | header h₀ =>
      cases block
      exact PlacedEntry.endWith_header es blank h
    | constant c => cases block
    | member f => cases block

theorem Follows.followAll {es more : List PlacedEntry} {s s' : ReadingState} (follows : Follows es s)
    (read : ∀ e ∈ more, e.entry.WellRead) (followed : more.foldlM ReadingState.follow s = .ok s') :
    Follows (es ++ more) s' := by
  induction more generalizing es s with
  | nil =>
    obtain rfl := pure_eq_ok.mp followed
    rwa [List.append_nil]
  | cons e more ih =>
    rw [List.forall_mem_cons] at read
    rw [List.foldlM_cons] at followed
    obtain ⟨s₁,first,rest⟩ := bind_eq_ok.mp followed
    rw [← List.singleton_append,← List.append_assoc]
    exact ih (follows.follow read.1 first) read.2 rest

theorem follows_start (m : Message) : Follows [] ⟨.idle,m⟩ := ⟨ConstantGroup.isRun_idle,nofun⟩

/-- A state that reading a definition comes to, with the lines that are left. -/
structure IsReached (package name source : String) (s : ReadingState)
    (rest : List (Except DefinitionError SourceLine)) : Prop where
  package_ok : isPackageName package = true
  name_ok : isMessageName name = true
  ran : ∃ lines, SourceLine.readAll source = lines ++ rest ∧
    run ⟨.idle,Message.start package name source⟩ lines = .ok s

variable {package name source : String} {s : ReadingState} {rest : List (Except DefinitionError SourceLine)}

theorem name_of_isReached (reached : s.IsReached package name source rest) : s.message.name = name := by
  obtain ⟨_,_,lines,_,ran⟩ := reached
  obtain ⟨es,_,followed⟩ := run_eq_ok.mp ran
  rw [followAll_appends followed]
  rfl

/-- The header and the constants of a block stand in the definition one below the other, in front of the lines that
    are left. -/
theorem entries_of_isReached {h : EnumHeader} {members : List GroupedConstant}
    (reached : s.IsReached package name source rest) (block : s.group = .block h members) :
    (∃ e, h.Gathers members e) ∧
    ∃ above lines below blank, declaring source = above ++ (lines ++ below) ∧
      List.Forall₂ (EntryOf package (Text.lines source.toList)) lines
        (⟨blank,.header h⟩ :: members.map fun c => ⟨false,.constant c⟩) ∧
      List.Forall₂ (ReadsAs (Text.lines source.toList)) below rest := by
  obtain ⟨first,split,ran⟩ := reached.ran
  obtain ⟨es,entries,followed⟩ := run_eq_ok.mp ran
  have ends := ((follows_start _).followAll (wellRead_of_entries entries) followed).block h members block
  refine ⟨ends.exists_gathers,?_⟩
  obtain ⟨before,blank,rfl⟩ := ends.entries
  have reads := readAll_lines source
  rw [split] at reads
  obtain ⟨front,below,parts,here,left⟩ := exists_of_forall₂_append reads
  obtain ⟨above,lines,rfl,_,own⟩ := exists_of_forall₂_append (entries_of_results here entries)
  exact ⟨above,lines,below,blank,by rw [parts,List.append_assoc],own,left⟩

/-- Reading a definition goes on from a state that it comes to. -/
theorem run_append {lines : List (Except DefinitionError SourceLine)} {s₀ : ReadingState}
    (ran : s₀.run lines = .ok s) (rest : List (Except DefinitionError SourceLine)) :
    s₀.run (lines ++ rest) = s.run rest := by
  induction lines generalizing s₀ with
  | nil =>
    cases ran
    rfl
  | cons line lines ih =>
    cases line with
    | error e => cases ran
    | ok line =>
      obtain ⟨s₁,stepped,ran⟩ := bind_eq_ok.mp ran
      rw [List.cons_append,run,stepped]
      exact ih ran

theorem read_of_isReached (reached : s.IsReached package name source rest) :
    Message.read package name source = (s.run rest >>= close).map ReadingState.message := by
  obtain ⟨package_ok,name_ok,lines,split,ran⟩ := reached
  unfold Message.read
  rw [Message.empty_eq_ok.mpr ⟨package_ok,name_ok,rfl⟩,split]
  show run ⟨.idle,Message.start package name source⟩ (lines ++ rest) >>= _ = _
  rw [run_append ran]
  cases s.run rest with
  | error e => rfl
  | ok s₁ => rfl

/-! ### The end of a block -/

/-- Whether reading lines begins with ending the group in front of them: at the end of the definition, at a line with
    a blank line above, at a header and at a member. -/
inductive EndsGroup : List (Except DefinitionError SourceLine) → Prop where
  | nothing : EndsGroup []
  | blank {line : SourceLine} {rest : List (Except DefinitionError SourceLine)} (above : line.followsBlank = true) :
      EndsGroup (.ok line :: rest)
  | header {line : SourceLine} {rest : List (Except DefinitionError SourceLine)} {name : String}
      (declares : line.declaration = .enumeration name) : EndsGroup (.ok line :: rest)
  | member {line : SourceLine} {rest : List (Except DefinitionError SourceLine)} {type name : String}
      {default : Option String} (declares : line.declaration = .field type name default) : EndsGroup (.ok line :: rest)

/-- There is nothing left to end where a group has ended. -/
theorem close_bind_close {α : Type} (s : ReadingState) (f : ReadingState → Except DefinitionError α) :
    (s.close >>= fun s' => s'.close >>= f) = s.close >>= f := by
  cases closed : s.close with
  | error e => rfl
  | ok s' =>
    show s'.close >>= f = f s'
    rw [close_of_idle (close_eq_ok.mp closed).2]
    rfl

theorem declare_of_no_constant {line : SourceLine} (s : ReadingState)
    (other : ∀ type name value, line.declaration ≠ .constant type name value) :
    s.declare line = s.close >>= fun s' => s'.declare line := by
  cases declares : line.declaration with
  | enumeration name =>
    simp only [declare_header declares,enter]
    exact (close_bind_close s _).symm
  | constant type name value => exact absurd declares (other type name value)
  | field type name default =>
    simp only [declare_field declares]
    exact (close_bind_close s _).symm

theorem step_of_blank {line : SourceLine} (s : ReadingState) (above : line.followsBlank = true) :
    s.step line = s.close >>= fun s' => s'.step line := by
  simp only [step_eq,settle,above,↓reduceIte]
  exact (close_bind_close s _).symm

theorem step_of_no_constant {line : SourceLine} (s : ReadingState)
    (other : ∀ type name value, line.declaration ≠ .constant type name value) :
    s.step line = s.close >>= fun s' => s'.step line := by
  cases above : line.followsBlank with
  | true => exact step_of_blank s above
  | false =>
    simp only [step_eq,settle,above,Bool.false_eq_true,↓reduceIte]
    exact declare_of_no_constant s other

/-- Where a group ends, reading goes on from the state after its end. -/
theorem run_of_endsGroup (ends : EndsGroup rest) (s : ReadingState) :
    (s.run rest >>= close) = s.close >>= fun s' => s'.run rest >>= close := by
  have onward : ∀ {line : SourceLine} {rest : List (Except DefinitionError SourceLine)},
      (s.step line = s.close >>= fun s' => s'.step line) →
        (s.run (.ok line :: rest) >>= close) = s.close >>= fun s' => s'.run (.ok line :: rest) >>= close := by
    intro line rest same
    simp only [run,same,bind_assoc]
  cases ends with
  | nothing =>
    have once := close_bind_close s pure
    simp only [bind_pure] at once
    exact once.symm
  | blank above => exact onward (step_of_blank s above)
  | header declares => exact onward (step_of_no_constant s fun _ _ _ same => by simp [declares] at same)
  | member declares => exact onward (step_of_no_constant s fun _ _ _ same => by simp [declares] at same)

end ReadingState

/-- Where a block ends that reading a definition comes to, the message gets the enumeration of its constants and
    reading goes on, if the message admits it. Otherwise the definition is refused on a line of the block. The header
    and the constants stand in the definition one below the other. -/
theorem ending_of_block {package name source : String} {s : ReadingState}
    {rest : List (Except DefinitionError SourceLine)} {h : EnumHeader} {members : List GroupedConstant}
    (reached : s.IsReached package name source rest) (block : s.group = .block h members)
    (ends : ReadingState.EndsGroup rest) :
    s.message.name = name ∧
    (∃ above lines below blank, declaring source = above ++ (lines ++ below) ∧
      List.Forall₂ (EntryOf package (Text.lines source.toList)) lines
        (⟨blank,.header h⟩ :: members.map fun c => ⟨false,.constant c⟩) ∧
      List.Forall₂ (ReadsAs (Text.lines source.toList)) below rest) ∧
    ∃ e, h.Gathers members e ∧
      (s.message.Admits e → ∃ s', s' = ⟨.idle,{ s.message with enumerations := s.message.enumerations ++ [e] }⟩ ∧
        s.close = .ok s' ∧
        Message.read package name source = (s'.run rest >>= ReadingState.close).map ReadingState.message) ∧
      (¬ s.message.Admits e → ∃ line text fault, s.message.Refuses h members e line text fault ∧
        Message.read package name source = .error (.located line text (.enumeration fault))) := by
  obtain ⟨⟨e,gathers⟩,placed⟩ := ReadingState.entries_of_isReached reached block
  have read := ReadingState.read_of_isReached reached
  rw [ReadingState.run_of_endsGroup ends] at read
  have closed : s.close = (ConstantGroup.closeBlock h members s.message).map fun m => ⟨.idle,m⟩ := by
    rw [ReadingState.close,block]
    rfl
  refine ⟨ReadingState.name_of_isReached reached,placed,e,gathers,fun admits => ?_,fun refused => ?_⟩
  · rw [ConstantGroup.closeBlock_of_admits gathers admits] at closed
    refine ⟨_,rfl,closed,?_⟩
    rw [read,closed]
    rfl
  · obtain ⟨line,text,fault,refuses,failed⟩ := ConstantGroup.closeBlock_of_not_admits gathers refused
    rw [failed] at closed
    refine ⟨line,text,fault,refuses,?_⟩
    rw [read,closed]
    rfl

/-- A block whose second constant has the variant of the first one, below another block and above a member. -/
theorem ending_of_repeated_variant :
    let source := "@enum Level\nuint8 LEVEL_LOW=0\n\n" ++
      "@enum Cell # cells\nuint8 CELL_A_1=0\nuint8 CELL_A1=1 # same\n\nint32 x\n"
    let low : Field := ⟨"LEVEL_LOW",⟨.primitive .uint8 none,none⟩,.constant (.integer 0),none,2⟩
    let first : Field := ⟨"CELL_A_1",⟨.primitive .uint8 none,none⟩,.constant (.integer 0),none,5⟩
    let second : Field := ⟨"CELL_A1",⟨.primitive .uint8 none,none⟩,.constant (.integer 1),some "same",6⟩
    let h : EnumHeader := ⟨"Cell",some "cells",4,"@enum Cell # cells"⟩
    let members : List GroupedConstant := [⟨first,"uint8 CELL_A_1=0"⟩,⟨second,"uint8 CELL_A1=1 # same"⟩]
    let m : Message := ⟨"test_msgs","State","",[low,first,second],
      [⟨"Level",.uint8,[⟨"LEVEL_LOW",0,none⟩],none,true⟩]⟩
    let rest : List (Except DefinitionError SourceLine) := [.ok ⟨8,"int32 x",.field "int32" "x" none,none,true⟩]
    ReadingState.IsReached "test_msgs" "State" source ⟨.block h members,m⟩ rest ∧ ReadingState.EndsGroup rest ∧
      ∃ e, h.Gathers members e ∧ ¬ m.Admits e ∧
        m.Refuses h members e 6 "uint8 CELL_A1=1 # same" (.sameVariant "CELL_A_1" "CELL_A1" "A1" "Cell") ∧
        Message.read "test_msgs" "State" source = .error
          (.located 6 "uint8 CELL_A1=1 # same" (.enumeration (.sameVariant "CELL_A_1" "CELL_A1" "A1" "Cell"))) := by
  intro source low first second h members m rest
  have reached : ReadingState.IsReached "test_msgs" "State" source ⟨.block h members,m⟩ rest :=
    ⟨by decide,by decide,(SourceLine.readAll source).take 5,by decide +kernel,by decide +kernel⟩
  have ends : ReadingState.EndsGroup rest := .blank rfl
  have read : Message.read "test_msgs" "State" source = .error
      (.located 6 "uint8 CELL_A1=1 # same" (.enumeration (.sameVariant "CELL_A_1" "CELL_A1" "A1" "Cell"))) := by
    decide +kernel
  obtain ⟨_,_,e,gathers,_,refused⟩ := ending_of_block reached rfl ends
  have variants : e.variantNames = ["A1","A1"] := by
    rw [Enumeration.variantNames,← filterMap_of_forall₂ gathers.values]
    decide
  have not : ¬ m.Admits e := fun admits => by
    have apart := admits.variants
    rw [variants] at apart
    exact absurd apart (by decide)
  obtain ⟨line,text,fault,refuses,failed⟩ := refused not
  obtain ⟨rfl,rfl,rfl⟩ : 6 = line ∧ "uint8 CELL_A1=1 # same" = text ∧ _ = fault := by
    simpa using read.symm.trans failed
  exact ⟨reached,ends,e,gathers,not,refuses,read⟩

end MsgBindings
