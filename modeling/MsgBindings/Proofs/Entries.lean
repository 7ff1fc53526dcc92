import MsgBindings.Grouping
import MsgBindings.Proofs.Results

/-!
Reading a definition in two steps. What a line declares is read by itself (`SourceLine.entry`), and
the entries are then followed one after the other (`ReadingState.follow`). A definition is read
exactly if all of its lines are and their entries can be followed (`Message.read_eq_ok`).
-/
namespace MsgBindings

/-- What a line declares, with its type and its value read. -/
inductive Entry where
  | header (header : EnumHeader)
  | constant (constant : GroupedConstant)
  | member (field : Field)
  deriving DecidableEq, Repr

/-- An entry, and whether a blank line stands between it and the one before. -/
structure PlacedEntry where
  followsBlank : Bool
  entry : Entry
  deriving DecidableEq, Repr

def Entry.field? : Entry → Option Field
  | header _ => none
  | constant c => some c.constant
  | member f => some f

namespace SourceLine

def locate {α : Type} (line : SourceLine) (x : Except DefinitionError α) : Except DefinitionError α :=
  x.mapError (DefinitionError.onLine line.number line.text)

def constant (package : String) (line : SourceLine) (type name value : String) :
    Except DefinitionError Field := do
  let type ← FieldType.read (some package) type
  let constant ← Field.constant type name value.toList
  return constant.declaredAt line.comment line.number

def member (package : String) (line : SourceLine) (type name : String) (default : Option String) :
    Except DefinitionError Field := do
  let type ← FieldType.read (some package) type
  let field ← Field.member type name (default.map String.toList)
  return field.declaredAt line.comment line.number

/-- Reads what a line declares, by itself. -/
def entry (package : String) (line : SourceLine) : Except DefinitionError Entry :=
  line.locate <|
    match line.declaration with
    | .enumeration name => .ok (.header ⟨name,line.comment,line.number,line.text⟩)
    | .constant type name value =>
      (line.constant package type name value).map fun c => .constant ⟨c,line.text⟩
    | .field type name default => (line.member package type name default).map .member

def placedEntry (package : String) (line : SourceLine) : Except DefinitionError PlacedEntry :=
  (line.entry package).map fun e => ⟨line.followsBlank,e⟩

/-- What a line that is read makes: a header, or a constant or a member with the comment and the number of
    the line. -/
inductive Makes (package : String) (line : SourceLine) : Entry → Prop where
  | header {name : String} (declares : line.declaration = .enumeration name) :
      Makes package line (.header ⟨name,line.comment,line.number,line.text⟩)
  | constant {typeText name valueText : String} {type : FieldType} {c : Field}
      (declares : line.declaration = .constant typeText name valueText)
      (typed : FieldType.read (some package) typeText = .ok type)
      (made : Field.constant type name valueText.toList = .ok c) :
      Makes package line (.constant ⟨c.declaredAt line.comment line.number,line.text⟩)
  | member {typeText name : String} {defaultText : Option String} {type : FieldType} {f : Field}
      (declares : line.declaration = .field typeText name defaultText)
      (typed : FieldType.read (some package) typeText = .ok type)
      (made : Field.member type name (defaultText.map String.toList) = .ok f) :
      Makes package line (.member (f.declaredAt line.comment line.number))

theorem makes_of_entry {package : String} {line : SourceLine} {e : Entry} (read : line.entry package = .ok e) :
    line.Makes package e := by
  rw [entry,locate,mapError_eq_ok] at read
  cases declares : line.declaration with
  | enumeration name =>
    rw [declares] at read
    cases read
    exact .header declares
  | constant typeText name valueText =>
    simp only [declares,map_eq_ok,SourceLine.constant,bind_eq_ok,pure_eq_ok] at read
    obtain ⟨_,⟨type,typed,c,made,rfl⟩,rfl⟩ := read
    exact .constant declares typed made
  | field typeText name defaultText =>
    simp only [declares,map_eq_ok,SourceLine.member,bind_eq_ok,pure_eq_ok] at read
    obtain ⟨_,⟨type,typed,f,made,rfl⟩,rfl⟩ := read
    exact .member declares typed made

theorem entry_of_makes {package : String} {line : SourceLine} {e : Entry} (makes : line.Makes package e) :
    line.entry package = .ok e := by
  unfold entry locate
  rw [mapError_eq_ok]
  cases makes with
  | header declares => simp only [declares]
  | constant declares typed made =>
    simp only [declares,map_eq_ok]
    exact ⟨_,bind_eq_ok.mpr ⟨_,typed,bind_eq_ok.mpr ⟨_,made,rfl⟩⟩,rfl⟩
  | member declares typed made =>
    simp only [declares,map_eq_ok]
    exact ⟨_,bind_eq_ok.mpr ⟨_,typed,bind_eq_ok.mpr ⟨_,made,rfl⟩⟩,rfl⟩

theorem makes_of_placedEntry {package : String} {line : SourceLine} {e : PlacedEntry}
    (read : line.placedEntry package = .ok e) : line.Makes package e.entry := by
  obtain ⟨entry,entryRead,rfl⟩ := map_eq_ok.mp read
  exact makes_of_entry entryRead

end SourceLine

/-- The entries of a definition, if every line can be read. -/
def PlacedEntry.readAll (package source : String) : Except DefinitionError (List PlacedEntry) :=
  (SourceLine.readAll source).mapM fun line => line >>= SourceLine.placedEntry package

namespace ReadingState

def enter (s : ReadingState) : Entry → Except DefinitionError ReadingState
  | .header h => do return { ← s.close with group := .block h [] }
  | .constant c => do
    let (group, m) ← s.group.push c s.message
    return ⟨group,m.addField c.constant⟩
  | .member f => do
    let s ← s.close
    return { s with message := s.message.addField f }

/-- The state in front of a declaration: a blank line above it closes the group. -/
def settle (s : ReadingState) (followsBlank : Bool) : Except DefinitionError ReadingState :=
  if followsBlank then s.close else .ok s

def follow (s : ReadingState) (e : PlacedEntry) : Except DefinitionError ReadingState :=
  s.settle e.followsBlank >>= fun s => s.enter e.entry

end ReadingState

/-! ### What stays as it is when groups end -/

namespace Message

theorem addEnumeration_eq_ok {m m' : Message} {e : Enumeration} :
    m.addEnumeration e = .ok m' ↔
      m.isFree e.name = true ∧ m' = { m with enumerations := m.enumerations ++ [e] } := by
  unfold addEnumeration
  split
  case isTrue free => simp [free,eq_comm (a := m')]
  case isFalse taken => simp [taken]

end Message

namespace ConstantGroup

theorem closeBlock_eq_ok {h : EnumHeader} {members : List GroupedConstant} {m m' : Message} :
    closeBlock h members m = .ok m' ↔
      ∃ e, Enumeration.ofConstants h.name (members.map (·.constant)) h.comment true = .ok e ∧
        e.conflict? = none ∧ m.addEnumeration e = .ok m' := by
  unfold closeBlock
  simp only [bind_eq_ok,mapError_eq_ok]
  refine exists_congr fun e => and_congr_right fun _ => ?_
  cases e.conflict? <;> simp

def members : ConstantGroup → List GroupedConstant
  | block _ members => members
  | run members => members

/-- Ending a group leaves a message as it is, or adds an enumeration of the constants of the group that
    nothing speaks against. -/
theorem close_cases {g : ConstantGroup} {m m' : Message} (closed : g.close m = .ok m') :
    m' = m ∨ ∃ name comment explicit e,
      Enumeration.ofConstants name (g.members.map (·.constant)) comment explicit = .ok e ∧
        e.conflict? = none ∧ m.addEnumeration e = .ok m' := by
  cases g with
  | block h members =>
    obtain ⟨e,made,quiet,added⟩ := closeBlock_eq_ok.mp closed
    exact .inr ⟨_,_,_,e,made,quiet,added⟩
  | run members =>
    have same : Except.ok m = Except.ok (ε := DefinitionError) m' → m' = m := by
      rintro ⟨⟩
      rfl
    simp only [close,closeRun] at closed
    split at closed
    · exact .inl (same closed)
    · exact .inl (same closed)
    · split at closed
      · exact .inl (same closed)
      · split at closed
        · obtain ⟨e,made,ok⟩ := bind_eq_ok.mp closed
          split at ok
          · rename_i quiet
            exact .inr ⟨_,_,_,e,made,Option.isNone_iff_eq_none.mp quiet,ok⟩
          · exact .inl (same ok)
        · exact .inl (same closed)

/-- Ending a group changes nothing of a message but its enumerations. -/
theorem close_keeps {g : ConstantGroup} {m m' : Message} (closed : g.close m = .ok m') :
    m' = { m with enumerations := m'.enumerations } := by
  rcases close_cases closed with rfl | ⟨_,_,_,e,_,_,added⟩
  · rfl
  · obtain ⟨_,rfl⟩ := Message.addEnumeration_eq_ok.mp added
    rfl

/-- Ending a group takes no enumeration away. -/
theorem close_grows {g : ConstantGroup} {m m' : Message} (closed : g.close m = .ok m') :
    m.enumerations ⊆ m'.enumerations := by
  rcases close_cases closed with rfl | ⟨_,_,_,e,_,_,added⟩
  · exact List.Subset.refl _
  · rw [(Message.addEnumeration_eq_ok.mp added).2]
    exact List.subset_append_left _ _

theorem pushRun_of_continues {members : List GroupedConstant} {c : GroupedConstant} (m : Message)
    (same : continues members c.constant = true) :
    pushRun members c m = .ok (.run (if isGroupable c.constant then members ++ [c] else members),m) := by
  simp only [pushRun,same,↓reduceIte]
  rfl

theorem pushRun_of_not_continues {members : List GroupedConstant} {c : GroupedConstant} (m : Message)
    (other : continues members c.constant = false) :
    pushRun members c m =
      (closeRun members m).map fun m => (.run (if isGroupable c.constant then [c] else []),m) := by
  simp only [pushRun,other,Bool.false_eq_true,↓reduceIte]
  cases closeRun members m <;> rfl

/-- A constant leaves the message as it is, or the group that it ends is added to it. -/
theorem push_cases {g g' : ConstantGroup} {c : GroupedConstant} {m m' : Message}
    (pushed : g.push c m = .ok (g',m')) : m' = m ∨ g.close m = .ok m' := by
  cases g with
  | block h members =>
    simp only [push,map_eq_ok,Prod.mk.injEq] at pushed
    obtain ⟨_,_,_,rfl⟩ := pushed
    exact .inl rfl
  | run members =>
    simp only [push] at pushed
    cases same : continues members c.constant with
    | true =>
      rw [pushRun_of_continues m same] at pushed
      cases pushed
      exact .inl rfl
    | false =>
      rw [pushRun_of_not_continues m same] at pushed
      simp only [map_eq_ok,Prod.mk.injEq] at pushed
      obtain ⟨_,closed,_,rfl⟩ := pushed
      exact .inr closed

theorem push_keeps {g g' : ConstantGroup} {c : GroupedConstant} {m m' : Message}
    (pushed : g.push c m = .ok (g',m')) : m' = { m with enumerations := m'.enumerations } := by
  rcases push_cases pushed with rfl | closed
  · rfl
  · exact close_keeps closed

end ConstantGroup

namespace ReadingState

theorem close_eq_ok {s s' : ReadingState} :
    s.close = .ok s' ↔ s.group.close s.message = .ok s'.message ∧ s'.group = .idle := by
  cases s'
  simp [close,eq_comm,and_comm]

/-- Ending the group of a state changes nothing of its message but the enumerations. -/
theorem close_keeps {s s' : ReadingState} (closed : s.close = .ok s') :
    s'.message = { s.message with enumerations := s'.message.enumerations } :=
  ConstantGroup.close_keeps (close_eq_ok.mp closed).1

/-- The message of a state with a field for an entry, where some enumerations may be new. -/
def Appends (s s' : ReadingState) (fields : List Field) : Prop :=
  s'.message = { s.message with
    fields := s.message.fields ++ fields
    enumerations := s'.message.enumerations }

theorem Appends.trans {s s' s'' : ReadingState} {fields fields' : List Field} (first : s.Appends s' fields)
    (second : s'.Appends s'' fields') : s.Appends s'' (fields ++ fields') := by
  unfold Appends at *
  rw [second,first]
  simp

theorem enter_appends {s s' : ReadingState} {e : Entry} (entered : s.enter e = .ok s') :
    s.Appends s' e.field?.toList := by
  unfold Appends
  cases e with
  | header h =>
    simp only [enter,bind_eq_ok,pure_eq_ok] at entered
    obtain ⟨s₁,closed,rfl⟩ := entered
    simpa [Entry.field?] using close_keeps closed
  | constant c =>
    simp only [enter,bind_eq_ok,pure_eq_ok] at entered
    obtain ⟨⟨g,m⟩,pushed,rfl⟩ := entered
    have kept := ConstantGroup.push_keeps pushed
    simp only [Message.addField,Entry.field?]
    rw [kept]
    simp
  | member f =>
    simp only [enter,bind_eq_ok,pure_eq_ok] at entered
    obtain ⟨s₁,closed,rfl⟩ := entered
    have kept := close_keeps closed
    simp only [Message.addField,Entry.field?]
    rw [kept]
    simp

theorem settle_keeps {s s' : ReadingState} {followsBlank : Bool} (settled : s.settle followsBlank = .ok s') :
    s'.message = { s.message with enumerations := s'.message.enumerations } := by
  cases followsBlank with
  | true => exact close_keeps settled
  | false =>
    cases settled
    rfl

/-- An entry appends its field and changes nothing else but the enumerations. -/
theorem follow_appends {s s' : ReadingState} {e : PlacedEntry} (followed : s.follow e = .ok s') :
    s.Appends s' e.entry.field?.toList := by
  obtain ⟨s₁,settled,entered⟩ := bind_eq_ok.mp followed
  have kept : s.Appends s₁ [] := by
    unfold Appends
    simpa using settle_keeps settled
  exact kept.trans (enter_appends entered)

theorem followAll_appends {es : List PlacedEntry} {s s' : ReadingState} (followed : es.foldlM follow s = .ok s') :
    s.Appends s' (es.filterMap fun e => e.entry.field?) := by
  induction es generalizing s with
  | nil =>
    obtain rfl := pure_eq_ok.mp followed
    simp [Appends]
  | cons e es ih =>
    rw [List.foldlM_cons] at followed
    obtain ⟨s₁,first,rest⟩ := bind_eq_ok.mp followed
    have both := (follow_appends first).trans (ih rest)
    cases field : e.entry.field? with
    | none => simpa [field] using both
    | some f => simpa [field] using both

/-! ### Reading lines is reading and following entries -/

section

variable {s : ReadingState} {line : SourceLine}

theorem declare_header {name : String} (declares : line.declaration = .enumeration name) :
    s.declare line = s.enter (.header ⟨name,line.comment,line.number,line.text⟩) := by
  simp only [declare,declares,enter]

/-- A constant that cannot follow is an error on its line. -/
theorem declare_constant {type name value : String} (declares : line.declaration = .constant type name value) :
    s.declare line = line.locate
      (line.constant s.message.package type name value >>= fun c => s.enter (.constant ⟨c,line.text⟩)) := by
  simp only [declare,declares,addConstant,SourceLine.locate,SourceLine.constant,enter,bind_assoc,pure_bind]

theorem declare_field {type name : String} {default : Option String}
    (declares : line.declaration = .field type name default) :
    s.declare line = s.close >>= fun s =>
      line.locate (line.member s.message.package type name default >>= fun f =>
        pure { s with message := s.message.addField f }) := by
  simp only [declare,declares,addMember,SourceLine.locate,SourceLine.member,bind_assoc,pure_bind]

theorem declare_eq_ok {s' : ReadingState} :
    s.declare line = .ok s' ↔ ∃ e, line.entry s.message.package = .ok e ∧ s.enter e = .ok s' := by
  cases declares : line.declaration with
  | enumeration name =>
    rw [declare_header declares]
    simp only [SourceLine.entry,SourceLine.locate,declares,mapError_eq_ok,Except.ok.injEq,exists_eq_left']
  | constant type name value =>
    rw [declare_constant declares]
    simp only [SourceLine.entry,SourceLine.locate,declares,mapError_eq_ok,map_eq_ok,bind_eq_ok]
    constructor
    · rintro ⟨c,read,entered⟩
      exact ⟨_,⟨c,read,rfl⟩,entered⟩
    · rintro ⟨_,⟨c,read,rfl⟩,entered⟩
      exact ⟨c,read,entered⟩
  | field type name default =>
    rw [declare_field declares]
    simp only [SourceLine.entry,SourceLine.locate,declares,mapError_eq_ok,map_eq_ok,bind_eq_ok]
    constructor
    · -- Ending the group in front keeps the package in which the type is read.
      rintro ⟨s₁,closed,f,read,added⟩
      have package : s₁.message.package = s.message.package := by rw [close_keeps closed]
      rw [package] at read
      exact ⟨_,⟨f,read,rfl⟩,bind_eq_ok.mpr ⟨s₁,closed,added⟩⟩
    · rintro ⟨_,⟨f,read,rfl⟩,entered⟩
      obtain ⟨s₁,closed,added⟩ := bind_eq_ok.mp entered
      have package : s₁.message.package = s.message.package := by rw [close_keeps closed]
      exact ⟨s₁,closed,f,by rw [package]; exact read,added⟩

theorem step_eq : s.step line = s.settle line.followsBlank >>= fun s => s.declare line := by
  unfold step settle
  cases line.followsBlank <;> rfl

/-- Reading a line is reading its entry and following it. -/
theorem step_eq_ok {s' : ReadingState} :
    s.step line = .ok s' ↔ ∃ e, line.placedEntry s.message.package = .ok e ∧ s.follow e = .ok s' := by
  rw [step_eq]
  simp only [follow,SourceLine.placedEntry,map_eq_ok,bind_eq_ok,declare_eq_ok]
  constructor
  · rintro ⟨s₁,settled,e,read,entered⟩
    have package : s₁.message.package = s.message.package := by rw [settle_keeps settled]
    rw [package] at read
    exact ⟨_,⟨e,read,rfl⟩,s₁,settled,entered⟩
  · rintro ⟨_,⟨e,read,rfl⟩,s₁,settled,entered⟩
    have package : s₁.message.package = s.message.package := by rw [settle_keeps settled]
    exact ⟨s₁,settled,e,by rw [package]; exact read,entered⟩

end

/-- Reading lines is reading their entries and following them in order. -/
theorem run_eq_ok {lines : List (Except DefinitionError SourceLine)} {s s' : ReadingState} :
    s.run lines = .ok s' ↔
      ∃ es, lines.mapM (fun line => line >>= SourceLine.placedEntry s.message.package) = .ok es ∧
        es.foldlM follow s = .ok s' := by
  induction lines generalizing s with
  | nil => simp [run,pure,Except.pure]
  | cons line lines ih =>
    cases line with
    | error e => simp [run,List.mapM_cons]
    | ok line =>
      simp only [run,List.mapM_cons,bind_eq_ok,step_eq_ok,pure_eq_ok,Except.ok.injEq]
      constructor
      · rintro ⟨s₁,⟨e,read,followed⟩,rest⟩
        obtain ⟨es,reads,follows⟩ := ih.mp rest
        rw [follow_appends followed] at reads
        refine ⟨e :: es,⟨e,⟨line,rfl,read⟩,es,reads,rfl⟩,?_⟩
        rw [List.foldlM_cons]
        exact bind_eq_ok.mpr ⟨s₁,followed,follows⟩
      · rintro ⟨_,⟨e,⟨_,rfl,read⟩,es,reads,rfl⟩,follows⟩
        rw [List.foldlM_cons] at follows
        obtain ⟨s₁,followed,follows⟩ := bind_eq_ok.mp follows
        refine ⟨s₁,⟨e,read,followed⟩,ih.mpr ⟨es,?_,follows⟩⟩
        rw [follow_appends followed]
        exact reads

end ReadingState

def Message.start (package name source : String) : Message :=
  ⟨package,name,(LeadingComment.read source).getD "",[],[]⟩

theorem Message.empty_eq_ok {package name : String} {m : Message} :
    Message.empty package name = .ok m ↔
      isPackageName package = true ∧ isMessageName name = true ∧ m = ⟨package,name,"",[],[]⟩ := by
  unfold Message.empty
  cases isPackageName package
  · simp
  · cases isMessageName name
    · simp
    · simp [eq_comm (a := m)]

/-- A definition is read exactly if its names are good, its lines can be read one by one and their
    entries can be followed. -/
theorem Message.read_eq_ok {package name source : String} {m : Message} :
    Message.read package name source = .ok m ↔
      isPackageName package = true ∧ isMessageName name = true ∧
        ∃ es s, PlacedEntry.readAll package source = .ok es ∧
          es.foldlM ReadingState.follow ⟨.idle,Message.start package name source⟩ = .ok s ∧
          s.group.close s.message = .ok m := by
  unfold Message.read
  simp only [bind_eq_ok,pure_eq_ok,Message.empty_eq_ok,ReadingState.run_eq_ok]
  constructor
  · rintro ⟨_,⟨package_ok,name_ok,rfl⟩,s,⟨es,reads,follows⟩,s',closed,rfl⟩
    exact ⟨package_ok,name_ok,es,s,reads,follows,(ReadingState.close_eq_ok.mp closed).1⟩
  · rintro ⟨package_ok,name_ok,es,s,reads,follows,closed⟩
    exact ⟨_,⟨package_ok,name_ok,rfl⟩,s,⟨es,reads,follows⟩,⟨.idle,m⟩,
      ReadingState.close_eq_ok.mpr ⟨closed,rfl⟩,rfl⟩

/-- The fields of a message are those of the entries that were followed. -/
theorem Message.fields_of_follow {package name source : String} {es : List PlacedEntry} {s : ReadingState}
    {m : Message} (followed : es.foldlM ReadingState.follow ⟨.idle,Message.start package name source⟩ = .ok s)
    (closed : s.group.close s.message = .ok m) : m.fields = es.filterMap fun e => e.entry.field? := by
  rw [ConstantGroup.close_keeps closed,ReadingState.followAll_appends followed]
  rfl

end MsgBindings
