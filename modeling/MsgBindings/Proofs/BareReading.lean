import MsgBindings.Proofs.Entries

/-!
Reading without comments and line numbers. What is left of a message without them is its bare form, and what is left
of an error is its root. Neither depends on anything but the declarations of the lines and on the blank lines above
them (`read_seen`): each function of the reader does to bare arguments what it does to full ones.
-/
namespace MsgBindings

/-! ### Outcomes -/

section

variable {ε α β γ δ : Type}

theorem map_bind_of {x : Except ε α} {f : α → Except ε β} {view : α → γ} {view' : β → δ} {g : γ → Except ε δ}
    (each : ∀ a, (f a).map view' = g (view a)) : (x >>= f).map view' = x.map view >>= g := by
  cases x with
  | error e => rfl
  | ok a => exact each a

theorem map_mapM_of {f : α → Except ε β} {view : α → γ} {view' : β → δ} {g : γ → Except ε δ}
    (each : ∀ a, (f a).map view' = g (view a)) (xs : List α) :
    (xs.mapM f).map (List.map view') = (xs.map view).mapM g := by
  induction xs with
  | nil => rfl
  | cons x xs ih =>
    rw [List.map_cons,List.mapM_cons,List.mapM_cons,← each]
    refine map_bind_of fun y => ?_
    rw [← ih]
    exact map_bind_of fun ys => rfl

end

/-- What is seen of an outcome: a view of the result, or the root of the error. -/
def seen {α β : Type} (view : α → β) (x : Except DefinitionError α) : Except DefinitionError β :=
  (x.map view).mapError DefinitionError.root

namespace DefinitionError

@[simp] theorem root_onLine (line : Nat) (text : String) (e : DefinitionError) : (e.onLine line text).root = e.root := by
  cases e <;> rfl

end DefinitionError

section

variable {α β γ δ : Type} {view : α → β} {view' : γ → δ}

@[simp] theorem seen_ok (a : α) : seen view (.ok a) = .ok (view a) := rfl

@[simp] theorem seen_pure (a : α) : seen view (pure a) = .ok (view a) := rfl

@[simp] theorem seen_error (e : DefinitionError) : seen view (.error e) = .error e.root := rfl

@[simp] theorem seen_onLine (x : Except DefinitionError α) (line : Nat) (text : String) :
    seen view (x.mapError (DefinitionError.onLine line text)) = seen view x := by
  cases x <;> simp [seen,Except.map,Except.mapError]

theorem seen_of_map {x y : Except DefinitionError α} (same : x.map view = y.map view) : seen view x = seen view y := by
  unfold seen
  rw [same]

/-- What is seen of two readings one after the other agrees if both do. -/
theorem seen_bind {x y : Except DefinitionError α} {f g : α → Except DefinitionError γ}
    (first : seen view x = seen view y) (rest : ∀ a b, view a = view b → seen view' (f a) = seen view' (g b)) :
    seen view' (x >>= f) = seen view' (y >>= g) := by
  cases x with
  | error e =>
    cases y with
    | error e' =>
      exact congrArg Except.error (Except.error.inj first)
    | ok b => cases first
  | ok a =>
    cases y with
    | error e' => cases first
    | ok b => exact rest a b (Except.ok.inj first)

theorem seen_bind_self {x : Except DefinitionError α} {f g : α → Except DefinitionError γ}
    (rest : ∀ a, seen view' (f a) = seen view' (g a)) : seen view' (x >>= f) = seen view' (x >>= g) := by
  cases x with
  | error e => rfl
  | ok a => exact rest a

theorem seen_map {x y : Except DefinitionError α} {f g : α → γ} (first : seen view x = seen view y)
    (rest : ∀ a b, view a = view b → view' (f a) = view' (g b)) : seen view' (x.map f) = seen view' (y.map g) :=
  seen_bind first fun a b same => congrArg Except.ok (rest a b same)

theorem agree_of_seen {x y : Except DefinitionError α} (same : seen view x = seen view y) :
    ((∃ a, x = .ok a) ↔ ∃ b, y = .ok b) ∧ (∀ a b, x = .ok a → y = .ok b → view a = view b) ∧
      ∀ e e', x = .error e → y = .error e' → e.root = e'.root := by
  refine ⟨?_,?_,?_⟩
  · cases x <;> cases y
    · simp
    · cases same
    · cases same
    · simp
  · rintro a b rfl rfl
    exact Except.ok.inj same
  · rintro e e' rfl rfl
    exact Except.error.inj same

end

/-! ### Fields and enumerations -/

/-- The field without its comment and its line. -/
def Field.bare (f : Field) : Field := f.declaredAt none 0

namespace Field

variable (f : Field)

@[simp] theorem bare_name : f.bare.name = f.name := rfl

@[simp] theorem bare_type : f.bare.type = f.type := rfl

@[simp] theorem bare_integer? : f.bare.integer? = f.integer? := rfl

@[simp] theorem bare_declaredAt (comment : Option String) (line : Nat) : (f.declaredAt comment line).bare = f.bare := rfl

end Field

def EnumValue.bare (v : EnumValue) : EnumValue := { v with comment := none }

@[simp] theorem EnumValue.bare_number (v : EnumValue) : v.bare.number = v.number := rfl

namespace Enumeration

/-- The enumeration without its comment and those of its values. -/
def bare (e : Enumeration) : Enumeration := { e with values := e.values.map EnumValue.bare, comment := none }

theorem valueOf_bare (name : String) (repr : Primitive) (c : Field) :
    (valueOf name repr c).map EnumValue.bare = valueOf name repr c.bare := by
  unfold valueOf
  rw [Field.bare_type,Field.bare_integer?,Field.bare_name]
  by_cases typed : c.type.base.primitive? = some repr
  · rw [if_pos typed,if_pos typed]
    cases c.integer? <;> rfl
  · rw [if_neg typed,if_neg typed]
    rfl

theorem ofConstants_bare (name : String) (cs : List Field) (comment : Option String) (explicit : Bool) :
    (ofConstants name cs comment explicit).map bare = ofConstants name (cs.map Field.bare) none explicit := by
  unfold ofConstants
  split
  · cases cs with
    | nil => rfl
    | cons c cs =>
      simp only [List.map_cons,Field.bare_type]
      split
      · rfl
      · rw [← List.map_cons,← map_mapM_of (valueOf_bare name _)]
        exact map_bind_of fun values => rfl
  · rfl

theorem variantNames_bare (e : Enumeration) : e.bare.variantNames = e.variantNames := by
  have names : (e.values.map EnumValue.bare).map (fun v => segments v.name) = e.values.map fun v => segments v.name := by
    rw [List.map_map]
    rfl
  simp only [variantNames,bare,names]

theorem conflictAfter_bare (name : String) (earlier values : List (EnumValue × String)) :
    conflictAfter name (earlier.map (Prod.map EnumValue.bare id)) (values.map (Prod.map EnumValue.bare id)) =
      conflictAfter name earlier values := by
  induction values generalizing earlier with
  | nil => rfl
  | cons value rest ih =>
    obtain ⟨v,variant⟩ := value
    have next := ih (earlier ++ [(v,variant)])
    rw [List.map_append] at next
    have number : (earlier.map (Prod.map EnumValue.bare id)).find? (fun e => e.1.number == v.number) =
        (earlier.find? fun e => e.1.number == v.number).map (Prod.map EnumValue.bare id) := List.find?_map ..
    have name : (earlier.map (Prod.map EnumValue.bare id)).find? (fun e => e.2 == variant) =
        (earlier.find? fun e => e.2 == variant).map (Prod.map EnumValue.bare id) := List.find?_map ..
    rw [List.map_cons,Prod.map_apply,conflictAfter,conflictAfter]
    simp only [EnumValue.bare_number,id_eq,number,name,List.length_map]
    cases earlier.find? fun e => e.1.number == v.number with
    | some e => rfl
    | none =>
      cases earlier.find? fun e => e.2 == variant with
      | some e => rfl
      | none => exact next

theorem conflict?_bare (e : Enumeration) : e.bare.conflict? = e.conflict? := by
  unfold conflict?
  rw [variantNames_bare,← conflictAfter_bare e.name [] (e.values.zip e.variantNames),← List.zip_map]
  simp [bare]

end Enumeration

/-! ### Messages and groups -/

namespace Message

/-- The message without comments and lines. -/
def bare (m : Message) : Message :=
  { m with comment := "", fields := m.fields.map Field.bare, enumerations := m.enumerations.map Enumeration.bare }

variable (m : Message)

theorem isFree_bare (name : String) : m.bare.isFree name = m.isFree name := by
  simp only [isFree,enumeration?,bare,List.find?_map,Option.isNone_map]
  rfl

theorem addEnumeration_bare (e : Enumeration) : (m.addEnumeration e).map bare = m.bare.addEnumeration e.bare := by
  have free : m.bare.isFree e.bare.name = m.isFree e.name := m.isFree_bare e.name
  unfold addEnumeration
  rw [free]
  split
  · simp [bare,Except.map]
  · rfl

theorem addField_bare (f : Field) : (m.addField f).bare = m.bare.addField f.bare := by
  simp [addField,bare]

end Message

/-- The header with its name alone. -/
def EnumHeader.bare (h : EnumHeader) : EnumHeader := ⟨h.name,none,0,""⟩

def GroupedConstant.bare (c : GroupedConstant) : GroupedConstant := ⟨c.constant.bare,""⟩

namespace ConstantGroup

def bare : ConstantGroup → ConstantGroup
  | block h members => block h.bare (members.map GroupedConstant.bare)
  | run members => run (members.map GroupedConstant.bare)

variable (members : List GroupedConstant) (m : Message)

theorem map_constant_bare :
    (members.map GroupedConstant.bare).map (·.constant) = (members.map (·.constant)).map Field.bare := by
  rw [List.map_map,List.map_map]
  rfl

theorem remaindersStartWithLetter_bare :
    remaindersStartWithLetter (members.map GroupedConstant.bare) = remaindersStartWithLetter members := by
  unfold remaindersStartWithLetter
  rw [List.all_map]
  rfl

theorem closeRun_bare : (closeRun members m).map Message.bare = closeRun (members.map GroupedConstant.bare) m.bare := by
  match members with
  | [] => rfl
  | [_] => rfl
  | first :: second :: rest =>
    have letters := remaindersStartWithLetter_bare (first :: second :: rest)
    have constants := map_constant_bare (first :: second :: rest)
    simp only [List.map_cons] at letters constants
    simp only [closeRun,List.map_cons,letters,constants,Message.isFree_bare]
    have segment : segmentPrefix? first.bare.constant.name = segmentPrefix? first.constant.name := rfl
    rw [segment]
    split
    · rfl
    · split
      · simp only [← List.map_cons,← Enumeration.ofConstants_bare _ _ none false]
        refine map_bind_of fun e => ?_
        rw [Enumeration.conflict?_bare]
        split
        · exact m.addEnumeration_bare e
        · rfl
      · rfl

theorem continues_bare (c : Field) : continues (members.map GroupedConstant.bare) c.bare = continues members c := by
  unfold continues
  rw [List.getLast?_map]
  cases members.getLast? <;> rfl

/-- What is made of a group and a message after a constant. -/
def barePair (after : ConstantGroup × Message) : ConstantGroup × Message := (after.1.bare,after.2.bare)

theorem pushRun_bare (c : GroupedConstant) :
    (pushRun members c m).map barePair = pushRun (members.map GroupedConstant.bare) c.bare m.bare := by
  have groupable : isGroupable c.bare.constant = isGroupable c.constant := rfl
  have same : continues (members.map GroupedConstant.bare) c.bare.constant = continues members c.constant :=
    continues_bare members c.constant
  cases on : continues members c.constant with
  | true =>
    rw [pushRun_of_continues m on,pushRun_of_continues m.bare (same.trans on),groupable]
    cases isGroupable c.constant <;> simp [Except.map,barePair,bare]
  | false =>
    rw [pushRun_of_not_continues m on,pushRun_of_not_continues m.bare (same.trans on),groupable,← closeRun_bare]
    cases closeRun members m <;> cases isGroupable c.constant <;> rfl

theorem extendBlock_bare (c : GroupedConstant) :
    (extendBlock members c).map (List.map GroupedConstant.bare) =
      extendBlock (members.map GroupedConstant.bare) c.bare := by
  have type : c.bare.constant.type = c.constant.type := rfl
  unfold extendBlock
  dsimp only
  rw [type]
  split
  · rfl
  · rename_i p _
    cases members with
    | nil => rfl
    | cons first rest =>
      have typeFirst : first.bare.constant.type = first.constant.type := rfl
      simp only [List.map_cons,typeFirst]
      split
      · simp [Except.map]
      · rfl

theorem push_bare (g : ConstantGroup) (c : GroupedConstant) : (g.push c m).map barePair = g.bare.push c.bare m.bare := by
  cases g with
  | block h members =>
    simp only [push,bare,← extendBlock_bare]
    cases extendBlock members c <;> rfl
  | run members => exact pushRun_bare members m c

theorem root_conflictError (i : Nat) (reason : EnumFault) :
    (conflictError members i reason).root = .enumeration reason := by
  unfold conflictError
  split
  · rw [DefinitionError.root_onLine]
    rfl
  · rfl

end ConstantGroup

/-! ### Two readings -/

namespace ConstantGroup

variable {members members' : List GroupedConstant} {m m' : Message}

theorem seen_closeBlock {h h' : EnumHeader} (header : h.bare = h'.bare)
    (constants : members.map GroupedConstant.bare = members'.map GroupedConstant.bare) (message : m.bare = m'.bare) :
    seen Message.bare (closeBlock h members m) = seen Message.bare (closeBlock h' members' m') := by
  have name : h.name = h'.name := (EnumHeader.mk.inj header).1
  unfold closeBlock
  refine seen_bind (?_ : seen Enumeration.bare _ = seen Enumeration.bare _) ?_
  · rw [seen_onLine,seen_onLine]
    apply seen_of_map
    rw [Enumeration.ofConstants_bare,Enumeration.ofConstants_bare,← map_constant_bare,← map_constant_bare,constants,
      name]
  · intro e e' same
    have conflict : e.conflict? = e'.conflict? := by rw [← e.conflict?_bare,same,e'.conflict?_bare]
    rw [conflict]
    split
    · simp [throw,throwThe,MonadExceptOf.throw,root_conflictError]
    · rw [seen_onLine,seen_onLine]
      apply seen_of_map
      rw [m.addEnumeration_bare,m'.addEnumeration_bare,message,same]

theorem seen_close {g g' : ConstantGroup} (group : g.bare = g'.bare) (message : m.bare = m'.bare) :
    seen Message.bare (g.close m) = seen Message.bare (g'.close m') := by
  cases g with
  | block h members =>
    cases g' with
    | block h' members' =>
      obtain ⟨header,constants⟩ := ConstantGroup.block.inj group
      exact seen_closeBlock header constants message
    | run members' => cases group
  | run members =>
    cases g' with
    | block h' members' => cases group
    | run members' =>
      apply seen_of_map
      rw [close,close,closeRun_bare,closeRun_bare,ConstantGroup.run.inj group,message]

end ConstantGroup

/-- What a line says: its declaration, and whether a blank line is above it. -/
def SourceLine.said (line : SourceLine) : Bool × Declaration := (line.followsBlank,line.declaration)

theorem SourceLine.seen_constant (package type name value : String) (line line' : SourceLine) :
    seen Field.bare (line.constant package type name value) = seen Field.bare (line'.constant package type name value) := by
  refine seen_bind_self fun type => ?_
  exact seen_bind_self fun c => rfl

theorem SourceLine.seen_member (package type name : String) (default : Option String) (line line' : SourceLine) :
    seen Field.bare (line.member package type name default) = seen Field.bare (line'.member package type name default) := by
  refine seen_bind_self fun type => ?_
  exact seen_bind_self fun f => rfl

namespace ReadingState

/-- What reading has come to, without comments, lines and texts. -/
def bare (s : ReadingState) : ReadingState := ⟨s.group.bare,s.message.bare⟩

variable {s s' : ReadingState} {line line' : SourceLine}

theorem bare_eq : s.bare = s'.bare ↔ s.group.bare = s'.group.bare ∧ s.message.bare = s'.message.bare := by
  simp [bare]

theorem package_of_bare (same : s.bare = s'.bare) : s.message.package = s'.message.package :=
  (Message.mk.inj (bare_eq.mp same).2).1

theorem seen_close (same : s.bare = s'.bare) : seen bare s.close = seen bare s'.close := by
  obtain ⟨group,message⟩ := bare_eq.mp same
  refine seen_map (ConstantGroup.seen_close group message) fun m m' messages => ?_
  rw [bare_eq]
  exact ⟨rfl,messages⟩

theorem seen_settle (blank : Bool) (same : s.bare = s'.bare) :
    seen bare (s.settle blank) = seen bare (s'.settle blank) := by
  cases blank with
  | true => exact seen_close same
  | false => exact congrArg Except.ok same

theorem bare_addField {f f' : Field} (field : f.bare = f'.bare) (same : s.bare = s'.bare) :
    bare { s with message := s.message.addField f } = bare { s' with message := s'.message.addField f' } := by
  rw [bare_eq] at same ⊢
  exact ⟨same.1,by rw [Message.addField_bare,Message.addField_bare,same.2,field]⟩

theorem seen_header {h h' : EnumHeader} (header : h.bare = h'.bare) (same : s.bare = s'.bare) :
    seen bare (s.enter (.header h)) = seen bare (s'.enter (.header h')) := by
  refine seen_bind (seen_close same) fun a b after => congrArg Except.ok ?_
  rw [bare_eq] at after ⊢
  exact ⟨by simp [ConstantGroup.bare,header],after.2⟩

theorem seen_constant {c c' : GroupedConstant} (constant : c.bare = c'.bare) (same : s.bare = s'.bare) :
    seen bare (s.enter (.constant c)) = seen bare (s'.enter (.constant c')) := by
  obtain ⟨group,message⟩ := bare_eq.mp same
  refine seen_bind (?_ : seen ConstantGroup.barePair _ = seen ConstantGroup.barePair _) ?_
  · apply seen_of_map
    rw [ConstantGroup.push_bare,ConstantGroup.push_bare,group,message,constant]
  · rintro ⟨g,m⟩ ⟨g',m'⟩ after
    have pushed : bare ⟨g,m⟩ = bare ⟨g',m'⟩ := bare_eq.mpr (Prod.mk.inj after)
    exact congrArg Except.ok (bare_addField (GroupedConstant.mk.inj constant).1 pushed)

/-- What a line declares has the same effect on states that are the same but for comments and lines. -/
theorem seen_declare (declares : line.declaration = line'.declaration) (same : s.bare = s'.bare) :
    seen bare (s.declare line) = seen bare (s'.declare line') := by
  have package := package_of_bare same
  cases declared : line'.declaration with
  | enumeration name =>
    rw [declare_header (declares.trans declared),declare_header declared]
    exact seen_header rfl same
  | constant type name value =>
    rw [declare_constant (declares.trans declared),declare_constant declared,SourceLine.locate,SourceLine.locate,
      seen_onLine,seen_onLine,package]
    refine seen_bind (SourceLine.seen_constant _ _ _ _ line line') fun c c' constant => ?_
    exact seen_constant (by simp [GroupedConstant.bare,constant]) same
  | field type name default =>
    rw [declare_field (declares.trans declared),declare_field declared]
    refine seen_bind (seen_close same) fun a b after => ?_
    rw [SourceLine.locate,SourceLine.locate,seen_onLine,seen_onLine,package_of_bare after]
    refine seen_bind (SourceLine.seen_member _ _ _ _ line line') fun f f' field => ?_
    exact congrArg Except.ok (bare_addField field after)

theorem seen_step (said : line.said = line'.said) (same : s.bare = s'.bare) :
    seen bare (s.step line) = seen bare (s'.step line') := by
  obtain ⟨blank,declares⟩ := Prod.mk.inj said
  rw [step_eq,step_eq,blank]
  exact seen_bind (seen_settle _ same) fun a b after => seen_declare declares after

/-- Lines that say the same have the same effect. -/
theorem seen_run {lines lines' : List (Except DefinitionError SourceLine)}
    (said : lines.map (seen SourceLine.said) = lines'.map (seen SourceLine.said)) (same : s.bare = s'.bare) :
    seen bare (s.run lines) = seen bare (s'.run lines') := by
  induction lines generalizing lines' s s' with
  | nil =>
    obtain rfl := List.map_eq_nil_iff.mp said.symm
    exact congrArg Except.ok same
  | cons line rest ih =>
    obtain ⟨line',rest',rfl,first,others⟩ := List.map_eq_cons_iff.mp said.symm
    cases line with
    | error e =>
      cases line' with
      | error e' => exact congrArg Except.error (Except.error.inj first).symm
      | ok l' => cases first
    | ok l =>
      cases line' with
      | error e' => cases first
      | ok l' =>
        rw [run,run]
        exact seen_bind (seen_step (Except.ok.inj first).symm same) fun a b after => ih others.symm after

end ReadingState

/-- Reading depends on nothing but what the lines say, but for comments and lines. -/
theorem Message.seen_read (package name : String) {source source' : String}
    (said : (SourceLine.readAll source).map (seen SourceLine.said) =
      (SourceLine.readAll source').map (seen SourceLine.said)) :
    seen Message.bare (Message.read package name source) = seen Message.bare (Message.read package name source') := by
  unfold Message.read
  refine seen_bind_self fun m => ?_
  refine seen_bind (ReadingState.seen_run said rfl) fun s s' after => ?_
  refine seen_bind (ReadingState.seen_close after) fun t t' closed => congrArg Except.ok ?_
  exact (ReadingState.bare_eq.mp closed).2

end MsgBindings
