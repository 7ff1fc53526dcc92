import MsgBindings.Proofs.Gathering
import MsgBindings.Proofs.JoinedLines

/-!
Definitions put together. A definition below another one, with a blank line between them, is read as if it stood alone
(`Message.read_joined`): the blank line ends the group that is open, and a group makes the enumeration that it makes
alone, as long as no enumeration of the definition above has the name of one below. What becomes of a message that is
read behind another one is `m.below before k`.
-/
namespace MsgBindings

/-! ### Constants further down -/

theorem Enumeration.ofConstants_moved (k : Nat) (name : String) (cs : List Field) (comment : Option String)
    (explicit : Bool) :
    ofConstants name (cs.map (Field.moved k)) comment explicit = ofConstants name cs comment explicit := by
  have values : ∀ repr (cs : List Field),
      (cs.map (Field.moved k)).mapM (valueOf name repr) = cs.mapM (valueOf name repr) := by
    intro repr cs
    induction cs with
    | nil => rfl
    | cons c cs ih =>
      rw [List.map_cons,List.mapM_cons,List.mapM_cons,ih]
      rfl
  unfold ofConstants
  split
  · cases cs with
    | nil => rfl
    | cons c cs =>
      have values := fun repr => values repr (c :: cs)
      simp only [List.map_cons] at values ⊢
      simp only [values]
      rfl
  · rfl

namespace ConstantGroup

variable (k : Nat) (members : List GroupedConstant)

theorem map_constant_moved :
    (members.map (GroupedConstant.moved k)).map (·.constant) = (members.map (·.constant)).map (Field.moved k) := by
  rw [List.map_map,List.map_map]
  rfl

theorem remaindersStartWithLetter_moved :
    remaindersStartWithLetter (members.map (GroupedConstant.moved k)) = remaindersStartWithLetter members := by
  unfold remaindersStartWithLetter
  rw [List.all_map]
  rfl

theorem continues_moved (c : Field) :
    continues (members.map (GroupedConstant.moved k)) (c.moved k) = continues members c := by
  unfold continues
  rw [List.getLast?_map]
  cases members.getLast? <;> rfl

theorem extendBlock_moved (c : GroupedConstant) :
    extendBlock (members.map (GroupedConstant.moved k)) (c.moved k) =
      (extendBlock members c).map (List.map (GroupedConstant.moved k)) := by
  have type : (c.moved k).constant.type = c.constant.type := rfl
  unfold extendBlock
  dsimp only
  rw [type]
  split
  · rfl
  · rename_i p _
    cases members with
    | nil => rfl
    | cons first rest =>
      have typeFirst : (first.moved k).constant.type = first.constant.type := rfl
      simp only [List.map_cons,typeFirst]
      split
      · simp [Except.map]
      · rfl

end ConstantGroup

/-! ### No enumeration goes away -/

namespace ReadingState

variable {s s' : ReadingState}

theorem enter_grows {e : Entry} (entered : s.enter e = .ok s') : s.message.enumerations ⊆ s'.message.enumerations := by
  cases e with
  | header h =>
    obtain ⟨s₁,closed,opened⟩ := bind_eq_ok.mp entered
    cases opened
    exact ConstantGroup.close_grows (close_eq_ok.mp closed).1
  | constant c =>
    obtain ⟨⟨g,m⟩,pushed,added⟩ := bind_eq_ok.mp entered
    cases added
    show s.message.enumerations ⊆ m.enumerations
    rcases ConstantGroup.push_cases pushed with rfl | closed
    · exact List.Subset.refl _
    · exact ConstantGroup.close_grows closed
  | member f =>
    obtain ⟨s₁,closed,added⟩ := bind_eq_ok.mp entered
    cases added
    show s.message.enumerations ⊆ s₁.message.enumerations
    exact ConstantGroup.close_grows (close_eq_ok.mp closed).1

theorem follow_grows {e : PlacedEntry} (followed : s.follow e = .ok s') :
    s.message.enumerations ⊆ s'.message.enumerations := by
  obtain ⟨s₁,settled,entered⟩ := bind_eq_ok.mp followed
  refine List.Subset.trans ?_ (enter_grows entered)
  cases blank : e.followsBlank with
  | true =>
    rw [blank] at settled
    exact ConstantGroup.close_grows (close_eq_ok.mp settled).1
  | false =>
    rw [blank] at settled
    cases settled
    exact List.Subset.refl _

theorem followAll_grows {es : List PlacedEntry} (followed : es.foldlM follow s = .ok s') :
    s.message.enumerations ⊆ s'.message.enumerations := by
  induction es generalizing s with
  | nil =>
    obtain rfl := pure_eq_ok.mp followed
    exact List.Subset.refl _
  | cons e es ih =>
    rw [List.foldlM_cons] at followed
    obtain ⟨s₁,first,rest⟩ := bind_eq_ok.mp followed
    exact List.Subset.trans (follow_grows first) (ih rest)

end ReadingState

/-! ### Reading below another message -/

namespace Message

/-- The message that a definition makes below that of another message, where it starts `k` lines further down. -/
def below (m before : Message) (k : Nat) : Message :=
  { before with
    fields := before.fields ++ m.fields.map (Field.moved k)
    enumerations := before.enumerations ++ m.enumerations }

/-- Whether no enumeration of a message has the name of one of another message. -/
def ApartFrom (m before : Message) : Prop := ∀ e ∈ before.enumerations, ∀ e' ∈ m.enumerations, e.name ≠ e'.name

variable {m m' before : Message} (k : Nat)

theorem ApartFrom.mono (apart : m'.ApartFrom before)
    (grows : m.enumerations ⊆ m'.enumerations) : m.ApartFrom before :=
  fun e member e' inside => apart e member e' (grows inside)

theorem isFree_below (name : m.name = before.name) (s : String) :
    (m.below before k).isFree s = true ↔ m.isFree s = true ∧ ∀ e ∈ before.enumerations, e.name ≠ s := by
  simp only [ConstantGroup.isFree_iff,below,name,List.mem_append]
  constructor
  · rintro ⟨other,none⟩
    exact ⟨⟨other,fun e member => none e (.inr member)⟩,fun e member => none e (.inl member)⟩
  · rintro ⟨⟨other,none⟩,clear⟩
    exact ⟨other,fun e member => member.elim (clear e) (none e)⟩

theorem addEnumeration_below (name : m.name = before.name) {e : Enumeration} (apart : m'.ApartFrom before)
    (added : m.addEnumeration e = .ok m') : (m.below before k).addEnumeration e = .ok (m'.below before k) := by
  obtain ⟨free,rfl⟩ := addEnumeration_eq_ok.mp added
  refine addEnumeration_eq_ok.mpr ⟨(isFree_below k name _).mpr ⟨free,fun e' member => ?_⟩,?_⟩
  · exact apart e' member e (by simp)
  · simp [below]

end Message

namespace ConstantGroup

variable {m m' before : Message} (k : Nat) (name : m.name = before.name) (apart : m'.ApartFrom before)

include name apart

theorem closeBlock_below {h : EnumHeader} {members : List GroupedConstant} (closed : closeBlock h members m = .ok m') :
    closeBlock (h.moved k) (members.map (GroupedConstant.moved k)) (m.below before k) = .ok (m'.below before k) := by
  obtain ⟨e,made,quiet,added⟩ := closeBlock_eq_ok.mp closed
  refine closeBlock_eq_ok.mpr ⟨e,?_,quiet,Message.addEnumeration_below k name apart added⟩
  rw [map_constant_moved,Enumeration.ofConstants_moved]
  exact made

/-- A run below another message makes the enumeration that it makes alone. One that makes none because the name is
    taken goes on to make none. -/
theorem closeRun_below {members : List GroupedConstant} (closed : closeRun members m = .ok m') :
    closeRun (members.map (GroupedConstant.moved k)) (m.below before k) = .ok (m'.below before k) := by
  match members with
  | [] =>
    cases closed
    rfl
  | [_] =>
    cases closed
    rfl
  | first :: second :: rest =>
    have letters := remaindersStartWithLetter_moved k (first :: second :: rest)
    have constants := map_constant_moved k (first :: second :: rest)
    have segment : segmentPrefix? (first.moved k).constant.name = segmentPrefix? first.constant.name := rfl
    simp only [List.map_cons] at letters constants
    simp only [closeRun,List.map_cons,letters,constants,segment] at closed ⊢
    rw [← List.map_cons,← List.map_cons]
    cases found : segmentPrefix? first.constant.name with
    | none =>
      simp only [found] at closed
      cases closed
      rfl
    | some segment =>
      simp only [found] at closed
      simp only [Enumeration.ofConstants_moved]
      split at closed
      · rename_i good
        simp only [Bool.and_eq_true] at good
        obtain ⟨e,made,ended⟩ := bind_eq_ok.mp closed
        cases quiet : e.conflict?.isNone with
        | true =>
          simp only [quiet,↓reduceIte] at ended
          have added := Message.addEnumeration_below k name apart ended
          have free := (Message.addEnumeration_eq_ok.mp added).1
          rw [Enumeration.name_of_ofConstants made] at free
          simp only [good,free,Bool.and_self,↓reduceIte,made]
          exact bind_eq_ok.mpr ⟨e,rfl,by simpa only [quiet,↓reduceIte] using added⟩
        | false =>
          simp only [quiet,Bool.false_eq_true,↓reduceIte,pure_eq_ok] at ended
          subst ended
          split
          · exact bind_eq_ok.mpr ⟨e,made,by simp [quiet]⟩
          · rfl
      · rename_i bad
        cases closed
        rw [if_neg]
        intro good
        simp only [Bool.and_eq_true,Message.isFree_below k name] at good bad
        exact bad ⟨good.1,good.2.1⟩

/-- A group that can end does so below another message as well, if no enumeration of one has the name of one of the
    other. -/
theorem close_below {g : ConstantGroup} (closed : g.close m = .ok m') :
    (g.moved k).close (m.below before k) = .ok (m'.below before k) := by
  cases g with
  | block h members => exact closeBlock_below k name apart closed
  | run members => exact closeRun_below k name apart closed

theorem push_below {g g' : ConstantGroup} {c : GroupedConstant} (pushed : g.push c m = .ok (g',m')) :
    (g.moved k).push (c.moved k) (m.below before k) = .ok (g'.moved k,m'.below before k) := by
  cases g with
  | block h members =>
    simp only [push,map_eq_ok,Prod.mk.injEq] at pushed
    obtain ⟨members',more,rfl,rfl⟩ := pushed
    simp only [push,moved,extendBlock_moved,more]
    rfl
  | run members =>
    have groupable : isGroupable (c.moved k).constant = isGroupable c.constant := rfl
    have same : continues (members.map (GroupedConstant.moved k)) (c.moved k).constant = continues members c.constant :=
      continues_moved k members c.constant
    simp only [push,moved] at pushed ⊢
    cases on : continues members c.constant with
    | true =>
      rw [pushRun_of_continues m on] at pushed
      rw [pushRun_of_continues _ (same.trans on),groupable]
      cases pushed
      cases isGroupable c.constant <;> simp
    | false =>
      rw [pushRun_of_not_continues m on,map_eq_ok] at pushed
      obtain ⟨_,closed,ended⟩ := pushed
      cases ended
      rw [pushRun_of_not_continues _ (same.trans on),groupable,closeRun_below k name apart closed]
      cases isGroupable c.constant <;> rfl

end ConstantGroup

namespace ReadingState

/-- The state of reading below another message. -/
def below (s : ReadingState) (before : Message) (k : Nat) : ReadingState := ⟨s.group.moved k,s.message.below before k⟩

variable {s s' : ReadingState} {before : Message} (k : Nat) (name : s.message.name = before.name)
  (apart : s'.message.ApartFrom before)

include name apart

theorem close_below (closed : s.close = .ok s') : (s.below before k).close = .ok (s'.below before k) := by
  obtain ⟨ended,idle⟩ := close_eq_ok.mp closed
  refine close_eq_ok.mpr ⟨ConstantGroup.close_below k name apart ended,?_⟩
  show s'.group.moved k = _
  rw [idle]
  rfl

theorem settle_below {followsBlank : Bool} (settled : s.settle followsBlank = .ok s') :
    (s.below before k).settle followsBlank = .ok (s'.below before k) := by
  cases followsBlank with
  | true => exact close_below k name apart settled
  | false =>
    cases settled
    rfl

theorem enter_below {e : Entry} (entered : s.enter e = .ok s') :
    (s.below before k).enter (e.moved k) = .ok (s'.below before k) := by
  cases e with
  | header h =>
    obtain ⟨s₁,closed,opened⟩ := bind_eq_ok.mp entered
    cases opened
    have apart₁ : s₁.message.ApartFrom before := apart
    exact bind_eq_ok.mpr ⟨_,close_below k name apart₁ closed,rfl⟩
  | constant c =>
    obtain ⟨⟨g,m⟩,pushed,added⟩ := bind_eq_ok.mp entered
    cases added
    have apart₁ : m.ApartFrom before := apart
    refine bind_eq_ok.mpr ⟨_,ConstantGroup.push_below k name apart₁ pushed,?_⟩
    simp [below,Message.below,Message.addField,GroupedConstant.moved]
  | member f =>
    obtain ⟨s₁,closed,added⟩ := bind_eq_ok.mp entered
    cases added
    have apart₁ : s₁.message.ApartFrom before := apart
    refine bind_eq_ok.mpr ⟨_,close_below k name apart₁ closed,?_⟩
    simp [below,Message.below,Message.addField]

end ReadingState

namespace ReadingState

variable {s s' : ReadingState} {before : Message} (k : Nat)

/-- An entry is followed below another message as it is alone. -/
theorem follow_below (name : s.message.name = before.name) (apart : s'.message.ApartFrom before) {e : PlacedEntry}
    (followed : s.follow e = .ok s') : (s.below before k).follow (e.moved k) = .ok (s'.below before k) := by
  obtain ⟨s₁,settled,entered⟩ := bind_eq_ok.mp followed
  have name₁ : s₁.message.name = before.name := by rw [settle_keeps settled]; exact name
  have apart₁ := apart.mono (enter_grows entered)
  exact bind_eq_ok.mpr ⟨_,settle_below k name apart₁ settled,enter_below k name₁ apart entered⟩

theorem followAll_below (name : s.message.name = before.name) {es : List PlacedEntry}
    (apart : s'.message.ApartFrom before) (followed : es.foldlM follow s = .ok s') :
    (es.map (PlacedEntry.moved k)).foldlM follow (s.below before k) = .ok (s'.below before k) := by
  induction es generalizing s with
  | nil =>
    obtain rfl := pure_eq_ok.mp followed
    rfl
  | cons e es ih =>
    rw [List.foldlM_cons] at followed
    obtain ⟨s₁,first,rest⟩ := bind_eq_ok.mp followed
    have name₁ : s₁.message.name = before.name := by rw [follow_appends first]; exact name
    rw [List.map_cons,List.foldlM_cons]
    exact bind_eq_ok.mpr ⟨_,follow_below k name (apart.mono (followAll_grows rest)) first,ih name₁ rest⟩

theorem close_of_idle (idle : s.group = .idle) : s.close = .ok s := by
  obtain ⟨_,m⟩ := s
  subst idle
  rfl

/-- A blank line above some entries ends the group in front of them. -/
theorem followAll_afterBlank {es : List PlacedEntry} {t t' : ReadingState} (closed : s.close = .ok s')
    (followed : es.foldlM follow s' = .ok t) (ended : t.close = .ok t') :
    ∃ r, (es.modifyHead PlacedEntry.afterBlank).foldlM follow s = .ok r ∧ r.close = .ok t' := by
  have idle : s'.close = .ok s' := close_of_idle (close_eq_ok.mp closed).2
  cases es with
  | nil =>
    obtain rfl := pure_eq_ok.mp followed
    obtain rfl := Except.ok.inj (idle.symm.trans ended)
    exact ⟨s,rfl,closed⟩
  | cons e es =>
    refine ⟨t,?_,ended⟩
    rw [List.foldlM_cons] at followed
    obtain ⟨s₁,first,rest⟩ := bind_eq_ok.mp followed
    obtain ⟨s₂,settled,entered⟩ := bind_eq_ok.mp first
    -- The group that is open here is empty, so that it does not matter what the entry says of blank lines.
    obtain rfl : s₂ = s' := by
      cases blank : e.followsBlank with
      | true =>
        rw [blank] at settled
        exact Except.ok.inj (settled.symm.trans idle)
      | false =>
        rw [blank] at settled
        exact (Except.ok.inj settled).symm
    rw [List.modifyHead_cons,List.foldlM_cons]
    exact bind_eq_ok.mpr ⟨s₁,bind_eq_ok.mpr ⟨s₂,closed,entered⟩,rest⟩

end ReadingState

namespace Message

theorem apartFrom_nil {m before : Message} (none : before.enumerations = []) : m.ApartFrom before := by
  intro e member
  rw [none] at member
  cases member

theorem below_start {package name source : String} {before : Message} (k : Nat) :
    ReadingState.below ⟨.idle,Message.start package name source⟩ before k = ⟨.idle,before⟩ := by
  simp [ReadingState.below,below,Message.start,ConstantGroup.idle,ConstantGroup.moved]

/-- Following the entries of a definition below another message adds what the definition makes alone. -/
theorem follow_below {package name source : String} {es : List PlacedEntry} {s : ReadingState} {m before : Message}
    (k : Nat) (same : name = before.name) (apart : m.ApartFrom before)
    (followed : es.foldlM ReadingState.follow ⟨.idle,Message.start package name source⟩ = .ok s)
    (closed : s.group.close s.message = .ok m) :
    ∃ t, (es.map (PlacedEntry.moved k)).foldlM ReadingState.follow ⟨.idle,before⟩ = .ok t ∧
      t.close = .ok ⟨.idle,m.below before k⟩ := by
  have ended : s.close = .ok ⟨.idle,m⟩ := ReadingState.close_eq_ok.mpr ⟨closed,rfl⟩
  have name_eq : s.message.name = before.name := by
    rw [ReadingState.followAll_appends followed]
    exact same
  refine ⟨s.below before k,?_,ReadingState.close_below k name_eq apart ended⟩
  rw [← below_start k]
  exact ReadingState.followAll_below k same (apart.mono (ConstantGroup.close_grows closed)) followed

/-- Reading two definitions with a blank line between them, where no enumeration of one has the name of one of the
    other, is reading both: the fields and the enumerations of the second one come after those of the first one, and
    the fields keep all but their lines, which are further down by the lines above. -/
theorem read_joined {package name source source' : String} {m m' : Message}
    (first : Message.read package name source = .ok m) (second : Message.read package name source' = .ok m')
    (apart : ∀ e ∈ m.enumerations, ∀ e' ∈ m'.enumerations, e.name ≠ e'.name) :
    ∃ j, Message.read package name (source ++ "\n\n" ++ source') = .ok j ∧
      j.fields = m.fields ++ m'.fields.map (Field.moved (source.toList.count '\n' + 2)) ∧
      j.enumerations = m.enumerations ++ m'.enumerations := by
  obtain ⟨package_ok,name_ok,es,s,entries,followed,closed⟩ := Message.read_eq_ok.mp first
  obtain ⟨_,_,es',s',entries',followed',closed'⟩ := Message.read_eq_ok.mp second
  let k := source.toList.count '\n' + 2
  let start := Message.start package name (source ++ "\n\n" ++ source')
  -- The message of the first definition alone may have another comment at its top.
  let upper := m.below start 0
  have one : upper.fields = m.fields ∧ upper.enumerations = m.enumerations := by
    refine ⟨?_,rfl⟩
    exact List.map_id'' (fun _ => rfl) m.fields
  obtain ⟨t,ran,ended⟩ := follow_below 0 (show name = start.name from rfl) (apartFrom_nil rfl) followed closed
  rw [PlacedEntry.map_moved_zero] at ran
  have apart' : m'.ApartFrom upper := by
    unfold ApartFrom
    rw [one.2]
    exact apart
  obtain ⟨t',ran',ended'⟩ := follow_below k rfl apart' followed' closed'
  obtain ⟨r,rest,whole⟩ := ReadingState.followAll_afterBlank ended ran' ended'
  refine ⟨m'.below upper k,?_,?_,?_⟩
  · refine Message.read_eq_ok.mpr ⟨package_ok,name_ok,_,r,SourceText.entries_joined entries entries',?_,
      (ReadingState.close_eq_ok.mp whole).1⟩
    rw [List.foldlM_append]
    exact bind_eq_ok.mpr ⟨t,ran,rest⟩
  · show upper.fields ++ _ = _
    rw [one.1]
  · show upper.enumerations ++ _ = _
    rw [one.2]

/-- A block that the end of the first definition ends, and below it a run that makes an enumeration and one whose name
    is taken. -/
theorem read_joined_block_and_runs :
    let source := "# Above.\n@enum Mode\nuint8 MODE_OFF=0\r"
    let source' := "uint8 MODE_ON=1\nuint8 KIND_A=0\nuint8 KIND_B=1 # last\nuint8 STATE_A=0\nuint8 STATE_B=1\n\nint32 x"
    let constant := fun name n line => Field.mk name (.ofPrimitive .uint8) (.constant (.integer n)) none line
    let m : Message := ⟨"test_msgs","State","Above.",[constant "MODE_OFF" 0 3],
      [⟨"Mode",.uint8,[⟨"MODE_OFF",0,none⟩],none,true⟩]⟩
    let m' : Message := ⟨"test_msgs","State","",
      [constant "MODE_ON" 1 1,constant "KIND_A" 0 2,(constant "KIND_B" 1 3).declaredAt (some "last") 3,
        constant "STATE_A" 0 4,constant "STATE_B" 1 5,⟨"x",.ofPrimitive .int32,.member none,none,7⟩],
      [⟨"Kind",.uint8,[⟨"KIND_A",0,none⟩,⟨"KIND_B",1,some "last"⟩],none,false⟩]⟩
    Message.read "test_msgs" "State" source = .ok m ∧ Message.read "test_msgs" "State" source' = .ok m' ∧
      (∀ e ∈ m.enumerations, ∀ e' ∈ m'.enumerations, e.name ≠ e'.name) ∧
      ∃ j, Message.read "test_msgs" "State" (source ++ "\n\n" ++ source') = .ok j ∧
        j.fields = m.fields ++ m'.fields.map (Field.moved (source.toList.count '\n' + 2)) ∧
        j.enumerations = m.enumerations ++ m'.enumerations := by
  intro source source' constant m m'
  have first : Message.read "test_msgs" "State" source = .ok m := by decide +kernel
  have second : Message.read "test_msgs" "State" source' = .ok m' := by decide +kernel
  have apart : ∀ e ∈ m.enumerations, ∀ e' ∈ m'.enumerations, e.name ≠ e'.name := by decide
  exact ⟨first,second,apart,read_joined first second apart⟩

end Message

end MsgBindings
