import MsgBindings.Proofs.EntriesOfLines
import MsgBindings.Proofs.EnumerationValues
import MsgBindings.Proofs.Segments

/-!
Which enumerations the constants of a definition are gathered into. The entries of a definition are
cut into groups (`groups`): the constants after a header, and the longest runs of integer constants
that have their type and the first segment of their names in common. The enumerations of the message
are what these groups make, one after the other (`enumerations_of_groups`).
-/
namespace MsgBindings

/-- Constants that may make an enumeration. -/
inductive Group where
  /-- The constants after a header. -/
  | block (header : EnumHeader) (constants : List Field)
  /-- Integer constants in a row whose names begin with one segment. -/
  | run (segment : List Char) (constants : List Field)
  deriving DecidableEq, Repr

/-- What the constants of a run have in common: the type and the first segment of the name. Only an
    integer whose name goes on after the segment has these. -/
def runKey? (c : Field) : Option (BaseType × List Char) :=
  if c.integer?.isSome ∧ remainder c.name ≠ [] then some (c.type.base,firstSegment c.name) else none

namespace PlacedEntry

def goesOn (p : Field → Bool) (e : PlacedEntry) : Bool :=
  !e.followsBlank &&
    match e.entry with
    | .constant c => p c.constant
    | _ => false

/-- The constants without a blank line above that entries begin with, as long as `p` holds of them. -/
def leading (p : Field → Bool) (es : List PlacedEntry) : List Field :=
  (es.takeWhile (goesOn p)).filterMap fun e => e.entry.field?

def afterLeading (p : Field → Bool) (es : List PlacedEntry) : List PlacedEntry := es.dropWhile (goesOn p)

theorem length_afterLeading (p : Field → Bool) (es : List PlacedEntry) :
    (afterLeading p es).length ≤ es.length := (List.dropWhile_sublist _).length_le

/-- The groups of entries, in order. -/
def groups : List PlacedEntry → List Group
  | [] => []
  | e :: es =>
    match e.entry with
    | .header h => .block h (leading (fun _ => true) es) :: groups (afterLeading (fun _ => true) es)
    | .member _ => groups es
    | .constant c =>
      match runKey? c.constant with
      | none => groups es
      | some key =>
        let alike := fun d => runKey? d == some key
        .run key.2 (c.constant :: leading alike es) :: groups (afterLeading alike es)
termination_by es => es.length
decreasing_by
  · exact Nat.lt_succ_of_le (length_afterLeading _ es)
  · exact Nat.lt_succ_self _
  · exact Nat.lt_succ_self _
  · exact Nat.lt_succ_of_le (length_afterLeading _ es)

end PlacedEntry

/-- The enumerations of a message after a group. A block always makes one. A run makes one if it has
    two constants or more, their names go on with a letter, the name of the enumeration is free and no
    number or variant comes twice. -/
def Group.add (message : String) (made : List Enumeration) : Group → Option (List Enumeration)
  | block h constants =>
    (Enumeration.gather? h.name h.comment true constants).map fun e => made ++ [e]
  | run segment constants =>
    if 2 ≤ constants.length ∧ (∀ c ∈ constants, (remainder c.name).head?.any Char.isAlpha = true) ∧
        camel segment ≠ message ∧ ∀ e ∈ made, e.name ≠ camel segment then
      (Enumeration.gather? (camel segment) none false constants).map fun e =>
        if (e.values.map EnumValue.number).Nodup ∧ e.variantNames.Nodup then made ++ [e] else made
    else some made

/-! ### The group that is being read -/

/-- A constant as it is read: its name is the name of a constant, and it is an integer exactly if its
    type is an integer type. -/
def WellRead (c : Field) : Prop :=
  isConstantName c.name = true ∧ c.integer?.isSome = c.type.base.primitive?.any Primitive.isInteger

theorem runKey?_eq_some {c : Field} {key : BaseType × List Char} :
    runKey? c = some key ↔
      c.integer?.isSome = true ∧ remainder c.name ≠ [] ∧ c.type.base = key.1 ∧ firstSegment c.name = key.2 := by
  unfold runKey?
  split
  · rename_i both
    simp [both,Prod.ext_iff]
  · rename_i neither
    simp only [reduceCtorEq,false_iff]
    exact fun all => neither ⟨all.1,all.2.1⟩

theorem isGroupable_eq {c : Field} (read : WellRead c) :
    ConstantGroup.isGroupable c = (runKey? c).isSome := by
  unfold ConstantGroup.isGroupable runKey?
  rw [segmentPrefix?_eq read.1]
  cases c.integer?.isSome <;> by_cases rest : remainder c.name = [] <;> simp [rest]

namespace ConstantGroup

/-- Which constants go on with a group. -/
def alike : ConstantGroup → Field → Bool
  | block _ _, _ => true
  | run [], _ => false
  | run (first :: _), c => runKey? c == runKey? first.constant

def extended : ConstantGroup → List Field → Option Group
  | block h members, cs => some (.block h (members.map (·.constant) ++ cs))
  | run [], _ => none
  | run (first :: rest), cs =>
    some (.run (firstSegment first.constant.name) ((first :: rest).map (·.constant) ++ cs))

/-- The groups of a group that is being read and the entries after it. -/
def groupsWith (g : ConstantGroup) (es : List PlacedEntry) : List Group :=
  (g.extended (PlacedEntry.leading g.alike es)).toList ++ PlacedEntry.groups (PlacedEntry.afterLeading g.alike es)

def grow : ConstantGroup → GroupedConstant → ConstantGroup
  | block h members, c => block h (members ++ [c])
  | run members, c => run (members ++ [c])

def opened : Entry → ConstantGroup
  | .header h => block h []
  | .constant c => run (if isGroupable c.constant then [c] else [])
  | .member _ => idle

/-- The constants of a run have a key in common. -/
def IsRun : ConstantGroup → Prop
  | block _ _ => True
  | run members => ∃ key, ∀ c ∈ members, WellRead c.constant ∧ runKey? c.constant = some key

end ConstantGroup

def Entry.WellRead : Entry → Prop
  | .constant c => MsgBindings.WellRead c.constant
  | _ => True

namespace ConstantGroup

open PlacedEntry

variable {g : ConstantGroup} {e : PlacedEntry} {es : List PlacedEntry}

theorem groupsWith_nil (g : ConstantGroup) : g.groupsWith [] = (g.extended []).toList := by
  simp [groupsWith,leading,afterLeading,groups]

/-- An entry that does not go on with a group comes after it. -/
theorem groupsWith_of_stop (stop : goesOn g.alike e = false) :
    g.groupsWith (e :: es) = (g.extended []).toList ++ groups (e :: es) := by
  simp [groupsWith,leading,afterLeading,stop]

/-- An entry that goes on with a group is a constant of it. -/
theorem groupsWith_of_goesOn {c : GroupedConstant} (on : goesOn g.alike e = true)
    (entry : e.entry = .constant c) : g.groupsWith (e :: es) = (g.grow c).groupsWith es := by
  have kind : (g.grow c).alike = g.alike := by
    cases g with
    | block h members => rfl
    | run members =>
      cases members with
      | nil => simp [goesOn,entry,alike] at on
      | cons first rest => rfl
  have more : ∀ cs, g.extended (c.constant :: cs) = (g.grow c).extended cs := by
    intro cs
    cases g with
    | block h members => simp [extended,grow]
    | run members =>
      cases members with
      | nil => simp [goesOn,entry,alike] at on
      | cons first rest => simp [extended,grow]
  simp [groupsWith,leading,afterLeading,on,entry,Entry.field?,kind,more]

theorem groupsWith_idle (es : List PlacedEntry) : idle.groupsWith es = groups es := by
  cases es with
  | nil => simp [groupsWith_nil,idle,extended,groups]
  | cons e es =>
    have stop : goesOn idle.alike e = false := by
      unfold goesOn
      cases e.entry <;> simp [idle,alike]
    rw [groupsWith_of_stop stop]
    rfl

theorem groups_cons (read : e.entry.WellRead) : groups (e :: es) = (opened e.entry).groupsWith es := by
  rw [groups]
  cases entry : e.entry with
  | header h => rfl
  | member f => exact (groupsWith_idle es).symm
  | constant c =>
    rw [entry] at read
    simp only [opened,isGroupable_eq read]
    cases key : runKey? c.constant with
    | none => exact (groupsWith_idle es).symm
    | some common =>
      have kind : (run [c]).alike = fun d => runKey? d == some common := by
        funext d
        simp [alike,key]
      obtain ⟨_,_,_,segment⟩ := runKey?_eq_some.mp key
      simp [groupsWith,extended,kind,segment]

/-! ### Constants that go on with a group -/

theorem continues_run {first c : GroupedConstant} {rest : List GroupedConstant}
    (isRun : IsRun (run (first :: rest))) (read : WellRead c.constant) :
    continues (first :: rest) c.constant = (runKey? c.constant == runKey? first.constant) := by
  obtain ⟨key,members⟩ := isRun
  obtain ⟨last,lastEq⟩ : ∃ last, (first :: rest).getLast? = some last :=
    Option.isSome_iff_exists.mp (by simp)
  obtain ⟨⟨named,whole⟩,lastKey⟩ := members last (List.mem_of_getLast? lastEq)
  obtain ⟨integer,more,type,segment⟩ := runKey?_eq_some.mp lastKey
  rw [(members first (by simp)).2]
  unfold continues
  simp only [lastEq,segmentPrefix?_eq named,segmentPrefix?_eq read.1,if_neg more]
  rw [Bool.eq_iff_iff,Bool.and_eq_true,beq_iff_eq,beq_iff_eq,beq_iff_eq,runKey?_eq_some,type,segment]
  -- The reader compares with the last constant only, and does not ask whether the new one is an integer:
  -- its type says so.
  constructor
  · rintro ⟨sameType,sameSegment⟩
    have someRest : remainder c.constant.name ≠ [] := by
      intro none
      simp [none] at sameSegment
    rw [if_neg someRest] at sameSegment
    refine ⟨?_,someRest,sameType.symm,?_⟩
    · rw [read.2,← sameType,← type,← whole,integer]
    · simpa using congrArg (Option.map String.toList) sameSegment.symm
  · rintro ⟨_,someRest,sameType,sameSegment⟩
    rw [if_neg someRest,sameType,sameSegment]
    exact ⟨rfl,rfl⟩

theorem extendBlock_eq_ok {members members' : List GroupedConstant} {c : GroupedConstant}
    (more : extendBlock members c = .ok members') : members' = members ++ [c] := by
  unfold extendBlock at more
  dsimp only at more
  split at more
  · cases more
  · split at more
    · cases more
      rfl
    · split at more <;> cases more
      rfl

/-- A constant that goes on with a group joins it, and the message stays as it is. -/
theorem push_of_alike {c : GroupedConstant} {m : Message} {pushed : ConstantGroup × Message} (isRun : g.IsRun)
    (read : WellRead c.constant) (kind : g.alike c.constant = true) (push : g.push c m = .ok pushed) :
    pushed = (g.grow c,m) ∧ (g.grow c).IsRun := by
  cases g with
  | block h members =>
    obtain ⟨members',more,rfl⟩ := map_eq_ok.mp push
    exact ⟨by rw [extendBlock_eq_ok more]; rfl,trivial⟩
  | run members =>
    cases members with
    | nil => simp [alike] at kind
    | cons first rest =>
      have same : runKey? c.constant = runKey? first.constant := by simpa [alike] using kind
      have continued : continues (first :: rest) c.constant = true := by
        rw [continues_run isRun read,same]
        simp
      obtain ⟨key,members⟩ := isRun
      have keyed : runKey? c.constant = some key := by rw [same,(members first (by simp)).2]
      have groupable : isGroupable c.constant = true := by
        rw [isGroupable_eq read,keyed]
        rfl
      rw [ConstantGroup.push,pushRun_of_continues m continued,if_pos groupable] at push
      cases push
      refine ⟨rfl,key,fun d member => ?_⟩
      rcases List.mem_append.mp member with old | new
      · exact members d old
      · obtain rfl := List.mem_singleton.mp new
        exact ⟨read,keyed⟩

/-- Following an entry that goes on with a group makes the group grow and adds no enumeration. -/
theorem follow_of_goesOn {m : Message} {s' : ReadingState} (isRun : g.IsRun) (read : e.entry.WellRead)
    (on : goesOn g.alike e = true) (followed : ReadingState.follow ⟨g,m⟩ e = .ok s') :
    ∃ c, e.entry = .constant c ∧ s'.group = g.grow c ∧ s'.group.IsRun ∧
      s'.message.enumerations = m.enumerations := by
  unfold goesOn at on
  cases entry : e.entry with
  | header h => simp [entry] at on
  | member f => simp [entry] at on
  | constant c =>
    simp only [entry,Bool.and_eq_true,Bool.not_eq_true'] at on
    obtain ⟨plain,kind⟩ := on
    rw [entry] at read
    simp only [ReadingState.follow,ReadingState.settle,plain,Bool.false_eq_true,↓reduceIte,bind_eq_ok,
      Except.ok.injEq,exists_eq_left',entry,ReadingState.enter,pure_eq_ok] at followed
    obtain ⟨pushed,push,rfl⟩ := followed
    obtain ⟨rfl,grown⟩ := push_of_alike isRun read kind push
    exact ⟨c,rfl,rfl,grown,rfl⟩

/-! ### Entries that end a group -/

/-- Constants that are not there have every key in common. -/
theorem isRun_idle : idle.IsRun := ⟨⟨.primitive .bool none,[]⟩,by simp⟩

theorem isRun_opened (read : e.entry.WellRead) : (opened e.entry).IsRun := by
  cases entry : e.entry with
  | header h => trivial
  | member f => exact isRun_idle
  | constant c =>
    rw [entry] at read
    simp only [opened,isGroupable_eq read]
    cases key : runKey? c.constant with
    | none => exact isRun_idle
    | some common =>
      refine ⟨common,fun d member => ?_⟩
      obtain rfl : d = c := by simpa using member
      exact ⟨read,key⟩

theorem enter_idle {m : Message} {s' : ReadingState} {entry : Entry}
    (entered : ReadingState.enter ⟨idle,m⟩ entry = .ok s') :
    s'.group = opened entry ∧ s'.message.enumerations = m.enumerations := by
  have closed : ReadingState.close ⟨idle,m⟩ = .ok ⟨idle,m⟩ := rfl
  cases entry with
  | header h =>
    simp only [ReadingState.enter,closed] at entered
    cases entered
    exact ⟨rfl,rfl⟩
  | member f =>
    simp only [ReadingState.enter,closed] at entered
    cases entered
    exact ⟨rfl,rfl⟩
  | constant c =>
    have pushed : idle.push c m = .ok (opened (.constant c),m) := rfl
    simp only [ReadingState.enter,pushed] at entered
    cases entered
    exact ⟨rfl,rfl⟩

/-- Following an entry that does not go on with a group is ending the group and opening one. -/
theorem follow_of_stop {m : Message} {s' : ReadingState} (isRun : g.IsRun) (read : e.entry.WellRead)
    (stop : goesOn g.alike e = false) (followed : ReadingState.follow ⟨g,m⟩ e = .ok s') :
    ∃ m', g.close m = .ok m' ∧ s'.group = opened e.entry ∧ s'.message.enumerations = m'.enumerations := by
  obtain ⟨s,settled,entered⟩ := bind_eq_ok.mp followed
  cases blank : e.followsBlank with
  | true =>
    rw [blank] at settled
    obtain ⟨closed,idle⟩ := ReadingState.close_eq_ok.mp settled
    obtain ⟨_,m'⟩ := s
    subst idle
    exact ⟨m',closed,enter_idle entered⟩
  | false =>
    rw [blank] at settled
    cases settled
    cases entry : e.entry with
    | header h =>
      simp only [entry,ReadingState.enter,bind_eq_ok,pure_eq_ok] at entered
      obtain ⟨s,closed,rfl⟩ := entered
      exact ⟨s.message,(ReadingState.close_eq_ok.mp closed).1,rfl,rfl⟩
    | member f =>
      simp only [entry,ReadingState.enter,bind_eq_ok,pure_eq_ok] at entered
      obtain ⟨s,closed,rfl⟩ := entered
      obtain ⟨ended,none⟩ := ReadingState.close_eq_ok.mp closed
      exact ⟨s.message,ended,none,rfl⟩
    | constant c =>
      rw [entry] at read
      simp only [goesOn,blank,entry,Bool.not_false,Bool.true_and] at stop
      simp only [entry,ReadingState.enter,bind_eq_ok,pure_eq_ok] at entered
      obtain ⟨⟨g',m'⟩,pushed,rfl⟩ := entered
      cases g with
      | block h members => simp [alike] at stop
      | run members =>
        have other : continues members c.constant = false := by
          cases members with
          | nil => rfl
          | cons first rest => rw [continues_run isRun read]; exact stop
        rw [push,pushRun_of_not_continues m other,map_eq_ok] at pushed
        obtain ⟨_,closed,same⟩ := pushed
        cases same
        exact ⟨_,closed,rfl,rfl⟩

/-! ### What a group makes -/

theorem isFree_iff {m : Message} {name : String} :
    m.isFree name = true ↔ name ≠ m.name ∧ ∀ e ∈ m.enumerations, e.name ≠ name := by
  simp [Message.isFree,Message.enumeration?]

theorem remaindersStartWithLetter_iff {members : List GroupedConstant} :
    remaindersStartWithLetter members = true ↔
      ∀ c ∈ members, (remainder c.constant.name).head?.any Char.isAlpha = true := by
  unfold remaindersStartWithLetter
  rw [List.all_eq_true]
  refine forall_congr' fun c => forall_congr' fun _ => ?_
  rw [Text.splitFirst_eq,remainder]
  have same : (fun c => !(c == '_')) = fun c : Char => c != '_' := rfl
  rw [same]
  cases c.constant.name.toList.dropWhile fun c => c != '_' with
  | nil => simp
  | cons mark after => cases after <;> simp

theorem closeRun_adds {members : List GroupedConstant} {m m' : Message} (isRun : (run members).IsRun)
    (closed : closeRun members m = .ok m') :
    ((run members).extended []).toList.foldlM (Group.add m.name) m.enumerations = some m'.enumerations := by
  cases members with
  | nil =>
    cases closed
    rfl
  | cons first rest =>
    obtain ⟨key,members⟩ := isRun
    obtain ⟨⟨named,whole⟩,firstKey⟩ := members first (by simp)
    obtain ⟨integer,more,type,segment⟩ := runKey?_eq_some.mp firstKey
    simp only [extended,List.append_nil,Option.toList_some,List.foldlM_cons,List.foldlM_nil,bind_pure]
    cases rest with
    | nil =>
      cases closed
      simp [Group.add]
    | cons second rest =>
      have good : isMessageName (camel (firstSegment first.constant.name)) = true := isMessageName_camel named
      simp only [closeRun,segmentPrefix?_eq named,if_neg more,String.toList_ofList] at closed
      rw [← camel] at closed
      simp only [good,Bool.and_true,Bool.and_eq_true,remaindersStartWithLetter_iff,isFree_iff] at closed
      have long : 2 ≤ ((first :: second :: rest).map (·.constant)).length := by simp
      simp only [Group.add,long,true_and,List.forall_mem_map]
      split at closed
      · rename_i free
        obtain ⟨e,made,added⟩ := bind_eq_ok.mp closed
        obtain ⟨_,gathered,_⟩ := Enumeration.ofConstants_eq_ok.mp made
        rw [if_pos free,gathered,Option.map_some]
        simp only [Option.isNone_iff_eq_none,Enumeration.conflict?_eq_none] at added
        split at added
        · rename_i apart
          obtain ⟨_,rfl⟩ := Message.addEnumeration_eq_ok.mp added
          rw [if_pos apart]
        · rename_i repeated
          cases added
          rw [if_neg repeated]
      · rename_i taken
        cases closed
        rw [if_neg taken]

/-- Integers of one type make an enumeration under every good name. -/
theorem ofConstants_of_key {name : String} (comment : Option String) (explicit : Bool) {cs : List Field}
    {key : BaseType × List Char} (named : isMessageName name = true) (nonempty : cs ≠ [])
    (read : ∀ c ∈ cs, WellRead c ∧ runKey? c = some key) :
    ∃ e, Enumeration.ofConstants name cs comment explicit = .ok e ∧ e.name = name := by
  have typed : ∀ c ∈ cs, c.type.base = key.1 ∧ c.integer?.isSome = true := by
    intro c member
    obtain ⟨integer,_,type,_⟩ := runKey?_eq_some.mp (read c member).2
    exact ⟨type,integer⟩
  obtain ⟨first,rest,rfl⟩ := List.exists_cons_of_ne_nil nonempty
  obtain ⟨p,primitive,whole⟩ : ∃ p, key.1.primitive? = some p ∧ p.isInteger = true := by
    have integer := (read first (by simp)).1.2
    rw [(typed first (by simp)).1,(typed first (by simp)).2] at integer
    cases primitive : key.1.primitive? with
    | none => simp [primitive] at integer
    | some p => exact ⟨p,rfl,by simpa [primitive] using integer.symm⟩
  have gathered : Enumeration.gather? name comment explicit (first :: rest) =
      some ⟨name,p,(first :: rest).filterMap Field.enumValue?,comment,explicit⟩ := by
    have alike : ((first :: rest).all fun d =>
        d.type.base.primitive? == some p && d.integer?.isSome) = true := by
      rw [List.all_eq_true]
      intro d member
      simp [typed d member,primitive]
    rw [Enumeration.gather?]
    simp only [(typed first (by simp)).1,primitive,bind,Option.bind,alike,↓reduceIte]
  exact ⟨_,Enumeration.ofConstants_eq_ok.mpr ⟨named,gathered,whole⟩,rfl⟩

/-- Ending a run never fails: what speaks against its enumeration is looked at first. -/
theorem closeRun_ok {members : List GroupedConstant} (isRun : (run members).IsRun) (m : Message) :
    ∃ m', closeRun members m = .ok m' := by
  unfold closeRun
  split
  · exact ⟨m,rfl⟩
  · exact ⟨m,rfl⟩
  · rename_i first rest _
    obtain ⟨key,members⟩ := isRun
    split
    · exact ⟨m,rfl⟩
    · rename_i segment _
      dsimp only
      split
      · rename_i good
        simp only [Bool.and_eq_true] at good
        obtain ⟨⟨_,named⟩,free⟩ := good
        have keyed : ∀ c ∈ (first :: rest).map (·.constant), WellRead c ∧ runKey? c = some key := by
          simpa using members
        obtain ⟨e,made,name⟩ := ofConstants_of_key none false named (by simp) keyed
        rw [← name] at free
        have added := Message.addEnumeration_eq_ok.mpr ⟨free,rfl⟩
        cases quiet : e.conflict?.isNone with
        | true => exact ⟨_,bind_eq_ok.mpr ⟨e,made,by simpa only [quiet,↓reduceIte] using added⟩⟩
        | false => exact ⟨m,bind_eq_ok.mpr ⟨e,made,by simp [quiet]⟩⟩
      · exact ⟨m,rfl⟩

/-- Ending a group adds the enumeration that the group makes. -/
theorem close_adds {m m' : Message} (isRun : g.IsRun) (closed : g.close m = .ok m') :
    (g.extended []).toList.foldlM (Group.add m.name) m.enumerations = some m'.enumerations := by
  cases g with
  | block h members =>
    obtain ⟨e,made,_,added⟩ := closeBlock_eq_ok.mp closed
    obtain ⟨_,gathered,_⟩ := Enumeration.ofConstants_eq_ok.mp made
    obtain ⟨_,rfl⟩ := Message.addEnumeration_eq_ok.mp added
    simp [extended,Group.add,gathered]
  | run members => exact closeRun_adds isRun closed

end ConstantGroup

/-! ### Reading a whole definition -/

theorem wellRead_of_placedEntry {package : String} {line : SourceLine} {e : PlacedEntry}
    (read : line.placedEntry package = .ok e) : e.entry.WellRead := by
  obtain ⟨blank,entry⟩ := e
  cases SourceLine.makes_of_placedEntry read with
  | header declares => exact True.intro
  | member declares typed made => exact True.intro
  | constant declares typed made =>
    have whole := Field.isSome_integer?_of_constant made
    obtain ⟨p,bound,v,rfl,named,_,rfl⟩ := Field.constant_eq_ok.mp made
    exact ⟨named,whole⟩

/-- What holds of every entry that a line makes holds of all entries of lines. -/
theorem forall_of_entries {package : String} {lines : List (Except DefinitionError SourceLine)}
    {p : PlacedEntry → Prop} {es : List PlacedEntry}
    (each : ∀ {line : SourceLine} {e : PlacedEntry}, line.placedEntry package = .ok e → p e)
    (read : lines.mapM (fun line => line >>= SourceLine.placedEntry package) = .ok es) : ∀ e ∈ es, p e := by
  intro e member
  obtain ⟨_,_,reads⟩ := exists_of_mem_right (mapM_eq_ok.mp read) member
  obtain ⟨line,_,placed⟩ := bind_eq_ok.mp reads
  exact each placed

theorem wellRead_of_entries {package : String} {lines : List (Except DefinitionError SourceLine)}
    {es : List PlacedEntry} (read : lines.mapM (fun line => line >>= SourceLine.placedEntry package) = .ok es) :
    ∀ e ∈ es, e.entry.WellRead :=
  forall_of_entries wellRead_of_placedEntry read

/-- Entries and the end of the definition after them add the enumerations of their groups, with the
    group that is being read in front. -/
theorem followAll_adds {es : List PlacedEntry} {s s' : ReadingState} {m : Message} (isRun : s.group.IsRun)
    (read : ∀ e ∈ es, e.entry.WellRead) (followed : es.foldlM ReadingState.follow s = .ok s')
    (closed : s'.group.close s'.message = .ok m) :
    (s.group.groupsWith es).foldlM (Group.add s.message.name) s.message.enumerations = some m.enumerations := by
  -- The state changes with every entry; that its group is a run with one key carries over.
  induction es generalizing s with
  | nil =>
    obtain rfl := pure_eq_ok.mp followed
    rw [ConstantGroup.groupsWith_nil]
    exact ConstantGroup.close_adds isRun closed
  | cons e es ih =>
    rw [List.foldlM_cons] at followed
    obtain ⟨s₁,first,rest⟩ := bind_eq_ok.mp followed
    have name : s₁.message.name = s.message.name := by rw [ReadingState.follow_appends first]
    simp only [List.mem_cons,forall_eq_or_imp] at read
    obtain ⟨entryRead,read⟩ := read
    cases on : PlacedEntry.goesOn s.group.alike e with
    | true =>
      obtain ⟨c,entry,grown,isRun₁,same⟩ := ConstantGroup.follow_of_goesOn isRun entryRead on first
      have all := ih isRun₁ read rest
      rw [grown,name,same] at all
      rw [ConstantGroup.groupsWith_of_goesOn on entry]
      exact all
    | false =>
      obtain ⟨m₁,ended,opened,same⟩ := ConstantGroup.follow_of_stop isRun entryRead on first
      have all := ih (by rw [opened]; exact ConstantGroup.isRun_opened entryRead) read rest
      rw [opened,name,same] at all
      rw [ConstantGroup.groupsWith_of_stop on,ConstantGroup.groups_cons entryRead,List.foldlM_append,
        ConstantGroup.close_adds isRun ended]
      exact all

/-- The enumerations of a message are those that the groups of its definition make. -/
theorem enumerations_of_groups {package name source : String} {m : Message}
    (read : Message.read package name source = .ok m) :
    ∃ es, PlacedEntry.readAll package source = .ok es ∧
      List.Forall₂ (EntryOf package (Text.lines source.toList)) (SourceText.declaring source) es ∧
      (PlacedEntry.groups es).foldlM (Group.add name) [] = some m.enumerations := by
  obtain ⟨_,_,es,s,entries,followed,closed⟩ := Message.read_eq_ok.mp read
  refine ⟨es,entries,entries_of_lines entries,?_⟩
  have isRun : ConstantGroup.idle.IsRun := ⟨⟨.primitive .bool none,[]⟩,by simp⟩
  have all := followAll_adds isRun (wellRead_of_entries entries) followed closed
  rw [ConstantGroup.groupsWith_idle] at all
  exact all

/-- A block, and after it a run that makes an enumeration and one that does not. -/
theorem enumerations_of_block_and_runs :
    let source := "@enum Mode\nuint8 MODE_ON=1\n\nuint8 KIND_A=0\nuint8 KIND_B=1 # last\nuint8 OTHER_A=2\n"
    let m : Message := ⟨"test_msgs","State","",
      [⟨"MODE_ON",⟨.primitive .uint8 none,none⟩,.constant (.integer 1),none,2⟩,
        ⟨"KIND_A",⟨.primitive .uint8 none,none⟩,.constant (.integer 0),none,4⟩,
        ⟨"KIND_B",⟨.primitive .uint8 none,none⟩,.constant (.integer 1),some "last",5⟩,
        ⟨"OTHER_A",⟨.primitive .uint8 none,none⟩,.constant (.integer 2),none,6⟩],
      [⟨"Mode",.uint8,[⟨"MODE_ON",1,none⟩],none,true⟩,
        ⟨"Kind",.uint8,[⟨"KIND_A",0,none⟩,⟨"KIND_B",1,some "last"⟩],none,false⟩]⟩
    Message.read "test_msgs" "State" source = .ok m ∧
      ∃ es, PlacedEntry.readAll "test_msgs" source = .ok es ∧
        List.Forall₂ (EntryOf "test_msgs" (Text.lines source.toList)) (SourceText.declaring source) es ∧
        (PlacedEntry.groups es).foldlM (Group.add "State") [] = some m.enumerations := by
  intro source m
  have read : Message.read "test_msgs" "State" source = .ok m := by decide +kernel
  exact ⟨read,enumerations_of_groups read⟩

end MsgBindings
