import MsgBindings.Proofs.FieldTexts

/-!
The texts of messages. Such a text has a line for each field below a comment with the name of the message, and each of
these lines declares its field. So the text of a message that is read, whose values are truth values and integers, is
read again with the same fields (`Message.read_printed`).
-/
namespace MsgBindings

open SourceText

/-! ### Fields that were read -/

theorem literals_of_placedEntry {package : String} {line : SourceLine} {e : PlacedEntry}
    (read : line.placedEntry package = .ok e) :
    ∀ f ∈ e.entry.field?.toList, ∀ v ∈ f.role.literals, ∃ p t, Literal.read p t = .ok v := by
  refine SourceLine.forall_field_of_placedEntry read (fun typed made => ?_) fun typed made => ?_
  · obtain ⟨_,value,ok,rfl⟩ := Field.member_eq_ok.mp made
    cases value with
    | none =>
      intro v none
      cases none
    | some d =>
      obtain ⟨text,_,here⟩ := optionMapM_eq_some.mp ok
      exact DefaultValue.literals_of_read here
  · obtain ⟨p,bound,v,rfl,_,ok,rfl⟩ := Field.constant_eq_ok.mp made
    intro w same
    obtain rfl := List.mem_singleton.mp same
    exact ⟨_,_,ok⟩

/-- The fields of a message that is read are shown as they are read, if their values are. -/
theorem Message.isPrinted_of_read {package name source : String} {m : Message}
    (read : Message.read package name source = .ok m) (plain : ∀ f ∈ m.fields, ∀ v ∈ f.role.literals, v.IsPlain) :
    ∀ f ∈ m.fields, f.IsPrinted package := by
  intro f member
  refine ⟨forall_fields_of_read isNormal_of_placedEntry read f member,
    forall_fields_of_read isWellTyped_of_placedEntry read f member,fun v inside => ?_⟩
  obtain ⟨p,t,ok⟩ := forall_fields_of_read literals_of_placedEntry read f member v inside
  exact Literal.isShown_of_read ok (plain f member v inside)

/-! ### Lines -/

namespace Message

/-- The line above the fields of a message. -/
def heading (m : Message) : List Char := '#' :: ' ' :: (m.package.toList ++ '/' :: m.name.toList)

theorem toList_text (m : Message) :
    m.text.toList = ((m.heading :: m.fields.map fun f => f.text.toList).map (· ++ ['\n'])).flatten := by
  have fields : ∀ fs : List Field, (String.join (fs.map fun f => f.text ++ "\n")).toList =
      ((fs.map fun f => f.text.toList).map (· ++ ['\n'])).flatten := by
    intro fs
    induction fs with
    | nil => rfl
    | cons f fs ih =>
      rw [List.map_cons,String.join_cons,String.toList_append,ih,String.toList_append]
      rfl
  show (("# " ++ m.package ++ "/" ++ m.name ++ "\n") ++ _).toList = _
  rw [String.toList_append,fields,List.map_cons,List.flatten_cons]
  simp [heading]

theorem lines_text {m : Message} (package_ok : isPackageName m.package = true) (name_ok : isMessageName m.name = true)
    (printed : ∀ f ∈ m.fields, f.IsPrinted m.package) :
    Text.lines m.text.toList = m.heading :: m.fields.map fun f => f.text.toList := by
  have package : IsWord m.package := NamePattern.isWord_of_accepts package_ok
  have name : IsWord m.name := NamePattern.isWord_of_accepts name_ok
  have heading : ∀ c ∈ m.heading, c ∉ ['\n','\r'] := by
    have all : ∀ d ∈ ['\n','\r'], ¬ (d.isAlphanum = true ∨ d ∈ ['_','#',' ','/']) := by decide
    intro c inside mark
    refine all c mark ?_
    simp only [Message.heading,List.mem_cons,List.mem_append] at inside
    rcases inside with rfl | rfl | inside | rfl | inside
    · simp
    · simp
    · exact (package.chars c inside).imp_right fun same => by simp [same]
    · simp
    · exact (name.chars c inside).imp_right fun same => by simp [same]
  have each : ∀ t ∈ m.heading :: m.fields.map (fun f => f.text.toList), ∀ c ∈ t, c ∉ ['\n','\r'] := by
    rw [List.forall_mem_cons]
    refine ⟨heading,fun t member c inside mark => ?_⟩
    obtain ⟨f,here,rfl⟩ := List.mem_map.mp member
    exact Field.char_of_text (printed f here) c inside (List.mem_cons_of_mem _ mark)
  rw [toList_text]
  refine Text.lines_flatten (fun t member inside => each t member _ inside (by decide)) fun t member last => ?_
  exact each t member _ (List.mem_of_getLast? last) (by decide)

end Message

/-- Lines with the texts of fields declare these fields, each at its own line. -/
theorem SourceText.fields_of_texts {package : String} {fs : List Field} (printed : ∀ f ∈ fs, f.IsPrinted package)
    (number : Nat) :
    ∃ fs', List.Forall₂ (fun line f => fieldOf? package line = .ok (some f))
        (declaringFrom number (fs.map fun f => f.text.toList)) fs' ∧ fs'.map Field.bare = fs.map Field.bare := by
  induction fs generalizing number with
  | nil => exact ⟨[],.nil,rfl⟩
  | cons f fs ih =>
    rw [List.forall_mem_cons] at printed
    obtain ⟨declares,made⟩ := Field.fieldOf?_text printed.1 number
    obtain ⟨fs',lines,same⟩ := ih printed.2 (number + 1)
    refine ⟨f.declaredAt none number :: fs',?_,by rw [List.map_cons,List.map_cons,same,Field.bare_declaredAt]⟩
    rw [List.map_cons,declaringFrom_cons,if_pos declares]
    exact .cons made lines

/-! ### Messages -/

namespace Message

theorem names_of_read {package name source : String} {m : Message} (read : Message.read package name source = .ok m) :
    m.package = package ∧ m.name = name := by
  obtain ⟨_,_,es,s,_,followed,closed⟩ := Message.read_eq_ok.mp read
  rw [ConstantGroup.close_keeps closed,ReadingState.followAll_appends followed]
  exact ⟨rfl,rfl⟩

/-- The text of a message that is read, all of whose values are truth values and integers with literals of their own,
is read again, and has the same fields but for their comments and lines. -/
theorem read_printed {package name source : String} {m : Message} (read : Message.read package name source = .ok m)
    (plain : ∀ f ∈ m.fields, ∀ v ∈ f.role.literals, v.IsPlain) :
    ∃ m', Message.read package name m.text = .ok m' ∧ m'.fields.map Field.bare = m.fields.map Field.bare := by
  have printed := isPrinted_of_read read plain
  obtain ⟨package_ok,name_ok,_⟩ := Message.read_eq_ok.mp read
  obtain ⟨rfl,rfl⟩ := names_of_read read
  obtain ⟨fs,lines,same⟩ := fields_of_texts printed 2
  have declaring : declaring m.text = declaringFrom 2 (m.fields.map fun f => f.text.toList) := by
    unfold declaring
    rw [lines_text package_ok name_ok printed,declaringFrom_cons]
    exact if_neg fun filled => (declares_iff m.heading).mp filled rfl
  rw [← declaring] at lines
  obtain ⟨m',again,fields⟩ := read_of_fieldLines package_ok name_ok lines
  exact ⟨m',again,fields ▸ same⟩

/-- A constant of an enumeration, and members of all shapes, with and without a default value. -/
theorem read_printed_sample :
    let source := "@enum Mode\nuint8 IDLE=0x0 # asleep\n\nbool[<=3] flags [ true, 0 ]\nint16[] none []\n" ++
      "int64 count -7\nstring<=8 label\ntest_msgs/Point[2] ends\n"
    let m : Message := ⟨"test_msgs","Sample","",
      [⟨"IDLE",.ofPrimitive .uint8,.constant (.integer 0),some "asleep",2⟩,
        ⟨"flags",⟨.primitive .bool none,some (.bounded 3)⟩,.member (some (.array [.bool true,.bool false])),none,4⟩,
        ⟨"none",⟨.primitive .int16 none,some .unbounded⟩,.member (some (.array [])),none,5⟩,
        ⟨"count",.ofPrimitive .int64,.member (some (.single (.integer (-7)))),none,6⟩,
        ⟨"label",⟨.primitive .string (some 8),none⟩,.member none,none,7⟩,
        ⟨"ends",⟨.message none "Point",some (.fixed 2)⟩,.member none,none,8⟩],
      [⟨"Mode",.uint8,[⟨"IDLE",0,some "asleep"⟩],none,true⟩]⟩
    Message.read "test_msgs" "Sample" source = .ok m ∧ (∀ f ∈ m.fields, ∀ v ∈ f.role.literals, v.IsPlain) ∧
      m.text = "# test_msgs/Sample\nuint8 IDLE=0\nbool[<=3] flags [true, false]\nint16[] none []\n" ++
        "int64 count -7\nstring<=8 label\nPoint[2] ends\n" ∧
      ∃ m', Message.read "test_msgs" "Sample" m.text = .ok m' ∧ m'.fields.map Field.bare = m.fields.map Field.bare := by
  intro source m
  have read : Message.read "test_msgs" "Sample" source = .ok m := by decide +kernel
  have plain : ∀ f ∈ m.fields, ∀ v ∈ f.role.literals, v.IsPlain := by decide +kernel
  exact ⟨read,plain,by decide +kernel,read_printed read plain⟩

end Message

end MsgBindings
