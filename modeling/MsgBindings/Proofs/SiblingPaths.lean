import MsgBindings.Proofs.InputOrder
import MsgBindings.Proofs.MemberTypes

/-!
The modules of a package and the paths between them. Modules with different names have different files and
records (`names_of_distinct`), each module and its record are declared (`mem_declarations`), and a reference to a
message of the package is the path of its module and its record (`siblings_of_generated`).
-/
namespace MsgBindings

/-- The message of a package that a type refers to, if it does. -/
def BaseType.sibling? (package : String) : BaseType → Option String
  | .primitive _ _ => none
  | .message none name => some name
  | .message (some other) name => if other = package then some name else none

namespace Target

/-- Names of messages with one identifier have one module. -/
theorem moduleName_of_identifier {a b : String} (first : isMessageName a = true) (second : isMessageName b = true)
    (same : identifier a = identifier b) : moduleName a = moduleName b := by
  have self : moduleName "Self" = moduleName "Self_" := by decide +kernel
  have first : NamePattern.message.accepts a = true := first
  have equal := (identifier_eq_iff_of_accepts first second).mp same
  rw [reserved_messages] at equal
  rcases equal with rfl | ⟨n,member,⟨rfl,rfl⟩ | ⟨rfl,rfl⟩⟩
  · rfl
  · rw [List.mem_singleton.mp member]
    exact self
  · rw [List.mem_singleton.mp member]
    exact self.symm

end Target

namespace Layout

/-! ### Words that stand together -/

theorem join_texts_words {p : Position} {words : List String} {measured : List (Piece × Nat)}
    (none : p.pending = 0) (same : measured.map Prod.fst = words.map Piece.word) :
    String.join (p.texts measured) = String.join words := by
  induction words generalizing p measured with
  | nil =>
    obtain rfl : measured = [] := by simpa using same
    rfl
  | cons word words ih =>
    obtain ⟨⟨_,size⟩,rest,rfl,rfl,others⟩ := List.map_eq_cons_iff.mp same
    have here : (p.place (.word word) size).2 = word := by
      simp [Position.place,none,Position.spaces]
    have later := ih (p := (p.place (.word word) size).1) rfl others
    rw [Position.texts]
    simp only [String.join_cons,here,later]

/-- Words that stand together are written without anything between them. -/
theorem render_words {word : String} {words : List String} {pieces : List Piece}
    (inside : (word :: words).map Piece.word <:+: pieces) :
    ∃ before after, render pieces = before ++ String.join (word :: words) ++ after := by
  obtain ⟨front,back,split⟩ := inside
  have all := measure_pieces pieces
  unfold render
  generalize (measure pieces).pieces = measured at all ⊢
  rw [← split,List.map_eq_append_iff] at all
  obtain ⟨start,ending,rfl,first,rfl⟩ := all
  obtain ⟨start,middle,rfl,rfl,same⟩ := List.map_eq_append_iff.mp first
  obtain ⟨⟨_,size⟩,rest,rfl,rfl,others⟩ := List.map_eq_cons_iff.mp same
  obtain ⟨next,cut⟩ := texts_append Position.start (start ++ (.word word,size) :: rest) ending
  obtain ⟨here,cut'⟩ := texts_append Position.start start ((.word word,size) :: rest)
  have later : String.join ((here.place (.word word) size).1.texts rest) = String.join words :=
    join_texts_words rfl others
  refine ⟨String.join (Position.start.texts start) ++ Position.spaces here.pending,String.join (next.texts ending),?_⟩
  have placed : (here.place (.word word) size).2 = Position.spaces here.pending ++ word := rfl
  rw [cut,cut',String.join_append,String.join_append,Position.texts]
  simp only [String.join_cons,later,placed,String.append_assoc]

end Layout

namespace Target

open Layout

/-! ### Where a type is written -/

/-- An element is written within its array. -/
theorem pieces_element (element : TypeExpr) (shape : Option ArrayShape) :
    element.pieces <:+: (arrayType element shape).pieces := by
  have vector : element.pieces <:+: (TypeExpr.path false [.mk "Vec" (.angle [.type element])]).pieces := by
    refine ⟨[.word "Vec",.word "<",.opening .consistent step,.zero 0],[.lastComma 0,.closing,.word ">"],?_⟩
    simp [TypeExpr.pieces,segmentsPieces,Arguments.pieces,argumentsPieces,globalPieces,separated,anglePieces,
      bracketBox,bracketed,delimited,box,List.partition,List.partition.loop]
  rcases shape with _ | _ | size | bound
  · exact List.infix_rfl
  · exact vector
  · refine ⟨[.word "["],.word "; " :: (ConstantExpr.literal false (toString size)).pieces ++ [.word "]"],?_⟩
    simp [arrayType,TypeExpr.pieces]
  · exact vector

theorem infix_box {breaking : Breaking} {indent : Int} {inside pieces : List Piece} (held : inside <:+: pieces) :
    inside <:+: box breaking indent pieces := by
  obtain ⟨front,back,rfl⟩ := held
  exact ⟨.opening breaking indent :: front,back ++ [.closing],by simp [box]⟩

theorem infix_bodyPieces {head : List Piece} {members : List (List Piece)} {member : List Piece}
    (held : member ∈ members) : member <:+: bodyPieces head members := by
  obtain ⟨i,short,rfl⟩ := List.mem_iff_getElem.mp held
  refine List.IsInfix.trans ?_ (List.prefix_append _ _).isInfix
  refine infix_box (List.IsInfix.trans ?_ (List.suffix_append _ _).isInfix)
  have line : members[i] ++ [Piece.hard (if i + 1 = members.length then -step else 0)] ∈
      members.mapIdx fun i member => member ++ [Piece.hard (if i + 1 = members.length then -step else 0)] :=
    List.mem_mapIdx.mpr ⟨i,short,rfl⟩
  exact (List.prefix_append _ _).isInfix.trans (List.infix_of_mem_flatten line)

/-- The type of a field is written in the text of the items with its record. -/
theorem itemsText_type {items : List Item} {item : Item} {name : String} {fields : List RecordField}
    {field : RecordField} (held : item ∈ items) (declares : item.record? = some (name,fields))
    (member : field ∈ fields) {word : String} {words : List String}
    (inside : (word :: words).map Piece.word <:+: field.type.pieces) :
    ∃ before after, itemsText items = before ++ String.join (word :: words) ++ after := by
  obtain ⟨comment,derives,rfl⟩ : ∃ comment derives, item = .record comment derives name fields := by
    cases item <;> cases declares
    exact ⟨_,_,rfl⟩
  refine render_words (infix_box ?_)
  rw [List.flatMap_def]
  refine List.IsInfix.trans ?_ (List.infix_of_mem_flatten (List.mem_map_of_mem held))
  refine List.IsInfix.trans ?_ (List.suffix_append _ _).isInfix
  refine List.IsInfix.trans ?_ (infix_bodyPieces (List.mem_map_of_mem member))
  refine inside.trans ⟨commentPieces field.comment ++ [.word s!"pub {field.name}: "],[.word ","],?_⟩
  simp only [List.append_assoc,List.cons_append,List.nil_append]

end Target

namespace Batch

variable {c : Configuration} {package : String} {style : Style} {modules : List GeneratedModule}
  {inputs : List (String × Except FileFault String)}

/-! ### The declarations of modules -/

/-- Whether a text has a line. -/
def HasLine (text line : String) : Prop := line.toList ∈ Text.lines text.toList

/-- The lines that declare a module and its record. -/
def moduleLine (g : GeneratedModule) : String := s!"pub mod {g.moduleName};"

def useLine (g : GeneratedModule) : String := s!"pub use {g.moduleName}::{g.recordName};"

theorem declarationsText_eq (style : Style) (modules : List GeneratedModule) :
    ∃ sorted : List GeneratedModule, sorted.Perm modules ∧ (declarationsText style modules).toList =
      style.headerText.toList ++ ((sorted.map fun g => (moduleLine g).toList ++ ['\n']).flatten ++
        (['\n'] ++ (sorted.map fun g => (useLine g).toList ++ ['\n']).flatten)) := by
  refine ⟨_,List.mergeSort_perm modules fun a b => decide (a.moduleName ≤ b.moduleName),?_⟩
  have ending : ";\n".toList = ";".toList ++ ['\n'] := rfl
  have blank : "\n".toList = ['\n'] := rfl
  simp only [declarationsText,moduleLine,useLine,toString,String.toList_append,String.toList_join,List.flatMap_def,
    List.map_map,List.append_assoc,ending,blank,Function.comp_def]

/-- Every module and its record are declared on lines of their own. -/
theorem mem_declarations (style : Style) {g : GeneratedModule} (member : g ∈ modules)
    (solid : '\n' ∉ g.moduleName.toList ∧ '\n' ∉ g.recordName.toList) :
    HasLine (declarationsText style modules) (moduleLine g) ∧ HasLine (declarationsText style modules) (useLine g) := by
  obtain ⟨sorted,perm,text⟩ := declarationsText_eq style modules
  obtain ⟨before,after,split⟩ := List.append_of_mem (perm.mem_iff.mpr member)
  have header : Text.EndsLine style.headerText.toList := by
    unfold Style.headerText
    cases style.header with
    | none => exact .inl rfl
    | some header => exact .inr ⟨header.toList ++ ['\n'],by simp⟩
  have ended : ∀ (line : GeneratedModule → String) (gs : List GeneratedModule),
      Text.EndsLine (gs.map fun g => (line g).toList ++ ['\n']).flatten := by
    intro line gs
    refine Text.endsLine_flatten fun t member => ?_
    obtain ⟨g,_,rfl⟩ := List.mem_map.mp member
    exact .inr ⟨_,rfl⟩
  have here : ∀ line : GeneratedModule → String, (sorted.map fun g => (line g).toList ++ ['\n']).flatten =
      (before.map fun g => (line g).toList ++ ['\n']).flatten ++
        ((line g).toList ++ '\n' :: (after.map fun g => (line g).toList ++ ['\n']).flatten) := by
    intro line
    rw [split]
    simp
  have closed : ∀ front : String, (front ++ ";").toList.getLast? ≠ some '\r' := by
    intro front
    rw [String.toList_append,List.getLast?_append]
    change some ';' ≠ some '\r'
    decide
  have moduleSolid : '\n' ∉ (moduleLine g).toList := by simp [moduleLine,toString,solid.1]
  have useSolid : '\n' ∉ (useLine g).toList := by simp [useLine,toString,solid.1,solid.2]
  unfold HasLine
  rw [text]
  constructor
  · rw [here moduleLine]
    have start := header.append (ended moduleLine before)
    generalize style.headerText.toList = top at start ⊢
    generalize (before.map fun g => (moduleLine g).toList ++ ['\n']).flatten = above at start ⊢
    rw [List.append_assoc above,← List.append_assoc top,List.append_assoc (moduleLine g).toList]
    exact Text.mem_lines start moduleSolid (closed _)
  · rw [here useLine]
    have blank : Text.EndsLine ['\n'] := .inr ⟨[],rfl⟩
    have start := (header.append (ended moduleLine sorted)).append (blank.append (ended useLine before))
    simp only [List.append_assoc] at start
    simpa only [List.append_assoc] using Text.mem_lines start useSolid (closed _)

/-! ### Names of modules -/

variable {files : List (String × GeneratedModule)} {m : Message} {g : GeneratedModule} {index : PackageIndex}

theorem named_of_ofFile {path : String} {content : Except FileFault String}
    (read : Message.ofFile package path content = .ok m) : isMessageName m.name = true := by
  unfold Message.ofFile at read
  split at read
  · cases read
  · split at read
    · cases read
    · exact (Message.isSound_of_read (mapError_eq_ok.mp read)).named

/-- Modules have the names of messages that are read. -/
theorem named_of_generated (made : generated c package inputs = .ok files) {g : GeneratedModule}
    (member : g ∈ files.map Prod.snd) :
    ∃ name, isMessageName name = true ∧ g.moduleName = Target.moduleName name ∧
      g.recordName = Target.identifier name := by
  obtain ⟨sources,read,_,all⟩ := generated_eq_ok.mp made
  obtain ⟨file,inside,rfl⟩ := List.mem_map.mp member
  obtain ⟨source,held,_,code⟩ := exists_of_mem_right all inside
  obtain ⟨input,_,_,here⟩ := exists_of_mem_right read held
  obtain ⟨_,_,same⟩ := Message.generate_eq_ok.mp code
  exact ⟨source.message.name,named_of_ofFile here,by rw [same],by rw [same]⟩

/-- Different modules have different files and records. -/
theorem names_of_distinct (made : generated c package inputs = .ok files) :
    ((files.map Prod.snd).map (·.moduleName)).Nodup ∧ ((files.map Prod.snd).map (·.fileName)).Nodup ∧
      ((files.map Prod.snd).map (·.recordName)).Nodup := by
  have distinct := (names_of_generated made).2
  have apart : ∀ g ∈ files.map Prod.snd, ∀ h ∈ files.map Prod.snd, g.moduleName = h.moduleName → g = h :=
    fun g memberG h memberH same => List.inj_on_of_nodup_map distinct memberG memberH same
  refine ⟨distinct,?_,?_⟩
  · refine List.Nodup.map_on ?_ distinct.of_map
    intro g memberG h memberH same
    obtain ⟨name,_,module,_⟩ := named_of_generated made memberG
    obtain ⟨name',_,module',_⟩ := named_of_generated made memberH
    rw [GeneratedModule.fileName,GeneratedModule.fileName,module,module'] at same
    refine apart g memberG h memberH ?_
    rw [module,module',Target.moduleName,Target.moduleName,Target.fileName_injective same]
  · refine List.Nodup.map_on ?_ distinct.of_map
    intro g memberG h memberH same
    obtain ⟨name,named,module,record⟩ := named_of_generated made memberG
    obtain ⟨name',named',module',record'⟩ := named_of_generated made memberH
    rw [record,record'] at same
    refine apart g memberG h memberH ?_
    rw [module,module',Target.moduleName_of_identifier named named' same]

/-! ### References to siblings -/

/-- Whether a field is one of an array of a sibling: the path to its type is that of its module and its record, which
    the code holds, and both of them are declared. -/
structure IsSiblingField (declared code : String) (target : GeneratedModule) (shape : Option ArrayShape)
    (field : Target.RecordField) : Prop where
  type : field.type =
    Target.arrayType (.path false (["super",target.moduleName,target.recordName].map .plain)) shape
  written : ∃ before after, code = before ++ s!"super::{target.moduleName}::{target.recordName}" ++ after
  module : HasLine declared (moduleLine target)
  record : HasLine declared (useLine target)

/-- Whether a module has a record whose fields lead to the modules of the siblings that the members of a message
    refer to. -/
def LeadsToSiblings (style : Style) (package : String) (index : PackageIndex) (sources : List SourceMessage)
    (files : List (String × GeneratedModule)) (m : Message) (g : GeneratedModule) : Prop :=
  ∃ items fields, m.items style index = .ok items ∧ g.code = style.preamble ++ Target.itemsText items ∧
    items.filterMap Target.Item.record? = [(g.recordName,fields)] ∧
    List.Forall₂ (fun member field => ∀ name, member.type.base.sibling? package = some name →
      ∃ source ∈ sources, ∃ file ∈ files, source.message.name = name ∧ IsGenerated style index source file ∧
        IsSiblingField (declarationsText style (files.map Prod.snd)) g.code file.2 member.type.array field)
      m.members fields

/-- A sibling is resolved if it is a message of the index. -/
theorem resolve_sibling (externals : Catalog) (messages : List Message) {base : BaseType} {name : String}
    (sibling : base.sibling? package = some name) :
    (indexOf package externals messages).resolve base =
      if name ∈ messages.map (·.name) then
        some s!"super::{Target.moduleName name}::{Target.identifier name}"
      else none := by
  obtain ⟨same,_,modules⟩ := indexOf_eq package externals messages
  cases base with
  | primitive p bound => cases sibling
  | message reference target =>
    have own : target = name ∧ (reference = none ∨ reference = some (indexOf package externals messages).package) := by
      cases reference with
      | none => exact ⟨Option.some.inj sibling,.inl rfl⟩
      | some other =>
        simp only [BaseType.sibling?] at sibling
        split at sibling
        · rename_i here
          exact ⟨Option.some.inj sibling,.inr (congrArg some (here.trans same.symm))⟩
        · cases sibling
    obtain ⟨rfl,own⟩ := own
    rw [PackageIndex.resolve_own own,modules]
    split <;> rfl

/-- A field whose type is resolved leads to the module of a sibling. -/
theorem type_of_sibling {externals : Catalog} {messages : List Message} {member : Field} {field : Target.RecordField}
    {name : String} (names : ∀ other ∈ messages, isMessageName other.name = true)
    (is : m.IsRecordField (indexOf package externals messages) member field)
    (sibling : member.type.base.sibling? package = some name) :
    name ∈ messages.map (·.name) ∧
      field.type = Target.arrayType (.path false ((PackageIndex.siblingNames name).map .plain)) member.type.array := by
  obtain ⟨text,made,read⟩ := is.type
  have resolved := resolve_sibling externals messages sibling
  unfold Message.memberTypeText Target.typeText at made
  cases base : member.type.base with
  | primitive p bound =>
    rw [base] at sibling
    cases sibling
  | message reference target =>
    rw [base] at resolved
    simp only [base,resolved] at made
    split at made
    · rename_i text' found
      cases made
      split at found
      · rename_i inside
        obtain ⟨other,held,rfl⟩ := List.mem_map.mp inside
        cases found
        rw [Target.read?_arrayText (PackageIndex.isElement_sibling (names other held))] at read
        exact ⟨inside,(Option.some.inj read).symm⟩
      · cases found
    · cases made

/-- The code of a record holds the paths to siblings of its fields. -/
theorem itemsText_of_sibling {items : List Target.Item} {item : Target.Item} {fields : List Target.RecordField}
    {field : Target.RecordField} {shape : Option ArrayShape} {name module record : String} (held : item ∈ items)
    (declares : item.record? = some (name,fields)) (inside : field ∈ fields)
    (type : field.type = Target.arrayType (.path false (["super",module,record].map .plain)) shape) :
    ∃ before after, Target.itemsText items = before ++ s!"super::{module}::{record}" ++ after := by
  have words : ["super","::",module,"::",record].map Layout.Piece.word <:+: field.type.pieces := by
    rw [type]
    refine List.IsInfix.trans ?_ (Target.pieces_element _ _)
    simp [Target.TypeExpr.pieces,Target.segmentsPieces,Target.Segment.plain,Target.Arguments.pieces,
      Target.globalPieces,Target.separated]
  obtain ⟨before,after,text⟩ := Target.itemsText_type held declares inside words
  have joined : String.join ["super","::",module,"::",record] = s!"super::{module}::{record}" := by
    rw [← String.toList_inj]
    simp [toString]
  exact ⟨before,after,joined ▸ text⟩

/-- The code of a message leads to the siblings that its members refer to. -/
theorem leadsToSiblings {messages : List Message} {externals : Catalog} {sources : List SourceMessage}
    (same : messages = sources.map (·.message)) (names : ∀ other ∈ messages, isMessageName other.name = true)
    (all : List.Forall₂ (IsGenerated style (indexOf package externals messages)) sources files)
    (made : m.generate style (indexOf package externals messages) = .ok g) :
    LeadsToSiblings style package (indexOf package externals messages) sources files m g := by
  obtain ⟨items,itemsMade,rfl⟩ := Message.generate_eq_ok.mp made
  obtain ⟨fields,record,each⟩ := Message.record_of_items itemsMade
  refine ⟨items,fields,itemsMade,rfl,record,?_⟩
  obtain ⟨item,held,declares⟩ : ∃ item ∈ items, item.record? = some (Target.identifier m.name,fields) := by
    rw [← List.mem_filterMap,record]
    exact List.mem_singleton_self _
  have within : List.Forall₂ (fun field member => field ∈ fields ∧
      m.IsRecordField (indexOf package externals messages) member field) fields m.members :=
    (List.forall₂_and_left fields m.members).mpr ⟨fun _ member => member,each.flip⟩
  refine within.flip.imp ?_
  rintro member field ⟨inside,is⟩ name sibling
  obtain ⟨registered,type⟩ := type_of_sibling names is sibling
  rw [same,List.map_map] at registered
  obtain ⟨source,origin,rfl⟩ := List.mem_map.mp registered
  obtain ⟨file,written,path,code⟩ := exists_of_mem_right all.flip origin
  have target : (PackageIndex.siblingNames source.message.name) = ["super",file.2.moduleName,file.2.recordName] := by
    obtain ⟨_,_,here⟩ := Message.generate_eq_ok.mp code
    rw [here,PackageIndex.siblingNames]
  have named := names source.message (same ▸ List.mem_map_of_mem origin)
  have solid : '\n' ∉ file.2.moduleName.toList ∧ '\n' ∉ file.2.recordName.toList := by
    have words := (PackageIndex.isElement_sibling named).words
    rw [target] at words
    have each : ∀ n ∈ ["super",file.2.moduleName,file.2.recordName], '\n' ∉ n.toList := fun n member inside =>
      absurd (Target.solid_of_isNameText (words n member).1 '\n' inside).1 (by decide)
    exact ⟨each _ (by simp),each _ (by simp)⟩
  obtain ⟨module,use⟩ := mem_declarations style (List.mem_map_of_mem written) solid
  simp only [Function.comp_apply,target] at type
  obtain ⟨before,after,text⟩ := itemsText_of_sibling held declares inside type
  refine ⟨source,origin,file,written,rfl,⟨path,code⟩,type,⟨style.preamble ++ before,after,?_⟩,module,use⟩
  dsimp only
  rw [text]
  simp only [String.append_assoc]

/-- The modules of a package have different names, files and records, and a member that refers to a message of the
    package leads to the module and the record of that message. -/
theorem siblings_of_generated (made : generated c package inputs = .ok files) :
    ((files.map Prod.snd).map (·.moduleName)).Nodup ∧ ((files.map Prod.snd).map (·.fileName)).Nodup ∧
    ((files.map Prod.snd).map (·.recordName)).Nodup ∧
    (∀ g ∈ files.map Prod.snd, Target.IsIdentifier g.moduleName) ∧
    ∃ sources : List SourceMessage,
      List.Forall₂ (fun input source =>
        source.path = input.1 ∧ Message.ofFile package input.1 input.2 = .ok source.message) inputs sources ∧
      List.Forall₂ (fun source file => IsGenerated c.style (indexOf package c.externals (sources.map (·.message)))
          source file ∧
        LeadsToSiblings c.style package (indexOf package c.externals (sources.map (·.message))) sources files
          source.message file.2) sources files := by
  obtain ⟨modules,fileNames,records⟩ := names_of_distinct made
  obtain ⟨sources,read,_,all⟩ := generated_eq_ok.mp made
  refine ⟨modules,fileNames,records,?_,sources,read,all.imp fun source file here => ⟨here,?_⟩⟩
  · intro g member
    obtain ⟨name,named,module,_⟩ := named_of_generated made member
    rw [module]
    exact Target.isIdentifier_identifier (isWord_snakeCase (NamePattern.isWord_of_accepts named))
  · refine leadsToSiblings rfl ?_ all here.2
    intro other member
    obtain ⟨source,held,rfl⟩ := List.mem_map.mp member
    obtain ⟨input,_,_,message⟩ := exists_of_mem_right read held
    exact named_of_ofFile message

/-- A message with an array of one whose module is a raw identifier. -/
theorem siblings_of_holder_and_type :
    let c := { Configuration.empty with package := some "test_msgs" }
    let inputs : List (String × Except FileFault String) :=
      [("msg/Holder.msg",.ok "Type[2] kinds\n"),("msg/Type.msg",.ok "int32 x\n")]
    let files : List (String × GeneratedModule) :=
      [("msg/Holder.msg",⟨"pub struct Holder \x7b\n    pub kinds: [super::r#type::Type; 2],\n\x7d\n","Holder","holder"⟩),
        ("msg/Type.msg",⟨"pub struct Type \x7b\n    pub x: i32,\n\x7d\n","Type","r#type"⟩)]
    generated c "test_msgs" inputs = .ok files ∧
    ["holder","r#type"].Nodup ∧ ["holder.rs","type.rs"].Nodup ∧ ["Holder","Type"].Nodup ∧
    (∀ g ∈ files.map Prod.snd, Target.IsIdentifier g.moduleName) ∧
    ∃ sources : List SourceMessage,
      List.Forall₂ (fun input source => source.path = input.1 ∧
        Message.ofFile "test_msgs" input.1 input.2 = .ok source.message) inputs sources ∧
      List.Forall₂ (fun source file => IsGenerated c.style (indexOf "test_msgs" c.externals (sources.map (·.message)))
          source file ∧
        LeadsToSiblings c.style "test_msgs" (indexOf "test_msgs" c.externals (sources.map (·.message))) sources files
          source.message file.2) sources files := by
  intro c inputs files
  have made : generated c "test_msgs" inputs = .ok files := by decide +kernel
  exact ⟨made,siblings_of_generated made⟩

end Batch

end MsgBindings
