import MsgBindings.Proofs.CodeEndings
import MsgBindings.Proofs.SoundMessages
import MsgBindings.Proofs.VariantNames

/-!
The names that stand in generated code. Its types, fields and variants are those of the message, in order, each
under its identifier (`items_of_ok`). So the variants of each enumeration are different
(`variants_of_generate`), while two types have one name where a message and its enumerations are called `Self`
and `Self_` (`typeNames_of_generate`), and two fields where a member is called `self`, `super` or `crate` and
another one is called that with an underscore (`fieldNames_of_generate`).
-/
namespace MsgBindings

namespace Target.Item

/-- The name of the type that an item declares. -/
def typeName? : Item → Option String
  | record _ _ name _ => some name
  | enumeration _ _ name _ => some name
  | _ => none

/-- The names of the fields that an item declares or gives values to. -/
def fieldNames? : Item → Option (List String)
  | record _ _ _ fields => some (fields.map (·.name))
  | defaults _ values => some (values.map Prod.fst)
  | _ => none

def variants? : Item → Option (List Variant)
  | enumeration _ _ _ variants => some variants
  | _ => none

end Target.Item

/-! ### The items of a message -/

namespace Enumeration

/-- The variants of an enumeration in generated code. -/
def emitted (e : Enumeration) : List Target.Variant :=
  List.zipWith (fun v name => ⟨v.comment,Target.identifier name,v.number⟩) e.values e.variantNames

theorem map_name_emitted (e : Enumeration) :
    e.emitted.map (·.name) = e.variantNames.map Target.identifier :=
  List.ext_getElem (by simp [emitted]) (by simp [emitted])

theorem map_number_emitted (e : Enumeration) : e.emitted.map (·.number) = e.values.map EnumValue.number :=
  List.ext_getElem (by simp [emitted]) (by simp [emitted])

/-- The variants that stand in code for an enumeration of constants in a row. -/
structure IsWrittenAs (fields : List Field) (e : Enumeration) (variants : List Target.Variant) : Prop where
  gathered : ∃ cs, cs <:+: fields ∧ e.IsOf cs
  names : variants.map (·.name) = e.variantNames.map Target.identifier
  distinct : (variants.map (·.name)).Nodup
  identifiers : ∀ n ∈ variants.map (·.name),
    Target.IsIdentifier n ∧ ∃ c rest, n.toList = c :: rest ∧ c.isUpper = true
  numbers : variants.map (·.number) = e.values.map EnumValue.number
  distinctNumbers : (variants.map (·.number)).Nodup

theorem IsAmong.isWrittenAs {fields : List Field} {e : Enumeration} (among : e.IsAmong fields)
    (named : ∀ f ∈ fields, f.IsNamed) : e.IsWrittenAs fields e.emitted := by
  have spelled := variantNames_spell (among.named named)
  refine ⟨among.gathered,e.map_name_emitted,?_,?_,e.map_number_emitted,?_⟩
  · rw [e.map_name_emitted]
    exact Target.nodup_variant_identifiers spelled among.variants
  · rw [e.map_name_emitted,List.forall_mem_map]
    intro n member
    have word : IsWord n := NamePattern.isWord_of_accepts (spelled n member).isMessageName
    exact ⟨Target.isIdentifier_identifier word,Target.identifier_of_variant_upper (spelled n member)⟩
  · rw [e.map_number_emitted]
    exact among.numbers

end Enumeration

namespace Message

variable {m : Message} {style : Style} {index : PackageIndex} {items : List Target.Item}

/-- The identifiers of the members. -/
def memberIdentifiers (m : Message) : List String := (m.members.map Field.name).map Target.identifier

/-- The item with the default value of the record. -/
def defaultItem (m : Message) : Target.Item :=
  .defaults (Target.identifier m.name)
    (m.members.map fun f => (Target.identifier f.name,Target.ValueExpr.ofField f))

/-- The item with the constants, if there are some. -/
def constantItems (m : Message) : List Target.Item :=
  if (m.constants.filterMap constantItem?).isEmpty then []
  else [.constants (Target.identifier m.name) (m.constants.filterMap constantItem?)]

/-- Whether a field of a record stands for a member: it has its identifier, its comment and the type that the text
    of its type is read as. -/
structure IsRecordField (m : Message) (index : PackageIndex) (member : Field) (field : Target.RecordField) : Prop where
  name : field.name = Target.identifier member.name
  comment : field.comment = member.comment
  type : ∃ text, m.memberTypeText index member = .ok text ∧ Target.TypeExpr.read? text.toList = some field.type

/-- The items of the code of a message, with the derives and the fields of its record. -/
theorem items_eq_of_ok (made : m.items style index = .ok items) :
    ∃ derives fields, style.recordDerives.mapM Target.DeriveList.tokens? = some derives ∧
      List.Forall₂ (IsRecordField m index) m.members fields ∧
      items = .record (if m.comment.isEmpty then none else some m.comment) derives (Target.identifier m.name) fields ::
        ((if style.wantsDefault then [m.defaultItem] else []) ++ m.constantItems ++
          m.enumerations.map enumerationItem) := by
  unfold Message.items at made
  obtain ⟨types,resolved,made⟩ := bind_eq_ok.mp made
  dsimp only at made
  split at made
  · cases made
  · rename_i record whole
    unfold recordItem? at whole
    obtain ⟨derives,derived,whole⟩ := Option.bind_eq_some_iff.mp whole
    obtain ⟨fields,each,whole⟩ := Option.bind_eq_some_iff.mp whole
    cases whole
    refine ⟨derives,fields,derived,?_,(pure_eq_ok.mp made).symm⟩
    refine (forall₂_of_zip (mapM_eq_ok.mp resolved) (mapM_eq_some.mp each)).imp ?_
    rintro member field ⟨text,here,typed⟩
    obtain ⟨type,read,rfl⟩ := Option.map_eq_some_iff.mp typed
    exact ⟨rfl,rfl,text,here,read⟩

/-- The items of the code of a message: its record, its default value if that is asked for, its constants and
    its enumerations. -/
theorem items_of_ok (made : m.items style index = .ok items) :
    ∃ comment derives fields, fields.map (·.name) = m.memberIdentifiers ∧
      items = .record comment derives (Target.identifier m.name) fields ::
        ((if style.wantsDefault then [m.defaultItem] else []) ++ m.constantItems ++
          m.enumerations.map enumerationItem) := by
  obtain ⟨derives,fields,_,each,rfl⟩ := items_eq_of_ok made
  have names := map_of_forall₂ each (f := fun f => Target.identifier f.name) fun _ _ is => is.name.symm
  refine ⟨_,derives,fields,?_,rfl⟩
  rw [← names,memberIdentifiers,List.map_map]
  rfl

/-- What stands behind the record of a message. -/
theorem item_cases {wanted : Prop} [Decidable wanted] {item : Target.Item}
    (member : item ∈ (if wanted then [m.defaultItem] else []) ++ m.constantItems ++ m.enumerations.map enumerationItem) :
    item = m.defaultItem ∨ item = .constants (Target.identifier m.name) (m.constants.filterMap constantItem?) ∨
      ∃ e ∈ m.enumerations, item = enumerationItem e := by
  simp only [List.mem_append,List.mem_map] at member
  rcases member with (default | constants) | ⟨e,enumerated,rfl⟩
  · split at default
    · exact .inl (List.mem_singleton.mp default)
    · cases default
  · unfold constantItems at constants
    split at constants
    · cases constants
    · exact .inr (.inl (List.mem_singleton.mp constants))
  · exact .inr (.inr ⟨e,enumerated,rfl⟩)

/-- What the items of a message have of something that constants do not have. -/
theorem filterMap_items {α : Type} (part : Target.Item → Option α)
    (without : ∀ name constants, part (.constants name constants) = none)
    (made : m.items style index = .ok items) :
    ∃ comment derives fields, fields.map (·.name) = m.memberIdentifiers ∧
      items.filterMap part = (part (.record comment derives (Target.identifier m.name) fields)).toList ++
        (if style.wantsDefault then (part m.defaultItem).toList else []) ++
          m.enumerations.filterMap fun e => part (enumerationItem e) := by
  obtain ⟨comment,derives,fields,names,rfl⟩ := items_of_ok made
  refine ⟨comment,derives,fields,names,?_⟩
  have first : ∀ item rest, (item :: rest).filterMap part = (part item).toList ++ rest.filterMap part := by
    intro item rest
    cases here : part item with
    | none => simp [List.filterMap_cons_none here]
    | some view => simp [List.filterMap_cons_some here]
  have default : (if style.wantsDefault then [m.defaultItem] else []).filterMap part =
      if style.wantsDefault then (part m.defaultItem).toList else [] := by
    split
    · simp [first]
    · rfl
  have constants : m.constantItems.filterMap part = [] := by
    unfold constantItems
    split
    · rfl
    · simp [without]
  rw [first,List.filterMap_append,List.filterMap_append,default,constants,List.filterMap_map,List.append_nil,
    List.append_assoc]
  rfl

theorem typeNames_of_items (made : m.items style index = .ok items) :
    items.filterMap Target.Item.typeName? = m.typeNames.map Target.identifier := by
  obtain ⟨_,_,_,_,same⟩ := filterMap_items Target.Item.typeName? (fun _ _ => rfl) made
  rw [same]
  simp [Target.Item.typeName?,defaultItem,enumerationItem,typeNames]

theorem fieldNames_of_items (made : m.items style index = .ok items) :
    items.filterMap Target.Item.fieldNames? =
      m.memberIdentifiers :: if style.wantsDefault then [m.memberIdentifiers] else [] := by
  obtain ⟨_,_,fields,names,same⟩ := filterMap_items Target.Item.fieldNames? (fun _ _ => rfl) made
  rw [same]
  have default : m.defaultItem.fieldNames? = some m.memberIdentifiers := by
    simp [Target.Item.fieldNames?,defaultItem,memberIdentifiers]
  have enumeration : ∀ e, (enumerationItem e).fieldNames? = none := fun e => rfl
  simp [Target.Item.fieldNames?.eq_1,default,enumeration,names]

theorem variants_of_items (made : m.items style index = .ok items) :
    items.filterMap Target.Item.variants? = m.enumerations.map Enumeration.emitted := by
  obtain ⟨_,_,_,_,same⟩ := filterMap_items Target.Item.variants? (fun _ _ => rfl) made
  rw [same]
  simp [Target.Item.variants?,defaultItem,enumerationItem,Enumeration.emitted]

variable {package name source : String} {g : GeneratedModule}

/-! ### The names of types -/

/-- The types that the code of a message declares are those of the message, under their identifiers. They have
    different identifiers exactly if `Self` and `Self_` are not both among their names. -/
theorem typeNames_of_generate (read : Message.read package name source = .ok m)
    (made : m.generate style index = .ok g) :
    ∃ items, m.items style index = .ok items ∧ g.code = style.preamble ++ Target.itemsText items ∧
      items.filterMap Target.Item.typeName? = m.typeNames.map Target.identifier ∧
      ((items.filterMap Target.Item.typeName?).Nodup ↔ ¬ ("Self" ∈ m.typeNames ∧ "Self_" ∈ m.typeNames)) := by
  obtain ⟨items,written,rfl⟩ := generate_eq_ok.mp made
  have sound := isSound_of_read read
  have types := typeNames_of_items written
  refine ⟨items,written,rfl,types,?_⟩
  rw [types,Target.nodup_identifiers_of_accepts sound.isMessageName_of_mem sound.typeNames,
    Target.reserved_messages,List.forall_mem_singleton]
  exact Iff.rfl

/-- The message `Self` with an enumeration of another name. -/
theorem typeNames_of_self_and_mode :
    let source := "@enum Mode\nuint8 LOW=0\n"
    let m : Message := ⟨"test_msgs","Self","",
      [⟨"LOW",.ofPrimitive .uint8,.constant (.integer 0),none,2⟩],
      [⟨"Mode",.uint8,[⟨"LOW",0,none⟩],none,true⟩]⟩
    let code := "pub struct Self_ \x7b\x7d\nimpl Self_ \x7b\n    pub const LOW: u8 = 0;\n\x7d\n" ++
      "#[derive(Debug, Clone, Copy, PartialEq, Eq, Hash)]\n#[repr(u8)]\npub enum Mode \x7b\n    Low = 0,\n\x7d\n"
    Message.read "test_msgs" "Self" source = .ok m ∧
      m.generate .plain (.empty "test_msgs") = .ok ⟨code,"Self_","self_"⟩ ∧
      ∃ items, m.items .plain (.empty "test_msgs") = .ok items ∧
        code = Style.plain.preamble ++ Target.itemsText items ∧
        items.filterMap Target.Item.typeName? = m.typeNames.map Target.identifier ∧
        ((items.filterMap Target.Item.typeName?).Nodup ↔ ¬ ("Self" ∈ m.typeNames ∧ "Self_" ∈ m.typeNames)) := by
  intro source m code
  have read : Message.read "test_msgs" "Self" source = .ok m := by decide +kernel
  have made : m.generate .plain (.empty "test_msgs") = .ok ⟨code,"Self_","self_"⟩ := by decide +kernel
  exact ⟨read,made,typeNames_of_generate read made⟩

/-- The message `Self` with the enumeration `Self_`: both types are called `Self_`. -/
theorem typeNames_of_self :
    let source := "@enum Self_\nuint8 LOW=0\n"
    let m : Message := ⟨"test_msgs","Self","",
      [⟨"LOW",.ofPrimitive .uint8,.constant (.integer 0),none,2⟩],
      [⟨"Self_",.uint8,[⟨"LOW",0,none⟩],none,true⟩]⟩
    let code := "pub struct Self_ \x7b\x7d\nimpl Self_ \x7b\n    pub const LOW: u8 = 0;\n\x7d\n" ++
      "#[derive(Debug, Clone, Copy, PartialEq, Eq, Hash)]\n#[repr(u8)]\npub enum Self_ \x7b\n    Low = 0,\n\x7d\n"
    Message.read "test_msgs" "Self" source = .ok m ∧
      m.generate .plain (.empty "test_msgs") = .ok ⟨code,"Self_","self_"⟩ ∧
      (m.items .plain (.empty "test_msgs")).map (List.filterMap Target.Item.typeName?) =
        .ok ["Self_","Self_"] ∧
      ¬ ["Self_","Self_"].Nodup := by
  decide +kernel

/-! ### The names of fields -/

/-- Two names of fields have one identifier exactly if they are the same, or `self`, `super` or `crate` and that
    name with an underscore. The record of a message and its default value have a field for each member,
    under its identifier; where the members have different names, so have the fields, unless there are two
    such members. -/
theorem fieldNames_of_generate (read : Message.read package name source = .ok m)
    (distinct : (m.members.map Field.name).Nodup) (made : m.generate style index = .ok g) :
    (∀ a b, isFieldName a = true → isFieldName b = true →
      (Target.identifier a = Target.identifier b ↔ a = b ∨
        ∃ n ∈ ["self","super","crate"], (a = n ∧ b = n ++ "_") ∨ (b = n ∧ a = n ++ "_"))) ∧
    ∃ items, m.items style index = .ok items ∧ g.code = style.preamble ++ Target.itemsText items ∧
      items.filterMap Target.Item.fieldNames? =
        m.memberIdentifiers :: (if style.wantsDefault then [m.memberIdentifiers] else []) ∧
      (m.memberIdentifiers.Nodup ↔ ∀ n ∈ ["self","super","crate"],
        ¬ (n ∈ m.members.map Field.name ∧ n ++ "_" ∈ m.members.map Field.name)) := by
  obtain ⟨items,written,rfl⟩ := generate_eq_ok.mp made
  have named : ∀ n ∈ m.members.map Field.name, isFieldName n = true := by
    simpa using (isSound_of_read read).members
  rw [← Target.reserved_fields]
  exact ⟨fun a b first second => Target.identifier_eq_iff_of_accepts first second,items,written,rfl,
    fieldNames_of_items written,Target.nodup_identifiers_of_accepts named distinct⟩

/-- A message with a member `self` and one that is a keyword. -/
theorem fieldNames_of_self_and_type :
    let source := "int32 self\nint32 type\n"
    let m : Message := ⟨"test_msgs","Pair","",
      [⟨"self",.ofPrimitive .int32,.member none,none,1⟩,⟨"type",.ofPrimitive .int32,.member none,none,2⟩],[]⟩
    let code := "pub struct Pair \x7b\n    pub self_: i32,\n    pub r#type: i32,\n\x7d\n"
    Message.read "test_msgs" "Pair" source = .ok m ∧ (m.members.map Field.name).Nodup ∧
      m.generate .plain (.empty "test_msgs") = .ok ⟨code,"Pair","pair"⟩ ∧
      (∀ a b, isFieldName a = true → isFieldName b = true →
        (Target.identifier a = Target.identifier b ↔ a = b ∨
          ∃ n ∈ ["self","super","crate"], (a = n ∧ b = n ++ "_") ∨ (b = n ∧ a = n ++ "_"))) ∧
      ∃ items, m.items .plain (.empty "test_msgs") = .ok items ∧
        code = Style.plain.preamble ++ Target.itemsText items ∧
        items.filterMap Target.Item.fieldNames? =
          m.memberIdentifiers :: (if Style.plain.wantsDefault then [m.memberIdentifiers] else []) ∧
        (m.memberIdentifiers.Nodup ↔ ∀ n ∈ ["self","super","crate"],
          ¬ (n ∈ m.members.map Field.name ∧ n ++ "_" ∈ m.members.map Field.name)) := by
  intro source m code
  have read : Message.read "test_msgs" "Pair" source = .ok m := by decide +kernel
  have distinct : (m.members.map Field.name).Nodup := by decide +kernel
  have made : m.generate .plain (.empty "test_msgs") = .ok ⟨code,"Pair","pair"⟩ := by decide +kernel
  exact ⟨read,distinct,made,fieldNames_of_generate read distinct made⟩

/-- The members `self` and `self_` are both the field `self_`, in the record and in its default value. -/
theorem fieldNames_of_self :
    let source := "int32 self\nint32 self_\n"
    let m : Message := ⟨"test_msgs","Pair","",
      [⟨"self",.ofPrimitive .int32,.member none,none,1⟩,⟨"self_",.ofPrimitive .int32,.member none,none,2⟩],[]⟩
    let style : Style := ⟨["Default"],none,[]⟩
    Message.read "test_msgs" "Pair" source = .ok m ∧ (m.members.map Field.name).Nodup ∧
      m.generate .plain (.empty "test_msgs") =
        .ok ⟨"pub struct Pair \x7b\n    pub self_: i32,\n    pub self_: i32,\n\x7d\n","Pair","pair"⟩ ∧
      (m.items style (.empty "test_msgs")).map (List.filterMap Target.Item.fieldNames?) =
        .ok [["self_","self_"],["self_","self_"]] ∧
      ¬ ["self_","self_"].Nodup := by
  decide +kernel

/-! ### Variants -/

/-- The enumerations in the code of a message are those of the message, in order. The variants of each one are
    different identifiers that begin with a capital, and their numbers are different; each variant has the
    number of the constant in its place. -/
theorem variants_of_generate (read : Message.read package name source = .ok m)
    (made : m.generate style index = .ok g) :
    ∃ items, m.items style index = .ok items ∧ g.code = style.preamble ++ Target.itemsText items ∧
      List.Forall₂ (Enumeration.IsWrittenAs m.fields) m.enumerations
        (items.filterMap Target.Item.variants?) := by
  obtain ⟨items,written,rfl⟩ := generate_eq_ok.mp made
  have sound := isSound_of_read read
  refine ⟨items,written,rfl,?_⟩
  rw [variants_of_items written,List.forall₂_map_right_iff,List.forall₂_same]
  exact fun e member => (sound.enumerations e member).isWrittenAs sound.fields

/-- A block with a constant whose variant is reserved, and a run. -/
theorem variants_of_block_and_run :
    let source := "@enum Mode\nint8 MODE_SELF=-1 # first\nint8 MODE_SELF_2=0\n\nuint8 KIND_X1=3\nuint8 KIND_Y=4\n"
    let m : Message := ⟨"test_msgs","State","",
      [⟨"MODE_SELF",.ofPrimitive .int8,.constant (.integer (-1)),some "first",2⟩,
        ⟨"MODE_SELF_2",.ofPrimitive .int8,.constant (.integer 0),none,3⟩,
        ⟨"KIND_X1",.ofPrimitive .uint8,.constant (.integer 3),none,5⟩,
        ⟨"KIND_Y",.ofPrimitive .uint8,.constant (.integer 4),none,6⟩],
      [⟨"Mode",.int8,[⟨"MODE_SELF",-1,some "first"⟩,⟨"MODE_SELF_2",0,none⟩],none,true⟩,
        ⟨"Kind",.uint8,[⟨"KIND_X1",3,none⟩,⟨"KIND_Y",4,none⟩],none,false⟩]⟩
    Message.read "test_msgs" "State" source = .ok m ∧
      (m.items .plain (.empty "test_msgs")).map (List.filterMap Target.Item.variants?) =
        .ok [[⟨some "first","Self_",-1⟩,⟨none,"Self2",0⟩],[⟨none,"X1",3⟩,⟨none,"Y",4⟩]] ∧
      ∃ g, m.generate .plain (.empty "test_msgs") = .ok g ∧
        ∃ items, m.items .plain (.empty "test_msgs") = .ok items ∧
          g.code = Style.plain.preamble ++ Target.itemsText items ∧
          List.Forall₂ (Enumeration.IsWrittenAs m.fields) m.enumerations
            (items.filterMap Target.Item.variants?) := by
  intro source m
  have read : Message.read "test_msgs" "State" source = .ok m := by decide +kernel
  have variants : (m.items .plain (.empty "test_msgs")).map (List.filterMap Target.Item.variants?) =
      .ok [[⟨some "first","Self_",-1⟩,⟨none,"Self2",0⟩],[⟨none,"X1",3⟩,⟨none,"Y",4⟩]] := by
    decide +kernel
  obtain ⟨_,written,_⟩ := map_eq_ok.mp variants
  have made := generate_eq_ok.mpr ⟨_,written,rfl⟩
  exact ⟨read,variants,_,made,variants_of_generate read made⟩

end Message

end MsgBindings
