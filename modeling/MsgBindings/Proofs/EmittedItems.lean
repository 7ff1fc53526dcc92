import MsgBindings.Proofs.GenerationOutcome
import MsgBindings.Proofs.ItemTexts

/-!
The items of generated code. The record of a message has a field for each member, its default value starts each of
these, and its constants and enumerations are those of the message, all in order (`Message.Emission`). The code is
what stands above it and then one text of each of these items (`Message.emission_of_generate`).
-/
namespace MsgBindings

/-! ### Types without bounds -/

def BaseType.withoutBound : BaseType → BaseType
  | primitive p _ => primitive p none
  | base => base

def ArrayShape.withoutBound : ArrayShape → ArrayShape
  | bounded _ => unbounded
  | shape => shape

/-- The type of a field without the bounds of its strings and its array. -/
def FieldType.withoutBounds (type : FieldType) : FieldType :=
  ⟨type.base.withoutBound,type.array.map ArrayShape.withoutBound⟩

namespace Target

/-- Of a note behind a text that ends with a mark at most a space is left. -/
theorem dropComments_note (inside : Bool) (s : List Char) (bound : Nat) :
    ∃ gap, (gap = [] ∨ gap = [' ']) ∧
      dropComments inside (s ++ '>' :: (boundComment bound).toList) = dropComments inside (s ++ ['>']) ++ gap := by
  -- The note may be inside of a comment that starts before the mark, so both cases go along in the induction.
  fun_induction dropComments inside s with
  | case1 inside =>
    cases inside with
    | false =>
      have note := dropComments_boundComment bound []
      rw [List.append_nil] at note
      exact ⟨[' '],.inr rfl,by simp [dropComments,note]⟩
    | true =>
      refine ⟨[],.inl rfl,?_⟩
      have skip := dropComments_skip (s := ['>']) (by decide)
      rw [List.nil_append,← List.singleton_append,skip,dropComments_inside_boundComment]
      rfl
  | case2 rest ih =>
    obtain ⟨gap,kind,same⟩ := ih
    exact ⟨gap,kind,by simpa [dropComments] using same⟩
  | case3 rest ih =>
    obtain ⟨gap,kind,same⟩ := ih
    exact ⟨gap,kind,by simpa [dropComments] using same⟩
  | case4 c rest other ih =>
    obtain ⟨gap,kind,same⟩ := ih
    have kept : ∀ t, dropComments false (c :: (rest ++ '>' :: t)) = c :: dropComments false (rest ++ '>' :: t) := by
      intro t
      rw [dropComments.eq_4]
      rintro t' rfl starts
      cases rest with
      | nil => cases starts
      | cons d rest => exact other _ rfl (by rw [(List.cons.inj starts).1])
    exact ⟨gap,kind,by rw [List.cons_append,List.cons_append,kept,kept,same]; rfl⟩
  | case5 c rest other ih =>
    obtain ⟨gap,kind,same⟩ := ih
    have kept : ∀ t, dropComments true (c :: (rest ++ '>' :: t)) = dropComments true (rest ++ '>' :: t) := by
      intro t
      rw [dropComments.eq_5]
      rintro t' rfl starts
      cases rest with
      | nil => cases starts
      | cons d rest => exact other _ rfl (by rw [(List.cons.inj starts).1])
    exact ⟨gap,kind,by rw [List.cons_append,List.cons_append,kept,kept,same]⟩

theorem read?_note (element : String) (bound : Nat) :
    TypeExpr.read? (s!"Vec<{element}>" ++ boundComment bound).toList = TypeExpr.read? s!"Vec<{element}>".toList := by
  have text : s!"Vec<{element}>".toList = "Vec<".toList ++ element.toList ++ ['>'] := by simp [toString]
  obtain ⟨gap,kind,same⟩ := dropComments_note false ("Vec<".toList ++ element.toList) bound
  have trimmed : ∀ s : List Char, Text.trim (s ++ gap) = Text.trim s := by
    intro s
    rcases kind with rfl | rfl
    · rw [List.append_nil]
    · rw [← Text.trim_trimEnd,Text.trimEnd_eq,List.rdropWhile_concat_pos _ _ _ (by decide),← Text.trimEnd_eq,
        Text.trim_trimEnd]
  unfold TypeExpr.read?
  rw [String.toList_append,text,List.append_assoc _ ['>'],List.singleton_append,same,trimmed]

/-- A type is read as if it had no bounds. -/
theorem read?_withoutBounds {type : FieldType} {path : Option String} {text : String}
    (made : typeText type path = some text) :
    ∃ bare, typeText type.withoutBounds path = some bare ∧
      TypeExpr.read? bare.toList = TypeExpr.read? text.toList := by
  obtain ⟨base,shape⟩ := type
  cases base with
  | primitive p bound =>
    cases made
    refine ⟨_,rfl,?_⟩
    rw [read?_arrayText (isElement_primitive p bound),FieldType.withoutBounds,
      read?_arrayText (isElement_primitive p none)]
    rcases shape with _ | _ | _ | _ <;> rfl
  | message package name =>
    obtain ⟨element,rfl,rfl⟩ := Option.map_eq_some_iff.mp made
    refine ⟨_,rfl,?_⟩
    rcases shape with _ | _ | _ | bound
    · rfl
    · rfl
    · rfl
    · exact (read?_note element bound).symm

end Target

/-! ### Parts of items -/

namespace Field

/-- The values that a member may start with: its default value where one is declared, and otherwise the default value
    of its type. -/
inductive Starts (f : Field) : Target.ValueExpr → Prop
  | single {p : Primitive} {v : Literal} :
      f.default? = some (.single v) → f.type.base.primitive? = some p → Starts f (.scalar (.ofLiteral p v))
  | array {p : Primitive} {vs : List Literal} {size : Nat} :
      f.default? = some (.array vs) → f.type.base.primitive? = some p → f.type.array = some (.fixed size) →
      Starts f (.array (vs.map (.ofLiteral p)))
  | vector {p : Primitive} {vs : List Literal} :
      f.default? = some (.array vs) → f.type.base.primitive? = some p → (∀ size, f.type.array ≠ some (.fixed size)) →
      Starts f (.vector (vs.map (.ofLiteral p)))
  | defaults {size : Nat} :
      f.default? = none ∨ f.type.base.primitive? = none → f.type.array = some (.fixed size) → Starts f .defaults
  | default :
      f.default? = none ∨ f.type.base.primitive? = none → (∀ size, f.type.array ≠ some (.fixed size)) →
      Starts f .default

theorem starts_ofField (f : Field) : f.Starts (.ofField f) := by
  unfold Target.ValueExpr.ofField
  split
  · rename_i v p declared builtIn
    exact .single declared builtIn
  · rename_i vs p declared builtIn
    split
    · rename_i size fixed
      exact .array declared builtIn fixed
    · rename_i other
      exact .vector declared builtIn other
  · rename_i single array
    have undeclared : f.default? = none ∨ f.type.base.primitive? = none := by
      cases declared : f.default? with
      | none => exact .inl rfl
      | some value =>
        cases builtIn : f.type.base.primitive? with
        | none => exact .inr rfl
        | some p =>
          cases value with
          | single v => exact (single v p declared builtIn).elim
          | array vs => exact (array vs p declared builtIn).elim
    split
    · rename_i size fixed
      exact .defaults undeclared fixed
    · rename_i other
      exact .default undeclared other

/-- Whether an item of generated code stands for a constant. -/
structure IsConstantItem (f : Field) (c : Target.ConstantItem) : Prop where
  comment : c.comment = f.comment
  name : c.name = Target.identifier f.name
  definition : ∃ p v, f.type.base.primitive? = some p ∧ f.value? = some v ∧
    Target.TypeExpr.read? (Target.constantTypeText p).toList = some c.type ∧ c.value = .scalar (.literal p v)

/-- The constants of built-in types have an item each, and others have none. -/
theorem forall₂_constantItem {constants : List Field} (each : ∀ f ∈ constants, f.isConstant = true) :
    List.Forall₂ IsConstantItem (constants.filter fun f => f.type.isPrimitive)
      (constants.filterMap Message.constantItem?) := by
  induction constants with
  | nil => exact .nil
  | cons f rest ih =>
    rw [List.forall_mem_cons] at each
    obtain ⟨v,value⟩ := Option.isSome_iff_exists.mp each.1
    have later := ih each.2
    cases base : f.type.base with
    | primitive p bound =>
      obtain ⟨type,read⟩ := Option.isSome_iff_exists.mp (Target.read?_constantTypeText p)
      have builtIn : f.type.base.primitive? = some p := by rw [base]; rfl
      have made : Message.constantItem? f =
          some ⟨f.comment,Target.identifier f.name,type,.scalar (.literal p v)⟩ := by
        simp [Message.constantItem?,builtIn,value,read]
      rw [List.filterMap_cons_some made,
        List.filter_cons_of_pos (by simp [FieldType.isPrimitive,base,BaseType.isPrimitive])]
      exact .cons ⟨rfl,rfl,p,v,builtIn,value,read,rfl⟩ later
    | message package name =>
      have none : Message.constantItem? f = none := by simp [Message.constantItem?,base,BaseType.primitive?]
      rwa [List.filterMap_cons_none none,
        List.filter_cons_of_neg (by simp [FieldType.isPrimitive,base,BaseType.isPrimitive])]

end Field

namespace Enumeration

/-- Whether an item of generated code stands for an enumeration: its variants are the values, in order. -/
def IsEnumerationItem (e : Enumeration) (item : Target.Item) : Prop :=
  ∃ variants, item = .enumeration e.comment (Target.primitiveText e.repr none) (Target.identifier e.name) variants ∧
    variants.map (·.comment) = e.values.map (·.comment) ∧
    variants.map (·.name) = e.variantNames.map Target.identifier ∧
    variants.map (·.number) = e.values.map (·.number)

theorem map_comment_emitted (e : Enumeration) : e.emitted.map (·.comment) = e.values.map (·.comment) :=
  List.ext_getElem (by simp [emitted]) (by simp [emitted])

theorem isEnumerationItem_emitted (e : Enumeration) : e.IsEnumerationItem (Message.enumerationItem e) :=
  ⟨e.emitted,rfl,e.map_comment_emitted,e.map_name_emitted,e.map_number_emitted⟩

end Enumeration

theorem Style.wantsDefault_iff (style : Style) : style.wantsDefault = true ↔ "Default" ∈ style.derives := by
  simp [wantsDefault,defaultDerive]

namespace Message

variable {m : Message} {style : Style} {index : PackageIndex} {g : GeneratedModule}

/-- Whether a field of a record stands for a member, whose type is read as if it had no bounds. -/
structure IsMemberItem (m : Message) (index : PackageIndex) (member : Field) (field : Target.RecordField) : Prop
    extends IsRecordField m index member field where
  bare : ∃ text, Target.typeText member.type.withoutBounds (index.resolve member.type.base) = some text ∧
    Target.TypeExpr.read? text.toList = some field.type

theorem IsRecordField.isMemberItem {member : Field} {field : Target.RecordField}
    (is : IsRecordField m index member field) : IsMemberItem m index member field := by
  obtain ⟨text,made,read⟩ := is.type
  have typed : Target.typeText member.type (index.resolve member.type.base) = some text := by
    unfold memberTypeText at made
    split at made
    · rename_i same
      cases made
      exact same
    · cases made
  obtain ⟨bare,made,same⟩ := Target.read?_withoutBounds typed
  exact ⟨is,bare,made,same.trans read⟩

/-- What the code of a message is made of. -/
structure Emission (m : Message) (style : Style) (index : PackageIndex) where
  derives : List (List Target.Token)
  fields : List Target.RecordField
  values : List (String × Target.ValueExpr)
  constants : List Target.ConstantItem
  enumerations : List Target.Item
  /-- The derives of the record are those that are asked for, without the one that is written out. -/
  derived : List.Forall₂ (fun d tokens => Target.DeriveList.tokens? d = some tokens)
    (style.derives.filter (· != "Default")) derives
  members : List.Forall₂ (IsMemberItem m index) m.members fields
  starts : List.Forall₂ (fun member value => value.1 = Target.identifier member.name ∧ member.Starts value.2)
    m.members values
  /-- The constants of built-in types, which are all that a definition declares. -/
  declared : List.Forall₂ Field.IsConstantItem (m.constants.filter fun f => f.type.isPrimitive) constants
  enumerated : List.Forall₂ Enumeration.IsEnumerationItem m.enumerations enumerations

namespace Emission

/-- The items, in the order of the code. -/
def items (e : Emission m style index) : List Target.Item :=
  .record (if m.comment = "" then none else some m.comment) e.derives (Target.identifier m.name) e.fields ::
    ((if "Default" ∈ style.derives then [.defaults (Target.identifier m.name) e.values] else []) ++
      (if e.constants = [] then [] else [.constants (Target.identifier m.name) e.constants]) ++ e.enumerations)

/-- The initial values are those of the fields of the record, in order. -/
theorem map_fst_values (e : Emission m style index) : e.values.map Prod.fst = e.fields.map (·.name) := by
  have fields := map_of_forall₂ e.members (f := fun f => Target.identifier f.name) (g := fun f => f.name)
    fun _ _ is => is.name.symm
  have values := map_of_forall₂ e.starts (f := fun f => Target.identifier f.name) (g := Prod.fst)
    fun _ _ is => is.1.symm
  rw [← values,← fields]

theorem isClosed (e : Emission m style index) : ∀ item ∈ e.items, item.IsClosed := by
  intro item member
  simp only [items,List.mem_cons,List.mem_append] at member
  rcases member with rfl | (default | constants) | enumeration
  · intro tokens inside
    obtain ⟨derive,_,made⟩ := exists_of_mem_right e.derived inside
    exact Target.DeriveList.balanced_of_tokens? made
  · split at default
    · obtain rfl := List.mem_singleton.mp default
      trivial
    · cases default
  · split at constants
    · cases constants
    · obtain rfl := List.mem_singleton.mp constants
      trivial
  · obtain ⟨_,_,_,rfl,_⟩ := exists_of_mem_right e.enumerated enumeration
    trivial

end Emission

/-- The items of the code of a message are made of its parts. -/
theorem emission_of_items {items : List Target.Item} (made : m.items style index = .ok items) :
    ∃ e : Emission m style index, items = e.items := by
  obtain ⟨derives,fields,derived,members,rfl⟩ := items_eq_of_ok made
  have constants : ∀ f ∈ m.constants, f.isConstant = true := fun f member => (List.mem_filter.mp member).2
  refine ⟨{
    derives
    fields
    values := m.members.map fun f => (Target.identifier f.name,Target.ValueExpr.ofField f)
    constants := m.constants.filterMap constantItem?
    enumerations := m.enumerations.map enumerationItem
    derived := mapM_eq_some.mp derived
    members := members.imp fun _ _ is => is.isMemberItem
    starts := List.forall₂_map_right_iff.mpr (List.forall₂_same.mpr fun f _ => ⟨rfl,f.starts_ofField⟩)
    declared := Field.forall₂_constantItem constants
    enumerated := List.forall₂_map_right_iff.mpr (List.forall₂_same.mpr fun e _ => e.isEnumerationItem_emitted) },?_⟩
  simp only [Emission.items,constantItems,style.wantsDefault_iff,defaultItem,String.isEmpty_iff,List.isEmpty_iff]

/-- The code of a message has what is asked for above it, unchanged, and then one text of each item, in order. The
    members of the record and their initial values have the same names. -/
theorem emission_of_generate (made : m.generate style index = .ok g) :
    ∃ (e : Emission m style index) (texts : List String),
      e.values.map Prod.fst = e.fields.map (·.name) ∧
      ((∀ f ∈ m.constants, f.type.isPrimitive = true) → List.Forall₂ Field.IsConstantItem m.constants e.constants) ∧
      List.Forall₂ Target.Item.IsText e.items texts ∧
      g.code = (style.header.map (· ++ "\n\n")).getD "" ++
        (if style.rawLines = [] then "" else String.join (style.rawLines.map (· ++ "\n")) ++ "\n") ++
        String.join texts := by
  obtain ⟨items,written,rfl⟩ := generate_eq_ok.mp made
  obtain ⟨e,rfl⟩ := emission_of_items written
  have some : e.items ≠ [] := List.cons_ne_nil _ _
  obtain ⟨texts,related,code⟩ := Target.itemsText_of_closed some e.isClosed
  refine ⟨e,texts,e.map_fst_values,fun builtIn => ?_,related,?_⟩
  · have all := List.filter_eq_self.mpr builtIn
    exact all ▸ e.declared
  · simp [code,Style.preamble,Style.headerText,List.isEmpty_iff]

/-- A message with a comment, a default value, bounds, constants and an enumeration. -/
theorem emission_of_sample :
    let source := "# A sample.\nint32 x 3 # the x\nstring<=10[<=2] names\n" ++
      "uint8 MODE_IDLE=0 # waiting\nuint8 MODE_ACTIVE=1\n"
    let m : Message := ⟨"test_msgs","Sample","A sample.",
      [⟨"x",.ofPrimitive .int32,.member (some (.single (.integer 3))),some "the x",2⟩,
        ⟨"names",⟨.primitive .string (some 10),some (.bounded 2)⟩,.member none,none,3⟩,
        ⟨"MODE_IDLE",.ofPrimitive .uint8,.constant (.integer 0),some "waiting",4⟩,
        ⟨"MODE_ACTIVE",.ofPrimitive .uint8,.constant (.integer 1),none,5⟩],
      [⟨"Mode",.uint8,[⟨"MODE_IDLE",0,some "waiting"⟩,⟨"MODE_ACTIVE",1,none⟩],none,false⟩]⟩
    let style : Style := ⟨["Debug","Default"],some "// Made for tests.",["#![allow(dead_code)]"]⟩
    let code := "// Made for tests.\n\n#![allow(dead_code)]\n\n" ++
      "/// A sample.\n#[derive(Debug)]\npub struct Sample \x7b\n    /// the x\n    pub x: i32,\n" ++
      "    pub names: Vec<::std::string::String>,\n\x7d\n" ++
      "impl ::core::default::Default for Sample \x7b\n    #[inline]\n    fn default() -> Self \x7b\n" ++
      "        Self \x7b\n            x: 3,\n            names: ::core::default::Default::default(),\n" ++
      "        \x7d\n    \x7d\n\x7d\n" ++
      "impl Sample \x7b\n    /// waiting\n    pub const MODE_IDLE: u8 = 0;\n" ++
      "    pub const MODE_ACTIVE: u8 = 1;\n\x7d\n" ++
      "#[derive(Debug, Clone, Copy, PartialEq, Eq, Hash)]\n#[repr(u8)]\npub enum Mode \x7b\n" ++
      "    /// waiting\n    Idle = 0,\n    Active = 1,\n\x7d\n"
    Message.read "test_msgs" "Sample" source = .ok m ∧
      m.generate style (.empty "test_msgs") = .ok ⟨code,"Sample","sample"⟩ ∧
      ∃ (e : Emission m style (.empty "test_msgs")) (texts : List String),
        e.values.map Prod.fst = e.fields.map (·.name) ∧
        ((∀ f ∈ m.constants, f.type.isPrimitive = true) → List.Forall₂ Field.IsConstantItem m.constants e.constants) ∧
        List.Forall₂ Target.Item.IsText e.items texts ∧
        code = (style.header.map (· ++ "\n\n")).getD "" ++
          (if style.rawLines = [] then "" else String.join (style.rawLines.map (· ++ "\n")) ++ "\n") ++
          String.join texts := by
  intro source m style code
  have read : Message.read "test_msgs" "Sample" source = .ok m := by decide +kernel
  have made : m.generate style (.empty "test_msgs") = .ok ⟨code,"Sample","sample"⟩ := by decide +kernel
  exact ⟨read,made,emission_of_generate made⟩

end Message

end MsgBindings
