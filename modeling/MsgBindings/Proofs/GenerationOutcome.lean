import MsgBindings.Proofs.ExpressionReading
import MsgBindings.Proofs.MemberTypes

/-!
What generating the code of a message comes to. With a plain index and plain derives the only fault is a member that
refers to a message that is not registered, and the first one of these is named (`generate_of_plain`). All identifiers
of the code are ones, and all texts of types and values that it is made from are read (`isAccepted_of_items`).
-/
namespace MsgBindings

namespace Target

/-! ### Derives -/

section

variable {isGlobal : Bool} {names : List String}

theorem unmarked_pathText (words : ∀ n ∈ names, Reader.IsPathName n) :
    ∀ c ∈ (Token.pathText isGlobal names).head?, c.toNat ≠ 0xFEFF := by
  intro c first
  have ascii := (solid_of_mem_pathText isGlobal (fun n member => (words n member).1) c
    (List.mem_of_mem_head? first)).2.2
  omega

theorem reads_pathText (filled : names ≠ []) (words : ∀ n ∈ names, Reader.IsPathName n) :
    Token.Reads (Token.pathText isGlobal names) (Token.pathTokens isGlobal names) := by
  have whole := (Token.reads_path isGlobal filled (fun n member => (words n member).1) (by simp [Token.Parted])
    Token.reads_nil).1
  simpa using whole

theorem read?_pathText (filled : names ≠ []) (words : ∀ n ∈ names, Reader.IsPathName n) :
    Path.read? (Token.pathText isGlobal names) = some ⟨isGlobal,names.map .plain⟩ := by
  have stops : Reader.Stops [] := ⟨rfl,rfl,rfl,rfl⟩
  have start := Reader.optional_colons isGlobal filled []
  have count := length_le_pathTokens isGlobal names
  have path : Reader.path (16 * ((Token.pathTokens isGlobal names).length + 1)) (Token.nameTokens names ++ []) =
      some (names.map .plain,[]) :=
    Reader.path_names filled (fun n member => (words n member).2) stops (by omega)
  rw [List.append_nil,List.append_nil] at start
  rw [List.append_nil] at path
  refine Reader.readAll_of_reads (reads_pathText filled words) (unmarked_pathText words) ?_
  exact (Reader.bind_of_eq start).trans (Reader.bind_of_eq path)

end

/-- The tokens of a plain path are those of a derive. -/
theorem tokens?_of_plain {text : String} (plain : IsPlainPath text) :
    (Path.read? (Text.trim text.toList)).isSome = true ∧ ∃ tokens, DeriveList.tokens? text = some tokens := by
  obtain ⟨isGlobal,names,filled,words,chars⟩ := plain
  have solid := solid_of_mem_pathText isGlobal fun n member => (words n member).1
  have trimmed : Text.trim text.toList = Token.pathText isGlobal names := by
    rw [chars]
    exact Text.trim_solid fun c member => (solid c member).1
  have path : Path.read? (Token.pathText isGlobal names) = some ⟨isGlobal,names.map .plain⟩ :=
    read?_pathText filled words
  have reads : Token.Reads (Token.pathText isGlobal names) (Token.pathTokens isGlobal names) :=
    reads_pathText filled words
  have tokens := Token.readAll_eq reads (unmarked_pathText words)
  refine ⟨by simp [trimmed,path],DeriveList.arrange (Token.pathTokens isGlobal names),?_⟩
  simp [DeriveList.tokens?,trimmed,path,tokens]

/-! ### Texts and names of items -/

theorem read?_primitiveText (p : Primitive) : (TypeExpr.read? (primitiveText p none).toList).isSome = true := by
  have read := read?_arrayText (isElement_primitive p none) none
  rw [arrayText] at read
  rw [read]
  rfl

theorem read?_constantTypeText (p : Primitive) : (TypeExpr.read? (constantTypeText p).toList).isSome = true := by
  have borrowed : (TypeExpr.read? "&str".toList).isSome = true := by decide +kernel
  unfold constantTypeText
  split
  · exact borrowed
  · exact read?_primitiveText p

namespace Item

/-- The identifiers that an item declares or names. -/
def identifiers : Item → List String
  | record _ _ name fields => name :: fields.map (·.name)
  | defaults name values => name :: values.map (·.1)
  | constants name members => name :: members.map (·.name)
  | enumeration _ _ name variants => name :: variants.map (·.name)

/-- The values in an item. -/
def values : Item → List ValueExpr
  | defaults _ values => values.map (·.2)
  | constants _ members => members.map (·.value)
  | record _ _ _ _ | enumeration _ _ _ _ => []

end Item

theorem read?_number (i : Int) :
    Expression.read? (toString i).toList = some (ScalarExpr.literal .int64 (.integer i)).tree := by
  have text : toString i = (ValueExpr.scalar (.literal .int64 (.integer i))).text := by
    cases i with
    | ofNat n =>
      have plain : hasMinus (.integer (.ofNat n)) = false := by simp [hasMinus]
      simp only [ValueExpr.text,ScalarExpr.text,plain,Bool.false_eq_true,↓reduceIte,String.empty_append]
      rfl
    | negSucc n =>
      have minus : hasMinus (.integer (.negSucc n)) = true := by simp [hasMinus]
      simp only [ValueExpr.text,ScalarExpr.text,minus,↓reduceIte]
      rfl
  rw [text,read?_text]
  rfl

end Target

/-- Whether a member has a built-in type or refers to a message that an index knows. -/
def Field.isResolved (index : PackageIndex) (f : Field) : Bool :=
  f.type.base.isPrimitive || (index.resolve f.type.base).isSome

namespace Message

variable {m : Message} {package name source : String} {style : Style} {index : PackageIndex}
  {items : List Target.Item}

/-- The first member that refers to a message that an index does not know. -/
def unresolved? (m : Message) (index : PackageIndex) : Option Field := m.members.find? fun f => !f.isResolved index

/-! ### References that are not resolved -/

theorem memberTypeText_of_resolved {f : Field} (resolved : f.isResolved index = true) :
    ∃ text, m.memberTypeText index f = .ok text := by
  unfold memberTypeText Target.typeText
  unfold Field.isResolved at resolved
  cases base : f.type.base with
  | primitive p bound => exact ⟨_,rfl⟩
  | message package name =>
    rw [base] at resolved
    obtain ⟨path,here⟩ := Option.isSome_iff_exists.mp resolved
    rw [here]
    exact ⟨_,rfl⟩

theorem memberTypeText_of_unresolved {f : Field} (unresolved : f.isResolved index = false) :
    m.memberTypeText index f = .error (.unresolved f.type.base.text f.name m.name) := by
  unfold memberTypeText Target.typeText
  unfold Field.isResolved at unresolved
  cases base : f.type.base with
  | primitive p bound =>
    rw [base] at unresolved
    cases unresolved
  | message package name =>
    rw [base] at unresolved
    have none : index.resolve (.message package name) = none := by simpa [BaseType.isPrimitive] using unresolved
    rw [none]
    rfl

/-- A message with a reference that is not resolved has no code. -/
theorem generate_of_unresolved {f : Field} (first : m.unresolved? index = some f) :
    m.generate style index = .error (.unresolved f.type.base.text f.name m.name) := by
  obtain ⟨unresolved,before,after,split,each⟩ := List.find?_eq_some_iff_append.mp first
  simp only [Bool.not_eq_true',Bool.not_not] at unresolved each
  obtain ⟨texts,resolved⟩ := exists_forall₂ fun b member => memberTypeText_of_resolved (m := m) (each b member)
  have types : m.members.mapM (m.memberTypeText index) =
      .error (.unresolved f.type.base.text f.name m.name) :=
    mapM_eq_error.mpr ⟨before,f,after,texts,split,mapM_eq_ok.mpr resolved,memberTypeText_of_unresolved unresolved⟩
  have items : m.items style index = .error (.unresolved f.type.base.text f.name m.name) :=
    bind_eq_error.mpr (.inl types)
  exact bind_eq_error.mpr (.inl items)

/-- A message whose references are resolved has code. -/
theorem items_of_resolved (read : Message.read package name source = .ok m) (plain : index.IsPlain)
    (derives : ∀ d ∈ style.derives, Target.IsPlainPath d) (resolved : m.unresolved? index = none) :
    ∃ items, m.items style index = .ok items := by
  have each : ∀ f ∈ m.members, f.isResolved index = true := by simpa using List.find?_eq_none.mp resolved
  obtain ⟨types,texts⟩ := exists_forall₂ fun f member => memberTypeText_of_resolved (m := m) (each f member)
  obtain ⟨tokens,derived⟩ : ∃ tokens, style.recordDerives.mapM Target.DeriveList.tokens? = some tokens := by
    have one : ∀ d ∈ style.recordDerives, ∃ tokens, Target.DeriveList.tokens? d = some tokens :=
      fun d member => (Target.tokens?_of_plain (derives d (List.mem_filter.mp member).1)).2
    obtain ⟨tokens,all⟩ := exists_forall₂ one
    exact ⟨tokens,mapM_eq_some.mpr all⟩
  obtain ⟨fields,typed⟩ : ∃ fields, (m.members.zip types).mapM (fun pair => recordField? pair.1 pair.2) =
      some fields := by
    have one : ∀ pair ∈ m.members.zip types, ∃ field, recordField? pair.1 pair.2 = some field := by
      rintro ⟨f,text⟩ member
      have made : m.memberTypeText index f = .ok text := (List.forall₂_iff_zip.mp texts).2 member
      have inside := (List.mem_filter.mp (List.of_mem_zip member).1).1
      obtain ⟨_,_,type,_⟩ := typeText_of_plain plain
        (fun _ _ reference => isMessageName_of_reference read inside reference) made
      exact ⟨_,by rw [recordField?,type]; rfl⟩
    obtain ⟨fields,all⟩ := exists_forall₂ one
    exact ⟨fields,mapM_eq_some.mpr all⟩
  obtain ⟨record,whole⟩ : ∃ record, m.recordItem? style types = some record :=
    ⟨_,Option.bind_eq_some_iff.mpr ⟨tokens,derived,Option.bind_eq_some_iff.mpr ⟨fields,typed,rfl⟩⟩⟩
  unfold Message.items
  rw [mapM_eq_ok.mpr texts]
  dsimp only [bind,Except.bind]
  rw [whole]
  exact ⟨_,rfl⟩

/-! ### What the code is made from -/

theorem isIdentifier_of_accepted {pattern : NamePattern} {n : String} (accepted : pattern.accepts n = true) :
    Target.IsIdentifier (Target.identifier n) :=
  Target.isIdentifier_identifier (NamePattern.isWord_of_accepts accepted)

theorem isIdentifier_of_constantItem {f : Field} {c : Target.ConstantItem} (named : f.IsNamed)
    (made : constantItem? f = some c) : Target.IsIdentifier c.name := by
  unfold constantItem? at made
  obtain ⟨p,_,made⟩ := Option.bind_eq_some_iff.mp made
  obtain ⟨v,value,made⟩ := Option.bind_eq_some_iff.mp made
  obtain ⟨type,_,made⟩ := Option.bind_eq_some_iff.mp made
  cases made
  -- Only constants have a value.
  cases role : f.role with
  | constant value =>
    have accepted : isConstantName f.name = true := by simpa only [Field.IsNamed,role] using named
    exact isIdentifier_of_accepted accepted
  | member default => simp [Field.value?,role] at value

/-- The identifiers in the code of a sound message are ones. -/
theorem isIdentifier_of_items (sound : m.IsSound) (made : m.items style index = .ok items) :
    ∀ n ∈ items.flatMap Target.Item.identifiers, Target.IsIdentifier n := by
  obtain ⟨comment,derives,fields,names,rfl⟩ := items_of_ok made
  have record : Target.IsIdentifier (Target.identifier m.name) := isIdentifier_of_accepted sound.named
  have members : ∀ n ∈ m.memberIdentifiers, Target.IsIdentifier n := by
    unfold memberIdentifiers
    rw [List.forall_mem_map,List.forall_mem_map]
    exact fun f member => isIdentifier_of_accepted (sound.members f member)
  intro n member
  obtain ⟨item,held,inside⟩ := List.mem_flatMap.mp member
  rcases List.mem_cons.mp held with rfl | later
  · rcases List.mem_cons.mp inside with rfl | field
    · exact record
    · exact members n (names ▸ field)
  · rcases item_cases later with rfl | rfl | ⟨e,enumerated,rfl⟩
    · rcases List.mem_cons.mp inside with rfl | field
      · exact record
      · refine members n ?_
        simpa [memberIdentifiers] using field
    · rcases List.mem_cons.mp inside with rfl | constant
      · exact record
      · obtain ⟨c,made,rfl⟩ := List.mem_map.mp constant
        obtain ⟨f,origin,here⟩ := List.mem_filterMap.mp made
        exact isIdentifier_of_constantItem (sound.fields f (List.mem_filter.mp origin).1) here
    · rcases List.mem_cons.mp inside with rfl | variant
      · exact isIdentifier_of_accepted (sound.isMessageName_of_mem e.name
          (List.mem_cons_of_mem _ (List.mem_map_of_mem enumerated)))
      · have written := (sound.enumerations e enumerated).isWrittenAs sound.fields
        exact (written.identifiers n variant).1

/-- Whether everything that the code of a message is made from is read: the identifiers, the derives, and the texts of
    types and values. A value is read as the same tree before and after it is laid out. -/
structure IsAccepted (m : Message) (style : Style) (index : PackageIndex) (items : List Target.Item) : Prop where
  identifiers : ∀ n ∈ items.flatMap Target.Item.identifiers, Target.IsIdentifier n
  derives : ∀ d ∈ style.recordDerives, (Target.Path.read? (Text.trim d.toList)).isSome = true
  members : ∀ f ∈ m.members, ∃ text, m.memberTypeText index f = .ok text ∧
    (Target.TypeExpr.read? text.toList).isSome = true
  constants : ∀ f ∈ m.constants, ∀ p, f.type.base.primitive? = some p →
    (Target.TypeExpr.read? (Target.constantTypeText p).toList).isSome = true
  numbers : ∀ e ∈ m.enumerations, (Target.TypeExpr.read? (Target.primitiveText e.repr none).toList).isSome = true
  values : ∀ v ∈ items.flatMap Target.Item.values,
    ∃ x, Target.Expression.read? v.text.toList = some x ∧ Target.Expression.read? (Target.flat v.pieces) = some x
  variants : ∀ vs ∈ items.filterMap Target.Item.variants?, ∀ v ∈ vs,
    (Target.Expression.read? (toString v.number).toList).isSome = true

theorem isAccepted_of_items (read : Message.read package name source = .ok m)
    (derives : ∀ d ∈ style.derives, Target.IsPlainPath d) (made : m.items style index = .ok items) :
    m.IsAccepted style index items where
  identifiers := isIdentifier_of_items (isSound_of_read read) made
  derives d member := (Target.tokens?_of_plain (derives d (List.mem_filter.mp member).1)).1
  members f member := by
    obtain ⟨fields,_,each⟩ := record_of_items made
    obtain ⟨field,_,is⟩ := exists_of_mem_right each.flip member
    obtain ⟨text,here,typed⟩ := is.type
    exact ⟨text,here,by rw [typed]; rfl⟩
  constants _ _ p _ := Target.read?_constantTypeText p
  numbers e _ := Target.read?_primitiveText e.repr
  values v _ := ⟨v.tree,Target.read?_text v,Target.read?_of_readsAs (Target.readsAs_pieces v)⟩
  variants _ _ v _ := by rw [Target.read?_number]; rfl

/-- With a plain index and plain derives a message whose references are all resolved has code, made from what is read
    only, and otherwise the first member that is not resolved is named. -/
theorem generate_of_plain (read : Message.read package name source = .ok m) (plain : index.IsPlain)
    (derives : ∀ d ∈ style.derives, Target.IsPlainPath d) :
    match m.unresolved? index with
    | some f => m.generate style index = .error (.unresolved f.type.base.text f.name m.name)
    | none => ∃ items, m.items style index = .ok items ∧ m.IsAccepted style index items ∧
        m.generate style index =
          .ok ⟨style.preamble ++ Target.itemsText items,Target.identifier m.name,Target.moduleName m.name⟩ := by
  cases resolved : m.unresolved? index with
  | some f => exact generate_of_unresolved resolved
  | none =>
    obtain ⟨items,made⟩ := items_of_resolved read plain derives resolved
    exact ⟨items,made,isAccepted_of_items read derives made,generate_eq_ok.mpr ⟨items,made,rfl⟩⟩

/-- A message with a keyword and a negative number among its members, and one whose last reference is not
    resolved. -/
theorem generate_of_sample :
    let source := "uint8 KIND_SELF=0\nint8[] type [-1, 2]\nPoint p\ngeometry_msgs/Pose q\n"
    let q : Field := ⟨"q",⟨.message (some "geometry_msgs") "Pose",none⟩,.member none,none,4⟩
    let m : Message := ⟨"test_msgs","Sample","",
      [⟨"KIND_SELF",.ofPrimitive .uint8,.constant (.integer 0),none,1⟩,
        ⟨"type",⟨.primitive .int8 none,some .unbounded⟩,.member (some (.array [.integer (-1),.integer 2])),none,2⟩,
        ⟨"p",⟨.message none "Point",none⟩,.member none,none,3⟩,q],[]⟩
    let style : Style := ⟨["Debug","Default","serde::Serialize"],none,[]⟩
    let index := (PackageIndex.empty "test_msgs").insert "Point"
    let wider := index.withExternal "geometry_msgs" "crate::geometry_msgs"
    Message.read "test_msgs" "Sample" source = .ok m ∧ index.IsPlain ∧ wider.IsPlain ∧
    (∀ d ∈ style.derives, Target.IsPlainPath d) ∧
    m.unresolved? index = some q ∧ m.generate style index = .error (.unresolved "geometry_msgs/Pose" "q" "Sample") ∧
    m.unresolved? wider = none ∧
    ∃ items, m.items style wider = .ok items ∧ m.IsAccepted style wider items ∧
      m.generate style wider = .ok ⟨style.preamble ++ Target.itemsText items,"Sample","sample"⟩ := by
  intro source q m style index wider
  have read : Message.read "test_msgs" "Sample" source = .ok m := by decide +kernel
  have words : ∀ n ∈ ["Debug","Default","serde","Serialize","geometry_msgs"], Target.Reader.IsPathName n := by
    have each : ∀ n ∈ ["Debug","Default","serde","Serialize","geometry_msgs"],
        Target.Token.IsSpelled n.toList ∧ Target.Reader.isName n = true := by decide +kernel
    exact fun n member => ⟨.inl (each n member).1,.inl (each n member).2⟩
  have around : Target.Reader.IsPathName "crate" := ⟨.inl (by decide),.inr (by decide)⟩
  have plain : index.IsPlain := .insert (.empty "test_msgs") (by decide)
  have path : Target.IsPlainPath "crate::geometry_msgs" := by
    refine ⟨false,["crate","geometry_msgs"],by simp,?_,rfl⟩
    simpa using ⟨around,words "geometry_msgs" (by simp)⟩
  have widened : wider.IsPlain := .withExternal plain "geometry_msgs" path
  have derives : ∀ d ∈ style.derives, Target.IsPlainPath d := by
    have debug : Target.IsPlainPath "Debug" := ⟨false,["Debug"],by simp,by simpa using words "Debug" (by simp),rfl⟩
    have default : Target.IsPlainPath "Default" :=
      ⟨false,["Default"],by simp,by simpa using words "Default" (by simp),rfl⟩
    have serialize : Target.IsPlainPath "serde::Serialize" :=
      ⟨false,["serde","Serialize"],by simp,by simpa using ⟨words "serde" (by simp),words "Serialize" (by simp)⟩,rfl⟩
    simpa [style] using ⟨debug,default,serialize⟩
  have first : m.unresolved? index = some q := by decide +kernel
  have resolved : m.unresolved? wider = none := by decide +kernel
  have narrow := generate_of_plain read plain derives
  have wide := generate_of_plain read widened derives
  rw [first] at narrow
  rw [resolved] at wide
  obtain ⟨items,made,accepted,code⟩ := wide
  have identifier : Target.identifier m.name = "Sample" := by decide +kernel
  have module : Target.moduleName m.name = "sample" := by decide +kernel
  rw [identifier,module] at code
  exact ⟨read,plain,widened,derives,first,narrow,resolved,items,made,accepted,code⟩

end Message

end MsgBindings
