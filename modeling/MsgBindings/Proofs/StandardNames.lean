import MsgBindings.Proofs.MemberTypes

/-!
The names that field types use without a module in front. They are the built-in types and the growing array of the
standard library (`usedNames_of_plain`), and of these a message can declare the growing array alone: its code
does so exactly if it is called `Vec` or has an enumeration of that name, and then an array of one of its fields
is one of that type (`standardNames_of_generate`).
-/
namespace MsgBindings

namespace Target

/-- The name of a path of one segment that is not global. -/
def bareName (isGlobal : Bool) : List Segment → List String
  | [.mk name _] => if isGlobal then [] else [name]
  | _ => []

mutual

/-- The names that stand in a type without a module in front of them. -/
def TypeExpr.bareNames : TypeExpr → List String
  | .path isGlobal segments => bareName isGlobal segments ++ segmentNames segments
  | .item owner isGlobal through segments =>
    owner.bareNames ++ bareName isGlobal through ++ segmentNames through ++ segmentNames segments
  | .reference _ _ target => target.bareNames
  | .pointer _ target => target.bareNames
  | .slice element => element.bareNames
  | .array element _ => element.bareNames
  | .tuple elements => typeNames elements
  | .parenthesized inner => inner.bareNames
  | .never => []
  | .hole => []
  | .function _ parameters result => parameterNames parameters ++ resultNames result
  | .object _ bounds => boundNames bounds
  | .implementing bounds => boundNames bounds

def typeNames : List TypeExpr → List String
  | [] => []
  | type :: rest => type.bareNames ++ typeNames rest

def resultNames : Option TypeExpr → List String
  | none => []
  | some type => type.bareNames

def parameterNames : List Parameter → List String
  | [] => []
  | .mk _ type :: rest => type.bareNames ++ parameterNames rest

/-- The names in the arguments of segments. -/
def segmentNames : List Segment → List String
  | [] => []
  | .mk _ arguments :: rest => arguments.bareNames ++ segmentNames rest

def Arguments.bareNames : Arguments → List String
  | .none => []
  | .angle arguments => argumentNames arguments
  | .round inputs result => typeNames inputs ++ resultNames result

def argumentNames : List Argument → List String
  | [] => []
  | .lifetime _ :: rest => argumentNames rest
  | .type type :: rest => type.bareNames ++ argumentNames rest
  | .constant _ :: rest => argumentNames rest
  | .binding _ arguments type :: rest => arguments.bareNames ++ type.bareNames ++ argumentNames rest
  | .constantBinding _ arguments _ :: rest => arguments.bareNames ++ argumentNames rest
  | .constraint _ arguments bounds :: rest => arguments.bareNames ++ boundNames bounds ++ argumentNames rest

def boundNames : List Bound → List String
  | [] => []
  | .lifetime _ :: rest => boundNames rest
  | .trait _ _ _ isGlobal segments :: rest => bareName isGlobal segments ++ segmentNames segments ++ boundNames rest

end

/-- The names of the target language that stand for types without a module in front: the growing array and the
    built-in types. -/
def standardNames : List String := "Vec" :: (Primitive.all.filter (!·.isString)).map (primitiveText · none)

theorem segmentNames_plain (names : List String) : segmentNames (names.map .plain) = [] := by
  induction names with
  | nil => rfl
  | cons name names ih => exact ih

/-- A path without arguments uses its name, if that is its only one and it is not global. -/
theorem bareNames_path (isGlobal : Bool) (names : List String) :
    (TypeExpr.path isGlobal (names.map .plain)).bareNames = bareName isGlobal (names.map .plain) := by
  rw [TypeExpr.bareNames,segmentNames_plain,List.append_nil]

/-- A growing array uses its name, and every array those of its elements. -/
theorem bareNames_arrayType (element : TypeExpr) (type : FieldType) :
    (arrayType element type.array).bareNames = (if type.isDynamic then ["Vec"] else []) ++ element.bareNames := by
  obtain ⟨base,_ | _ | size | bound⟩ := type <;>
    simp [arrayType,TypeExpr.bareNames,bareName,segmentNames,Arguments.bareNames,argumentNames,FieldType.isDynamic]

/-- The name that the base of a type uses: a built-in type other than text has one. -/
def baseNames : BaseType → List String
  | .primitive p _ => if p.isString then [] else [primitiveText p none]
  | .message _ _ => []

theorem mem_standardNames_of_base {base : BaseType} : ∀ n ∈ baseNames base, n ∈ standardNames ∧ n ≠ "Vec" := by
  cases base with
  | message => simp [baseNames]
  | primitive p bound =>
    change ∀ n ∈ baseNames (.primitive p none), n ∈ standardNames ∧ n ≠ "Vec"
    cases p <;> decide +kernel

/-- Of the standard names the growing array alone is one that a message may have. -/
theorem eq_vec_of_identifier {name : String} (named : isMessageName name = true)
    (standard : identifier name ∈ standardNames) : identifier name = "Vec" ∧ name = "Vec" := by
  have others : ∀ n ∈ standardNames, n ≠ "Self_" ∧ (n = "Vec" ∨ isMessageName n = false) := by decide +kernel
  obtain ⟨apart,kind⟩ := others _ standard
  rw [identifier_of_message named] at apart kind ⊢
  split at apart
  · exact absurd rfl apart
  · rename_i other
    rw [if_neg other] at kind ⊢
    rcases kind with vector | small
    · exact ⟨vector,vector⟩
    · rw [named] at small
      cases small

/-- The names that the types of fields use. -/
def usedNames (fields : List RecordField) : List String := fields.flatMap (·.type.bareNames)

end Target

namespace Message

variable {m : Message} {style : Style} {index : PackageIndex} {package name source : String}

/-- With a plain index the type of a member uses the growing array, if it is one, and the built-in type of its
    elements. -/
theorem bareNames_of_member {member : Field} {field : Target.RecordField} (plain : index.IsPlain)
    (named : ∀ package name, member.type.base = .message package name → isMessageName name = true)
    (is : m.IsRecordField index member field) :
    field.type.bareNames = (if member.type.isDynamic then ["Vec"] else []) ++ Target.baseNames member.type.base := by
  obtain ⟨text,made,read⟩ := is.type
  obtain ⟨isGlobal,names,tree,path⟩ := typeText_of_plain plain named made
  rw [← Option.some.inj (tree.symm.trans read)]
  rw [Target.bareNames_arrayType,Target.bareNames_path]
  refine congrArg _ ?_
  cases base : member.type.base with
  | primitive p bound =>
    simp only [base] at path
    cases text : p.isString with
    | true =>
      have whole : Target.primitivePath p = (true,["std","string","String"]) := by simp [Target.primitivePath,text]
      rw [whole] at path
      cases path
      simp [Target.baseNames,Target.bareName,text]
    | false =>
      have whole : Target.primitivePath p = (false,[Target.primitiveText p none]) := by
        simp [Target.primitivePath,text]
      rw [whole] at path
      cases path
      simp [Target.baseNames,Target.bareName,text,Target.Segment.plain]
  | message package name =>
    simp only [base] at path
    obtain ⟨first,second,more,rfl⟩ : ∃ a b rest, names = a :: b :: rest := by
      rcases names with _ | ⟨a,_ | ⟨b,rest⟩⟩
      · simp at path
      · simp at path
      · exact ⟨a,b,rest,rfl⟩
    rfl

/-- With a plain index the fields use standard names alone, and the growing array exactly if a member is one. -/
theorem usedNames_of_plain (read : Message.read package name source = .ok m) (plain : index.IsPlain)
    {fields : List Target.RecordField} (each : List.Forall₂ (IsRecordField m index) m.members fields) :
    (∀ n ∈ Target.usedNames fields, n ∈ Target.standardNames) ∧
      ("Vec" ∈ Target.usedNames fields ↔ ∃ member ∈ m.members, member.type.isDynamic = true) := by
  have named : ∀ member ∈ m.members, ∀ package name, member.type.base = .message package name →
      isMessageName name = true :=
    fun member inside package name => isMessageName_of_reference read (List.mem_of_mem_filter inside)
  have names : Target.usedNames fields = m.members.flatMap fun member =>
      (if member.type.isDynamic then ["Vec"] else []) ++ Target.baseNames member.type.base := by
    rw [Target.usedNames,List.flatMap_def,List.flatMap_def]
    refine congrArg List.flatten (map_of_forall₂ ((List.forall₂_and_left _ _).mpr ⟨named,each⟩) ?_).symm
    rintro member field ⟨known,is⟩
    exact (bareNames_of_member plain known is).symm
  rw [names]
  constructor
  · intro n used
    obtain ⟨member,_,here⟩ := List.mem_flatMap.mp used
    rcases List.mem_append.mp here with vector | base
    · split at vector
      · rw [List.mem_singleton.mp vector]
        decide
      · cases vector
    · exact (Target.mem_standardNames_of_base n base).1
  · rw [List.mem_flatMap]
    refine exists_congr fun member => and_congr_right fun _ => ?_
    rw [List.mem_append]
    constructor
    · rintro (vector | base)
      · split at vector
        · assumption
        · cases vector
      · exact absurd rfl (Target.mem_standardNames_of_base _ base).2
    · intro dynamic
      exact .inl (by simp [dynamic])

/-- What a message declares under a standard name: the growing array, if the message or one of its enumerations is
    called so. With a plain index that is used exactly if a member is a growing array, and nothing but standard
    names is. -/
theorem standardNames_of_generate {g : GeneratedModule} (read : Message.read package name source = .ok m)
    (made : m.generate style index = .ok g) :
    ∃ items fields, m.items style index = .ok items ∧ g.code = style.preamble ++ Target.itemsText items ∧
      items.filterMap Target.Item.record? = [(Target.identifier m.name,fields)] ∧
      (∀ n, (n ∈ items.filterMap Target.Item.typeName? ∧ n ∈ Target.standardNames ∧ n ∈ Target.usedNames fields) ↔
        n = "Vec" ∧ "Vec" ∈ m.typeNames ∧ "Vec" ∈ Target.usedNames fields) ∧
      (index.IsPlain → (∀ n ∈ Target.usedNames fields, n ∈ Target.standardNames) ∧
        ("Vec" ∈ Target.usedNames fields ↔ ∃ member ∈ m.members, member.type.isDynamic = true)) := by
  obtain ⟨items,written,rfl⟩ := generate_eq_ok.mp made
  obtain ⟨fields,record,each⟩ := record_of_items written
  refine ⟨items,fields,written,rfl,record,fun n => ?_,fun plain => usedNames_of_plain read plain each⟩
  rw [typeNames_of_items written,List.mem_map]
  constructor
  · rintro ⟨⟨name,declared,rfl⟩,standard,used⟩
    obtain ⟨vector,rfl⟩ := Target.eq_vec_of_identifier ((isSound_of_read read).isMessageName_of_mem name declared) standard
    exact ⟨vector,declared,vector ▸ used⟩
  · rintro ⟨rfl,declared,used⟩
    exact ⟨⟨"Vec",declared,by decide⟩,by decide,used⟩

/-- A message with a growing array that has another name. -/
theorem standardNames_of_samples :
    let source := "int32[] x
"
    let m : Message := ⟨"test_msgs","Samples","",[⟨"x",⟨.primitive .int32 none,some .unbounded⟩,.member none,none,1⟩],[]⟩
    let g : GeneratedModule := ⟨"pub struct Samples \x7b\n    pub x: Vec<i32>,\n\x7d\n","Samples","samples"⟩
    Message.read "test_msgs" "Samples" source = .ok m ∧ m.generate .plain (.empty "test_msgs") = .ok g ∧
    (PackageIndex.empty "test_msgs").IsPlain ∧
    ∃ items fields, m.items .plain (.empty "test_msgs") = .ok items ∧
      g.code = Style.plain.preamble ++ Target.itemsText items ∧
      items.filterMap Target.Item.record? = [(Target.identifier m.name,fields)] ∧
      (∀ n, (n ∈ items.filterMap Target.Item.typeName? ∧ n ∈ Target.standardNames ∧ n ∈ Target.usedNames fields) ↔
        n = "Vec" ∧ "Vec" ∈ m.typeNames ∧ "Vec" ∈ Target.usedNames fields) ∧
      ((PackageIndex.empty "test_msgs").IsPlain → (∀ n ∈ Target.usedNames fields, n ∈ Target.standardNames) ∧
        ("Vec" ∈ Target.usedNames fields ↔ ∃ member ∈ m.members, member.type.isDynamic = true)) := by
  intro source m g
  have read : Message.read "test_msgs" "Samples" source = .ok m := by decide +kernel
  have made : m.generate .plain (.empty "test_msgs") = .ok g := by decide +kernel
  exact ⟨read,made,.empty _,standardNames_of_generate read made⟩

/-- The message `Vec` with a growing array: the type of its field is the message itself. -/
theorem standardNames_of_vec :
    let source := "int32[] x
"
    let m : Message := ⟨"test_msgs","Vec","",[⟨"x",⟨.primitive .int32 none,some .unbounded⟩,.member none,none,1⟩],[]⟩
    Message.read "test_msgs" "Vec" source = .ok m ∧
      m.generate .plain (.empty "test_msgs") =
        .ok ⟨"pub struct Vec \x7b\n    pub x: Vec<i32>,\n\x7d\n","Vec","vec"⟩ ∧
      (m.items .plain (.empty "test_msgs")).map (List.filterMap Target.Item.typeName?) = .ok ["Vec"] ∧
      (m.items .plain (.empty "test_msgs")).map (fun items =>
        (items.filterMap Target.Item.record?).map fun record => Target.usedNames record.2) = .ok [["Vec","i32"]] ∧
      ¬ ∀ n ∈ ["Vec"], ¬ (n ∈ Target.standardNames ∧ n ∈ ["Vec","i32"]) := by
  decide +kernel

end Message

end MsgBindings
