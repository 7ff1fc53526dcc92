import MsgBindings.Proofs.EmittedItems

/-!
Bounds of strings and arrays leave no trace in generated code. They are noted in the texts of types, but each text is
read as the same type without its notes (`Message.read_memberTypeText`), and a value looks only at whether an array
has a fixed number of elements (`Target.ValueExpr.ofField_withoutBounds`). So a message has the same code without the
bounds of its types, or is refused in the same way at the same member (`Message.generate_withoutBounds`).
-/
namespace MsgBindings

/-! ### Fields without bounds -/

theorem BaseType.primitive?_withoutBound (base : BaseType) : base.withoutBound.primitive? = base.primitive? := by
  cases base <;> rfl

namespace Field

/-- The field without the bounds of its type. -/
def withoutBounds (f : Field) : Field := { f with type := f.type.withoutBounds }

theorem constantItem?_withoutBounds (f : Field) :
    Message.constantItem? f.withoutBounds = Message.constantItem? f := by
  unfold Message.constantItem?
  rw [withoutBounds,FieldType.withoutBounds,BaseType.primitive?_withoutBound]
  rfl

end Field

theorem Target.ValueExpr.ofField_withoutBounds (f : Field) : ofField f.withoutBounds = ofField f := by
  obtain ⟨name,⟨base,array⟩,role,comment,line⟩ := f
  have primitive := base.primitive?_withoutBound
  unfold ofField
  simp only [Field.withoutBounds,FieldType.withoutBounds,Field.default?,primitive]
  rcases array with _ | _ | size | bound <;> rfl

theorem PackageIndex.resolve_withoutBound (index : PackageIndex) (base : BaseType) :
    index.resolve base.withoutBound = index.resolve base := by
  cases base <;> rfl

/-! ### Messages without bounds -/

namespace Message

variable {m : Message} {style : Style} {index : PackageIndex}

/-- The message without the bounds of the types of its fields. -/
def withoutBounds (m : Message) : Message := { m with fields := m.fields.map Field.withoutBounds }

theorem members_withoutBounds (m : Message) : m.withoutBounds.members = m.members.map Field.withoutBounds :=
  List.filter_map

theorem constants_withoutBounds (m : Message) : m.withoutBounds.constants = m.constants.map Field.withoutBounds :=
  List.filter_map

/-- The text of the type of a member is read as the same type without bounds, and what is refused is the same. -/
theorem read_memberTypeText (m : Message) (index : PackageIndex) (f : Field) :
    (m.withoutBounds.memberTypeText index f.withoutBounds).map (fun text => Target.TypeExpr.read? text.toList) =
      (m.memberTypeText index f).map fun text => Target.TypeExpr.read? text.toList := by
  have path := index.resolve_withoutBound f.type.base
  unfold memberTypeText
  rw [Field.withoutBounds,FieldType.withoutBounds,path]
  cases made : Target.typeText f.type (index.resolve f.type.base) with
  | some text =>
    obtain ⟨bare,unbounded,same⟩ := Target.read?_withoutBounds made
    rw [FieldType.withoutBounds] at unbounded
    rw [unbounded]
    exact congrArg Except.ok same
  | none =>
    -- Only references are not resolved, and they have no bounds.
    cases base : f.type.base with
    | primitive p bound => simp [Target.typeText,base] at made
    | message package name =>
      have none : index.resolve (.message package name) = none := by simpa [Target.typeText,base] using made
      rw [none]
      rfl

/-- The record of a message depends on the texts of types only in what they are read as, and on no bound. -/
theorem recordItem?_withoutBounds (m : Message) (style : Style) {types bare : List String}
    (same : bare.map (fun text => Target.TypeExpr.read? text.toList) =
      types.map fun text => Target.TypeExpr.read? text.toList) :
    m.withoutBounds.recordItem? style bare = m.recordItem? style types := by
  -- The members go along with what the texts are read as.
  have read : ∀ (members : List Field) (texts : List String),
      (members.zip texts).mapM (fun pair => recordField? pair.1 pair.2) =
        (members.zip (texts.map fun text => Target.TypeExpr.read? text.toList)).mapM fun pair =>
          pair.2.map fun type => ⟨pair.1.comment,Target.identifier pair.1.name,type⟩ := by
    intro members texts
    rw [List.zip_map_right,List.mapM_map]
    rfl
  have fields : (m.withoutBounds.members.zip bare).mapM (fun pair => recordField? pair.1 pair.2) =
      (m.members.zip types).mapM fun pair => recordField? pair.1 pair.2 := by
    rw [read,read,same,members_withoutBounds,List.zip_map_left,List.mapM_map]
    rfl
  unfold recordItem?
  rw [show m.withoutBounds.comment = m.comment from rfl,show m.withoutBounds.name = m.name from rfl]
  simp only [fields]

/-- A message has the same items without the bounds of its types, or is refused with the same fault. -/
theorem items_withoutBounds (m : Message) (style : Style) (index : PackageIndex) :
    m.withoutBounds.items style index = m.items style index := by
  have types : (m.withoutBounds.members.mapM (m.withoutBounds.memberTypeText index)).map
      (List.map fun text => Target.TypeExpr.read? text.toList) =
      (m.members.mapM (m.memberTypeText index)).map (List.map fun text => Target.TypeExpr.read? text.toList) := by
    rw [members_withoutBounds,List.mapM_map,map_mapM,map_mapM]
    exact congrArg (m.members.mapM ·) (funext (m.read_memberTypeText index))
  have values : m.withoutBounds.members.map (fun f => (Target.identifier f.name,Target.ValueExpr.ofField f)) =
      m.members.map fun f => (Target.identifier f.name,Target.ValueExpr.ofField f) := by
    rw [members_withoutBounds,List.map_map]
    exact List.map_congr_left fun f _ => congrArg (_,·) (Target.ValueExpr.ofField_withoutBounds f)
  have constants : m.withoutBounds.constants.filterMap constantItem? = m.constants.filterMap constantItem? := by
    rw [constants_withoutBounds,List.filterMap_map]
    exact congrArg (m.constants.filterMap ·) (funext Field.constantItem?_withoutBounds)
  unfold items
  rw [values,constants]
  cases here : m.members.mapM (m.memberTypeText index) with
  | error fault =>
    rw [here,map_eq_error.mpr rfl,map_eq_error] at types
    rw [types]
    rfl
  | ok texts =>
    rw [here] at types
    obtain ⟨bare,made,same⟩ := map_eq_ok.mp types
    rw [made]
    dsimp only [bind,Except.bind]
    rw [m.recordItem?_withoutBounds style same]
    rfl

/-- The code of a message is the same without the bounds of its types, and a message that is refused is refused in the
    same way, at the same member. -/
theorem generate_withoutBounds (m : Message) (style : Style) (index : PackageIndex) :
    m.withoutBounds.generate style index = m.generate style index := by
  rw [generate,generate,items_withoutBounds]
  rfl

end Message

end MsgBindings
