import MsgBindings.Proofs.ClosedDerives
import MsgBindings.Proofs.RecordTexts

/-!
The texts of items. Whatever types and values are in an item, its lines are the lines of its own comment, its head,
and below it the lines of its members, each under the lines of its own comment (`Item.IsText`); and the text of items
is one such text after the other (`itemsText_of_closed`).
-/
namespace MsgBindings.Target

open Layout

/-! ### Lines -/

/-- A line of a comment that is indented by `column`. What is blank at its end is left out. -/
def docLine (column : Nat) (line : List Char) : String :=
  Position.spaces column ++ "///" ++
    (if Text.trimEnd line = [] then "" else " " ++ .ofList (Text.trimEnd line)) ++ "\n"

/-- The lines of a comment that is indented by `column`. -/
def docText (column : Nat) (comment : Option String) : String :=
  match comment with
  | none => ""
  | some text => String.join ((Text.lines text.toList).map (docLine column))

/-- A head with an opening brace, members on lines of their own, and the closing brace. -/
def bodyText (head : String) (members : List String) : String :=
  head ++ (if members.isEmpty then "" else "\n" ++ String.join (members.map (· ++ "\n"))) ++ "\x7d\n"

/-- Texts of a member of a record: the lines of its comment, its name and its type. -/
def RecordField.IsText (f : RecordField) (text : String) : Prop :=
  ∃ type, Spells 0 (f.type.pieces ++ [.word ","]) type ∧
    text = docText 4 f.comment ++ Position.spaces 4 ++ s!"pub {f.name}: " ++ type

/-- Texts of a constant: the lines of its comment, its name, its type and its value. -/
def ConstantItem.IsText (c : ConstantItem) (text : String) : Prop :=
  ∃ definition, Spells 0 (c.type.pieces ++ .word " = " :: .seam :: c.value.pieces ++ [.word ";"]) definition ∧
    text = docText 4 c.comment ++ Position.spaces 4 ++ s!"pub const {c.name}: " ++ definition

/-- The text of a variant: the lines of its comment, its name and its number. -/
def Variant.text (v : Variant) : String :=
  docText 4 v.comment ++ Position.spaces 4 ++ s!"{v.name} = {v.number},"

/-- Texts of an attribute that lists derives, on a line of its own. Without derives there is none. -/
def IsAttribute (derives : List (List Token)) (text : String) : Prop :=
  if derives.isEmpty then text = "" else ∃ list, Spells 0 (attributePieces derives) list ∧ text = list ++ "\n"

/-- The function that makes a default value, with the text of the value. -/
def functionText (record : String) : String :=
  Position.spaces 4 ++ "#[inline]" ++ "\n" ++
    Position.spaces 4 ++ "fn default() -> Self \x7b" ++ "\n" ++
    Position.spaces 8 ++ record ++ "\n" ++
    Position.spaces 4 ++ "\x7d"

/-- Texts of an item. -/
inductive Item.IsText : Item → String → Prop
  | record {comment : Option String} {derives : List (List Token)} {name : String} {fields : List RecordField}
      {derived : String} {members : List String} :
      IsAttribute derives derived → List.Forall₂ RecordField.IsText fields members →
      IsText (.record comment derives name fields)
        (docText 0 comment ++ derived ++ bodyText s!"pub struct {name} \x7b" members)
  /-- The head is on one line, or on two lines. -/
  | defaults {name : String} {values : List (String × ValueExpr)} {gap record : String} :
      (gap = " " ∨ ∃ column, gap = "\n" ++ Position.spaces column) → IsRecord values record →
      IsText (.defaults name values)
        (bodyText ("impl ::core::default::Default" ++ gap ++ s!"for {name} \x7b") [functionText record])
  | constants {name : String} {constants : List ConstantItem} {members : List String} :
      List.Forall₂ ConstantItem.IsText constants members →
      IsText (.constants name constants) (bodyText s!"impl {name} \x7b" members)
  | enumeration (comment : Option String) (repr name : String) (variants : List Variant) :
      IsText (.enumeration comment repr name variants)
        (docText 0 comment ++ "#[derive(Debug, Clone, Copy, PartialEq, Eq, Hash)]" ++ "\n" ++
          s!"#[repr({repr})]" ++ "\n" ++ bodyText s!"pub enum {name} \x7b" (variants.map Variant.text))

/-! ### From line to line -/

section

variable {α β : Type} {frames : List Frame} {indent : Int}

/-- Pieces for each element of a list, after which the position is as before. -/
theorem lays_flatMap {p : Position} {f : α → List Piece} {R : α → β → Prop} {g : β → String} {xs : List α}
    (each : ∀ x ∈ xs, Lays (f x) p fun text q => (∃ y, R x y ∧ text = g y) ∧ q = p) :
    Lays (xs.flatMap f) p fun text q =>
      (∃ ys, List.Forall₂ R xs ys ∧ text = String.join (ys.map g)) ∧ q = p := by
  induction xs with
  | nil => exact .nil ⟨⟨[],.nil,rfl⟩,rfl⟩
  | cons x xs ih =>
    rw [List.forall_mem_cons] at each
    rw [List.flatMap_cons]
    refine each.1.append ?_
    rintro _ _ ⟨⟨y,holds,rfl⟩,rfl⟩
    refine (ih each.2).imp ?_
    rintro _ _ ⟨⟨ys,related,rfl⟩,rfl⟩
    exact ⟨⟨y :: ys,.cons holds related,by simp⟩,rfl⟩

theorem docText_eq (column : Nat) (comment : Option String) :
    docText column comment =
      String.join ((commentLines comment).map fun line => Position.spaces column ++ "///" ++ line ++ "\n") := by
  have line : docLine column = fun s => Position.spaces column ++ "///" ++
      String.ofList (if Text.trimEnd s = [] then [] else ' ' :: Text.trimEnd s) ++ "\n" := by
    funext s
    unfold docLine
    cases Text.trimEnd s <;> simp [String.ofList_cons]
  cases comment with
  | none => rfl
  | some text => simp [docText,commentLines,line,Function.comp_def]

theorem lays_comment (column : Nat) (comment : Option String)
    (broken : frames.head? = some (.broken .consistent indent)) :
    Lays (commentPieces comment) (.line column frames) fun text q =>
      text = docText column comment ∧ q = .line column frames := by
  have each : ∀ line ∈ commentLines comment,
      Lays [.word ("///" ++ line),.hard 0] (.line column frames) fun text q =>
        (∃ same, line = same ∧ text = Position.spaces column ++ "///" ++ same ++ "\n") ∧ q = .line column frames := by
    intro line _
    refine .word _ (.line rfl broken (.nil ⟨⟨line,rfl,?_⟩,rfl⟩))
    simp [Position.line,String.append_assoc]
  refine (lays_flatMap each).imp ?_
  rintro _ _ ⟨⟨lines,same,rfl⟩,rfl⟩
  rw [List.forall₂_eq_eq_eq] at same
  exact ⟨by rw [docText_eq,same],rfl⟩

/-! ### Members -/

/-- Whether pieces at the start of an indented line write a text with a property, and keep the indentation. -/
def LaysMember (pieces : List Piece) (frames : List Frame) (holds : String → Prop) : Prop :=
  Lays pieces (.line 4 frames) fun text q => holds text ∧ q.indent = 4 ∧ q.frames = frames

theorem whole_flatMap {f : α → List Piece} {xs : List α} (each : ∀ x ∈ xs, Whole (f x)) : Whole (xs.flatMap f) := by
  induction xs with
  | nil => exact .nil
  | cons x xs ih =>
    rw [List.forall_mem_cons] at each
    exact each.1.append (ih each.2)

theorem bodyPieces_nil (head : List Piece) :
    bodyPieces head [] = box .consistent step head ++ [.word "\x7d",.hard 0] := by
  simp [bodyPieces]

/-- The lines of members. The end of the last one ends the indentation. -/
def memberLines (f : α → List Piece) (init : List α) (last : α) : List Piece :=
  (init.flatMap fun x => f x ++ [.hard 0]) ++ (f last ++ [.hard (-step)])

/-- A head and the lines of members below it. -/
def bodyLines (head : List Piece) (f : α → List Piece) (init : List α) (last : α) : List Piece :=
  head ++ .hard 0 :: memberLines f init last

theorem bodyPieces_concat (head : List Piece) (f : α → List Piece) (init : List α) (last : α) :
    bodyPieces head ((init ++ [last]).map f) =
      box .consistent step (bodyLines head f init last) ++ [.word "\x7d",.hard 0] := by
  have ended : (init.map f).mapIdx (fun i member =>
      member ++ [Piece.hard (if i + 1 = (init.map f ++ [f last]).length then -step else 0)]) =
        init.map fun x => f x ++ [.hard 0] := by
    refine List.ext_getElem (by simp) fun i _ inside => ?_
    rw [List.length_map] at inside
    simp [Nat.ne_of_lt inside]
  rw [List.map_append,List.map_singleton]
  simp only [bodyPieces,List.mapIdx_concat,ended]
  simp [bodyLines,memberLines,List.flatMap_def]

theorem whole_bodyLines {head : List Piece} {f : α → List Piece} {init : List α} {last : α} (wholeHead : Whole head)
    (each : ∀ x ∈ init ++ [last], Whole (f x)) : Whole (bodyLines head f init last) := by
  rw [List.forall_mem_append,List.forall_mem_singleton] at each
  have lines := whole_flatMap fun x member => (each.1 x member).append (.gap infinite 0 false .nil)
  exact wholeHead.append (.gap _ _ _ (lines.append (each.2.append (.gap _ _ _ .nil))))

theorem lays_memberLines {f : α → List Piece} {R : α → String → Prop} {init : List α} {last : α}
    (broken : frames.head? = some (.broken .consistent indent))
    (each : ∀ x ∈ init ++ [last], LaysMember (f x) frames (R x)) :
    Lays (memberLines f init last) (.line 4 frames) fun text q =>
      (∃ members, List.Forall₂ R (init ++ [last]) members ∧ text = String.join (members.map (· ++ "\n"))) ∧
        { q with indent := 0 } = .line 0 frames := by
  rw [List.forall_mem_append,List.forall_mem_singleton] at each
  have lines : ∀ x ∈ init, Lays (f x ++ [.hard 0]) (.line 4 frames) fun text q =>
      (∃ member, R x member ∧ text = member ++ "\n") ∧ q = .line 4 frames := by
    intro x member
    refine (each.1 x member).append ?_
    rintro text q ⟨holds,inside,rfl⟩
    exact .line inside broken (.nil ⟨⟨text,holds,by simp⟩,rfl⟩)
  refine (lays_flatMap lines).append ?_
  rintro _ _ ⟨⟨members,related,rfl⟩,rfl⟩
  refine each.2.append ?_
  rintro text q ⟨holds,inside,rfl⟩
  refine .hard (-step) broken (.nil ⟨⟨members ++ [text],?_,?_⟩,?_⟩)
  · exact List.rel_append related (.cons holds .nil)
  · simp
  · simp [inside,step,Position.line]

/-! ### Bodies -/

/-- Pieces with the end of a line among them do not fit into a line. -/
theorem margin_lt_width {pieces : List Piece} {offset : Int} (ends : .hard offset ∈ pieces) :
    margin < width pieces := by
  have wide : infinite ≤ width pieces := width_le_of_mem ends
  simp only [margin,infinite] at wide ⊢
  omega

theorem room_lt_width (column : Nat) {pieces : List Piece} {offset : Int} (ends : .hard offset ∈ pieces) :
    (Position.line column frames).room < width pieces := by
  have wide := margin_lt_width ends
  simp only [Position.line,margin,leastWidth] at wide ⊢
  omega

theorem lays_bodyLines {head : List Piece} {f : α → List Piece} {R : α → String → Prop} {init : List α} {last : α}
    (wholeHead : Whole head)
    (each : ∀ x ∈ init ++ [last], LaysMember (f x) (.broken .consistent 0 :: frames) (R x)) :
    Lays (bodyLines head f init last) ((Position.line 0 frames).inBox .consistent step) fun text q =>
      (∃ first members, Spells 0 head first ∧ List.Forall₂ R (init ++ [last]) members ∧
        text = first ++ "\n" ++ String.join (members.map (· ++ "\n"))) ∧
      { q with indent := 0 } = .line 0 (.broken .consistent 0 :: frames) := by
  refine (Lays.whole wholeHead _).append ?_
  rintro first q ⟨spells,inside,same⟩
  refine .line inside (congrArg List.head? same) ?_
  rw [same]
  refine (lays_memberLines rfl each).imp ?_
  rintro _ _ ⟨⟨members,related,rfl⟩,ended⟩
  exact ⟨⟨first,members,spells,related,by rw [String.append_assoc]⟩,ended⟩

theorem lays_body {front : List Piece} {word : String} {f : α → List Piece} {R : α → String → Prop} {xs : List α}
    (broken : frames.head? = some (.broken .consistent indent)) (wholeFront : Whole front)
    (wholeMembers : ∀ x ∈ xs, Whole (f x))
    (each : ∀ x ∈ xs, LaysMember (f x) (.broken .consistent 0 :: frames) (R x)) :
    Lays (bodyPieces (front ++ [.word word]) (xs.map f)) (.line 0 frames) fun text q =>
      (∃ head members, Spells 0 (front ++ [.word word]) head ∧ List.Forall₂ R xs members ∧
        text = bodyText head members) ∧ q = .line 0 frames := by
  rcases List.eq_nil_or_concat xs with rfl | ⟨init,last,rfl⟩
  · rw [List.map_nil,bodyPieces_nil]
    have whole := (wholeFront.append (whole_word word)).box .consistent step
    have ends : EndsInWord (front ++ [.word word]) := .append (.word word)
    refine (Lays.ending whole (ends.box _ _) _).append ?_
    rintro head q ⟨spells,inside,same,flush⟩
    rw [spells_box] at spells
    refine .word _ (.line inside ((congrArg List.head? same).trans broken) (.nil ⟨⟨head,[],spells,.nil,?_⟩,?_⟩))
    · simp [bodyText,flush,Position.spaces]
    · exact congrArg (Position.line 0) same
  · rw [List.concat_eq_append] at each wholeMembers ⊢
    have wholeHead := wholeFront.append (.word word .nil)
    have ends : Piece.hard 0 ∈ bodyLines (front ++ [.word word]) f init last := by simp [bodyLines,Piece.hard]
    rw [bodyPieces_concat]
    refine (Lays.box (whole_bodyLines wholeHead wholeMembers) (room_lt_width 0 ends)
      (lays_bodyLines wholeHead each)).append ?_
    rintro _ _ ⟨last,⟨⟨head,members,spells,related,rfl⟩,ended⟩,rfl⟩
    have back : { last with indent := (Position.line 0 frames).indent,frames := (Position.line 0 frames).frames } =
        Position.line 0 frames := congrArg (fun q : Position => { q with frames }) ended
    have some : members.isEmpty = false := by
      rw [← Bool.not_eq_true,List.isEmpty_iff]
      rintro rfl
      cases init <;> cases related
    rw [back]
    refine .word _ (.line rfl broken (.nil ⟨⟨head,members,spells,related,?_⟩,rfl⟩))
    simp [bodyText,some,Position.line,Position.spaces,String.append_assoc]

/-! ### Lines of members -/

theorem whole_comment (comment : Option String) : Whole (commentPieces comment) :=
  whole_flatMap fun _ _ => .word _ (.gap _ _ _ .nil)

theorem whole_body {head : List Piece} {f : α → List Piece} {xs : List α} (wholeHead : Whole head)
    (each : ∀ x ∈ xs, Whole (f x)) : Whole (bodyPieces head (xs.map f)) := by
  have ended : Whole [.word "\x7d",.hard 0] := .word _ (.gap _ _ _ .nil)
  rcases List.eq_nil_or_concat xs with rfl | ⟨init,last,rfl⟩
  · rw [List.map_nil,bodyPieces_nil]
    exact (wholeHead.box _ _).append ended
  · rw [List.concat_eq_append] at each ⊢
    rw [bodyPieces_concat]
    exact ((whole_bodyLines wholeHead each).box _ _).append ended

/-- A comment and, on the line below it, a word and what follows it. -/
theorem lays_member (comment : Option String) (word : String) {pieces : List Piece} (whole : Whole pieces)
    (broken : frames.head? = some (.broken .consistent indent)) :
    LaysMember (commentPieces comment ++ .word word :: pieces) frames fun text =>
      ∃ later, Spells 0 pieces later ∧ text = docText 4 comment ++ Position.spaces 4 ++ word ++ later := by
  refine (lays_comment 4 comment broken).append ?_
  rintro _ _ ⟨rfl,rfl⟩
  refine .word word ((Lays.whole whole _).imp ?_)
  rintro later q ⟨spells,kept⟩
  exact ⟨⟨later,spells,by simp [Position.line,Position.spaces,String.append_assoc]⟩,kept⟩

namespace RecordField

/-- The pieces of a member of a record. -/
def pieces (f : RecordField) : List Piece :=
  commentPieces f.comment ++ .word s!"pub {f.name}: " :: f.type.pieces ++ [.word ","]

theorem whole_pieces (f : RecordField) : Whole f.pieces :=
  ((whole_comment _).append (.word _ (whole_type _))).append (whole_word _)

theorem lays_pieces (f : RecordField) (broken : frames.head? = some (.broken .consistent indent)) :
    LaysMember f.pieces frames f.IsText := by
  rw [pieces,List.append_assoc,List.cons_append]
  refine (lays_member _ _ ((whole_type f.type).append (whole_word ",")) broken).imp ?_
  rintro _ q ⟨⟨type,spells,rfl⟩,kept⟩
  exact ⟨⟨type,spells,rfl⟩,kept⟩

end RecordField

namespace ConstantItem

/-- The pieces of a constant. -/
def pieces (c : ConstantItem) : List Piece :=
  commentPieces c.comment ++ .word s!"pub const {c.name}: " :: c.type.pieces ++
    .word " = " :: .seam :: c.value.pieces ++ [.word ";"]

theorem whole_definition (c : ConstantItem) :
    Whole (c.type.pieces ++ .word " = " :: .seam :: c.value.pieces ++ [.word ";"]) :=
  ((whole_type _).append (.word _ (.seam (whole_value _)))).append (whole_word _)

theorem whole_pieces (c : ConstantItem) : Whole c.pieces := by
  rw [pieces,List.append_assoc,List.append_assoc]
  exact (whole_comment _).append (.word _ (by simpa using c.whole_definition))

theorem lays_pieces (c : ConstantItem) (broken : frames.head? = some (.broken .consistent indent)) :
    LaysMember c.pieces frames c.IsText := by
  rw [pieces,List.append_assoc,List.append_assoc,List.cons_append,← List.append_assoc c.type.pieces]
  refine (lays_member _ _ c.whole_definition broken).imp ?_
  rintro _ q ⟨⟨definition,spells,rfl⟩,kept⟩
  exact ⟨⟨definition,spells,rfl⟩,kept⟩

end ConstantItem

namespace Variant

/-- The pieces of a variant. -/
def pieces (v : Variant) : List Piece := commentPieces v.comment ++ [.word s!"{v.name} = {v.number},"]

theorem whole_pieces (v : Variant) : Whole v.pieces := (whole_comment _).append (whole_word _)

theorem lays_pieces (v : Variant) (broken : frames.head? = some (.broken .consistent indent)) :
    LaysMember v.pieces frames fun text => text = v.text := by
  refine (lays_member _ _ .nil broken).imp ?_
  rintro _ q ⟨⟨later,spells,rfl⟩,kept⟩
  obtain rfl : later = "" := spells
  exact ⟨by simp [text],kept⟩

end Variant

/-! ### The default value of a record -/

/-- The head of the function that makes a default value, and the value on the lines below it. -/
def functionLines (values : List (String × ValueExpr)) : List Piece :=
  .word "fn default() -> Self \x7b" :: .hard 0 :: box .inconsistent 0 (recordPieces values) ++ [.hard (-step)]

theorem defaultFunction_eq (values : List (String × ValueExpr)) :
    defaultFunction values = .word "#[inline]" :: .hard 0 :: (box .consistent step (functionLines values) ++
      [.word "\x7d"]) := by
  simp [defaultFunction,functionLines]

theorem whole_functionLines (values : List (String × ValueExpr)) : Whole (functionLines values) :=
  .word _ (.gap _ _ _ (((whole_record values).box _ _).append (.gap _ _ _ .nil)))

theorem whole_defaultFunction (values : List (String × ValueExpr)) : Whole (defaultFunction values) := by
  rw [defaultFunction_eq]
  exact .word _ (.gap _ _ _ (((whole_functionLines values).box _ _).append (whole_word _)))

theorem lays_functionLines (values : List (String × ValueExpr)) :
    Lays (functionLines values) ((Position.line 4 frames).inBox .consistent step) fun text q =>
      (∃ record, IsRecord values record ∧
        text = Position.spaces 4 ++ "fn default() -> Self \x7b" ++ "\n" ++ Position.spaces 8 ++ record ++ "\n") ∧
      q.pending = 4 := by
  refine .word _ (.line rfl rfl ((Lays.boxed (whole_record values) (lays_record values ?_ rfl)
    fun _ => lays_record values rfl rfl).append ?_))
  · simp [Position.inBox,Position.line,step]
  rintro _ _ ⟨last,⟨record,isRecord,rfl⟩,rfl⟩
  refine .hard _ rfl (.nil ⟨⟨record,isRecord,?_⟩,?_⟩)
  · simp [-String.reduceAppend,Position.line,Position.inBox,String.append_assoc]
  · simp [Position.line,Position.inBox,step]

theorem lays_defaultFunction (values : List (String × ValueExpr))
    (broken : frames.head? = some (.broken .consistent indent)) :
    LaysMember (defaultFunction values) frames fun text =>
      ∃ record, IsRecord values record ∧ text = functionText record := by
  have ends : Piece.hard 0 ∈ functionLines values := by simp [functionLines]
  rw [defaultFunction_eq]
  refine .word _ (.line rfl broken ((Lays.box (whole_functionLines values) (room_lt_width 4 ends)
    (lays_functionLines values)).append ?_))
  rintro _ _ ⟨last,⟨⟨record,isRecord,rfl⟩,pending⟩,rfl⟩
  refine .word _ (.nil ⟨⟨record,isRecord,?_⟩,rfl,rfl⟩)
  simp [-String.reduceAppend,functionText,pending,Position.line,String.append_assoc]

/-! ### Items -/

namespace Item

/-- Whether the boxes in the derives of an item are closed. -/
def IsClosed : Item → Prop
  | .record _ derives _ _ => ∀ derive ∈ derives, Balanced derive
  | _ => True

theorem whole_pieces {item : Item} (closed : item.IsClosed) : Whole item.pieces := by
  cases item with
  | record comment derives name fields =>
    have derived : Whole (if derives.isEmpty then [] else derivePieces derives) := by
      rw [derivePieces_eq]
      split
      · exact .nil
      · exact (whole_attributePieces closed).append (.gap _ _ _ .nil)
    exact ((whole_comment comment).append derived).append
      (whole_body (whole_word _) fun f _ => f.whole_pieces)
  | defaults name values =>
    change Whole (bodyPieces _ ([values].map defaultFunction))
    exact whole_body (whole_implementationHead (.word _ (.gap _ _ _ (whole_word _))))
      fun values _ => whole_defaultFunction values
  | constants name members =>
    exact whole_body (whole_implementationHead (whole_word name)) fun c _ => c.whole_pieces
  | enumeration comment repr name variants =>
    have attributes : Whole [.word "#[derive(Debug, Clone, Copy, PartialEq, Eq, Hash)]",.hard 0,
        .word s!"#[repr({repr})]",.hard 0] := .word _ (.gap _ _ _ (.word _ (.gap _ _ _ .nil)))
    exact ((whole_comment comment).append attributes).append
      (whole_body (whole_word _) fun v _ => (whole_comment v.comment).append (whole_word _))

theorem lays_attribute {derives : List (List Token)} (closed : ∀ derive ∈ derives, Balanced derive)
    (broken : frames.head? = some (.broken .consistent indent)) :
    Lays (if derives.isEmpty then [] else derivePieces derives) (.line 0 frames) fun text q =>
      IsAttribute derives text ∧ q = .line 0 frames := by
  unfold IsAttribute
  cases derives with
  | nil => exact .nil ⟨rfl,rfl⟩
  | cons derive derives =>
    simp only [List.isEmpty_cons,Bool.false_eq_true,↓reduceIte,derivePieces_eq]
    refine (Lays.whole (whole_attributePieces closed) _).append ?_
    rintro list q ⟨spells,inside,rfl⟩
    exact .line inside broken (.nil ⟨⟨list,spells,by simp⟩,rfl⟩)

/-- The body of an item whose head is a word. -/
theorem lays_namedBody {f : α → List Piece} {R : α → String → Prop} {xs : List α} (head : String)
    (broken : frames.head? = some (.broken .consistent indent)) (wholeMembers : ∀ x ∈ xs, Whole (f x))
    (each : ∀ x ∈ xs, LaysMember (f x) (.broken .consistent 0 :: frames) (R x)) :
    Lays (bodyPieces [.word head] (xs.map f)) (.line 0 frames) fun text q =>
      (∃ members, List.Forall₂ R xs members ∧ text = bodyText head members) ∧ q = .line 0 frames := by
  refine (lays_body broken .nil wholeMembers each).imp ?_
  rintro _ _ ⟨⟨first,members,spells,related,rfl⟩,rfl⟩
  have first : first = head := by simpa [Spells,Position.spaces] using spells
  exact ⟨⟨members,related,by rw [first]⟩,rfl⟩

theorem constantsHead_of_spells {name head : String} (spells : Spells 0 (implementationHead [.word name]) head) :
    head = s!"impl {name} \x7b" := by
  simp only [implementationHead,box,List.cons_append,List.nil_append,Spells] at spells
  obtain ⟨_,⟨_,⟨_,⟨_,rfl,rfl⟩,rfl⟩,rfl⟩,rfl⟩ := spells
  simp [toString,Position.spaces,← String.append_assoc]

theorem defaultsHead_of_spells {name head : String}
    (spells : Spells 0 (implementationHead [.word "::core::default::Default",.space,.word ("for " ++ name)]) head) :
    ∃ gap, (gap = " " ∨ ∃ column, gap = "\n" ++ Position.spaces column) ∧
      head = "impl ::core::default::Default" ++ gap ++ s!"for {name} \x7b" := by
  simp only [implementationHead,box,List.cons_append,List.nil_append,Spells,Piece.space] at spells
  obtain ⟨_,⟨_,⟨_,⟨_,⟨_,rfl,rfl⟩,rfl⟩ | ⟨column,_,⟨_,⟨_,rfl,rfl⟩,rfl⟩,rfl⟩,rfl⟩,rfl⟩,rfl⟩ := spells
  · refine ⟨" ",.inl rfl,?_⟩
    simp [toString,Position.spaces,← String.append_assoc]
  · refine ⟨"\n" ++ Position.spaces column,.inr ⟨column,rfl⟩,?_⟩
    simp [toString,Position.spaces,← String.append_assoc]

/-- An item is laid out as one of its texts, from the start of a line to the start of a line. -/
theorem lays_pieces {item : Item} (closed : item.IsClosed)
    (broken : frames.head? = some (.broken .consistent indent)) :
    Lays item.pieces (.line 0 frames) fun text q => item.IsText text ∧ q = .line 0 frames := by
  cases item with
  | record comment derives name fields =>
    rw [pieces,List.append_assoc]
    refine (lays_comment 0 comment broken).append ?_
    rintro _ _ ⟨rfl,rfl⟩
    refine (lays_attribute closed broken).append ?_
    rintro derived _ ⟨isAttribute,rfl⟩
    refine (lays_namedBody _ broken (fun f _ => f.whole_pieces) fun f _ => f.lays_pieces rfl).imp ?_
    rintro _ _ ⟨⟨members,related,rfl⟩,rfl⟩
    rw [← String.append_assoc]
    exact ⟨.record isAttribute related,rfl⟩
  | defaults name values =>
    change Lays (bodyPieces _ ([values].map defaultFunction)) _ _
    refine (lays_body broken (whole_implementation (.word _ (.gap _ _ _ (whole_word _))))
      (fun values _ => whole_defaultFunction values) fun values _ => lays_defaultFunction values rfl).imp ?_
    rintro _ _ ⟨⟨head,members,spells,related,rfl⟩,rfl⟩
    obtain ⟨_,_,⟨record,isRecord,rfl⟩,none,rfl⟩ := List.forall₂_cons_left_iff.mp related
    obtain rfl := List.forall₂_nil_left_iff.mp none
    obtain ⟨gap,written,rfl⟩ := defaultsHead_of_spells spells
    exact ⟨.defaults written isRecord,rfl⟩
  | constants name members =>
    refine (lays_body broken (whole_implementation (whole_word name)) (fun c _ => c.whole_pieces)
      fun c _ => c.lays_pieces rfl).imp ?_
    rintro _ _ ⟨⟨head,texts,spells,related,rfl⟩,rfl⟩
    obtain rfl := constantsHead_of_spells spells
    exact ⟨.constants related,rfl⟩
  | enumeration comment repr name variants =>
    rw [pieces,List.append_assoc]
    refine (lays_comment 0 comment broken).append ?_
    rintro _ _ ⟨rfl,rfl⟩
    refine .word _ (.line rfl broken (.word _ (.line rfl broken ?_)))
    refine (lays_namedBody _ broken (fun v _ => v.whole_pieces) fun v _ => v.lays_pieces rfl).imp ?_
    rintro _ _ ⟨⟨members,related,rfl⟩,rfl⟩
    have texts : variants.map Variant.text = members := by
      rw [← List.forall₂_eq_eq_eq,List.forall₂_map_left_iff]
      exact related.imp fun _ _ same => same.symm
    refine ⟨?_,rfl⟩
    have isText := IsText.enumeration comment repr name variants
    simpa [-String.reduceAppend,texts,Position.line,Position.spaces,String.append_assoc] using isText

theorem hard_mem_pieces (item : Item) : .hard 0 ∈ item.pieces := by
  have ends : ∀ head members, Piece.hard 0 ∈ bodyPieces head members := by simp [bodyPieces]
  cases item with
  | record comment derives name fields => exact List.mem_append_right _ (ends _ _)
  | defaults name values => exact ends _ _
  | constants name members => exact ends _ _
  | enumeration comment repr name variants => exact List.mem_append_right _ (ends _ _)

end Item

end

/-- The text of items is a text of the first one, a text of the second one, and so on. -/
theorem itemsText_of_closed {items : List Item} (some : items ≠ []) (closed : ∀ item ∈ items, item.IsClosed) :
    ∃ texts, List.Forall₂ Item.IsText items texts ∧ itemsText items = String.join texts := by
  obtain ⟨first,member⟩ := List.exists_mem_of_ne_nil items some
  have ends : Piece.hard 0 ∈ items.flatMap Item.pieces := List.mem_flatMap.mpr ⟨first,member,first.hard_mem_pieces⟩
  have inside : Lays (items.flatMap Item.pieces) (Position.start.inBox .consistent 0) fun text q =>
      (∃ texts, List.Forall₂ Item.IsText items texts ∧ text = String.join (texts.map id)) ∧
        q = Position.start.inBox .consistent 0 := by
    refine lays_flatMap fun item member => (Item.lays_pieces (closed item member) rfl).imp ?_
    rintro text _ ⟨isText,rfl⟩
    exact ⟨⟨text,isText,rfl⟩,rfl⟩
  have whole := whole_flatMap fun item member => Item.whole_pieces (closed item member)
  obtain ⟨_,_,⟨⟨texts,related,same⟩,_⟩,_⟩ := (Lays.box whole (margin_lt_width ends) inside).render
  exact ⟨texts,related,by rw [itemsText,same,List.map_id]⟩

end MsgBindings.Target
