import MsgBindings.Proofs.ClosedBoxes

/-!
The texts of the default value of a record. The initial values of its fields stand behind each other, all on one line
or each on a line of its own (`IsRecord`), whatever these values are (`lays_record`).
-/
namespace MsgBindings.Target

open Layout

/-- Texts of the initial value of a field. -/
def IsEntry (entry : String × ValueExpr) (text : String) : Prop :=
  ∃ value, Spells 0 entry.2.pieces value ∧ text = entry.1 ++ ": " ++ value

/-- Texts of the default value of a record: an initial value for each field, in order. -/
inductive IsRecord : List (String × ValueExpr) → String → Prop
  | empty : IsRecord [] "Self \x7b\x7d"
  | line {entry : String × ValueExpr} {values : List (String × ValueExpr)} {entries : List String} :
      List.Forall₂ IsEntry (entry :: values) entries →
      IsRecord (entry :: values) ("Self \x7b " ++ ", ".intercalate entries ++ " \x7d")
  | lines {entry : String × ValueExpr} {values : List (String × ValueExpr)} {entries : List String} :
      List.Forall₂ IsEntry (entry :: values) entries →
      IsRecord (entry :: values)
        ("Self \x7b\n            " ++ ",\n            ".intercalate entries ++ ",\n        \x7d")

/-! ### Pieces -/

/-- The pieces of an initial value. -/
def entryPieces (entry : String × ValueExpr) : List Piece :=
  .word (entry.1 ++ ": ") :: box .inconsistent 0 entry.2.pieces

/-- The pieces of the initial values of fields, after the brace in front of them. -/
def insidePieces (entry : String × ValueExpr) (values : List (String × ValueExpr)) : List Piece :=
  .word "Self \x7b" :: .space :: filled ((entry :: values).map entryPieces) ++ [.lastComma 1]

theorem recordPieces_nil : recordPieces [] = box .consistent step [.word "Self \x7b"] ++ [.word "\x7d"] := by
  decide

theorem recordPieces_cons (entry : String × ValueExpr) (values : List (String × ValueExpr)) :
    recordPieces (entry :: values) =
      box .consistent step ((if widestRecord < width (insidePieces entry values) then [.wide] else []) ++
        insidePieces entry values) ++ [.word "\x7d"] := rfl

theorem whole_insidePieces (entry : String × ValueExpr) (values : List (String × ValueExpr)) :
    Whole (insidePieces entry values) := by
  have entries : ∀ item ∈ (entry :: values).map entryPieces, Whole item :=
    List.forall_mem_map.mpr fun entry _ => .word _ (.box _ _ (whole_value entry.2))
  exact .word _ (.gap _ _ _ ((whole_filled entries).append (.gap _ _ _ .nil)))

theorem whole_record (values : List (String × ValueExpr)) : Whole (recordPieces values) := by
  cases values with
  | nil =>
    rw [recordPieces_nil]
    exact ((whole_word _).box _ _).append (whole_word _)
  | cons entry values =>
    rw [recordPieces_cons]
    exact (((whole_ite (.wide .nil)).append (whole_insidePieces entry values)).box _ _).append (whole_word _)

/-! ### Gaps -/

section

variable {α : Type} {indent : Int} {frames : List Frame} {blank : Nat}

theorem gap_goesOn (fits : frames.head? = some .whole) (p : Position) (within : p.Within indent frames 0) :
    Lays [.space] p fun text q => text = "" ∧ q.Within indent frames 1 := by
  obtain ⟨rfl,rfl,flush⟩ := within
  exact .goesOn 1 0 false fits (.nil ⟨rfl,rfl,rfl,by rw [flush]⟩)

theorem last_goesOn (fits : frames.head? = some .whole) (p : Position) (within : p.Within indent frames 0) :
    Lays [.lastComma 1] p fun text q => text = "" ∧ q.pending = 1 := by
  obtain ⟨rfl,rfl,flush⟩ := within
  exact .goesOn 1 _ true fits (.nil ⟨rfl,by rw [flush]⟩)

theorem gap_ends (column : Nat) {around : Int} (broken : frames.head? = some (.broken .consistent around))
    (p : Position) (within : p.Within column frames 0) :
    Lays [.space] p fun text q => text = "\n" ∧ q.Within column frames column := by
  obtain ⟨inside,rfl,_⟩ := within
  refine .ends 1 0 false broken (.nil ⟨by simp,⟨inside,rfl,?_⟩⟩)
  simp [inside]

theorem last_ends (column : Nat) {around : Int} (broken : frames.head? = some (.broken .consistent around))
    (p : Position) (within : p.Within (column + step) frames 0) :
    Lays [.lastComma 1] p fun text q => text = ",\n" ∧ q.pending = column := by
  obtain ⟨inside,rfl,flush⟩ := within
  refine .ends 1 _ true broken (.nil ⟨?_,?_⟩)
  · simp [flush,Position.spaces]
  · simp only [inside,Int.add_neg_cancel_right,Int.toNat_natCast]

/-! ### From value to value -/

/-- Elements with commas between them. How the gaps are written is the same for all, since they are in one box. -/
theorem lays_filled {f : α → List Piece} {R : α → String → Prop} {between : String} {x : α} {xs : List α}
    (each : ∀ y, ∀ p : Position, p.Within indent frames blank → Lays (f y) p fun text q =>
      (∃ member, R y member ∧ text = Position.spaces blank ++ member) ∧ q.Within indent frames 0)
    (gap : ∀ p : Position, p.Within indent frames 0 → Lays [.space] p fun text q =>
      text = between ∧ q.Within indent frames blank)
    {p : Position} (within : p.Within indent frames blank) :
    Lays (filled ((x :: xs).map f)) p fun text q =>
      (∃ members, List.Forall₂ R (x :: xs) members ∧
        text = Position.spaces blank ++ ("," ++ between ++ Position.spaces blank).intercalate members) ∧
      q.Within indent frames 0 := by
  induction xs generalizing x p with
  | nil =>
    refine (each x p within).imp ?_
    rintro _ q ⟨⟨member,holds,rfl⟩,kept⟩
    exact ⟨⟨[member],.cons holds .nil,by simp⟩,kept⟩
  | cons y xs ih =>
    rw [List.map_cons,List.map_cons,filled,← List.map_cons]
    · refine (each x p within).append ?_
      rintro _ q ⟨⟨member,holds,rfl⟩,inside⟩
      refine .word _ ((gap _ ?_).append ?_)
      · exact ⟨inside.indent,inside.frames,rfl⟩
      rintro _ q' ⟨rfl,next⟩
      refine (ih next).imp ?_
      rintro _ r ⟨⟨members,related,rfl⟩,kept⟩
      refine ⟨⟨member :: members,.cons holds related,?_⟩,kept⟩
      obtain ⟨second,others,_,_,rfl⟩ := List.forall₂_cons_left_iff.mp related
      simp [inside.pending,Position.spaces,String.append_assoc]
    · simp

theorem lays_entry (entry : String × ValueExpr) {p : Position} (within : p.Within indent frames blank) :
    Lays (entryPieces entry) p fun text q =>
      (∃ member, IsEntry entry member ∧ text = Position.spaces blank ++ member) ∧ q.Within indent frames 0 := by
  have value := Lays.ending ((whole_value entry.2).box .inconsistent 0) ((endsInWord_value entry.2).box .inconsistent 0)
  refine .word _ ((value _).imp ?_)
  rintro text q ⟨spells,kept⟩
  rw [spells_box] at spells
  refine ⟨⟨entry.1 ++ ": " ++ text,⟨text,spells,rfl⟩,?_⟩,?_⟩
  · rw [within.pending,String.append_assoc,String.append_assoc]
  · exact ⟨kept.indent.trans within.indent,kept.frames.trans within.frames,kept.pending⟩

/-- The initial values of fields between the braces of a record, and how the line goes on or ends around them. -/
theorem lays_entries {between ending : String} {after : Nat} {entry : String × ValueExpr}
    {values : List (String × ValueExpr)}
    (gap : ∀ p : Position, p.Within indent frames 0 → Lays [.space] p fun text q =>
      text = between ∧ q.Within indent frames blank)
    (last : ∀ p : Position, p.Within indent frames 0 → Lays [.lastComma 1] p fun text q =>
      text = ending ∧ q.pending = after)
    {p : Position} (inside : p.indent = indent) (same : p.frames = frames) :
    Lays (insidePieces entry values) p fun text q =>
      (∃ entries, List.Forall₂ IsEntry (entry :: values) entries ∧
        text = Position.spaces p.pending ++ ("Self \x7b" ++ between ++ Position.spaces blank ++
          ("," ++ between ++ Position.spaces blank).intercalate entries ++ ending)) ∧ q.pending = after := by
  refine .word _ ((gap _ ?_).append ?_)
  · exact ⟨inside,same,rfl⟩
  rintro _ q ⟨rfl,next⟩
  refine (lays_filled (fun entry _ within => lays_entry entry within) gap next).append ?_
  rintro _ q' ⟨⟨entries,related,rfl⟩,kept⟩
  refine (last q' kept).imp ?_
  rintro _ r ⟨rfl,flush⟩
  exact ⟨⟨entries,related,by simp [String.append_assoc]⟩,flush⟩

/-- Whether a text is that of a record in an indented line, without the brace that closes it. -/
def IsOpenRecord (values : List (String × ValueExpr)) (text : String) (q : Position) : Prop :=
  ∃ record, IsRecord values record ∧ text ++ (Position.spaces q.pending ++ "\x7d") = Position.spaces 8 ++ record

theorem lays_openRecord_lines (entry : String × ValueExpr) (values : List (String × ValueExpr)) {p : Position}
    (column : p.indent = 8) (pending : p.pending = 8) :
    Lays (insidePieces entry values) (p.inBox .consistent step) (IsOpenRecord (entry :: values)) := by
  refine (lays_entries (gap_ends 12 rfl) (last_ends 8 rfl) ?_ rfl).imp ?_
  · simp [Position.inBox,column,step]
  rintro _ q ⟨⟨entries,related,rfl⟩,ended⟩
  refine ⟨_,.lines related,?_⟩
  simp [ended,pending,Position.inBox,Position.spaces,String.append_assoc]

theorem lays_openRecord_line (entry : String × ValueExpr) (values : List (String × ValueExpr)) {p : Position}
    (pending : p.pending = 8) :
    Lays (insidePieces entry values) { p with frames := .whole :: p.frames } (IsOpenRecord (entry :: values)) := by
  refine (lays_entries (gap_goesOn rfl) (last_goesOn rfl) rfl rfl).imp ?_
  rintro _ q ⟨⟨entries,related,rfl⟩,ended⟩
  refine ⟨_,.line related,?_⟩
  simp [ended,pending,Position.spaces,String.append_assoc]

theorem lays_record (values : List (String × ValueExpr)) {p : Position} (column : p.indent = 8)
    (pending : p.pending = 8) :
    Lays (recordPieces values) p fun text _ =>
      ∃ record, IsRecord values record ∧ text = Position.spaces 8 ++ record := by
  cases values with
  | nil =>
    rw [recordPieces_nil]
    refine (Lays.ending ((whole_word _).box _ _) (.box _ _ (.word _)) p).append ?_
    rintro text q ⟨spells,kept⟩
    simp only [spells_box,Spells] at spells
    obtain ⟨_,rfl,rfl⟩ := spells
    refine .word _ (.nil ⟨_,.empty,?_⟩)
    simp [pending,kept.pending,Position.spaces]
  | cons entry values =>
    rw [recordPieces_cons]
    have whole := whole_insidePieces entry values
    have lines := lays_openRecord_lines entry values column pending
    have line := lays_openRecord_line entry values pending
    refine (Lays.boxed ((whole_ite (.wide .nil)).append whole) lines.wideIf fun _ => line.wideIf).append ?_
    rintro text _ ⟨last,⟨record,isRecord,same⟩,rfl⟩
    exact .word _ (.nil ⟨record,isRecord,by simpa [String.append_assoc] using same⟩)

end

end MsgBindings.Target
