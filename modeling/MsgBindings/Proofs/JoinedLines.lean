import MsgBindings.Proofs.Entries
import MsgBindings.Proofs.SourceLines

/-!
The lines of two definitions with a blank line between them. They are the lines of both, and each line of the second
one says further down what it says by itself (`entries_joined`); the first of them stands below a blank line there.
-/
namespace MsgBindings

open SourceText

/-! ### Further down -/

/-- The field as it is declared `k` lines further down. -/
def Field.moved (k : Nat) (f : Field) : Field := { f with line := f.line + k }

def EnumHeader.moved (k : Nat) (h : EnumHeader) : EnumHeader := { h with line := h.line + k }

def GroupedConstant.moved (k : Nat) (c : GroupedConstant) : GroupedConstant := { c with constant := c.constant.moved k }

def ConstantGroup.moved (k : Nat) : ConstantGroup → ConstantGroup
  | block h members => block (h.moved k) (members.map (GroupedConstant.moved k))
  | run members => run (members.map (GroupedConstant.moved k))

def Entry.moved (k : Nat) : Entry → Entry
  | header h => header (h.moved k)
  | constant c => constant (c.moved k)
  | member f => member (f.moved k)

namespace PlacedEntry

def moved (k : Nat) (e : PlacedEntry) : PlacedEntry := { e with entry := e.entry.moved k }

def afterBlank (e : PlacedEntry) : PlacedEntry := { e with followsBlank := true }

theorem map_moved_zero (es : List PlacedEntry) : es.map (PlacedEntry.moved 0) = es := by
  refine List.map_id'' (fun e => ?_) es
  obtain ⟨_,entry⟩ := e
  cases entry <;> rfl

end PlacedEntry

namespace SourceLine

variable {package : String} {line : SourceLine} {e : PlacedEntry}

def moved (k : Nat) (line : SourceLine) : SourceLine := { line with number := line.number + k }

def afterBlank (line : SourceLine) : SourceLine := { line with followsBlank := true }

theorem Makes.moved {e : Entry} (k : Nat) (makes : line.Makes package e) :
    (line.moved k).Makes package (e.moved k) := by
  cases makes with
  | header declares => exact .header declares
  | @constant _ _ _ _ c declares typed made =>
    have makes : (line.moved k).Makes package
        (.constant ⟨c.declaredAt line.comment (line.number + k),line.text⟩) := .constant declares typed made
    exact makes
  | @member _ _ _ _ f declares typed made =>
    have makes : (line.moved k).Makes package (.member (f.declaredAt line.comment (line.number + k))) :=
      .member declares typed made
    exact makes

theorem placedEntry_moved (k : Nat) (read : line.placedEntry package = .ok e) :
    (line.moved k).placedEntry package = .ok (e.moved k) := by
  obtain ⟨entry,made,rfl⟩ := map_eq_ok.mp read
  exact map_eq_ok.mpr ⟨entry.moved k,entry_of_makes ((makes_of_entry made).moved k),rfl⟩

theorem placedEntry_afterBlank (read : line.placedEntry package = .ok e) :
    line.afterBlank.placedEntry package = .ok e.afterBlank := by
  obtain ⟨entry,made,rfl⟩ := map_eq_ok.mp read
  exact map_eq_ok.mpr ⟨entry,made,rfl⟩

end SourceLine

/-! ### The lines of two definitions -/

namespace SourceText

/-- A blank line above some lines is noted at the first declaration of them. -/
theorem readFrom_true (number : Nat) (blank : Bool) (lines : List (List Char)) :
    SourceLine.readFrom number true lines =
      (SourceLine.readFrom number blank lines).modifyHead (Except.map SourceLine.afterBlank) := by
  induction lines generalizing number blank with
  | nil => rfl
  | cons line rest ih =>
    rw [SourceLine.readFrom,SourceLine.readFrom]
    simp only [splitComment_trim,List.isEmpty_iff]
    split
    · exact ih _ _
    · split
      · exact ih _ _
      · cases Declaration.read (declared line) <;> rfl

/-- Lines further down say the same there. -/
theorem readFrom_moved (k number : Nat) (blank : Bool) (lines : List (List Char)) :
    List.Forall₂ (fun x x' => ∀ line : SourceLine, x = .ok line → x' = .ok (line.moved k))
      (SourceLine.readFrom number blank lines) (SourceLine.readFrom (number + k) blank lines) := by
  induction lines generalizing number blank with
  | nil => exact .nil
  | cons line rest ih =>
    rw [SourceLine.readFrom,SourceLine.readFrom,Nat.add_right_comm]
    simp only [splitComment_trim,List.isEmpty_iff]
    split
    · exact ih _ _
    · split
      · exact ih _ _
      · refine .cons ?_ (ih _ _)
        cases Declaration.read (declared line) with
        | error e => rintro _ ⟨⟩
        | ok d =>
          rintro _ ⟨⟩
          rfl

/-- The lines below a blank line are read by themselves. -/
theorem readFrom_append (number : Nat) (blank : Bool) (above below : List (List Char)) :
    SourceLine.readFrom number blank (above ++ [] :: below) =
      SourceLine.readFrom number blank above ++ SourceLine.readFrom (number + (above.length + 1)) true below := by
  induction above generalizing number blank with
  | nil => rfl
  | cons line rest ih =>
    have next := fun blank => ih (number + 1) blank
    rw [show number + 1 + (rest.length + 1) = number + ((line :: rest).length + 1) by simp; omega] at next
    rw [List.cons_append,SourceLine.readFrom,SourceLine.readFrom]
    simp only [splitComment_trim,next]
    split
    · rfl
    · split
      · rfl
      · rfl

end SourceText

namespace Text

/-- The lines of two texts with a blank line between them. -/
theorem lines_joined (above below : List Char) :
    lines (above ++ '\n' :: '\n' :: below) = (cutBy (· == '\n') above).map dropReturn ++ [] :: lines below := by
  rw [lines_append]
  exact congrArg _ (lines_append [] below)

end Text

namespace SourceText

theorem readFrom_of_trim {line line' : List Char} (same : Text.trim line = Text.trim line') (number : Nat)
    (blank : Bool) (rest : List (List Char)) :
    SourceLine.readFrom number blank (line :: rest) = SourceLine.readFrom number blank (line' :: rest) := by
  rw [SourceLine.readFrom,SourceLine.readFrom,same]

/-- The end of a text that no line feed ends is read like a line. -/
theorem readFrom_pieces (number : Nat) (blank : Bool) (pieces : List (List Char)) :
    SourceLine.readFrom number blank (pieces.map Text.dropReturn) =
      SourceLine.readFrom number blank (Text.linesOfPieces pieces) := by
  induction pieces generalizing number blank with
  | nil => rfl
  | cons piece rest ih =>
    cases rest with
    | nil =>
      -- The last piece keeps its carriage return, and is no line if it is empty.
      cases piece with
      | nil => rfl
      | cons c piece => exact readFrom_of_trim (Text.trim_dropReturn (c :: piece)) number blank []
    | cons next rest =>
      rw [List.map_cons,Text.linesOfPieces,SourceLine.readFrom,SourceLine.readFrom]
      · simp only [ih]
      · simp

theorem readAll_joined (source source' : String) :
    SourceLine.readAll (source ++ "\n\n" ++ source') =
      SourceLine.readAll source ++
        SourceLine.readFrom (1 + (source.toList.count '\n' + 2)) true (Text.lines source'.toList) := by
  have chars : (source ++ "\n\n" ++ source').toList = source.toList ++ '\n' :: '\n' :: source'.toList := by
    simp
  unfold SourceLine.readAll
  rw [chars,Text.lines_joined,readFrom_append,readFrom_pieces,List.length_map,Text.length_cutBy]
  rfl

theorem entries_moved {package : String} {k : Nat} {results results' : List (Except DefinitionError SourceLine)}
    {es : List PlacedEntry}
    (down : List.Forall₂ (fun x x' => ∀ line : SourceLine, x = .ok line → x' = .ok (line.moved k)) results results')
    (read : results.mapM (fun line => line >>= SourceLine.placedEntry package) = .ok es) :
    results'.mapM (fun line => line >>= SourceLine.placedEntry package) = .ok (es.map (PlacedEntry.moved k)) := by
  rw [mapM_eq_ok] at *
  induction down generalizing es with
  | nil =>
    cases read
    exact .nil
  | cons here _ ih =>
    cases read with
    | cons first rest =>
      obtain ⟨line,rfl,placed⟩ := bind_eq_ok.mp first
      rw [here line rfl]
      exact .cons (SourceLine.placedEntry_moved k placed) (ih rest)

theorem entries_afterBlank {package : String} {results : List (Except DefinitionError SourceLine)}
    {es : List PlacedEntry} (read : results.mapM (fun line => line >>= SourceLine.placedEntry package) = .ok es) :
    (results.modifyHead (Except.map SourceLine.afterBlank)).mapM (fun line => line >>= SourceLine.placedEntry package) =
      .ok (es.modifyHead PlacedEntry.afterBlank) := by
  rw [mapM_eq_ok] at *
  cases read with
  | nil => exact .nil
  | cons first rest =>
    obtain ⟨line,rfl,placed⟩ := bind_eq_ok.mp first
    exact .cons (SourceLine.placedEntry_afterBlank placed) rest

/-- The entries of two definitions with a blank line between them. -/
theorem entries_joined {package source source' : String} {es es' : List PlacedEntry}
    (first : PlacedEntry.readAll package source = .ok es) (second : PlacedEntry.readAll package source' = .ok es') :
    PlacedEntry.readAll package (source ++ "\n\n" ++ source') = .ok
      (es ++ (es'.map (PlacedEntry.moved (source.toList.count '\n' + 2))).modifyHead PlacedEntry.afterBlank) := by
  unfold PlacedEntry.readAll at *
  have below := entries_afterBlank (entries_moved (readFrom_moved (source.toList.count '\n' + 2) 1 false _) second)
  rw [readAll_joined,readFrom_true _ false]
  rw [mapM_eq_ok] at *
  exact List.rel_append first below

end SourceText

end MsgBindings
