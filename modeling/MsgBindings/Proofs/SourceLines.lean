import MsgBindings.Declaration
import MsgBindings.Proofs.Cuts

/-!
The lines of a definition as they stand in its text. A line that is neither blank nor a comment
alone declares what is in front of its first number sign; `readAll_lines` says that a definition is
read line by line, with no such line left out, and each with its own number, text and comment.
-/
namespace MsgBindings.SourceText

/-- Whether a line is neither blank nor a comment alone. -/
def declares (line : List Char) : Bool :=
  match Text.trimStart line with
  | [] => false
  | c :: _ => c != '#'

/-- What a line says in front of its comment, without the blanks around it. -/
def declared (line : List Char) : List Char := Text.trim (line.takeWhile fun c => c != '#')

/-- The comment of a line: what follows its first number sign, without the blanks around it, unless
    nothing is left. -/
def comment? (line : List Char) : Option String :=
  match line.dropWhile fun c => c != '#' with
  | [] => none
  | _ :: comment => if (Text.trim comment).isEmpty then none else some (.ofList (Text.trim comment))

def declaringFrom (number : Nat) (lines : List (List Char)) : List (List Char × Nat) :=
  (lines.zipIdx number).filter fun l => declares l.1

/-- The lines of a definition that declare something, with their numbers counted from one. -/
def declaring (source : String) : List (List Char × Nat) := declaringFrom 1 (Text.lines source.toList)

/-- Whether a blank line stands below the last of the lines that declares something. -/
def endsBlank (lines : List (List Char)) : Bool :=
  (lines.reverse.takeWhile fun l => !declares l).any fun l => (Text.trim l).isEmpty

/-- Whether a blank line stands above the line with a number, and below the declaration before it. -/
def blankAbove (lines : List (List Char)) (number : Nat) : Bool := endsBlank (lines.take (number - 1))

/-- What reading a line comes to: its declaration with the number, the text and the comment of that
    very line, or an error there. -/
def ReadsAs (lines : List (List Char)) (line : List Char × Nat) (result : Except DefinitionError SourceLine) :
    Prop :=
  match Declaration.read (declared line.1) with
  | .ok declaration => result =
      .ok ⟨line.2,.ofList (Text.trim line.1),declaration,comment? line.1,blankAbove lines line.2⟩
  | .error e => result = .error (e.onLine line.2 (.ofList (Text.trim line.1)))

private theorem isBlank_mark : Text.isBlank '#' = false := by decide

private theorem unmarked {text : List Char} (outside : '#' ∉ text) : ∀ c ∈ text, (c != '#') = true := by
  intro c member
  rw [bne_iff_ne]
  rintro rfl
  exact outside member

theorem comment_of_mark {before : List Char} (outside : '#' ∉ before) (comment : List Char) :
    declared (before ++ '#' :: comment) = Text.trim before ∧
      comment? (before ++ '#' :: comment) =
        if (Text.trim comment).isEmpty then none else some (.ofList (Text.trim comment)) := by
  unfold declared comment?
  rw [List.takeWhile_append_of_pos (unmarked outside),List.dropWhile_append_of_pos (unmarked outside)]
  simp

theorem comment_of_no_mark {line : List Char} (outside : '#' ∉ line) :
    declared line = Text.trim line ∧ comment? line = none := by
  unfold declared comment?
  rw [List.takeWhile_eq_self_iff.mpr (unmarked outside),List.dropWhile_eq_nil_iff.mpr (unmarked outside)]
  exact ⟨rfl,rfl⟩

/-- The cut of a trimmed line at its comment. -/
theorem splitComment_trim (line : List Char) :
    Declaration.splitComment (Text.trim line) = (declared line,comment? line) := by
  unfold Declaration.splitComment
  by_cases mark : '#' ∈ line
  · obtain ⟨before,comment,rfl,outside⟩ := List.eq_append_cons_of_mem mark
    have cut : Text.splitFirst (· == '#') (Text.trim (before ++ '#' :: comment)) =
        some (Text.trimStart before,Text.trimEnd comment) := by
      rw [Text.splitFirst_eq_some,Text.trim_append_cons isBlank_mark]
      have start : '#' ∉ Text.trimStart before := fun member =>
        outside ((Text.trimStart_sublist before).subset member)
      exact ⟨'#',rfl,by simp,by simpa using unmarked start⟩
    obtain ⟨text,comment_eq⟩ := comment_of_mark outside comment
    simp only [cut,text,comment_eq,Text.trim_trimEnd]
    rfl
  · have cut : Text.splitFirst (· == '#') (Text.trim line) = none := by
      have inner : '#' ∉ Text.trim line := fun member => mark ((Text.trim_sublist line).subset member)
      rw [Text.splitFirst_eq_none]
      simpa using unmarked inner
    obtain ⟨text,comment_eq⟩ := comment_of_no_mark mark
    simp only [cut,text,comment_eq]

/-- A line declares something exactly if something is left of it in front of its comment. -/
theorem declares_iff (line : List Char) : declares line = true ↔ declared line ≠ [] := by
  unfold declares declared Text.trimStart
  rw [ne_eq,Text.trim_eq_nil]
  induction line with
  | nil => simp
  | cons c rest ih =>
    cases blank : Text.isBlank c with
    | true =>
      have other : (c != '#') = true := by
        rw [bne_iff_ne]
        rintro rfl
        simp [isBlank_mark] at blank
      simpa [List.dropWhile_cons,List.takeWhile_cons,blank,other] using ih
    | false =>
      cases mark : c != '#' <;> simp [blank,mark]

theorem declared_of_blank {line : List Char} (empty : Text.trim line = []) : declared line = [] := by
  unfold declared
  rw [Text.trim_eq_nil] at empty ⊢
  exact fun c member => empty c ((List.takeWhile_sublist _).subset member)

theorem declaringFrom_cons (number : Nat) (line : List Char) (rest : List (List Char)) :
    declaringFrom number (line :: rest) =
      if declares line then (line,number) :: declaringFrom (number + 1) rest
      else declaringFrom (number + 1) rest := by
  unfold declaringFrom
  rw [List.zipIdx_cons,List.filter_cons]

theorem endsBlank_append_of_silent {above : List (List Char)} {line : List Char} (silent : declares line = false) :
    endsBlank (above ++ [line]) = ((Text.trim line).isEmpty || endsBlank above) := by
  simp [endsBlank,silent]

theorem endsBlank_append_of_declares {above : List (List Char)} {line : List Char} (some : declares line = true) :
    endsBlank (above ++ [line]) = false := by
  simp [endsBlank,some]

/-- A definition is read line by line from any line on. -/
theorem readFrom_lines (above lines : List (List Char)) :
    List.Forall₂ (ReadsAs (above ++ lines)) (declaringFrom (above.length + 1) lines)
      (SourceLine.readFrom (above.length + 1) (endsBlank above) lines) := by
  -- What the reader remembers of the lines above is their number and whether they end blank.
  induction lines generalizing above with
  | nil => exact .nil
  | cons line rest ih =>
    have next := ih (above ++ [line])
    rw [List.append_assoc,List.singleton_append,List.length_append,List.length_singleton] at next
    rw [SourceLine.readFrom,declaringFrom_cons]
    simp only [splitComment_trim,List.isEmpty_iff]
    by_cases empty : Text.trim line = []
    · have silent : declares line = false := by
        rw [← Bool.not_eq_true,declares_iff]
        exact fun something => something (declared_of_blank empty)
      rw [if_pos empty,if_neg (by simp [silent])]
      rw [endsBlank_append_of_silent silent,empty] at next
      exact next
    · by_cases alone : declared line = []
      · have silent : declares line = false := by
          rw [← Bool.not_eq_true,declares_iff]
          exact fun something => something alone
        rw [if_neg empty,if_pos alone,if_neg (by simp [silent])]
        rw [endsBlank_append_of_silent silent,List.isEmpty_eq_false_iff.mpr empty,Bool.false_or] at next
        exact next
      · have some : declares line = true := (declares_iff line).mpr alone
        rw [if_neg empty,if_neg alone,if_pos some]
        rw [endsBlank_append_of_declares some] at next
        refine .cons ?_ next
        unfold ReadsAs
        cases Declaration.read (declared line) with
        | ok declaration => simp [blankAbove]
        | error e => rfl

theorem readAll_lines (source : String) :
    List.Forall₂ (ReadsAs (Text.lines source.toList)) (declaring source) (SourceLine.readAll source) :=
  readFrom_lines [] _

end MsgBindings.SourceText
