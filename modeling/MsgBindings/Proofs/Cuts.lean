import Mathlib.Data.List.DropRight
import MsgBindings.Text.Cut

/-!
How cutting text works on texts put together: the cut at the first character of a kind, trimming
and words. Main statements: `splitFirst_eq_some` says which two texts a cut leaves, and
`trim_append_cons` that a character that is not blank keeps the blanks on its sides apart.
-/
namespace MsgBindings.Text

variable {p : Char → Bool} {s t : List Char} {c : Char}

/-- What is said of the characters of a text is decided at each of them, and not at all characters there are. -/
instance (priority := high) decidableForallMem {q : Char → Prop} [DecidablePred q] (s : List Char) :
    Decidable (∀ c ∈ s, q c) := List.decidableBAll q s

theorem splitFirst_eq_none : splitFirst p s = none ↔ ∀ c ∈ s, p c = false := by
  induction s with
  | nil => simp [splitFirst]
  | cons c rest ih =>
    cases meets : p c with
    | true => simp [splitFirst,meets]
    | false => simp [splitFirst,meets,ih]

/-- The text before and after the first character that `p` holds of. -/
theorem splitFirst_eq_some {before after : List Char} :
    splitFirst p s = some (before,after) ↔
      ∃ c, s = before ++ c :: after ∧ p c = true ∧ ∀ d ∈ before, p d = false := by
  induction s generalizing before with
  | nil => simp [splitFirst]
  | cons c rest ih =>
    cases meets : p c with
    | true =>
      simp only [splitFirst,meets,↓reduceIte,Option.some.injEq,Prod.mk.injEq]
      constructor
      · rintro ⟨rfl,rfl⟩
        exact ⟨c,rfl,meets,by simp⟩
      · rintro ⟨d,split,_,outside⟩
        cases before with
        | nil =>
          obtain ⟨_,rfl⟩ := List.cons.inj split
          exact ⟨rfl,rfl⟩
        | cons b before =>
          obtain ⟨rfl,_⟩ := List.cons.inj split
          have := outside c (by simp)
          simp_all
    | false =>
      simp only [splitFirst,meets,Bool.false_eq_true,↓reduceIte,Option.map_eq_some_iff,Prod.exists,
        Prod.mk.injEq]
      constructor
      · rintro ⟨before,after,cut,rfl,rfl⟩
        obtain ⟨d,rfl,holds,outside⟩ := ih.mp cut
        exact ⟨d,rfl,holds,by simpa [meets] using outside⟩
      · rintro ⟨d,split,holds,outside⟩
        cases before with
        | nil =>
          obtain ⟨rfl,_⟩ := List.cons.inj split
          simp_all
        | cons b before =>
          obtain ⟨rfl,rfl⟩ := List.cons.inj split
          exact ⟨before,after,ih.mpr ⟨d,rfl,holds,fun x member => outside x (by simp [member])⟩,rfl,rfl⟩

theorem splitFirst_eq (p : Char → Bool) (s : List Char) :
    splitFirst p s =
      match s.dropWhile fun c => !p c with
      | [] => none
      | _ :: after => some (s.takeWhile fun c => !p c,after) := by
  induction s with
  | nil => rfl
  | cons c rest ih =>
    cases meets : p c with
    | true => simp [splitFirst,meets]
    | false =>
      simp only [splitFirst,meets,Bool.false_eq_true,↓reduceIte,ih,List.dropWhile_cons,
        List.takeWhile_cons,Bool.not_false]
      split <;> rfl

/-! ### Trimming -/

theorem trimEnd_eq (s : List Char) : trimEnd s = s.rdropWhile isBlank := rfl

theorem trimStart_append_cons (solid : isBlank c = false) :
    trimStart (s ++ c :: t) = trimStart s ++ c :: t := by
  unfold trimStart
  rw [List.dropWhile_append]
  split
  · simp_all
  · rfl

theorem trimEnd_append_cons (solid : isBlank c = false) :
    trimEnd (s ++ c :: t) = s ++ c :: trimEnd t := by
  have mirrored := trimStart_append_cons (s := t.reverse) (t := s.reverse) solid
  unfold trimStart at mirrored
  simp [trimEnd,mirrored]

/-- A character that is not blank keeps the blanks on its sides apart. -/
theorem trim_append_cons (solid : isBlank c = false) :
    trim (s ++ c :: t) = trimStart s ++ c :: trimEnd t := by
  rw [trim,trimStart_append_cons solid,trimEnd_append_cons solid]

theorem trimStart_sublist (s : List Char) : (trimStart s).Sublist s := List.dropWhile_sublist isBlank

theorem trim_sublist (s : List Char) : (trim s).Sublist s :=
  (List.rdropWhile_prefix isBlank (trimStart s)).sublist.trans (trimStart_sublist s)

theorem trim_eq_nil : trim s = [] ↔ ∀ c ∈ s, isBlank c = true := by
  constructor
  · intro empty c member
    cases solid : isBlank c with
    | true => rfl
    | false =>
      obtain ⟨before,after,rfl⟩ := List.append_of_mem member
      simp [trim_append_cons solid] at empty
  · intro blank
    have start : trimStart s = [] := by simpa [trimStart] using blank
    simp [trim,start,trimEnd]

@[simp] theorem trim_trimEnd (s : List Char) : trim (trimEnd s) = trim s := by
  by_cases blank : ∀ c ∈ s, isBlank c = true
  · have none : trimEnd s = [] := by simpa [trimEnd_eq,List.rdropWhile_eq_nil_iff] using blank
    rw [none,trim_eq_nil.mpr blank]
    rfl
  · obtain ⟨c,member,solid⟩ : ∃ c ∈ s, isBlank c = false := by simpa using blank
    obtain ⟨before,after,rfl⟩ := List.append_of_mem member
    rw [trimEnd_append_cons solid,trim_append_cons solid,trim_append_cons solid,trimEnd_eq,trimEnd_eq,
      List.rdropWhile_idempotent]

theorem trim_trim (s : List Char) : trim (trim s) = trim s := by
  have start : trimStart (trimStart s) = trimStart s := List.dropWhile_idempotent isBlank s
  rw [show trim s = trimEnd (trimStart s) from rfl,trim_trimEnd,trim,start]

theorem trim_dropReturn (s : List Char) : trim (dropReturn s) = trim s := by
  unfold dropReturn
  split
  · rename_i rest reversed
    have shorter : trimEnd s = trimEnd rest.reverse := by
      rw [trimEnd,trimEnd,reversed,List.reverse_reverse,List.dropWhile_cons_of_pos (by decide)]
    rw [← trim_trimEnd s,shorter,trim_trimEnd]
  · rfl

theorem trim_of_blank {blanks : List Char} (blank : ∀ d ∈ blanks, isBlank d = true) : trim (blanks ++ s) = trim s := by
  rw [trim,trimStart,List.dropWhile_append_of_pos blank]
  rfl

/-- Of a text without a blank at its ends, trimming drops the blanks behind. -/
theorem trim_closed {blanks : List Char} (first : ∀ d ∈ s.head?, isBlank d = false) (solid : isBlank c = false)
    (blank : ∀ d ∈ blanks, isBlank d = true) : trim (s ++ c :: blanks) = s ++ [c] := by
  have none : trimEnd blanks = [] := by simpa [trimEnd_eq,List.rdropWhile_eq_nil_iff] using blank
  have kept : trimStart s = s := by
    cases s with
    | nil => rfl
    | cons d s => simp [trimStart,first d rfl]
  rw [trim_append_cons solid,none,kept]

/-- A text without a blank at its ends is trimmed already. -/
theorem trim_of_ends (first : ∀ d ∈ s.head?, isBlank d = false) (last : ∀ d ∈ s.getLast?, isBlank d = false) :
    trim s = s := by
  rcases List.eq_nil_or_concat s with rfl | ⟨front,d,rfl⟩
  · rfl
  · rw [List.concat_eq_append] at *
    refine trim_closed (fun e head => first e ?_) (last d (by simp)) nofun
    cases front with
    | nil => cases head
    | cons c front => exact head

theorem trim_solid (solid : ∀ d ∈ s, isBlank d = false) : trim s = s :=
  trim_of_ends (fun d first => solid d (List.mem_of_mem_head? first)) fun d last => solid d (List.mem_of_getLast? last)

theorem isBlank_getLast_of_trim (trimmed : trim s = s) : ∀ d ∈ s.getLast?, isBlank d = false := by
  intro d last
  have ends : (trimStart s).rdropWhile isBlank = s := trimmed
  have filled : (trimStart s).rdropWhile isBlank ≠ [] := by
    rw [ends]
    rintro rfl
    cases last
  have solid := List.rdropWhile_last_not isBlank (trimStart s) filled
  have same : ((trimStart s).rdropWhile isBlank).getLast filled = d := by
    rw [← Option.some_inj,← List.getLast?_eq_some_getLast,ends]
    exact last
  rwa [same,Bool.not_eq_true] at solid

theorem isBlank_of_trim_eq_cons {rest : List Char} (trimmed : trim s = c :: rest) : isBlank c = false := by
  have start : c :: rest <+: trimStart s := by
    rw [← trimmed]
    exact List.rdropWhile_prefix isBlank (trimStart s)
  obtain ⟨more,split⟩ := start
  have solid := List.head?_dropWhile_not isBlank s
  rw [show s.dropWhile isBlank = c :: rest ++ more from split.symm] at solid
  simpa using solid

theorem isBlank_head_of_trim (trimmed : trim s = s) : ∀ d ∈ s.head?, isBlank d = false := by
  intro d first
  cases s with
  | nil => cases first
  | cons e s =>
    cases first
    exact isBlank_of_trim_eq_cons trimmed

/-- Trimming takes away what blanks there are around a text. -/
theorem trim_between {start finish : List Char} (trimmed : trim s = s) (before : ∀ d ∈ start, isBlank d = true)
    (behind : ∀ d ∈ finish, isBlank d = true) : trim (start ++ (s ++ finish)) = s := by
  rw [trim_of_blank before]
  rcases List.eq_nil_or_concat s with rfl | ⟨front,d,rfl⟩
  · exact trim_eq_nil.mpr behind
  · have first := isBlank_head_of_trim trimmed
    have last := isBlank_getLast_of_trim trimmed
    rw [List.concat_eq_append] at *
    rw [List.append_assoc,List.singleton_append]
    refine trim_closed (fun e head => first e ?_) (last d (by simp)) behind
    cases front with
    | nil => cases head
    | cons e front => exact head

/-! ### Words -/

theorem words_cons (solid : isBlank c = false) (rest : List Char) :
    ∃ word more, words (c :: rest) = (c :: word) :: more := by
  unfold words
  simp only [cutBy,solid,Bool.false_eq_true,↓reduceIte]
  split <;> simp

theorem cutBy_of_none {p : Char → Bool} {s : List Char} (none : ∀ c ∈ s, p c = false) : cutBy p s = [s] := by
  induction s with
  | nil => rfl
  | cons c rest ih =>
    simp only [List.mem_cons,forall_eq_or_imp] at none
    simp [cutBy,none.1,ih none.2]

theorem cutBy_ne_nil (p : Char → Bool) (s : List Char) : cutBy p s ≠ [] := by
  cases s with
  | nil => simp [cutBy]
  | cons c rest =>
    rw [cutBy]
    split
    · simp
    · split <;> simp

theorem length_cutBy (p : Char → Bool) (s : List Char) : (cutBy p s).length = s.countP p + 1 := by
  induction s with
  | nil => rfl
  | cons c rest ih =>
    rw [cutBy,List.countP_cons]
    split
    · rw [List.length_cons,ih]
    · cases pieces : cutBy p rest with
      | nil => exact absurd pieces (cutBy_ne_nil p rest)
      | cons piece pieces' =>
        rw [pieces] at ih
        simpa using ih

/-- The pieces of a text with a mark in it are those before the mark and those after it. -/
theorem cutBy_append_cons {p : Char → Bool} {mark : Char} (marked : p mark = true) (before after : List Char) :
    cutBy p (before ++ mark :: after) = cutBy p before ++ cutBy p after := by
  induction before with
  | nil => simp [cutBy,marked]
  | cons c before ih =>
    rw [List.cons_append,cutBy,cutBy,ih]
    split
    · rfl
    · cases pieces : cutBy p before with
      | nil => exact absurd pieces (cutBy_ne_nil p before)
      | cons piece pieces => rfl

/-- Texts without a mark are the pieces of the text with marks between them. -/
theorem cutBy_join {p : Char → Bool} {mark : Char} (marked : p mark = true) {pieces : List (List Char)}
    (some : pieces ≠ []) (solid : ∀ piece ∈ pieces, ∀ c ∈ piece, p c = false) :
    cutBy p (join [mark] pieces) = pieces := by
  induction pieces with
  | nil => exact absurd rfl some
  | cons piece rest ih =>
    simp only [List.mem_cons,forall_eq_or_imp] at solid
    obtain ⟨here,others⟩ := solid
    cases rest with
    | nil => exact cutBy_of_none here
    | cons next rest =>
      have split : join [mark] (piece :: next :: rest) = piece ++ mark :: join [mark] (next :: rest) := by
        simp [join]
      rw [split,cutBy_append_cons marked,cutBy_of_none here,ih (by simp) others]
      rfl

/-- The pieces of a text hold no mark, and nothing that is not in the text. -/
theorem mem_of_mem_cutBy {p : Char → Bool} {s piece : List Char} (cut : piece ∈ cutBy p s) :
    ∀ c ∈ piece, p c = false ∧ c ∈ s := by
  induction s generalizing piece with
  | nil => simp_all [cutBy]
  | cons d rest ih =>
    rw [cutBy] at cut
    split at cut
    · rcases List.mem_cons.mp cut with rfl | later
      · simp
      · exact fun c member => ⟨(ih later c member).1,by simp [(ih later c member).2]⟩
    · rename_i solid
      split at cut
      · rename_i none
        exact absurd none (cutBy_ne_nil p rest)
      · rename_i first others pieces
        rw [pieces] at ih
        rcases List.mem_cons.mp cut with rfl | later
        · intro c member
          rcases List.mem_cons.mp member with rfl | inner
          · exact ⟨by simpa using solid,by simp⟩
          · have kept := ih (List.mem_cons_self) c inner
            exact ⟨kept.1,by simp [kept.2]⟩
        · intro c member
          have kept := ih (List.mem_cons_of_mem _ later) c member
          exact ⟨kept.1,by simp [kept.2]⟩

theorem join_eq (separator : List Char) (pieces : List (List Char)) :
    join separator pieces = separator.intercalate pieces := by
  induction pieces with
  | nil => rfl
  | cons piece pieces ih =>
    cases pieces with
    | nil => exact List.intercalate_singleton.symm
    | cons next more =>
      rw [List.intercalate_cons_cons,← ih]
      rfl

/-- A joined text has the characters of its pieces and of the separator. -/
theorem mem_join {separator : List Char} {pieces : List (List Char)} (member : c ∈ join separator pieces) :
    c ∈ separator ∨ ∃ piece ∈ pieces, c ∈ piece := by
  induction pieces with
  | nil => cases member
  | cons piece pieces ih =>
    cases pieces with
    | nil => exact .inr ⟨piece,by simp,member⟩
    | cons next more =>
      rw [join] at member
      · simp only [List.mem_append] at member
        rcases member with (here | mark) | later
        · exact .inr ⟨piece,by simp,here⟩
        · exact .inl mark
        · exact (ih later).imp_right fun ⟨p,inside,here⟩ => ⟨p,List.mem_cons_of_mem _ inside,here⟩
      · simp

/-! ### Lines -/

theorem dropReturn_sublist (s : List Char) : (dropReturn s).Sublist s := by
  unfold dropReturn
  split
  · rename_i rest reversed
    rw [← List.reverse_sublist,List.reverse_reverse,reversed]
    exact List.sublist_cons_self _ rest
  · exact List.Sublist.refl s

theorem exists_of_mem_linesOfPieces {pieces : List (List Char)} {line : List Char}
    (member : line ∈ linesOfPieces pieces) : ∃ piece ∈ pieces, line.Sublist piece := by
  induction pieces with
  | nil => cases member
  | cons piece rest ih =>
    cases rest with
    | nil =>
      rw [linesOfPieces] at member
      split at member
      · cases member
      · exact ⟨piece,List.mem_cons_self,by rw [List.mem_singleton.mp member]⟩
    | cons next others =>
      rw [linesOfPieces] at member
      · rcases List.mem_cons.mp member with rfl | later
        · exact ⟨piece,List.mem_cons_self,dropReturn_sublist piece⟩
        · obtain ⟨q,inside,shorter⟩ := ih later
          exact ⟨q,List.mem_cons_of_mem _ inside,shorter⟩
      · simp

/-- A line holds no line feed. -/
theorem single_of_mem_lines {line : List Char} (member : line ∈ lines s) : '\n' ∉ line := by
  intro inside
  obtain ⟨piece,cut,shorter⟩ := exists_of_mem_linesOfPieces member
  exact absurd (mem_of_mem_cutBy cut _ (shorter.subset inside)).1 (by decide)

/-! ### Lines of texts put together -/

section

variable {line before after : List Char}

/-- Whether a line begins after a text. -/
def EndsLine (s : List Char) : Prop := s = [] ∨ ∃ front, s = front ++ ['\n']

theorem EndsLine.append {t : List Char} (first : EndsLine s) (second : EndsLine t) : EndsLine (s ++ t) := by
  rcases second with rfl | ⟨front,rfl⟩
  · rwa [List.append_nil]
  · exact .inr ⟨s ++ front,by simp⟩

theorem endsLine_flatten {texts : List (List Char)} (each : ∀ t ∈ texts, EndsLine t) : EndsLine texts.flatten := by
  induction texts with
  | nil => exact .inl rfl
  | cons t texts ih =>
    rw [List.forall_mem_cons] at each
    rw [List.flatten_cons]
    exact each.1.append (ih each.2)

theorem linesOfPieces_append {pieces more : List (List Char)} (some : more ≠ []) :
    linesOfPieces (pieces ++ more) = pieces.map dropReturn ++ linesOfPieces more := by
  induction pieces with
  | nil => rfl
  | cons piece rest ih =>
    obtain ⟨next,others,cons⟩ := List.exists_cons_of_ne_nil (List.append_ne_nil_of_right_ne_nil rest some)
    rw [List.cons_append,cons,linesOfPieces,← cons,ih]
    · rfl
    · simp

/-- The lines of a text in front of the end of a line are its pieces, without the carriage returns that end them. -/
theorem lines_append (before after : List Char) :
    lines (before ++ '\n' :: after) = (cutBy (· == '\n') before).map dropReturn ++ lines after := by
  unfold lines
  rw [cutBy_append_cons (by decide),linesOfPieces_append (cutBy_ne_nil _ after)]

theorem dropReturn_of_closed (closed : line.getLast? ≠ some '\r') : dropReturn line = line := by
  unfold dropReturn
  split
  · rename_i rest reversed
    refine absurd ?_ closed
    rw [List.getLast?_eq_head?_reverse,reversed]
    rfl
  · rfl

/-- What stands in front of the first end of a line is the first line. -/
theorem lines_cons (single : '\n' ∉ line) (closed : line.getLast? ≠ some '\r') (after : List Char) :
    lines (line ++ '\n' :: after) = line :: lines after := by
  have solid : ∀ c ∈ line, (c == '\n') = false := by
    intro c member
    refine beq_eq_false_iff_ne.mpr ?_
    rintro rfl
    exact single member
  rw [lines_append,cutBy_of_none solid,List.map_singleton,dropReturn_of_closed closed,List.singleton_append]

/-- Texts that are ended as lines are the lines of what they make together. -/
theorem lines_flatten {texts : List (List Char)} (single : ∀ t ∈ texts, '\n' ∉ t)
    (closed : ∀ t ∈ texts, t.getLast? ≠ some '\r') : lines (texts.map (· ++ ['\n'])).flatten = texts := by
  induction texts with
  | nil => rfl
  | cons t texts ih =>
    rw [List.forall_mem_cons] at single closed
    rw [List.map_cons,List.flatten_cons,List.append_assoc,List.singleton_append,lines_cons single.1 closed.1,
      ih single.2 closed.2]

/-- What stands between the end of a line and the next one is a line. -/
theorem mem_lines (start : EndsLine before) (single : '\n' ∉ line) (closed : line.getLast? ≠ some '\r') :
    line ∈ lines (before ++ (line ++ '\n' :: after)) := by
  have first : line ∈ lines (line ++ '\n' :: after) := by
    rw [lines_cons single closed]
    exact List.mem_cons_self
  rcases start with rfl | ⟨front,rfl⟩
  · exact first
  · rw [List.append_assoc,List.singleton_append,lines_append]
    exact List.mem_append_right _ first

end

end MsgBindings.Text
