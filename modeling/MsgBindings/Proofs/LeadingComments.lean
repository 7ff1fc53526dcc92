import MsgBindings.LeadingComment
import MsgBindings.Proofs.Failures
import MsgBindings.Proofs.SourceLines

/-!
The comment at the top of a definition, told from its lines. The reader of comments and the reader of declarations
look at the text on their own, and stop at the same line (`isTop_takeWhile`). What the lines above it say is laid out
with one line feed between neighbouring lines and an empty line between others (`layOut`), which is the comment
(`read_of_top`).
-/
namespace MsgBindings

open SourceText

/-- The number of the line that a declaration or an error is on. -/
def SourceLine.numberOf? : Except DefinitionError SourceLine → Option Nat
  | .ok line => some line.number
  | .error e => e.line?

/-- The lines above the first one for which reading gives a declaration or an error, and all lines if there is no
    such line. -/
inductive SourceText.IsTop (source : String) : List (List Char) → Prop where
  | everything (nothing : SourceLine.readAll source = []) : IsTop source (Text.lines source.toList)
  | above {top below : List (List Char)} {line : List Char} {result : Except DefinitionError SourceLine}
      {results : List (Except DefinitionError SourceLine)} (first : SourceLine.readAll source = result :: results)
      (placed : SourceLine.numberOf? result = some (top.length + 1))
      (split : Text.lines source.toList = top ++ line :: below) : IsTop source top

namespace LeadingComment

/-- What a line says behind the number signs that it begins with. -/
def said (line : List Char) : List Char := Text.trim ((Text.trim line).dropWhile (· == '#'))

/-- The texts that are not empty, with their numbers. -/
def numberedFrom (number : Nat) (texts : List (List Char)) : List (List Char × Nat) :=
  (texts.zipIdx number).filter fun t => t.1 ≠ []

/-- What stands between the texts of two lines: an empty line if there are lines between them. -/
def gap (i j : Nat) : List Char := if j = i + 1 then ['\n'] else ['\n','\n']

/-- The texts below a line with a number, each behind the gap above it. -/
def layOutBelow (i : Nat) : List (List Char × Nat) → List Char
  | [] => []
  | (text,j) :: rest => gap i j ++ text ++ layOutBelow j rest

/-- Texts in order, each with the number of its line, and the gaps between them. -/
def layOut : List (List Char × Nat) → List Char
  | [] => []
  | (text,i) :: rest => text ++ layOutBelow i rest

/-! ### Where the comment ends -/

theorem numberOf?_of_readsAs {lines : List (List Char)} {line : List Char × Nat}
    {result : Except DefinitionError SourceLine} (reads : ReadsAs lines line result) :
    SourceLine.numberOf? result = some line.2 := by
  unfold ReadsAs at reads
  cases read : Declaration.read (declared line.1) with
  | ok declaration =>
    simp only [read] at reads
    rw [reads]
    rfl
  | error e =>
    simp only [read] at reads
    obtain ⟨cause,_,located⟩ := (Declaration.failsAs_read _ e read).onLine line.2 (.ofList (Text.trim line.1))
    rw [reads,located]
    rfl

/-- The first line that declares something is below the lines that declare nothing. -/
theorem declaringFrom_cases (number : Nat) (lines : List (List Char)) :
    (declaringFrom number lines = [] ∧ lines.takeWhile (fun l => !declares l) = lines) ∨
      ∃ line below rest, lines = lines.takeWhile (fun l => !declares l) ++ line :: below ∧
        declaringFrom number lines = (line,number + (lines.takeWhile fun l => !declares l).length) :: rest := by
  induction lines generalizing number with
  | nil => exact .inl ⟨rfl,rfl⟩
  | cons line lines ih =>
    rw [declaringFrom_cons]
    cases something : declares line with
    | true => exact .inr ⟨line,lines,declaringFrom (number + 1) lines,by simp [something],by simp [something]⟩
    | false =>
      rw [if_neg (by simp),List.takeWhile_cons_of_pos (by simp [something])]
      rcases ih (number + 1) with ⟨nothing,all⟩ | ⟨first,below,rest,split,found⟩
      · exact .inl ⟨nothing,by rw [all]⟩
      · refine .inr ⟨first,below,rest,by rw [List.cons_append,← split],?_⟩
        rw [found,List.length_cons,Nat.add_assoc,Nat.add_comm 1]

/-- The lines above the first one that is read are those that declare nothing. -/
theorem isTop_takeWhile (source : String) :
    IsTop source ((Text.lines source.toList).takeWhile fun l => !declares l) := by
  have reads := readAll_lines source
  rcases declaringFrom_cases 1 (Text.lines source.toList) with ⟨nothing,all⟩ | ⟨line,below,rest,split,found⟩
  · rw [declaring,nothing] at reads
    rw [all]
    exact .everything (List.forall₂_nil_left_iff.mp reads)
  · rw [declaring,found] at reads
    obtain ⟨result,results,here,_,all⟩ := List.forall₂_cons_left_iff.mp reads
    refine .above all ?_ split
    rw [numberOf?_of_readsAs here,Nat.add_comm]

theorem lineText?_eq (line : List Char) : lineText? line = if declares line then none else some (said line) := by
  unfold lineText? said declares
  cases start : Text.trimStart line with
  | nil =>
    have empty : Text.trim line = [] := by
      rw [Text.trim,start]
      rfl
    rw [empty]
    rfl
  | cons c rest =>
    have solid : Text.isBlank c = false := by
      have first := List.head?_dropWhile_not Text.isBlank line
      rw [show line.dropWhile Text.isBlank = c :: rest from start] at first
      simpa using first
    have trimmed : Text.trim line = c :: Text.trimEnd rest := by
      rw [Text.trim,start]
      show Text.trimEnd ([] ++ c :: rest) = [] ++ c :: Text.trimEnd rest
      exact Text.trimEnd_append_cons solid
    rw [trimmed]
    by_cases mark : c = '#'
    · subst mark
      simp
    · simp only [bne_iff_ne.mpr mark,↓reduceIte]
      split
      · rename_i same
        cases same
      · rename_i same
        exact absurd (List.cons.inj same).1 mark
      · rfl

/-- The reader of comments takes the lines that declare nothing. -/
theorem texts_eq (lines : List (List Char)) : texts lines = (lines.takeWhile fun l => !declares l).map said := by
  induction lines with
  | nil => rfl
  | cons line lines ih =>
    rw [texts,lineText?_eq]
    cases something : declares line with
    | true => simp [something]
    | false => simp [something,ih]

/-! ### How the comment is laid out -/

theorem numberedFrom_cons (number : Nat) (text : List Char) (rest : List (List Char)) :
    numberedFrom number (text :: rest) =
      if text = [] then numberedFrom (number + 1) rest else (text,number) :: numberedFrom (number + 1) rest := by
  unfold numberedFrom
  rw [List.zipIdx_cons,List.filter_cons]
  by_cases empty : text = []
  · simp [empty]
  · simp [empty]

theorem numberedFrom_eq_nil {number : Nat} {texts : List (List Char)} :
    numberedFrom number texts = [] ↔ ∀ text ∈ texts, text = [] := by
  induction texts generalizing number with
  | nil => simp [numberedFrom]
  | cons text rest ih =>
    rw [numberedFrom_cons,List.forall_mem_cons]
    by_cases empty : text = []
    · simp [empty,ih]
    · simp [empty]

/-- Behind a comment whose last text is that of line `i`, the texts from line `n` on follow with their gaps. That a
    break is pending says no more than that lines lie between the two. -/
theorem append_eq {comment : List Char} {parted : Bool} {i n : Nat} (filled : comment ≠ []) (above : i < n)
    (pending : parted = true ↔ n ≠ i + 1) (texts : List (List Char)) :
    append comment parted texts = comment ++ layOutBelow i (numberedFrom n texts) := by
  induction texts generalizing comment parted i n with
  | nil => simp [append,numberedFrom,layOutBelow]
  | cons text rest ih =>
    rw [numberedFrom_cons]
    by_cases empty : text = []
    · have broken : (!comment.isEmpty) = true ↔ n + 1 ≠ i + 1 := by
        simp only [Bool.not_eq_true',List.isEmpty_eq_false_iff,ne_eq,filled,not_false_eq_true,true_iff]
        omega
      rw [if_pos empty,empty,append,ih filled (by omega) broken]
    · have mark : (if parted then ['\n','\n'] else if comment.isEmpty then [] else ['\n']) = gap i n := by
        unfold gap
        by_cases next : n = i + 1
        · have whole : parted = false := Bool.eq_false_iff.mpr fun split => pending.mp split next
          simp [whole,next,filled]
        · simp [pending.mpr next,next]
      rw [if_neg empty,append,mark,ih (by simp [empty]) (Nat.lt_succ_self n) (by simp)]
      · simp [layOutBelow]
      · exact empty

theorem append_nil_eq (n : Nat) (texts : List (List Char)) :
    append [] false texts = layOut (numberedFrom n texts) := by
  induction texts generalizing n with
  | nil => rfl
  | cons text rest ih =>
    rw [numberedFrom_cons]
    by_cases empty : text = []
    · rw [if_pos empty,empty,append]
      exact ih (n + 1)
    · rw [if_neg empty,append]
      · exact append_eq empty (Nat.lt_succ_self n) (by simp) rest
      · exact empty

theorem filled_of_mem_numberedFrom {number : Nat} {texts : List (List Char)} :
    ∀ t ∈ numberedFrom number texts, t.1 ≠ [] := fun _ member => by simpa using (List.mem_filter.mp member).2

theorem mem_of_mem_numberedFrom {number : Nat} {texts : List (List Char)} {t : List Char × Nat}
    (member : t ∈ numberedFrom number texts) : t.1 ∈ texts :=
  List.fst_mem_of_mem_zipIdx (List.mem_filter.mp member).1

theorem layOut_eq_nil {ts : List (List Char × Nat)} (filled : ∀ t ∈ ts, t.1 ≠ []) : layOut ts = [] ↔ ts = [] := by
  cases ts with
  | nil => simp [layOut]
  | cons t rest => simp [layOut,filled t List.mem_cons_self]

theorem read_eq (source : String) :
    read source =
      let ts := numberedFrom 1 (texts (Text.lines source.toList))
      if ts = [] then none else some (.ofList (layOut ts)) := by
  dsimp only [read]
  rw [append_nil_eq 1]
  simp only [List.isEmpty_iff,layOut_eq_nil filled_of_mem_numberedFrom]

/-! ### The ends of the comment -/

section

variable {ts : List (List Char × Nat)}

theorem head?_layOut {c : Char} (filled : ∀ t ∈ ts, t.1 ≠ []) (first : c ∈ (layOut ts).head?) :
    ∃ t ∈ ts, c ∈ t.1.head? := by
  cases ts with
  | nil => cases first
  | cons t rest =>
    refine ⟨t,List.mem_cons_self,?_⟩
    rwa [layOut,List.head?_append_of_ne_nil _ (filled t List.mem_cons_self)] at first

theorem getLast?_layOutBelow {i : Nat} {before : List Char} {c : Char} (filled : ∀ t ∈ ts, t.1 ≠ [])
    (last : c ∈ (before ++ layOutBelow i ts).getLast?) : c ∈ before.getLast? ∨ ∃ t ∈ ts, c ∈ t.1.getLast? := by
  induction ts generalizing i before with
  | nil =>
    rw [layOutBelow,List.append_nil] at last
    exact .inl last
  | cons t rest ih =>
    rw [List.forall_mem_cons] at filled
    rw [layOutBelow,← List.append_assoc,← List.append_assoc] at last
    rcases ih filled.2 last with here | ⟨u,member,there⟩
    · rw [List.getLast?_append_of_ne_nil _ filled.1] at here
      exact .inr ⟨t,List.mem_cons_self,here⟩
    · exact .inr ⟨u,List.mem_cons_of_mem _ member,there⟩

theorem getLast?_layOut {c : Char} (filled : ∀ t ∈ ts, t.1 ≠ []) (last : c ∈ (layOut ts).getLast?) :
    ∃ t ∈ ts, c ∈ t.1.getLast? := by
  cases ts with
  | nil => cases last
  | cons t rest =>
    rw [List.forall_mem_cons] at filled
    rcases getLast?_layOutBelow filled.2 last with here | ⟨u,member,there⟩
    · exact ⟨t,List.mem_cons_self,here⟩
    · exact ⟨u,List.mem_cons_of_mem _ member,there⟩

/-- Where texts have no blanks at their ends, what they are laid out to has no empty line at its ends. -/
theorem closed_layOut {number : Nat} {texts : List (List Char)} (trimmed : ∀ text ∈ texts, Text.trim text = text) :
    let comment := layOut (numberedFrom number texts)
    (∀ c ∈ comment.head?, c ≠ '\n') ∧ ∀ c ∈ comment.getLast?, c ≠ '\n' := by
  have blank : Text.isBlank '\n' = true := by decide
  constructor
  · rintro c first rfl
    obtain ⟨t,member,here⟩ := head?_layOut filled_of_mem_numberedFrom first
    have solid := Text.isBlank_head_of_trim (trimmed t.1 (mem_of_mem_numberedFrom member)) _ here
    rw [blank] at solid
    cases solid
  · rintro c last rfl
    obtain ⟨t,member,here⟩ := getLast?_layOut filled_of_mem_numberedFrom last
    have solid := Text.isBlank_getLast_of_trim (trimmed t.1 (mem_of_mem_numberedFrom member)) _ here
    rw [blank] at solid
    cases solid

end

/-! ### The comment of a definition -/

theorem trim_said (line : List Char) : Text.trim (said line) = said line := Text.trim_trim _

theorem single_said {line : List Char} (single : '\n' ∉ line) : '\n' ∉ said line := fun inside =>
  single ((Text.trim_sublist line).subset ((List.dropWhile_sublist _).subset ((Text.trim_sublist _).subset inside)))

/-- The comment at the top of a definition has the texts of the lines above the first declaration or error that say
    something, in order. Texts of neighbouring lines are separated by one line feed, others by one empty line, and no
    empty line begins or ends the comment. Without a text there is no comment. -/
theorem read_of_top (source : String) :
    ∃ top, SourceText.IsTop source top ∧
      (∀ line ∈ top, Text.trim (said line) = said line ∧ '\n' ∉ said line) ∧
      ((∀ line ∈ top, said line = []) → read source = none) ∧
      ((∃ line ∈ top, said line ≠ []) → ∃ comment, read source = some comment ∧
        comment.toList = layOut (numberedFrom 1 (top.map said)) ∧
        (∀ c ∈ comment.toList.head?, c ≠ '\n') ∧ ∀ c ∈ comment.toList.getLast?, c ≠ '\n') := by
  refine ⟨_,isTop_takeWhile source,fun line member => ?_,fun nothing => ?_,fun ⟨line,member,something⟩ => ?_⟩
  · exact ⟨trim_said line,single_said (Text.single_of_mem_lines ((List.takeWhile_sublist _).subset member))⟩
  · rw [read_eq,texts_eq]
    exact if_pos (numberedFrom_eq_nil.mpr (List.forall_mem_map.mpr nothing))
  · have filled : numberedFrom 1 (texts (Text.lines source.toList)) ≠ [] := by
      rw [texts_eq,ne_eq,numberedFrom_eq_nil,List.forall_mem_map]
      exact fun nothing => something (nothing line member)
    refine ⟨_,(read_eq source).trans (if_neg filled),?_⟩
    rw [String.toList_ofList,texts_eq]
    refine ⟨rfl,closed_layOut fun text inside => ?_⟩
    obtain ⟨above,_,rfl⟩ := List.mem_map.mp inside
    exact trim_said above

/-- Blank lines and number signs above, between and below two paragraphs, and a line that is no declaration. -/
example : read "\n#\n## State # of\n  #the robot. \n#\n\n# Second.\n#\n int32\n# below\n" =
    some "State # of\nthe robot.\n\nSecond." := by decide +kernel

end LeadingComment

end MsgBindings
