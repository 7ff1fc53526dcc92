import MsgBindings.Proofs.JoinedLines

/-!
Lines that declare something, with the blanks and the comment that may stand in them. The equals sign of a
declaration is the first one that ends no `<=` and has no quote in front of it (`splitEquals_eq_none_iff`). So a type,
a name and what follows them are read as they stand, however many blanks part them (`read_constant`, `read_field`,
`read_default`), and a line with them is read as one declaration with its comment (`WrittenLine.readAll_text`).
-/
namespace MsgBindings

namespace Text

variable {blanks token s : List Char} {c : Char}

/-- The words of a text with a blank in it are those before the blank and those behind it. -/
theorem words_append (blank : isBlank c = true) (s t : List Char) : words (s ++ c :: t) = words s ++ words t := by
  unfold words
  rw [cutBy_append_cons blank,List.filter_append]

theorem words_of_blank (blank : ∀ d ∈ blanks, isBlank d = true) (s : List Char) : words (blanks ++ s) = words s := by
  induction blanks with
  | nil => rfl
  | cons d blanks ih =>
    rw [List.forall_mem_cons] at blank
    have mark := words_append blank.1 [] (blanks ++ s)
    rw [List.cons_append,← ih blank.2]
    exact mark

/-- A text without blanks is a word. -/
theorem words_token (filled : token ≠ []) (solid : ∀ d ∈ token, isBlank d = false) : words token = [token] := by
  unfold words
  rw [cutBy_of_none solid]
  simp [filled]

/-- A token ends at the first blank behind it. -/
theorem splitFirst_token (solid : ∀ d ∈ token, isBlank d = false) (blank : isBlank c = true) (s : List Char) :
    splitFirst isBlank (token ++ c :: s) = some (token,s) :=
  splitFirst_eq_some.mpr ⟨c,rfl,blank,solid⟩

theorem trimStart_of_blank (blank : ∀ d ∈ blanks, isBlank d = true) (solid : ∀ d ∈ s.head?, isBlank d = false) :
    trimStart (blanks ++ s) = s := by
  unfold trimStart
  rw [List.dropWhile_append_of_pos blank]
  cases s with
  | nil => rfl
  | cons d s => rw [List.dropWhile_cons_of_neg (by simp [solid d rfl])]

end Text

/-! ### The equals sign of a declaration -/

namespace Declaration

variable {before : Char} {s t : List Char}

/-- There is no equals sign of a declaration exactly if each one ends a `<=` or has a quote in front of it. -/
theorem splitEquals_eq_none_iff :
    splitEquals before s = none ↔
      ∀ front rest, s = front ++ '=' :: rest → (∀ c ∈ front, c ≠ '"' ∧ c ≠ '\'') → front.getLast?.getD before = '<' := by
  induction s generalizing before with
  | nil => simp [splitEquals]
  | cons c s ih =>
    rw [splitEquals]
    split
    · rename_i quote
      refine iff_of_true rfl fun front rest split quiet => ?_
      cases front with
      | nil =>
        obtain ⟨rfl,_⟩ := List.cons.inj split
        exact absurd quote (by decide)
      | cons d front =>
        obtain ⟨rfl,_⟩ := List.cons.inj split
        have plain := quiet c List.mem_cons_self
        exact absurd quote (not_or.mpr plain)
    · rename_i loud
      split
      · rename_i sign
        refine iff_of_false nofun fun all => ?_
        have ends := all [] s (by rw [sign.1]; rfl) nofun
        exact sign.2 ends
      · rename_i other
        rw [Option.map_eq_none_iff,ih]
        constructor
        · intro all front rest split quiet
          cases front with
          | nil =>
            obtain ⟨rfl,_⟩ := List.cons.inj split
            by_contra bound
            exact other ⟨rfl,bound⟩
          | cons d front =>
            obtain ⟨rfl,behind⟩ := List.cons.inj split
            rw [List.forall_mem_cons] at quiet
            rw [List.getLast?_cons]
            exact all front rest behind quiet.2
        · intro all front rest split quiet
          have first : ∀ d ∈ c :: front, d ≠ '"' ∧ d ≠ '\'' := List.forall_mem_cons.mpr ⟨not_or.mp loud,quiet⟩
          have ends := all (c :: front) rest (by rw [split]; rfl) first
          rwa [List.getLast?_cons] at ends

theorem splitEquals_eq_none (outside : '=' ∉ t) : splitEquals before t = none := by
  rw [splitEquals_eq_none_iff]
  rintro front rest rfl
  exact absurd (List.mem_append_right front List.mem_cons_self) outside

/-- Where no equals sign counts and no quote stands, each equals sign ends a `<=`. -/
theorem bounds_of_splitEquals (quiet : ∀ c ∈ t, c ≠ '"' ∧ c ≠ '\'') (none : splitEquals ' ' t = none) :
    ∀ front rest, t = front ++ '=' :: rest → front.getLast? = some '<' := by
  intro front rest split
  have ends := splitEquals_eq_none_iff.mp none front rest split fun c inside => quiet c (by simp [split,inside])
  cases last : front.getLast? with
  | none =>
    rw [last] at ends
    exact absurd ends (by decide)
  | some c =>
    rw [last,Option.getD_some] at ends
    rw [ends]

/-- The first equals sign of a text is behind its front if that has none and no quote. -/
theorem splitEquals_append (quiet : ∀ c ∈ t, c ≠ '"' ∧ c ≠ '\'') (none : splitEquals before t = none) (s : List Char) :
    splitEquals before (t ++ s) =
      (splitEquals (t.getLast?.getD before) s).map fun (name,value) => (t ++ name,value) := by
  induction t generalizing before with
  | nil =>
    show splitEquals before s = (splitEquals before s).map _
    cases splitEquals before s <;> rfl
  | cons c rest ih =>
    rw [List.forall_mem_cons] at quiet
    have loud : ¬ (c = '"' ∨ c = '\'') := fun quote => quote.elim quiet.1.1 quiet.1.2
    rw [splitEquals,if_neg loud] at none
    rw [List.cons_append,splitEquals,if_neg loud]
    split at none
    · cases none
    · rename_i other
      rw [if_neg other,ih quiet.2 (Option.map_eq_none_iff.mp none),List.getLast?_cons]
      rw [Option.map_map]
      rfl

/-- A type and a name as a line declares them. -/
structure IsHead (type name : List Char) : Prop where
  typed : type ≠ []
  named : name ≠ []
  typeSolid : ∀ c ∈ type, Text.isBlank c = false
  nameSolid : ∀ c ∈ name, Text.isBlank c = false
  typeQuiet : ∀ c ∈ type, c ≠ '"' ∧ c ≠ '\''
  nameQuiet : ∀ c ∈ name, c ∉ ['"','\'','=','<']
  unmarked : type.head? ≠ some '@'
  /-- An equals sign in the type ends a `<=`. -/
  bounds : ∀ front rest, type = front ++ '=' :: rest → front.getLast? = some '<'

namespace IsHead

variable {type name gap : List Char} (head : IsHead type name) (apart : gap ≠ [])
  (blank : ∀ c ∈ gap, Text.isBlank c = true)

include head

/-- No equals sign of a type is one of the declaration. -/
theorem splitEquals_type : splitEquals ' ' type = none := by
  rw [splitEquals_eq_none_iff]
  intro front rest split _
  rw [head.bounds front rest split,Option.getD_some]

theorem head?_append (rest : List Char) : (type ++ rest).head? ≠ some '@' := by
  obtain ⟨c,more,rfl⟩ := List.exists_cons_of_ne_nil head.typed
  exact head.unmarked

include blank

/-- The type, the blanks behind it, the name and any blanks have no quote in them and no equals sign that counts. -/
theorem splitEquals_front {before : List Char} (behind : ∀ c ∈ before, Text.isBlank c = true) :
    (∀ c ∈ type ++ (gap ++ (name ++ before)), c ≠ '"' ∧ c ≠ '\'') ∧
      splitEquals ' ' (type ++ (gap ++ (name ++ before))) = none := by
  have blanks : ∀ c, Text.isBlank c = true → c ≠ '"' ∧ c ≠ '\'' ∧ c ≠ '=' := by
    intro c blank
    refine ⟨?_,?_,?_⟩ <;> rintro rfl <;> exact absurd blank (by decide)
  have letters : ∀ c ∈ name, c ≠ '"' ∧ c ≠ '\'' ∧ c ≠ '=' := by
    intro c inside
    have quiet := head.nameQuiet c inside
    simp only [List.mem_cons,List.not_mem_nil,or_false,not_or] at quiet
    exact ⟨quiet.1,quiet.2.1,quiet.2.2.1⟩
  have later : ∀ c ∈ gap ++ (name ++ before), c ≠ '"' ∧ c ≠ '\'' ∧ c ≠ '=' := by
    intro c inside
    simp only [List.mem_append] at inside
    rcases inside with inside | inside | inside
    · exact blanks c (blank c inside)
    · exact letters c inside
    · exact blanks c (behind c inside)
  constructor
  · intro c inside
    rcases List.mem_append.mp inside with inside | inside
    · exact head.typeQuiet c inside
    · exact ⟨(later c inside).1,(later c inside).2.1⟩
  · have outside : '=' ∉ gap ++ (name ++ before) := fun inside => (later '=' inside).2.2 rfl
    rw [splitEquals_append head.typeQuiet head.splitEquals_type,splitEquals_eq_none outside]
    rfl

include apart

theorem words_front {before : List Char} (behind : ∀ c ∈ before, Text.isBlank c = true) :
    Text.words (type ++ (gap ++ (name ++ before))) = [type,name] := by
  obtain ⟨c,blanks,rfl⟩ := List.exists_cons_of_ne_nil apart
  rw [List.forall_mem_cons] at blank
  rw [List.cons_append,Text.words_append blank.1,Text.words_token head.typed head.typeSolid,
    Text.words_of_blank blank.2]
  cases before with
  | nil =>
    rw [List.append_nil,Text.words_token head.named head.nameSolid]
    rfl
  | cons d before =>
    rw [List.forall_mem_cons] at behind
    have none := Text.words_of_blank behind.2 []
    rw [List.append_nil] at none
    rw [Text.words_append behind.1,Text.words_token head.named head.nameSolid,none]
    rfl

/-- A type, a name, an equals sign and a value are read as a constant. -/
theorem read_constant {before after value : List Char} (behind : ∀ c ∈ before, Text.isBlank c = true)
    (between : ∀ c ∈ after, Text.isBlank c = true) (filled : value ≠ []) (trimmed : Text.trim value = value) :
    read (type ++ (gap ++ (name ++ (before ++ '=' :: (after ++ value))))) =
      .ok (.constant (.ofList type) (.ofList name) (.ofList value)) := by
  obtain ⟨quiet,none⟩ := head.splitEquals_front blank behind
  have declared : type ++ (gap ++ (name ++ (before ++ '=' :: (after ++ value)))) =
      (type ++ (gap ++ (name ++ before))) ++ '=' :: (after ++ value) := by
    simp
  -- In front of the equals sign stands a blank, or else the end of the name.
  have last : (type ++ (gap ++ (name ++ before))).getLast?.getD ' ' ≠ '<' := by
    have ends : (type ++ (gap ++ (name ++ before))).getLast? = (name ++ before).getLast? := by
      have filled : name ++ before ≠ [] := List.append_ne_nil_of_left_ne_nil head.named before
      rw [List.getLast?_append_of_ne_nil _ (List.append_ne_nil_of_right_ne_nil gap filled),
        List.getLast?_append_of_ne_nil _ filled]
    rw [ends]
    intro sign
    cases here : (name ++ before).getLast? with
    | none =>
      rw [here] at sign
      exact absurd sign (by decide)
    | some c =>
      rw [here,Option.getD_some] at sign
      subst sign
      rcases List.mem_append.mp (List.mem_of_getLast? here) with inside | inside
      · exact head.nameQuiet '<' inside (by decide)
      · exact absurd (behind '<' inside) (by decide)
  have cut : splitEquals ((type ++ (gap ++ (name ++ before))).getLast?.getD ' ') ('=' :: (after ++ value)) =
      some ([],after ++ value) := by
    rw [splitEquals,if_neg (by decide),if_pos ⟨rfl,last⟩]
  have whole : Text.trim (after ++ value) = value := by rw [Text.trim_of_blank between,trimmed]
  unfold read
  rw [if_neg (head.head?_append _),declared,splitEquals_append quiet none,cut]
  simp only [Option.map_some,List.append_nil,readConstant,head.words_front apart blank behind,whole]
  rw [if_neg (by simpa using filled)]

/-- A type and a name are read as a field. -/
theorem read_field : read (type ++ (gap ++ name)) = .ok (.field (.ofList type) (.ofList name) none) := by
  have nothing : ∀ c ∈ ([] : List Char), Text.isBlank c = true := nofun
  obtain ⟨_,none⟩ := head.splitEquals_front blank nothing
  rw [List.append_nil] at none
  have start : ∀ c ∈ name.head?, Text.isBlank c = false := fun c first =>
    head.nameSolid c (List.mem_of_mem_head? first)
  unfold read
  rw [if_neg (head.head?_append _),none]
  obtain ⟨c,blanks,rfl⟩ := List.exists_cons_of_ne_nil apart
  rw [List.forall_mem_cons] at blank
  simp only [readField,List.cons_append,Text.splitFirst_token head.typeSolid blank.1,
    Text.trimStart_of_blank blank.2 start,Text.splitFirst_eq_none.mpr head.nameSolid]

/-- What follows the name of a field is its default value, unless an equals sign of it counts. -/
theorem read_default {between value : List Char} (parted : between ≠ [])
    (behind : ∀ c ∈ between, Text.isBlank c = true) (trimmed : Text.trim value = value)
    (hidden : ∀ front rest, value = front ++ '=' :: rest → (∀ c ∈ front, c ≠ '"' ∧ c ≠ '\'') →
      front.getLast? = some '<') :
    read (type ++ (gap ++ (name ++ (between ++ value)))) =
      .ok (.field (.ofList type) (.ofList name) (some (.ofList value))) := by
  obtain ⟨quiet,none⟩ := head.splitEquals_front blank behind
  have later : ∀ c, splitEquals c value = Option.none := by
    intro c
    rw [splitEquals_eq_none_iff]
    intro front rest split quiet
    rw [hidden front rest split quiet,Option.getD_some]
  have declared : type ++ (gap ++ (name ++ (between ++ value))) = (type ++ (gap ++ (name ++ between))) ++ value := by
    simp
  have equals : splitEquals ' ' (type ++ (gap ++ (name ++ (between ++ value)))) = Option.none := by
    rw [declared,splitEquals_append quiet none,later]
    rfl
  have start : ∀ c ∈ (name ++ (between ++ value)).head?, Text.isBlank c = false := by
    obtain ⟨c,more,same⟩ := List.exists_cons_of_ne_nil head.named
    rw [same]
    intro d first
    cases first
    exact head.nameSolid c (by simp [same])
  unfold read
  rw [if_neg (head.head?_append _),equals]
  obtain ⟨c,blanks,rfl⟩ := List.exists_cons_of_ne_nil apart
  rw [List.forall_mem_cons] at blank
  simp only [readField,List.cons_append,Text.splitFirst_token head.typeSolid blank.1,
    Text.trimStart_of_blank blank.2 start]
  obtain ⟨d,more,rfl⟩ := List.exists_cons_of_ne_nil parted
  rw [List.forall_mem_cons] at behind
  have whole : Text.trim (more ++ value) = value := by rw [Text.trim_of_blank behind.2,trimmed]
  simp only [List.cons_append,Text.splitFirst_token head.nameSolid behind.1,whole]

end IsHead

end Declaration

/-! ### Lines -/

/-- Blanks within a line. -/
structure Gap where
  chars : List Char
  blank : ∀ c ∈ chars, Text.isBlank c = true
  single : '\n' ∉ chars

/-- What stands for a value in a line, in front of its comment. -/
structure ValueText where
  chars : List Char
  filled : chars ≠ []
  trimmed : Text.trim chars = chars
  single : '\n' ∉ chars
  unmarked : '#' ∉ chars

/-- What a line says behind the name that it declares. -/
inductive LineTail where
  | nothing
  /-- The value of a constant behind an equals sign, which may have blanks around it. -/
  | constant (before after : Gap) (value : ValueText)
  /-- A default value. An equals sign in front of its first quote ends a `<=`. -/
  | default (between : Gap) (parted : between.chars ≠ []) (value : ValueText)
      (hidden : ∀ front rest, value.chars = front ++ '=' :: rest → (∀ c ∈ front, c ≠ '"' ∧ c ≠ '\'') →
        front.getLast? = some '<')

/-- A line that declares something: a type, a name and what follows them, with blanks and perhaps a comment. -/
structure WrittenLine where
  type : List Char
  name : List Char
  head : Declaration.IsHead type name
  typeUnmarked : '#' ∉ type
  nameUnmarked : '#' ∉ name
  start : Gap
  gap : Gap
  apart : gap.chars ≠ []
  tail : LineTail
  finish : Gap
  comment : Option (List Char)
  closed : ∀ c ∈ comment, '\n' ∉ c

namespace LineTail

def text : LineTail → List Char
  | nothing => []
  | constant before after value => before.chars ++ '=' :: (after.chars ++ value.chars)
  | default between _ value _ => between.chars ++ value.chars

theorem unmarked (tail : LineTail) : '#' ∉ tail.text ∧ '\n' ∉ tail.text := by
  have gap : ∀ g : Gap, '#' ∉ g.chars := fun g inside => absurd (g.blank '#' inside) (by decide)
  cases tail with
  | nothing => exact ⟨nofun,nofun⟩
  | constant before after value =>
    simp only [text,List.mem_append,List.mem_cons,not_or]
    exact ⟨⟨gap before,by decide,gap after,value.unmarked⟩,before.single,by decide,after.single,value.single⟩
  | default between _ value _ =>
    simp only [text,List.mem_append,not_or]
    exact ⟨⟨gap between,value.unmarked⟩,between.single,value.single⟩

/-- Behind a name that ends without a blank, a line ends without one. -/
theorem isBlank_getLast (tail : LineTail) {name : List Char} (solid : ∀ c ∈ name, Text.isBlank c = false) :
    ∀ c ∈ (name ++ tail.text).getLast?, Text.isBlank c = false := by
  have ends : ∀ (v : ValueText) (front : List Char), ∀ c ∈ (front ++ v.chars).getLast?, Text.isBlank c = false := by
    intro v front c last
    rw [List.getLast?_append_of_ne_nil _ v.filled] at last
    exact Text.isBlank_getLast_of_trim v.trimmed c last
  cases tail with
  | nothing =>
    intro c last
    rw [text,List.append_nil] at last
    exact solid c (List.mem_of_getLast? last)
  | constant before after value =>
    have whole : name ++ (before.chars ++ '=' :: (after.chars ++ value.chars)) =
        (name ++ (before.chars ++ '=' :: after.chars)) ++ value.chars := by
      simp
    rw [text,whole]
    exact ends value _
  | default between _ value _ =>
    rw [text,← List.append_assoc]
    exact ends value _

end LineTail

namespace WrittenLine

/-- What the line declares, as it is written there. -/
def content (line : WrittenLine) : List Char := line.type ++ (line.gap.chars ++ (line.name ++ line.tail.text))

def text (line : WrittenLine) : List Char :=
  line.start.chars ++ (line.content ++ (line.finish.chars ++ (line.comment.map ('#' :: ·)).getD []))

def declaration (line : WrittenLine) : Declaration :=
  match line.tail with
  | .nothing => .field (.ofList line.type) (.ofList line.name) none
  | .constant _ _ value => .constant (.ofList line.type) (.ofList line.name) (.ofList value.chars)
  | .default _ _ value _ => .field (.ofList line.type) (.ofList line.name) (some (.ofList value.chars))

/-- The comment of the line without the blanks around it, unless nothing is left. -/
def said (line : WrittenLine) : Option String :=
  line.comment.bind fun c => if Text.trim c = [] then none else some (.ofList (Text.trim c))

variable (line : WrittenLine)

theorem read_content : Declaration.read line.content = .ok line.declaration := by
  unfold content declaration
  have blank := line.gap.blank
  cases line.tail with
  | nothing =>
    rw [LineTail.text,List.append_nil]
    exact line.head.read_field line.apart blank
  | constant before after value =>
    exact line.head.read_constant line.apart blank before.blank after.blank value.filled value.trimmed
  | default between parted value hidden =>
    exact line.head.read_default line.apart blank parted between.blank value.trimmed hidden

theorem trim_content : Text.trim line.content = line.content := by
  refine Text.trim_of_ends (fun c first => ?_) ?_
  · obtain ⟨d,rest,chars⟩ := List.exists_cons_of_ne_nil line.head.typed
    rw [content,chars] at first
    cases first
    exact line.head.typeSolid c (by simp [chars])
  · have filled : line.name ++ line.tail.text ≠ [] := List.append_ne_nil_of_left_ne_nil line.head.named _
    rw [content,List.getLast?_append_of_ne_nil _ (List.append_ne_nil_of_right_ne_nil _ filled),
      List.getLast?_append_of_ne_nil _ filled]
    exact line.tail.isBlank_getLast line.head.nameSolid

theorem unmarked_content : '#' ∉ line.content := by
  have gap : '#' ∉ line.gap.chars := fun inside => absurd (line.gap.blank '#' inside) (by decide)
  simp only [content,List.mem_append,not_or]
  exact ⟨line.typeUnmarked,gap,line.nameUnmarked,line.tail.unmarked.1⟩

theorem single_text : '\n' ∉ line.text := by
  have solid : ∀ token : List Char, (∀ c ∈ token, Text.isBlank c = false) → '\n' ∉ token := by
    intro token solid inside
    exact absurd (solid '\n' inside) (by decide)
  have comment : '\n' ∉ (line.comment.map ('#' :: ·)).getD [] := by
    cases said : line.comment with
    | none => exact nofun
    | some c =>
      simp only [Option.map_some,Option.getD_some,List.mem_cons,not_or]
      exact ⟨by decide,line.closed c said⟩
  simp only [text,content,List.mem_append,not_or]
  exact ⟨line.start.single,⟨solid _ line.head.typeSolid,line.gap.single,solid _ line.head.nameSolid,
    line.tail.unmarked.2⟩,line.finish.single,comment⟩

/-- In front of its comment the line has its declaration, between blanks. -/
theorem declared_text : SourceText.declared line.text = line.content ∧ SourceText.comment? line.text = line.said := by
  have between := Text.trim_between line.trim_content line.start.blank line.finish.blank
  have outside : '#' ∉ line.start.chars ++ (line.content ++ line.finish.chars) := by
    have gap : ∀ g : Gap, '#' ∉ g.chars := fun g inside => absurd (g.blank '#' inside) (by decide)
    simp only [List.mem_append,not_or]
    exact ⟨gap _,line.unmarked_content,gap _⟩
  unfold text said
  cases line.comment with
  | none =>
    obtain ⟨whole,none⟩ := SourceText.comment_of_no_mark outside
    rw [Option.map_none,Option.getD_none,List.append_nil,whole,between,none]
    exact ⟨rfl,rfl⟩
  | some c =>
    obtain ⟨front,behind⟩ := SourceText.comment_of_mark outside c
    have parts : line.start.chars ++ (line.content ++ (line.finish.chars ++ '#' :: c)) =
        (line.start.chars ++ (line.content ++ line.finish.chars)) ++ '#' :: c := by
      simp
    rw [Option.map_some,Option.getD_some,parts,front,between,behind]
    simp [List.isEmpty_iff]

theorem content_ne_nil : line.content ≠ [] := List.append_ne_nil_of_left_ne_nil line.head.typed _

/-- The line is one line of text, with or without the mark of its end. -/
theorem readAll_eq (ended : Bool) :
    SourceLine.readAll (.ofList (line.text ++ if ended then ['\n'] else [])) =
      SourceLine.readFrom 1 false [line.text] := by
  have solid : ∀ c ∈ line.text, (c == '\n') = false := by
    intro c inside
    refine beq_eq_false_iff_ne.mpr ?_
    rintro rfl
    exact line.single_text inside
  rw [SourceLine.readAll,String.toList_ofList]
  cases ended with
  | true =>
    rw [if_pos rfl,Text.lines_append,Text.cutBy_of_none solid]
    exact SourceText.readFrom_of_trim (Text.trim_dropReturn _) 1 false []
  | false =>
    have filled : line.text ≠ [] := by
      refine List.append_ne_nil_of_right_ne_nil _ ?_
      exact List.append_ne_nil_of_left_ne_nil line.content_ne_nil _
    rw [if_neg Bool.false_ne_true,List.append_nil,Text.lines,Text.cutBy_of_none solid,Text.linesOfPieces,
      if_neg (by simpa using filled)]

/-- A line that declares something is read as that and nothing else, with its comment: the equals sign of a constant
    is found whatever its value is, and no other one is taken for it. -/
theorem readAll_text (ended : Bool) :
    SourceLine.readAll (.ofList (line.text ++ if ended then ['\n'] else [])) =
      [.ok ⟨1,.ofList (Text.trim line.text),line.declaration,line.said,false⟩] := by
  obtain ⟨whole,said⟩ := line.declared_text
  have filled : Text.trim line.text ≠ [] := by
    intro empty
    rw [SourceText.declared_of_blank empty] at whole
    exact line.content_ne_nil whole.symm
  rw [readAll_eq,SourceLine.readFrom,SourceText.splitComment_trim,whole,said,if_neg (by simpa using filled)]
  simp only [List.isEmpty_iff,if_neg line.content_ne_nil,line.read_content]
  rfl

/-- A line with a bound in its type, blanks around its equals sign, another sign in its value and marks in its
    comment. -/
example : ∃ line : WrittenLine, line.text = "\tstring<=4 \u00A0CODE = \"a=b <= c\"  # the # code ".toList ∧
    line.declaration = .constant "string<=4" "CODE" "\"a=b <= c\"" ∧ line.said = some "the # code" :=
  ⟨{  type := "string<=4".toList
      name := "CODE".toList
      head := ⟨by decide,by decide,by decide,by decide,by decide,by decide,by decide,
        Declaration.bounds_of_splitEquals (by decide) (by decide)⟩
      typeUnmarked := by decide
      nameUnmarked := by decide
      start := ⟨['\t'],by decide,by decide⟩
      gap := ⟨[' ','\u00A0'],by decide,by decide⟩
      apart := by decide
      tail := .constant ⟨[' '],by decide,by decide⟩ ⟨[' '],by decide,by decide⟩
        ⟨"\"a=b <= c\"".toList,by decide,by decide,by decide,by decide⟩
      finish := ⟨[' ',' '],by decide,by decide⟩
      comment := some " the # code ".toList
      closed := by decide },by decide,by decide,by decide⟩

end WrittenLine

end MsgBindings
