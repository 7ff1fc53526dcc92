import MsgBindings.Proofs.IdentifierClashes
import MsgBindings.Proofs.Numerals

/-!
The tokens of texts put together. A text is read token by token from its front, so a rule for each kind of token
says what comes of a text that begins with it (`reads_word`, `reads_mark`, `reads_opening`); the tokens of a path
follow from these (`reads_path`).
-/
namespace MsgBindings.Target.Token

variable {s rest : List Char} {ts : List Token} {c : Char} {name : String}

/-- Whether the tokens of a text are those given. No text needs more steps than it has characters. -/
def Reads (s : List Char) (ts : List Token) : Prop := ∀ fuel, s.length < fuel → readFrom fuel s = some ts

/-- The characters after a word or a literal that belong to neither. -/
def partings : List Char := " ,;:<>()[]|!".toList

/-- Whether a word or a literal ends in front of a text. -/
def Parted (s : List Char) : Prop := ∀ c ∈ s.head?, c ∈ partings

/-! ### One token -/

/-- Whether a character begins a comment in front of a text. -/
def BeginsComment (c : Char) (rest : List Char) : Prop := c = '/' ∧ ∃ d ∈ rest.head?, d = '/' ∨ d = '*'

theorem skipSeparators_other {c : Char} (other : ¬ BeginsComment c rest) (fuel : Nat) :
    skipSeparators (fuel + 1) (c :: rest) = if isSeparator c then skipSeparators fuel rest else some (c :: rest) := by
  conv_lhs => unfold skipSeparators
  split
  · rename_i same
    obtain ⟨rfl,rfl⟩ := List.cons.inj same
    exact absurd ⟨rfl,'/',rfl,.inl rfl⟩ other
  · rename_i same
    obtain ⟨rfl,rfl⟩ := List.cons.inj same
    exact absurd ⟨rfl,'*',rfl,.inr rfl⟩ other
  · rename_i same
    obtain ⟨rfl,rfl⟩ := List.cons.inj same
    rfl
  · contradiction

theorem skipSeparators_solid (solid : isSeparator c = false) (other : c ≠ '/') (fuel : Nat) :
    skipSeparators fuel (c :: rest) = some (c :: rest) := by
  cases fuel with
  | zero => rfl
  | succ fuel => rw [skipSeparators_other fun comment => other comment.1,if_neg (ne_true_of_eq_false solid)]

theorem reads_nil : Reads [] [] := by
  intro fuel enough
  obtain ⟨fuel,rfl⟩ : ∃ n, fuel = n + 1 := ⟨fuel - 1,by omega⟩
  rfl

theorem reads_space (read : Reads s ts) : Reads (' ' :: s) ts := by
  intro fuel enough
  have here := read fuel (by simp only [List.length_cons] at enough; omega)
  obtain ⟨fuel,rfl⟩ : ∃ n, fuel = n + 1 := ⟨fuel - 1,by omega⟩
  exact here

/-- A text is read by its first token and the rest. -/
theorem reads_first {t : Token} (solid : isSeparator c = false) (other : c ≠ '/')
    (first : first? (c :: s) = some (t,rest)) (shorter : rest.length ≤ s.length) (read : Reads rest ts) :
    Reads (c :: s) (t :: ts) := by
  intro fuel enough
  obtain ⟨fuel,rfl⟩ : ∃ n, fuel = n + 1 := ⟨fuel - 1,by omega⟩
  rw [readFrom,skipSeparators_solid solid other]
  simp only [Option.bind_some,List.isEmpty_cons,Bool.false_eq_true,↓reduceIte,first]
  rw [read fuel (by simp only [List.length_cons] at enough; omega)]
  rfl

/-- A text that does not begin with a mark of byte order has the tokens that are read from its front. -/
theorem readAll_eq (read : Reads s ts) (unmarked : ∀ c ∈ s.head?, c.toNat ≠ 0xFEFF) : readAll s = some ts := by
  cases s with
  | nil => exact read 1 (by simp)
  | cons c rest =>
    rw [readAll,if_neg (unmarked c rfl)]
    exact read _ (by omega)

/-- What is left of a text behind the literal in front of it, which is a number or not. -/
inductive EndsLiteral : List Char → Bool → List Char → Prop
  | quoted {s after : List Char} :
      skipQuoted (s.length + 1) s = some after → EndsLiteral ('"' :: s) false (skipSuffix after)
  | character {s rest : List Char} : skipCharLiteral ('\'' :: s) = some rest → EndsLiteral ('\'' :: s) false rest
  | number {c : Char} {s rest : List Char} :
      c.isDigit = true → (skipFloat (c :: s)).or (skipInteger (c :: s)) = some rest → EndsLiteral (c :: s) true rest

theorem literal?_eq_some {t : Token} : literal? s = some (t,rest) ↔
    ∃ number, t = .literal (.ofList (s.take (s.length - rest.length))) number ∧ EndsLiteral s number rest := by
  constructor
  · intro made
    unfold literal? at made
    split at made
    · obtain ⟨after,here,made⟩ := Option.map_eq_some_iff.mp made
      cases made
      exact ⟨false,rfl,.quoted here⟩
    · obtain ⟨after,here,made⟩ := Option.map_eq_some_iff.mp made
      cases made
      exact ⟨false,rfl,.character here⟩
    · split at made
      · obtain ⟨after,here,made⟩ := Option.map_eq_some_iff.mp made
        cases made
        exact ⟨true,rfl,.number ‹_› here⟩
      · cases made
    · cases made
  · rintro ⟨number,rfl,ends⟩
    cases ends with
    | quoted here => simp [literal?,here]
    | character here => simp [literal?,here]
    | @number c s rest digit here =>
      unfold literal?
      split
      · exact absurd digit (by simp_all)
      · exact absurd digit (by simp_all)
      · simp_all
      · simp_all

/-- Nothing else begins a literal. -/
theorem literal?_eq_none (quote : c ≠ '"') (tick : c ≠ '\'') (digit : c.isDigit = false) (s : List Char) :
    literal? (c :: s) = none := by
  unfold literal?
  split <;> simp_all

theorem startsMark_cons (c : Char) (s : List Char) :
    startsMark (c :: s) = (isMark c && !(c == '/' && s.head?.any fun d => d == '/' || d == '*')) := by
  by_cases slash : c = '/'
  · subst slash
    rcases s with _ | ⟨d,s⟩
    · rfl
    · by_cases line : d = '/'
      · subst line
        rfl
      · by_cases block : d = '*'
        · subst block
          rfl
        · simp [startsMark,line,block]
  · simp [startsMark,slash]

theorem startsMark_of_not_isMark (other : isMark c = false) (s : List Char) : startsMark (c :: s) = false := by
  rw [startsMark_cons,other,Bool.false_and]

/-- The marks that stand in generated types and values. -/
def plainMarks : List Char := ":<>;,!|&-".toList

theorem reads_mark (plain : c ∈ plainMarks) (read : Reads s ts) : Reads (c :: s) (.mark c (startsMark s) :: ts) := by
  have each : ∀ c ∈ plainMarks, isSeparator c = false ∧ c ≠ '/' ∧ bracket? c = none ∧ c ≠ '"' ∧ c ≠ '\'' ∧
      c.isDigit = false ∧ isMark c = true := by decide
  obtain ⟨solid,slash,bracket,quote,tick,digit,mark⟩ := each c plain
  refine reads_first solid slash ?_ le_rfl read
  have marked : startsMark (c :: s) = true := by simp [startsMark_cons,mark,slash]
  simp [first?,bracket,literal?_eq_none quote tick digit,tick,marked]

theorem reads_opening (read : Reads s ts) :
    Reads ('(' :: s) (.opening .round :: ts) ∧ Reads ('[' :: s) (.opening .square :: ts) :=
  ⟨reads_first (by decide) (by decide) rfl le_rfl read,reads_first (by decide) (by decide) rfl le_rfl read⟩

theorem reads_closing (read : Reads s ts) :
    Reads (')' :: s) (.closing .round :: ts) ∧ Reads (']' :: s) (.closing .square :: ts) :=
  ⟨reads_first (by decide) (by decide) rfl le_rfl read,reads_first (by decide) (by decide) rfl le_rfl read⟩

/-! ### Names -/

/-- A text of ASCII letters, digits and underscores that does not begin with a digit. -/
def IsSpelled (s : List Char) : Prop :=
  ∃ c rest, s = c :: rest ∧ (c.isAlpha = true ∨ c = '_') ∧ ∀ d ∈ rest, d.isAlphanum = true ∨ d = '_'

theorem isSpelled_cons :
    IsSpelled (c :: rest) ↔ (c.isAlpha = true ∨ c = '_') ∧ ∀ d ∈ rest, d.isAlphanum = true ∨ d = '_' := by
  constructor
  · rintro ⟨d,more,same,first,others⟩
    obtain ⟨rfl,rfl⟩ := List.cons.inj same
    exact ⟨first,others⟩
  · rintro ⟨first,others⟩
    exact ⟨c,rest,rfl,first,others⟩

instance decidableSpelled : (s : List Char) → Decidable (IsSpelled s)
  | [] => isFalse fun ⟨_,_,same,_⟩ => nomatch same
  | _ :: _ => decidable_of_iff _ isSpelled_cons.symm

/-- A name as it is written: a plain word, or a raw name. -/
def IsNameText (name : String) : Prop :=
  IsSpelled name.toList ∨
    ∃ plain, name = "r#" ++ plain ∧ IsSpelled plain.toList ∧ plain ∉ ["_","super","self","Self","crate"]

theorem starts_of_first (first : c.isAlpha = true ∨ c = '_') : Text.startsIdentifier c = true := by
  rcases first with letter | rfl
  · rw [Text.startsIdentifier,if_pos (Text.ascii_of_isAlphanum (Text.isAlphanum_of_isAlpha letter)),letter]
    rfl
  · rfl

theorem continues_of_inside (inside : c.isAlphanum = true ∨ c = '_') : Text.continuesIdentifier c = true := by
  rcases inside with plain | rfl
  · rw [Text.continuesIdentifier,if_pos (Text.ascii_of_isAlphanum plain),plain]
    rfl
  · rfl

/-- A character that begins a name begins no other token. -/
theorem first_facts (first : c.isAlpha = true ∨ c = '_') :
    isSeparator c = false ∧ bracket? c = none ∧ isMark c = false ∧ c.isDigit = false ∧ c ∉ ['/','"','\'','#'] := by
  have marks : ∀ m ∈ "~!@#$%^&*-=+|;:,<.>/?'".toList, ¬ (m.isAlpha = true ∨ m = '_') := by decide
  have others : ∀ m ∈ ['/','"','\'','#'], ¬ (m.isAlpha = true ∨ m = '_') := by decide
  refine ⟨?_,?_,?_,?_,fun member => others c member first⟩
  · rcases first with letter | rfl
    · rw [Text.isAlpha_eq,Bool.or_eq_true,Text.isUpper_iff,Text.isLower_iff] at letter
      simp only [isSeparator,Text.isBlank,Bool.or_eq_false_iff,Bool.and_eq_false_iff,decide_eq_false_iff_not,
        beq_eq_false_iff_ne]
      omega
    · rfl
  · unfold bracket?
    split <;> first | rfl | exact absurd first (by decide)
  · rw [isMark,← Bool.not_eq_true,List.contains_iff_mem]
    exact fun member => marks c member first
  · rcases first with letter | rfl
    · exact Text.isDigit_of_isAlpha letter
    · rfl

theorem IsSpelled.continues (spelled : IsSpelled s) : ∀ d ∈ s, Text.continuesIdentifier d = true := by
  obtain ⟨c,inside,rfl,first,others⟩ := spelled
  intro d member
  rcases List.mem_cons.mp member with rfl | member
  · exact continues_of_inside (first.imp_left Text.isAlphanum_of_isAlpha)
  · exact continues_of_inside (others d member)

/-- No name goes on in front of a parting. -/
theorem Parted.dropWhile (parted : Parted s) : s.dropWhile Text.continuesIdentifier = s := by
  have each : ∀ d ∈ partings, Text.continuesIdentifier d = false := by decide
  cases s with
  | nil => rfl
  | cons d more => simp [each d (parted d rfl)]

theorem name?_of_spelled (spelled : IsSpelled s) (parted : Parted rest) : name? (s ++ rest) = some (s,rest) := by
  have whole := spelled.continues
  obtain ⟨c,inside,rfl,first,others⟩ := spelled
  rw [List.forall_mem_cons] at whole
  have before : rest.takeWhile Text.continuesIdentifier = [] := by
    have all := List.takeWhile_append_dropWhile (p := Text.continuesIdentifier) (l := rest)
    rwa [parted.dropWhile,List.append_left_eq_self] at all
  rw [List.cons_append,name?,if_pos (starts_of_first first),List.takeWhile_append_of_pos whole.2,
    List.dropWhile_append_of_pos whole.2,before,parted.dropWhile,List.append_nil]

/-- A name in front of a parting does not begin as a literal with letters in front of its quote does. -/
theorem startsPrefixedLiteral_of_spelled (spelled : IsSpelled s) (parted : Parted rest) :
    startsPrefixedLiteral (s ++ rest) = false := by
  -- Behind its letters such a literal has a quote or a mark, where the text has its parting.
  have marked : ∀ start ∈ ["r\"","r#\"","r##","b\"","b'","br\"","br#","c\"","cr\"","cr#"],
      ∃ mark ∈ (start.toList.dropWhile Text.continuesIdentifier).head?, mark ∉ partings := by
    have each : ∀ start ∈ ["r\"","r#\"","r##","b\"","b'","br\"","br#","c\"","cr\"","cr#"],
        ((start.toList.dropWhile Text.continuesIdentifier).head?.any fun mark => !partings.contains mark) = true := by
      decide
    intro start member
    obtain ⟨mark,here,other⟩ := Option.any_eq_true .. |>.mp (each start member)
    exact ⟨mark,here,by simpa using other⟩
  rw [startsPrefixedLiteral,List.any_eq_false]
  intro start member isPrefix
  obtain ⟨after,whole⟩ := List.isPrefixOf_iff_prefix.mp isPrefix
  obtain ⟨mark,here,other⟩ := marked start member
  have left := congrArg (List.dropWhile Text.continuesIdentifier) whole
  rw [List.dropWhile_append,List.dropWhile_append_of_pos spelled.continues,parted.dropWhile] at left
  refine other (parted mark ?_)
  rw [← left]
  cases front : start.toList.dropWhile Text.continuesIdentifier with
  | nil => simp [front] at here
  | cons d more => simpa [front] using here

theorem reads_word (spelled : IsSpelled s) (parted : Parted rest) (read : Reads rest ts) :
    Reads (s ++ rest) (.identifier (.ofList s) :: ts) := by
  have named := name?_of_spelled spelled parted
  have plain := startsPrefixedLiteral_of_spelled spelled parted
  obtain ⟨c,inside,rfl,first,others⟩ := spelled
  obtain ⟨solid,bracket,mark,digit,apart⟩ := first_facts first
  simp only [List.mem_cons,List.not_mem_nil,or_false,not_or] at apart
  obtain ⟨slash,quote,tick,hash⟩ := apart
  have noMark := startsMark_of_not_isMark mark (inside ++ rest)
  have name : identifier? (c :: (inside ++ rest)) = some (c :: inside,rest) := by
    rw [identifier?.eq_2]
    · exact named
    · rintro more same
      obtain ⟨rfl,more⟩ := List.cons.inj same
      cases inside with
      | nil =>
        have hash : '#' ∈ partings := parted '#' (by simp_all)
        exact absurd hash (by decide)
      | cons d inside =>
        obtain ⟨rfl,_⟩ := List.cons.inj more
        exact absurd (others '#' (by simp)) (by decide)
  refine reads_first solid slash ?_ (by simp) read
  rw [List.cons_append] at plain
  simp [first?,bracket,literal?_eq_none quote tick digit,tick,noMark,plain,name]

theorem reads_raw {plain : String} (spelled : IsSpelled plain.toList)
    (other : plain ∉ ["_","super","self","Self","crate"]) (parted : Parted rest) (read : Reads rest ts) :
    Reads (("r#" ++ plain).toList ++ rest) (.identifier ("r#" ++ plain) :: ts) := by
  have named := name?_of_spelled spelled parted
  have name : identifier? ('r' :: '#' :: (plain.toList ++ rest)) = some ('r' :: '#' :: plain.toList,rest) := by
    simp only [identifier?,named,Option.bind_some,String.ofList_toList,if_neg other]
  have noPrefix : startsPrefixedLiteral ('r' :: '#' :: (plain.toList ++ rest)) = false := by
    obtain ⟨c,inside,chars,first,others⟩ := spelled
    obtain ⟨_,_,_,_,apart⟩ := first_facts first
    simp only [List.mem_cons,List.not_mem_nil,or_false,not_or] at apart
    obtain ⟨_,quote,_,hash⟩ := apart
    rw [chars]
    simp [startsPrefixedLiteral,List.isPrefixOf,Ne.symm quote,Ne.symm hash]
  have text : ("r#" ++ plain).toList = 'r' :: '#' :: plain.toList := by simp
  rw [text]
  refine reads_first (by decide) (by decide) ?_ (by simp; omega) read
  have word : String.ofList ('r' :: '#' :: plain.toList) = "r#" ++ plain := by rw [← text,String.ofList_toList]
  simp [first?,bracket?,literal?,startsMark,isMark,noPrefix,name,word]

theorem reads_name (text : IsNameText name) (parted : Parted rest) (read : Reads rest ts) :
    Reads (name.toList ++ rest) (.identifier name :: ts) := by
  rcases text with plain | ⟨k,rfl,plain,other⟩
  · simpa using reads_word plain parted read
  · exact reads_raw plain other parted read

theorem startsMark_name (text : IsNameText name) : startsMark (name.toList ++ rest) = false := by
  obtain ⟨c,more,chars,first⟩ : ∃ c more, name.toList = c :: more ∧ (c.isAlpha = true ∨ c = '_') := by
    rcases text with ⟨c,more,chars,first,_⟩ | ⟨k,rfl,_,_⟩
    · exact ⟨c,more,chars,first⟩
    · exact ⟨'r','#' :: k.toList,by simp,by decide⟩
  obtain ⟨_,_,mark,_⟩ := first_facts first
  rw [chars,List.cons_append]
  exact startsMark_of_not_isMark mark _

/-! ### Paths -/

def colons : List Token := [.mark ':' true,.mark ':' false]

def nameTokens : List String → List Token
  | [] => []
  | [name] => [.identifier name]
  | name :: rest => .identifier name :: colons ++ nameTokens rest

/-- The tokens of a path without arguments; a global one starts with two colons. -/
def pathTokens (isGlobal : Bool) (names : List String) : List Token :=
  (if isGlobal then colons else []) ++ nameTokens names

/-- The text of a path without arguments. -/
def pathText (isGlobal : Bool) (names : List String) : List Char :=
  (if isGlobal then "::".toList else []) ++ Text.join "::".toList (names.map String.toList)

theorem parted_colons : Parted ("::".toList ++ rest) := by
  intro d first
  obtain rfl : ':' = d := Option.some.inj first
  decide

theorem reads_colons (noMark : startsMark s = false) (read : Reads s ts) :
    Reads ("::".toList ++ s) (colons ++ ts) := by
  have second : Reads (':' :: s) (.mark ':' false :: ts) := noMark ▸ reads_mark (by decide) read
  have text : "::".toList ++ s = ':' :: ':' :: s := rfl
  rw [text]
  exact reads_mark (by decide) second

theorem reads_names {names : List String} (filled : names ≠ []) (texts : ∀ n ∈ names, IsNameText n) (parted : Parted rest)
    (read : Reads rest ts) :
    Reads (Text.join "::".toList (names.map String.toList) ++ rest) (nameTokens names ++ ts) ∧
      startsMark (Text.join "::".toList (names.map String.toList) ++ rest) = false := by
  induction names with
  | nil => contradiction
  | cons name names ih =>
    rw [List.forall_mem_cons] at texts
    cases names with
    | nil => exact ⟨reads_name texts.1 parted read,startsMark_name texts.1⟩
    | cons next more =>
      obtain ⟨others,noMark⟩ := ih (by simp) texts.2
      have text : Text.join "::".toList ((name :: next :: more).map String.toList) ++ rest =
          name.toList ++ ("::".toList ++ (Text.join "::".toList ((next :: more).map String.toList) ++ rest)) := by
        simp [Text.join]
      rw [text]
      exact ⟨reads_name texts.1 parted_colons (reads_colons noMark others),startsMark_name texts.1⟩

theorem reads_path (isGlobal : Bool) {names : List String} (filled : names ≠ []) (texts : ∀ n ∈ names, IsNameText n)
    (parted : Parted rest) (read : Reads rest ts) :
    Reads (pathText isGlobal names ++ rest) (pathTokens isGlobal names ++ ts) ∧
      startsMark (pathText isGlobal names ++ rest) = isGlobal := by
  obtain ⟨others,noMark⟩ := reads_names filled texts parted read
  cases isGlobal with
  | false => exact ⟨others,noMark⟩
  | true => exact ⟨reads_colons noMark others,rfl⟩

/-! ### Numbers -/

/-- The letters and digits that a number goes on with. -/
theorem parted_facts (parted : Parted s) :
    s.takeWhile isNumberChar = [] ∧ s.dropWhile isNumberChar = s ∧ endNumber s = some s := by
  have each : ∀ d ∈ partings, isNumberChar d = false ∧ Text.startsIdentifier d = false ∧
      Text.continuesIdentifier d = false := by decide
  cases s with
  | nil => exact ⟨rfl,rfl,rfl⟩
  | cons d more =>
    obtain ⟨number,starts,continues⟩ := each d (parted d rfl)
    simp [number,endNumber,skipSuffix,name?,starts,continues]

/-- What follows a whole number in front of a parting. -/
theorem skipDigits_of_digits (filled : s ≠ []) (digits : ∀ d ∈ s, d.isDigit = true) (parted : Parted rest) :
    skipDigits 10 (s ++ rest) = some rest := by
  obtain ⟨c,more,rfl⟩ := List.exists_cons_of_ne_nil filled
  have below : ∀ d : Char, d.isDigit = true → (digitBelow? 10 d).isNone = false := by
    intro d digit
    have range := Text.isDigit_iff.mp digit
    simp [digitBelow?,digitValue?,digit,Option.filter]
    omega
  have front : (c :: more ++ rest).takeWhile
      (fun d => d.isDigit || d == '_' || (digitBelow? 10 d).isSome) = c :: more := by
    rw [List.takeWhile_append_of_pos (fun d member => by simp [digits d member])]
    have each : ∀ d ∈ partings, (d.isDigit || d == '_' || (digitBelow? 10 d).isSome) = false := by decide
    cases rest with
    | nil => simp
    | cons d tail => rw [List.takeWhile_cons_of_neg (by simp [each d (parted d rfl)]),List.append_nil]
  have fits : (c :: more).any (fun d => d.isDigit && (digitBelow? 10 d).isNone) = false := by
    rw [List.any_eq_false]
    intro d member
    simp only [below d (digits d member),Bool.and_false,Bool.false_eq_true,not_false_eq_true]
  have noMark : c ≠ '_' := by
    rintro rfl
    exact absurd (digits '_' (by simp)) (by decide)
  rw [skipDigits,front,fits]
  simp [noMark]

theorem skipInteger_of_digits (filled : s ≠ []) (digits : ∀ d ∈ s, d.isDigit = true) (parted : Parted rest) :
    skipInteger (s ++ rest) = some rest := by
  have decimal := skipDigits_of_digits filled digits parted
  obtain ⟨-,-,ends⟩ := parted_facts parted
  obtain ⟨c,more,rfl⟩ := List.exists_cons_of_ne_nil filled
  -- A mark of another base would be a digit or a parting.
  have second : ∀ d ∈ ['x','o','b'], ∀ tail, more ++ rest ≠ d :: tail := by
    intro d mark tail same
    have none : ∀ d ∈ ['x','o','b'], d.isDigit = false ∧ d ∉ partings := by decide
    cases more with
    | nil => exact (none d mark).2 (parted d (by rw [← List.nil_append rest,same]; rfl))
    | cons e more =>
      obtain ⟨rfl,_⟩ := List.cons.inj same
      exact absurd (digits e (by simp)) (by simp [(none e mark).1])
  unfold skipInteger
  rw [List.cons_append]
  split
  · rename_i tail same
    exact absurd (List.cons.inj same).2 (second 'x' (by simp) tail)
  · rename_i tail same
    exact absurd (List.cons.inj same).2 (second 'o' (by simp) tail)
  · rename_i tail same
    exact absurd (List.cons.inj same).2 (second 'b' (by simp) tail)
  · rw [← List.cons_append,decimal,Option.bind_some,ends]

theorem skipFloat_of_digits (digits : ∀ d ∈ s, d.isDigit = true) (parted : Parted rest) : skipFloat (s ++ rest) = none := by
  obtain ⟨-,after,-⟩ := parted_facts parted
  have number : ∀ d ∈ s, isNumberChar d = true := fun d member => by simp [isNumberChar,digits d member]
  rw [skipFloat,List.dropWhile_append_of_pos number,after]
  have each : ∀ d ∈ partings, d ≠ '.' ∧ ¬ (d = 'e' ∨ d = 'E') := by decide
  split
  · exact absurd rfl (each '.' (parted '.' (by simp))).1
  · rename_i d tail _
    rw [if_neg (each d (parted d (by simp))).2]
  · rfl

/-- A literal is what stands in front of the rest. -/
theorem take_front (s rest : List Char) : (s ++ rest).take ((s ++ rest).length - rest.length) = s := by
  rw [List.length_append,Nat.add_sub_cancel,List.take_left]

/-- A text that begins with a digit is read as a number, if it is one. -/
theorem reads_number (digit : ∀ d ∈ s.head?, d.isDigit = true) (filled : s ≠ [])
    (number : (skipFloat (s ++ rest)).or (skipInteger (s ++ rest)) = some rest) (read : Reads rest ts) :
    Reads (s ++ rest) (.literal (.ofList s) true :: ts) := by
  obtain ⟨c,more,rfl⟩ := List.exists_cons_of_ne_nil filled
  have digit : c.isDigit = true := digit c rfl
  have range := Text.isDigit_iff.mp digit
  have bracket : bracket? c = none := by
    unfold bracket?
    split <;> first | rfl | exact absurd digit (by decide)
  have literal : literal? (c :: (more ++ rest)) = some (.literal (.ofList (c :: more)) true,rest) := by
    have front := take_front (c :: more) rest
    rw [List.cons_append] at front
    exact literal?_eq_some.mpr ⟨true,by rw [front],.number digit number⟩
  rw [List.cons_append]
  refine reads_first ?_ ?_ ?_ (by simp) read
  · simp only [isSeparator,Text.isBlank,Bool.or_eq_false_iff,Bool.and_eq_false_iff,decide_eq_false_iff_not,
      beq_eq_false_iff_ne]
    omega
  · rintro rfl
    exact absurd digit (by decide)
  · simp only [first?,bracket,literal]

/-- The digits of a whole number are one token. -/
theorem reads_digits (filled : s ≠ []) (digits : ∀ d ∈ s, d.isDigit = true) (parted : Parted rest) (read : Reads rest ts) :
    Reads (s ++ rest) (.literal (.ofList s) true :: ts) := by
  refine reads_number (fun d first => digits d (List.mem_of_mem_head? first)) filled ?_ read
  rw [skipFloat_of_digits digits parted,skipInteger_of_digits filled digits parted]
  rfl

end MsgBindings.Target.Token
