import MsgBindings.Proofs.Tokens

/-!
The lexer as a relation. What parts tokens is passed over (`Passes`), a token is taken, and so on to the end of the
text (`Lexes`). What follows a token is a suffix of the text without its first character (`suffix_of_first?`), so these
are the tokens that are read with any fuel that is enough (`reads_iff_lexes`).
-/
namespace MsgBindings.Target.Token

variable {s r rest : List Char} {ts : List Token} {t : Token} {fuel : Nat}

/-! ### Between tokens -/

/-- What is left of a text from its first token on. -/
inductive Passes : List Char → List Char → Prop
  | done : Passes [] []
  | token {c : Char} {rest : List Char} : ¬ BeginsComment c rest → isSeparator c = false →
      Passes (c :: rest) (c :: rest)
  | blank {c : Char} {rest r : List Char} : isSeparator c = true → Passes rest r → Passes (c :: rest) r
  | line {rest r : List Char} : isLineDoc rest = false → Passes (rest.dropWhile (· != '\n')) r →
      Passes ('/' :: '/' :: rest) r
  | block {rest after r : List Char} : isBlockDoc rest = false → skipComment 1 rest = some after → Passes after r →
      Passes ('/' :: '*' :: rest) r

theorem suffix_of_skipComment {depth : Nat} (made : skipComment depth s = some rest) : rest <:+ s := by
  fun_induction skipComment depth s with
  | case1 => cases made; exact List.suffix_rfl
  | case2 => cases made
  | case3 depth s ih => exact (ih made).trans (List.suffix_append ['/','*'] s)
  | case4 depth s ih => exact (ih made).trans (List.suffix_append ['*','/'] s)
  | case5 depth c s _ _ ih => exact (ih made).trans (List.suffix_cons c s)

theorem passes_of_skipSeparators (enough : s.length ≤ fuel) (made : skipSeparators fuel s = some r) : Passes s r := by
  induction fuel generalizing s with
  | zero =>
    obtain rfl := List.length_eq_zero_iff.mp (Nat.le_zero.mp enough)
    cases made
    exact .done
  | succ fuel ih =>
    rcases s with _ | ⟨c,s⟩
    · cases made
      exact .done
    by_cases comment : BeginsComment c s
    · obtain ⟨rfl,d,first,kind⟩ := comment
      obtain ⟨rest,rfl⟩ := List.head?_eq_some_iff.mp first
      simp only [List.length_cons] at enough
      rcases kind with rfl | rfl
      · obtain ⟨plain,made⟩ := Option.ite_none_left_eq_some.mp made
        have shorter := (rest.dropWhile_suffix (· != '\n')).length_le
        exact .line (Bool.eq_false_of_not_eq_true plain) (ih (by omega) made)
      · obtain ⟨plain,made⟩ := Option.ite_none_left_eq_some.mp made
        obtain ⟨after,closed,made⟩ := Option.bind_eq_some_iff.mp made
        have shorter := (suffix_of_skipComment closed).length_le
        exact .block (Bool.eq_false_of_not_eq_true plain) closed (ih (by omega) made)
    · rw [skipSeparators_other comment] at made
      split at made
      · exact .blank ‹_› (ih (Nat.le_of_succ_le_succ enough) made)
      · cases made
        exact .token comment (Bool.eq_false_of_not_eq_true ‹_›)

theorem not_beginsComment_of_blank {c : Char} (blank : isSeparator c = true) : ¬ BeginsComment c rest := by
  rintro ⟨rfl,_⟩
  cases blank

theorem Passes.of_blank {c : Char} (blank : isSeparator c = true) (passes : Passes (c :: rest) r) : Passes rest r := by
  cases passes with
  | token _ solid => cases blank.symm.trans solid
  | blank _ passes => exact passes
  | line => cases blank
  | block => cases blank

theorem Passes.skipSeparators (passes : Passes s r) (enough : s.length ≤ fuel) : skipSeparators fuel s = some r := by
  induction passes generalizing fuel with
  | done => cases fuel <;> rfl
  | token other solid =>
    cases fuel with
    | zero => rfl
    | succ fuel => rw [skipSeparators_other other,if_neg (ne_true_of_eq_false solid)]
  | blank blank _ ih =>
    obtain ⟨fuel,rfl⟩ : ∃ n, fuel = n + 1 := ⟨fuel - 1,by simp only [List.length_cons] at enough; omega⟩
    rw [skipSeparators_other (not_beginsComment_of_blank blank),if_pos blank]
    exact ih (Nat.le_of_succ_le_succ enough)
  | @line rest r plain _ ih =>
    simp only [List.length_cons] at enough
    obtain ⟨fuel,rfl⟩ : ∃ n, fuel = n + 1 := ⟨fuel - 1,by omega⟩
    have shorter := (rest.dropWhile_suffix (· != '\n')).length_le
    exact (if_neg (ne_true_of_eq_false plain)).trans (ih (by omega))
  | @block rest after r plain closed _ ih =>
    simp only [List.length_cons] at enough
    obtain ⟨fuel,rfl⟩ : ∃ n, fuel = n + 1 := ⟨fuel - 1,by omega⟩
    have shorter := (suffix_of_skipComment closed).length_le
    refine (if_neg (ne_true_of_eq_false plain)).trans ?_
    rw [closed]
    exact ih (by omega)

theorem Passes.suffix (passes : Passes s r) : r <:+ s := by
  induction passes with
  | done => exact List.suffix_rfl
  | token => exact List.suffix_rfl
  | blank _ _ ih => exact ih.trans (List.suffix_cons _ _)
  | line _ _ ih => exact ih.trans ((List.dropWhile_suffix _).trans (List.suffix_append ['/','/'] _))
  | block _ closed _ ih => exact ih.trans ((suffix_of_skipComment closed).trans (List.suffix_append ['/','*'] _))

/-! ### What a token takes -/

theorem suffix_tail_of_cons {c : Char} (suffix : c :: rest <:+ s) : rest <:+ s.tail := by
  obtain ⟨front,rfl⟩ := suffix
  cases front with
  | nil => exact List.suffix_rfl
  | cons d front => exact (List.suffix_cons c rest).trans (List.suffix_append front (c :: rest))

theorem suffix_of_name? {name : List Char} (made : name? s = some (name,rest)) : rest <:+ s.tail := by
  cases s with
  | nil => cases made
  | cons c s =>
    obtain ⟨_,made⟩ := Option.ite_none_right_eq_some.mp made
    cases made
    exact s.dropWhile_suffix Text.continuesIdentifier

theorem suffix_of_identifier? {name : List Char} (made : identifier? s = some (name,rest)) : rest <:+ s.tail := by
  revert made
  fun_cases identifier? s with
  | case1 s =>
    intro made
    obtain ⟨⟨word,after⟩,named,made⟩ := Option.bind_eq_some_iff.mp made
    obtain ⟨_,made⟩ := Option.ite_none_left_eq_some.mp made
    cases made
    exact ((suffix_of_name? named).trans (List.tail_suffix s)).trans (List.suffix_cons '#' s)
  | case2 s => exact suffix_of_name?

theorem suffix_skipSuffix (s : List Char) : skipSuffix s <:+ s := by
  unfold skipSuffix
  cases named : name? s with
  | none => exact List.suffix_rfl
  | some p => exact (suffix_of_name? named).trans (List.tail_suffix s)

theorem suffix_of_endNumber (made : endNumber s = some rest) : rest <:+ s := by
  obtain ⟨_,made⟩ := Option.ite_none_left_eq_some.mp made
  cases made
  exact suffix_skipSuffix s

theorem suffix_of_skipExponent (made : skipExponent s = some rest) : rest <:+ s := by
  unfold skipExponent at made
  obtain ⟨_,made⟩ := Option.ite_none_right_eq_some.mp made
  cases made
  refine (List.dropWhile_suffix isNumberChar).trans ?_
  split
  · exact List.suffix_cons '+' _
  · exact List.suffix_cons '-' _
  · exact List.suffix_rfl

theorem suffix_of_skipFloat (made : skipFloat s = some rest) : rest <:+ s.tail := by
  have front := s.dropWhile_suffix isNumberChar
  revert made
  fun_cases skipFloat s with
  | case1 | case6 | case7 => nofun
  | case2 after point _ c more digits exponent =>
    intro made
    have last : (skipExponent more).getD (c :: more) <:+ after := by
      refine .trans ?_ (digits ▸ after.dropWhile_suffix isNumberChar)
      cases here : skipExponent more with
      | none => exact List.suffix_rfl
      | some rest => exact (suffix_of_skipExponent here).trans (List.suffix_cons c more)
    rw [point] at front
    exact ((suffix_of_endNumber made).trans last).trans (suffix_tail_of_cons front)
  | case3 after point _ c more digits =>
    intro made
    have behind : c :: more <:+ after := digits ▸ after.dropWhile_suffix isNumberChar
    rw [point] at front
    exact ((suffix_of_endNumber made).trans behind).trans (suffix_tail_of_cons front)
  | case4 after point =>
    intro made
    cases made
    exact List.nil_suffix
  | case5 c after _ more =>
    intro made
    obtain ⟨middle,exponent,made⟩ := Option.bind_eq_some_iff.mp made
    rw [more] at front
    exact ((suffix_of_endNumber made).trans (suffix_of_skipExponent exponent)).trans (suffix_tail_of_cons front)

theorem suffix_of_skipDigits {base : Nat} (made : skipDigits base s = some rest) : rest <:+ s.tail := by
  unfold skipDigits at made
  simp only [Option.ite_none_left_eq_some] at made
  obtain ⟨_,_,some,made⟩ := made
  cases made
  have filled : 0 < (s.takeWhile fun c => c.isDigit || c == '_' || (digitBelow? base c).isSome).length := by
    refine List.length_pos_of_ne_nil fun empty => some ?_
    rw [empty]
    rfl
  rw [← Nat.sub_add_cancel filled,← List.drop_tail]
  exact List.drop_suffix _ _

theorem suffix_of_skipInteger (made : skipInteger s = some rest) : rest <:+ s.tail := by
  have whole : ∀ {base : Nat} {t : List Char}, (skipDigits base t).bind endNumber = some rest → rest <:+ t.tail := by
    intro base t made
    obtain ⟨middle,digits,made⟩ := Option.bind_eq_some_iff.mp made
    exact (suffix_of_endNumber made).trans (suffix_of_skipDigits digits)
  have marked : ∀ {base : Nat} {mark : Char} {t : List Char}, (skipDigits base t).bind endNumber = some rest →
      rest <:+ ('0' :: mark :: t).tail :=
    fun made => ((whole made).trans (List.tail_suffix _)).trans (List.suffix_cons _ _)
  revert made
  fun_cases skipInteger s with
  | case1 | case2 | case3 => exact marked
  | case4 => exact whole

theorem suffix_of_skipCharacter {quote : Char} (made : skipCharacter quote s = some rest) : rest <:+ s.tail := by
  revert made
  fun_cases skipCharacter quote s with
  | case1 a b after digits =>
    rintro ⟨⟩
    exact List.suffix_append ['x',a,b] rest
  | case3 text digits after close value valid =>
    rintro ⟨⟩
    have behind : '\x7d' :: rest <:+ text := close ▸ List.drop_suffix _ _
    exact ((List.suffix_cons _ rest).trans behind).trans (List.suffix_append ['u','\x7b'] text)
  | case6 c after hex unicode escaped =>
    rintro ⟨⟩
    exact List.suffix_cons c rest
  | case10 =>
    rintro ⟨⟩
    exact List.suffix_rfl
  | _ => nofun

theorem skipQuoted_eq_some : skipQuoted (fuel + 1) s = some rest ↔
    s = '"' :: rest ∨ (∃ t, s = '\\' :: '\n' :: t ∧ skipQuoted fuel (t.dropWhile Char.isWhitespace) = some rest) ∨
      (∀ t, s ≠ '"' :: t) ∧ (∀ t, s ≠ '\\' :: '\n' :: t) ∧
        ∃ after, skipCharacter '"' s = some after ∧ skipQuoted fuel after = some rest := by
  by_cases quote : ∃ t, s = '"' :: t
  · obtain ⟨t,rfl⟩ := quote
    simp [skipQuoted]
  by_cases newline : ∃ t, s = '\\' :: '\n' :: t
  · obtain ⟨t,rfl⟩ := newline
    simp [skipQuoted]
  rw [not_exists] at quote newline
  rw [skipQuoted.eq_4 _ _ quote newline,Option.bind_eq_some_iff]
  simp [quote,newline]

theorem suffix_of_skipQuoted (made : skipQuoted fuel s = some rest) : rest <:+ s.tail := by
  induction fuel generalizing s with
  | zero => cases made
  | succ fuel ih =>
    rcases skipQuoted_eq_some.mp made with rfl | ⟨t,rfl,made⟩ | ⟨_,_,after,first,made⟩
    · exact List.suffix_rfl
    · have blank := t.dropWhile_suffix Char.isWhitespace
      exact (((ih made).trans (List.tail_suffix _)).trans blank).trans (List.suffix_cons '\n' t)
    · exact ((ih made).trans (List.tail_suffix after)).trans (suffix_of_skipCharacter first)

/-- What follows the character between the marks of a literal. -/
def skipQuotedCharacter (s : List Char) : Option (List Char) :=
  if s.head? = some '\'' then some s.tail else skipCharacter '\x00' s

theorem skipCharLiteral_eq_some : skipCharLiteral s = some rest ↔
    ∃ t after, s = '\'' :: t ∧ skipQuotedCharacter t = some ('\'' :: after) ∧ rest = skipSuffix after := by
  constructor
  · intro made
    unfold skipCharLiteral at made
    split at made
    · split at made
      · rename_i t _ after here
        exact ⟨t,after,rfl,here,(Option.some.inj made).symm⟩
      · cases made
    · cases made
  · rintro ⟨t,after,rfl,here,rfl⟩
    unfold skipQuotedCharacter at here
    rw [skipCharLiteral,here]
    rfl

theorem suffix_of_skipCharLiteral (made : skipCharLiteral s = some rest) : rest <:+ s.tail := by
  obtain ⟨t,after,rfl,here,rfl⟩ := skipCharLiteral_eq_some.mp made
  have inside : '\'' :: after <:+ t := by
    unfold skipQuotedCharacter at here
    split at here
    · exact Option.some.inj here ▸ List.tail_suffix t
    · exact (suffix_of_skipCharacter here).trans (List.tail_suffix t)
  exact ((suffix_skipSuffix after).trans (List.suffix_cons _ after)).trans inside

theorem EndsLiteral.suffix {number : Bool} (ends : EndsLiteral s number rest) : rest <:+ s.tail := by
  cases ends with
  | @quoted s _ here =>
    exact ((suffix_skipSuffix _).trans (suffix_of_skipQuoted here)).trans (List.tail_suffix s)
  | character here => exact suffix_of_skipCharLiteral here
  | number digit here =>
    rcases Option.or_eq_some_iff.mp here with float | ⟨_,integer⟩
    · exact suffix_of_skipFloat float
    · exact suffix_of_skipInteger integer

theorem lifetime?_eq_some {t : Token} : lifetime? s = some (t,rest) ↔
    ∃ r name, s = '\'' :: r ∧ identifier? r = some (name,rest) ∧ t = .lifetime (.ofList name) ∧
      ¬ (rest.head? = some '\'' ∨ rest.head? = some '#' ∧ ¬ "r#".toList.isPrefixOf r) := by
  constructor
  · intro made
    unfold lifetime? at made
    split at made
    · rename_i r
      obtain ⟨⟨name,after⟩,named,made⟩ := Option.bind_eq_some_iff.mp made
      dsimp only at made
      split at made
      · cases made
      · cases made
        exact ⟨r,name,rfl,named,rfl,‹_›⟩
    · cases made
  · rintro ⟨r,name,rfl,named,rfl,plain⟩
    rw [lifetime?,named]
    exact if_neg plain

/-- What is neither a bracket nor a literal. -/
theorem first?_other {c : Char} (bracket : bracket? c = none) (noLiteral : literal? (c :: s) = none) :
    first? (c :: s) =
      if c = '\'' then lifetime? (c :: s)
      else if startsMark (c :: s) then some (.mark c (startsMark s),s)
      else if startsPrefixedLiteral (c :: s) then none
      else (identifier? (c :: s)).map fun (name,rest) => (.identifier (.ofList name),rest) := by
  rw [first?,bracket]
  simp only [noLiteral]

theorem suffix_of_first? (made : first? s = some (t,rest)) : rest <:+ s.tail := by
  cases s with
  | nil => cases made
  | cons c s =>
    cases bracket : bracket? c with
    | some token =>
      rw [first?,bracket] at made
      cases made
      exact List.suffix_rfl
    | none =>
      cases literal : literal? (c :: s) with
      | some found =>
        rw [first?,bracket,literal] at made
        cases made
        obtain ⟨_,_,ends⟩ := literal?_eq_some.mp literal
        exact ends.suffix
      | none =>
        rw [first?_other bracket literal] at made
        split at made
        · obtain ⟨_,_,same,named,_⟩ := lifetime?_eq_some.mp made
          rw [same]
          exact (suffix_of_identifier? named).trans (List.tail_suffix _)
        split at made
        · cases made
          exact List.suffix_rfl
        split at made
        · cases made
        obtain ⟨_,named,made⟩ := Option.map_eq_some_iff.mp made
        cases made
        exact suffix_of_identifier? named

theorem length_of_first? (made : first? s = some (t,rest)) : rest.length < s.length := by
  cases s with
  | nil => cases made
  | cons c s => exact Nat.lt_succ_of_le (suffix_of_first? made).length_le

/-! ### All tokens -/

/-- The tokens of a text. -/
inductive Lexes : List Char → List Token → Prop
  | done {s : List Char} : Passes s [] → Lexes s []
  | token {s r rest : List Char} {t : Token} {ts : List Token} : Passes s r → first? r = some (t,rest) →
      Lexes rest ts → Lexes s (t :: ts)

theorem readFrom_eq_some (enough : s.length < fuel) : readFrom fuel s = some ts ↔ Lexes s ts := by
  induction fuel generalizing s ts with
  | zero => omega
  | succ fuel ih =>
    rw [readFrom,Option.bind_eq_some_iff]
    constructor
    · rintro ⟨r,passed,made⟩
      have passes := passes_of_skipSeparators le_rfl passed
      split at made
      · rename_i empty
        rw [List.isEmpty_iff] at empty
        cases made
        exact .done (empty ▸ passes)
      · obtain ⟨⟨t,rest⟩,first,made⟩ := Option.bind_eq_some_iff.mp made
        obtain ⟨ts,later,rfl⟩ := Option.map_eq_some_iff.mp made
        have shorter := length_of_first? first
        have left := passes.suffix.length_le
        exact .token passes first ((ih (by omega)).mp later)
    · rintro (⟨passes⟩ | @⟨_,r,rest,t,ts,passes,first,lexes⟩)
      · exact ⟨[],passes.skipSeparators le_rfl,rfl⟩
      · have shorter := length_of_first? first
        have left := passes.suffix.length_le
        refine ⟨r,passes.skipSeparators le_rfl,?_⟩
        cases r with
        | nil => cases first
        | cons c r => simp [first,(ih (by omega)).mpr lexes]

theorem reads_iff_lexes : Reads s ts ↔ Lexes s ts :=
  ⟨fun reads => (readFrom_eq_some (Nat.lt_succ_self _)).mp (reads _ (Nat.lt_succ_self _)),
    fun lexes _ enough => (readFrom_eq_some enough).mpr lexes⟩

/-- A mark of byte order begins no token. -/
theorem unmarked_of_lexes (lexes : Lexes s ts) : ∀ c ∈ s.head?, c.toNat ≠ 0xFEFF := by
  intro c first marked
  obtain ⟨s,rfl⟩ := List.head?_eq_some_iff.mp first
  obtain rfl : c = '\uFEFF' := Char.toNat_inj.mp marked
  have noToken : first? ('\uFEFF' :: s) = none := by
    have noLiteral : literal? ('\uFEFF' :: s) = none := literal?_eq_none (by decide) (by decide) (by decide) s
    have starts : Text.startsIdentifier '\uFEFF' = false := by decide +kernel
    rw [first?_other rfl noLiteral,if_neg (by decide)]
    simp [startsMark,isMark,startsPrefixedLiteral,identifier?,name?,starts,List.isPrefixOf]
  cases lexes with
  | done passes =>
    cases passes with
    | blank blank => cases blank
  | token passes first =>
    cases passes with
    | token => cases noToken.symm.trans first
    | blank blank => cases blank

theorem readAll_of_lexes (lexes : Lexes s ts) : readAll s = some ts :=
  readAll_eq (reads_iff_lexes.mpr lexes) (unmarked_of_lexes lexes)

theorem lexes_of_readAll (read : readAll s = some ts) (unmarked : ∀ c ∈ s.head?, c.toNat ≠ 0xFEFF) : Lexes s ts := by
  cases s with
  | nil =>
    cases read
    exact .done .done
  | cons c s =>
    rw [readAll,if_neg (unmarked c rfl)] at read
    exact (readFrom_eq_some (Nat.lt_succ_self _)).mp read

/-- The blanks in front of a text are no part of a token. -/
theorem Lexes.dropWhile_blank (lexes : Lexes s ts) : Lexes (s.dropWhile Text.isBlank) ts := by
  induction s with
  | nil => exact lexes
  | cons c s ih =>
    rw [List.dropWhile_cons]
    split
    · rename_i blank
      have separator : isSeparator c = true := by simp [isSeparator,blank]
      refine ih ?_
      cases lexes with
      | done passes => exact .done (passes.of_blank separator)
      | token passes first lexes => exact .token (passes.of_blank separator) first lexes
    · exact lexes

end MsgBindings.Target.Token
