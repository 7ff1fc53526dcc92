import MsgBindings.Number.Shortest
import MsgBindings.Proofs.Numerals
import MsgBindings.Proofs.Tokens
import MsgBindings.Target.StringLiteral

/-!
The tokens of literals. A character is written in a string literal in one of three ways (`Escapes`), each of which is
read over, so that a string literal is one token whatever its text is (`reads_stringLiteral`). So is the text of a
floating-point number, which has a point or an exponent (`isDecimal_codeDigits`, `reads_decimal`).
-/
namespace MsgBindings

/-! ### The digits of a character -/

/-- The digits to the base sixteen give their number back. -/
theorem ofDigits_hexDigits (n : Nat) :
    (∀ c ∈ Target.hexDigits n, (digitBelow? 16 c).isSome = true ∧ c ≠ '_') ∧
      ofDigits 16 ((Target.hexDigits n).filterMap (digitBelow? 16)) = n := by
  obtain ⟨_,digits,each,value⟩ := isNumeral_toDigits (show 1 < 16 by decide) le_rfl n
  have valued : List.Forall₂ (fun c d => digitBelow? 16 c = some d) (Target.hexDigits n) digits :=
    each.imp fun c d digit => (digitBelow?_eq_some le_rfl).mpr digit
  constructor
  · intro c member
    obtain ⟨d,_,digit⟩ := exists_of_mem_right valued.flip member
    refine ⟨by rw [digit]; rfl,?_⟩
    rintro rfl
    have none : digitBelow? 16 '_' = none := by decide
    rw [none] at digit
    cases digit
  · rw [filterMap_of_forall₂ valued,ofDigits_eq,← value]

namespace Target

/-! ### Escaped characters -/

/-- The characters that are written by a letter or a mark behind a backslash. -/
def shortEscapes : List (Char × Char) := [('\x00','0'),('\t','t'),('\r','r'),('\n','n'),('\\','\\'),('"','"')]

/-- How a character may be written in a string literal. -/
inductive Escapes (c : Char) : List Char → Prop
  | short {d : Char} (pair : (c,d) ∈ shortEscapes) : Escapes c ['\\',d]
  | plain (other : c ∉ ['"','\\','\n','\r']) : Escapes c [c]
  | codePoint : Escapes c ('\\' :: 'u' :: '\x7b' :: (hexDigits c.toNat ++ ['\x7d']))

theorem escapes_escapeInString (c : Char) : Escapes c (escapeInString c) := by
  unfold escapeInString
  split_ifs with zero tab carriage newline backslash quote shown
  · cases zero
    exact .short (by decide)
  · cases tab
    exact .short (by decide)
  · cases carriage
    exact .short (by decide)
  · cases newline
    exact .short (by decide)
  · cases backslash
    exact .short (by decide)
  · cases quote
    exact .short (by decide)
  · exact .plain (by simp [quote,backslash,newline,carriage])
  · exact .codePoint

/-- No character is written as nothing. -/
theorem Escapes.length_pos {c : Char} {s : List Char} (written : Escapes c s) : 0 < s.length := by
  cases written <;> simp

namespace Token

variable {s rest : List Char} {ts : List Token} {c : Char}

/-! ### String literals -/

theorem skipCharacter_codePoint (c : Char) (rest : List Char) :
    skipCharacter '"' ('\\' :: 'u' :: '\x7b' :: (hexDigits c.toNat ++ '\x7d' :: rest)) = some rest := by
  obtain ⟨each,value⟩ := ofDigits_hexDigits c.toNat
  have filled : hexDigits c.toNat ≠ [] := Nat.toDigits_ne_nil
  have digits : (hexDigits c.toNat ++ '\x7d' :: rest).takeWhile
      (fun c => (digitBelow? 16 c).isSome || c == '_') = hexDigits c.toNat := by
    rw [List.takeWhile_append_of_pos fun d member => by simp [(each d member).1],
      List.takeWhile_cons_of_neg (by decide),List.append_nil]
  have first : (hexDigits c.toNat).head?.any (· != '_') = true := by
    obtain ⟨d,more,chars⟩ := List.exists_cons_of_ne_nil filled
    have apart := (each d (by simp [chars])).2
    simp [chars,apart]
  have valid : c.toNat.isValidChar := c.valid
  rw [skipCharacter]
  simp [digits,first,value,valid]

/-- Each character is read over by what it is written as. -/
theorem skipCharacter_of_escapes (written : Escapes c s) (rest : List Char) :
    skipCharacter '"' (s ++ rest) = some rest := by
  cases written with
  | short pair =>
    simp only [shortEscapes,List.mem_cons,Prod.mk.injEq,List.not_mem_nil,or_false] at pair
    rcases pair with ⟨_,rfl⟩ | ⟨_,rfl⟩ | ⟨_,rfl⟩ | ⟨_,rfl⟩ | ⟨_,rfl⟩ | ⟨_,rfl⟩ <;> rfl
  | plain other =>
    rw [List.singleton_append,skipCharacter.eq_def]
    split <;> simp_all
  | codePoint => simpa using skipCharacter_codePoint c rest

/-- What a character is written as neither closes a literal nor ends its line. -/
theorem skipQuoted_of_escapes (written : Escapes c s) (rest : List Char) (fuel : Nat) :
    skipQuoted (fuel + 1) (s ++ rest) = skipQuoted fuel rest := by
  have step : skipQuoted (fuel + 1) (s ++ rest) = (skipCharacter '"' (s ++ rest)).bind (skipQuoted fuel) := by
    cases written with
    | short pair =>
      have apart : ∀ pair ∈ shortEscapes, pair.2 ≠ '\n' := by decide
      rw [List.cons_append,skipQuoted]
      · nofun
      · rintro more ⟨⟩
        exact apart _ pair rfl
    | plain other =>
      rw [List.singleton_append,skipQuoted.eq_def]
      split <;> simp_all
    | codePoint => rfl
  rw [step,skipCharacter_of_escapes written]
  rfl

/-- Characters that are escaped are read over up to the closing quote. -/
theorem skipQuoted_escapes (text rest : List Char) {fuel : Nat} (enough : text.length < fuel) :
    skipQuoted fuel (text.flatMap escapeInString ++ '"' :: rest) = some rest := by
  induction text generalizing fuel with
  | nil =>
    obtain ⟨fuel,rfl⟩ : ∃ n, fuel = n + 1 := ⟨fuel - 1,by omega⟩
    rfl
  | cons c text ih =>
    obtain ⟨fuel,rfl⟩ : ∃ n, fuel = n + 1 := ⟨fuel - 1,by omega⟩
    rw [List.flatMap_cons,List.append_assoc,skipQuoted_of_escapes (escapes_escapeInString c)]
    exact ih (by simp only [List.length_cons] at enough; omega)

theorem length_le_escapes (text : List Char) : text.length ≤ (text.flatMap escapeInString).length := by
  induction text with
  | nil => rfl
  | cons c text ih =>
    have filled := (escapes_escapeInString c).length_pos
    rw [List.flatMap_cons,List.length_append,List.length_cons]
    omega

theorem skipSuffix_of_parted (parted : Parted rest) : skipSuffix rest = rest := by
  have each : ∀ d ∈ partings, Text.startsIdentifier d = false := by decide
  cases rest with
  | nil => rfl
  | cons d more => simp [skipSuffix,name?,each d (parted d rfl)]

theorem reads_stringLiteral (text : String) (parted : Parted rest) (read : Reads rest ts) :
    Reads ((stringLiteral text).toList ++ rest) (.literal (stringLiteral text) false :: ts) := by
  have chars : (stringLiteral text).toList ++ rest = '"' :: (text.toList.flatMap escapeInString ++ '"' :: rest) := by
    simp [stringLiteral]
  have enough : text.toList.length < (text.toList.flatMap escapeInString ++ '"' :: rest).length + 1 := by
    have count := length_le_escapes text.toList
    rw [List.length_append]
    omega
  have skipped := skipQuoted_escapes text.toList rest enough
  have front := take_front (stringLiteral text).toList rest
  rw [chars] at front ⊢
  have literal : literal? ('"' :: (text.toList.flatMap escapeInString ++ '"' :: rest)) =
      some (.literal (stringLiteral text) false,rest) := by
    rw [literal?]
    simp only [skipped,Option.map_some,skipSuffix_of_parted parted,front,String.ofList_toList]
  have bracket : bracket? '"' = none := rfl
  refine reads_first (by decide) (by decide) ?_ (by simp; omega) read
  simp only [first?,bracket,literal]

/-! ### Floating-point numbers -/

variable {whole fraction : List Char}

/-- The digits in front of a parting. -/
theorem number_of_digits (digits : ∀ d ∈ s, d.isDigit = true) (rest : List Char) :
    (s ++ rest).takeWhile isNumberChar = s ++ rest.takeWhile isNumberChar ∧
      (s ++ rest).dropWhile isNumberChar = rest.dropWhile isNumberChar := by
  have number : ∀ d ∈ s, isNumberChar d = true := fun d member => by simp [isNumberChar,digits d member]
  exact ⟨List.takeWhile_append_of_pos number,List.dropWhile_append_of_pos number⟩

/-- The exponents that numbers are written with. -/
theorem skipExponent_toString (i : Int) (parted : Parted rest) :
    skipExponent ((toString i).toList ++ rest) = some rest := by
  obtain ⟨none,after,-⟩ := parted_facts parted
  have plain : ∀ n : Nat, skipExponent ((toString n).toList ++ rest) = some rest ∧
      skipExponent ('-' :: ((toString n).toList ++ rest)) = some rest := by
    intro n
    obtain ⟨taken,dropped⟩ := number_of_digits (digit_of_mem_toString (n := n)) rest
    have digits := digit_of_mem_toString (n := n)
    obtain ⟨d,more,chars⟩ : ∃ d more, (toString n).toList = d :: more :=
      List.exists_cons_of_ne_nil (by simp)
    rw [chars] at taken dropped digits ⊢
    rw [none,List.append_nil] at taken
    rw [after] at dropped
    have digit : (d :: more).any Char.isDigit = true := by simp [digits d (by simp)]
    constructor
    · unfold skipExponent
      split <;> simp_all
    · simp only [skipExponent,taken,dropped,digit,↓reduceIte]
  cases i with
  | ofNat n => exact (plain n).1
  | negSucc n =>
    have text : (toString (Int.negSucc n)).toList = '-' :: (toString (n + 1)).toList := by
      have text : toString (Int.negSucc n) = "-" ++ toString (n + 1) := rfl
      rw [text,String.toList_append]
      rfl
    rw [text]
    exact (plain (n + 1)).2

/-- After a fraction there may be an exponent. -/
theorem skipFloat_of_fraction (digits : ∀ d ∈ whole, d.isDigit = true) (filled : fraction ≠ [])
    (others : ∀ d ∈ fraction, d.isDigit = true) (after : List Char) :
    skipFloat (whole ++ '.' :: (fraction ++ after)) =
      match after.dropWhile isNumberChar with
      | c :: more =>
        if c = 'e' ∨ c = 'E' then endNumber ((skipExponent more).getD (c :: more)) else endNumber (c :: more)
      | [] => some [] := by
  have point : ('.' :: (fraction ++ after)).dropWhile isNumberChar = '.' :: (fraction ++ after) :=
    List.dropWhile_cons_of_neg (by decide)
  have first : ((fraction ++ after).head?.any fun c => c == '.' || Text.startsIdentifier c) = false := by
    obtain ⟨d,more,rfl⟩ := List.exists_cons_of_ne_nil filled
    have digit := others d (by simp)
    have range := Text.isDigit_iff.mp digit
    have dot : d ≠ '.' := by
      rintro rfl
      exact absurd digit (by decide)
    have mark : d ≠ '_' := by
      rintro rfl
      exact absurd digit (by decide)
    have letter : d.isAlpha = false := by
      rw [Text.isAlpha_eq,← Bool.not_eq_true,Bool.or_eq_true,Text.isUpper_iff,Text.isLower_iff]
      omega
    have ascii : d.toNat < 128 := by omega
    simp [Text.startsIdentifier,ascii,dot,mark,letter]
  rw [skipFloat,(number_of_digits digits _).2,point]
  refine (if_neg (ne_true_of_eq_false first)).trans ?_
  exact (number_of_digits others after).2 ▸ rfl

theorem skipFloat_of_point (digits : ∀ d ∈ whole, d.isDigit = true) (filled : fraction ≠ [])
    (others : ∀ d ∈ fraction, d.isDigit = true) (parted : Parted rest) :
    skipFloat (whole ++ '.' :: (fraction ++ rest)) = some rest := by
  obtain ⟨-,after,ends⟩ := parted_facts parted
  have each : ∀ d ∈ partings, ¬ (d = 'e' ∨ d = 'E') := by decide
  rw [skipFloat_of_fraction digits filled others,after]
  cases rest with
  | nil => rfl
  | cons d more => exact (if_neg (each d (parted d rfl))).trans ends

theorem skipFloat_of_exponent (digits : ∀ d ∈ whole, d.isDigit = true) (i : Int) (parted : Parted rest) :
    skipFloat (whole ++ 'e' :: ((toString i).toList ++ rest)) = some rest := by
  obtain ⟨-,-,ends⟩ := parted_facts parted
  have mark : ('e' :: ((toString i).toList ++ rest)).dropWhile isNumberChar = 'e' :: ((toString i).toList ++ rest) :=
    List.dropWhile_cons_of_neg (by decide)
  rw [skipFloat,(number_of_digits digits _).2,mark]
  refine (if_pos (.inl rfl)).trans ?_
  rw [skipExponent_toString i parted]
  exact ends

theorem skipFloat_of_both (digits : ∀ d ∈ whole, d.isDigit = true) (filled : fraction ≠ [])
    (others : ∀ d ∈ fraction, d.isDigit = true) (i : Int) (parted : Parted rest) :
    skipFloat (whole ++ '.' :: (fraction ++ 'e' :: ((toString i).toList ++ rest))) = some rest := by
  obtain ⟨-,-,ends⟩ := parted_facts parted
  have mark : ('e' :: ((toString i).toList ++ rest)).dropWhile isNumberChar = 'e' :: ((toString i).toList ++ rest) :=
    List.dropWhile_cons_of_neg (by decide)
  rw [skipFloat_of_fraction digits filled others,mark]
  refine (if_pos (.inl rfl)).trans ?_
  rw [skipExponent_toString i parted]
  exact ends

/-- How the text of a finite number is made up. -/
inductive IsDecimal : List Char → Prop
  | point {whole fraction : List Char} (begun : whole ≠ []) (filled : fraction ≠ [])
      (digits : ∀ d ∈ whole, d.isDigit = true) (others : ∀ d ∈ fraction, d.isDigit = true) :
      IsDecimal (whole ++ '.' :: fraction)
  | exponent {whole : List Char} (begun : whole ≠ []) (digits : ∀ d ∈ whole, d.isDigit = true) (i : Int) :
      IsDecimal (whole ++ 'e' :: (toString i).toList)
  | both {whole fraction : List Char} (begun : whole ≠ []) (filled : fraction ≠ [])
      (digits : ∀ d ∈ whole, d.isDigit = true) (others : ∀ d ∈ fraction, d.isDigit = true) (i : Int) :
      IsDecimal (whole ++ '.' :: (fraction ++ 'e' :: (toString i).toList))

theorem isDecimal_positional {digits : List Char} (filled : digits ≠ []) (each : ∀ d ∈ digits, d.isDigit = true)
    (n : Nat) : IsDecimal (Binary64.positional digits (.negSucc n)) := by
  have length := List.length_pos_iff.mpr filled
  unfold Binary64.positional
  dsimp only
  split
  · rename_i inside
    refine .point ?_ ?_ (fun d member => each d (List.mem_of_mem_take member))
      (fun d member => each d (List.mem_of_mem_drop member))
    · exact List.ne_nil_of_length_pos (by rw [List.length_take]; omega)
    · exact List.ne_nil_of_length_pos (by rw [List.length_drop]; omega)
  · refine .point (List.cons_ne_nil '0' []) ?_ (by decide) ?_
    · simp [filled]
    · intro d member
      rcases List.mem_append.mp member with zero | digit
      · rw [List.eq_of_mem_replicate zero]
        rfl
      · exact each d digit

theorem isDecimal_scientific {digits : List Char} (filled : digits ≠ []) (each : ∀ d ∈ digits, d.isDigit = true)
    (place : Int) : IsDecimal (Binary64.scientific digits place) := by
  obtain ⟨d,more,rfl⟩ := List.exists_cons_of_ne_nil filled
  rw [List.forall_mem_cons] at each
  have single : ∀ c ∈ [d], c.isDigit = true := by simpa using each.1
  cases more with
  | nil => exact .exponent (by simp) single _
  | cons next more =>
    have both := IsDecimal.both (by simp) (by simp) single each.2 (place + (d :: next :: more).length - 1)
    simpa [Binary64.scientific] using both

/-- The text of a finite number in code has a point or an exponent. -/
theorem isDecimal_codeDigits (mantissa : Nat) (exponent : Int) :
    IsDecimal (Binary64.codeDigits mantissa exponent) := by
  unfold Binary64.codeDigits
  split
  · exact .point (List.cons_ne_nil '0' []) (List.cons_ne_nil '0' []) (by decide) (by decide)
  · generalize Binary64.shortest mantissa exponent = found
    obtain ⟨n,place⟩ := found
    have filled : Binary64.digitsOf n ≠ [] := Nat.toDigits_ne_nil
    have each : ∀ d ∈ Binary64.digitsOf n, d.isDigit = true :=
      fun d member => Nat.isDigit_of_mem_toDigits (by decide) (by decide) member
    dsimp only
    split
    · exact isDecimal_scientific filled each place
    · cases place with
      | ofNat k =>
        have ends : ".0".toList = '.' :: ['0'] := rfl
        rw [if_pos (show 0 ≤ Int.ofNat k from Int.natCast_nonneg k),ends]
        refine .point ?_ (List.cons_ne_nil '0' []) ?_ (by decide)
        · simp [Binary64.positional,filled]
        · intro d member
          rcases List.mem_append.mp member with digit | zero
          · exact each d digit
          · rw [List.eq_of_mem_replicate zero]
            rfl
      | negSucc k => exact isDecimal_positional filled each k

theorem reads_decimal (decimal : IsDecimal s) (parted : Parted rest) (read : Reads rest ts) :
    Reads (s ++ rest) (.literal (.ofList s) true :: ts) := by
  have start : ∀ {whole : List Char}, whole ≠ [] → (∀ d ∈ whole, d.isDigit = true) → ∀ after : List Char,
      ∀ d ∈ (whole ++ after).head?, d.isDigit = true := by
    intro whole begun digits after d first
    obtain ⟨c,more,rfl⟩ := List.exists_cons_of_ne_nil begun
    obtain rfl : c = d := Option.some.inj first
    exact digits c (by simp)
  cases decimal with
  | point begun filled digits others =>
    refine reads_number (start begun digits _) (by simp) ?_ read
    rw [List.append_assoc,List.cons_append,skipFloat_of_point digits filled others parted]
    rfl
  | exponent begun digits i =>
    refine reads_number (start begun digits _) (by simp) ?_ read
    rw [List.append_assoc,List.cons_append,skipFloat_of_exponent digits i parted]
    rfl
  | both begun filled digits others i =>
    refine reads_number (start begun digits _) (by simp) ?_ read
    rw [List.append_assoc,List.cons_append,List.append_assoc,List.cons_append,
      skipFloat_of_both digits filled others i parted]
    rfl

end Token

end Target

end MsgBindings
