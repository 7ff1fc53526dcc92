import MsgBindings.Proofs.LeastInteger
import MsgBindings.Proofs.Numerals

/-!
Which texts are read as integers. An integer literal is a sign or none, and then decimal digits or the digits of another
base behind its mark (`IsIntegerLiteral`). The literals are read as their values, but for the least integer, and besides
them texts with a second sign, which stands behind the mark of the base (`readInteger_eq_value`): the digits there are
read together with a sign of their own, and the sign in front is applied afterwards to a value that must fit by itself.
-/
namespace MsgBindings

variable {text : List Char} {v : Int}

/-- A sign in front of a number, perhaps none, and the factor that it stands for. -/
inductive IsSign : List Char → Int → Prop where
  | none : IsSign [] 1
  | plus : IsSign ['+'] 1
  | minus : IsSign ['-'] (-1)

/-- The mark of a base other than ten. -/
inductive IsBaseMark : List Char → Nat → Prop where
  | hexadecimal {x : Char} (mark : x = 'x' ∨ x = 'X') : IsBaseMark ['0',x] 16
  | binary {b : Char} (mark : b = 'b' ∨ b = 'B') : IsBaseMark ['0',b] 2
  | octal : IsBaseMark ['0'] 8

/-- A literal without a sign: digits of a base behind its mark, or decimal digits. Only zero is written in decimal
    digits with a leading zero. -/
inductive IsMagnitude : List Char → Nat → Prop where
  | marked {mark digits : List Char} {base n : Nat} (marks : IsBaseMark mark base) (numeral : IsNumeral base digits n) :
      IsMagnitude (mark ++ digits) n
  | decimal {digits : List Char} {n : Nat} (numeral : IsNumeral 10 digits n)
      (plain : digits.head? = some '0' → digits = ['0']) : IsMagnitude digits n

/-- An integer literal of 128 bits: a sign or none, and a literal without a sign. -/
inductive IsIntegerLiteral (text : List Char) (v : Int) : Prop where
  | intro {sign digits : List Char} {factor : Int} {n : Nat} (signed : IsSign sign factor)
      (magnitude : IsMagnitude digits n) (split : text = sign ++ digits) (value : v = factor * n)
      (fits : fitsInteger v = true)

/-- A text with a second sign, behind the mark of a base, where the value fits without the first sign and with it. -/
inductive IsTwiceSigned (text : List Char) (v : Int) : Prop where
  | intro {outer mark inner digits : List Char} {factor factor' : Int} {base n : Nat} (first : IsSign outer factor)
      (marks : IsBaseMark mark base) (second : IsSign inner factor') (again : inner ≠ [])
      (numeral : IsNumeral base digits n) (split : text = outer ++ (mark ++ (inner ++ digits)))
      (fits : fitsInteger (factor' * n) = true) (value : v = factor * (factor' * n)) (whole : fitsInteger v = true)

/-! ### Signs -/

def isSignChar (c : Char) : Bool := c == '+' || c == '-'

theorem fitsInteger_iff : fitsInteger v = true ↔ leastInteger ≤ v ∧ v ≤ greatestInteger := by
  simp [fitsInteger]

theorem greatestInteger_eq : greatestInteger = -leastInteger - 1 := by decide

/-- No digit is a sign. -/
theorem isSignChar_of_numeral {base n : Nat} {digits : List Char} (small : base ≤ 16)
    (numeral : IsNumeral base digits n) : ∀ c ∈ digits, isSignChar c = false := by
  intro c member
  obtain ⟨_,ds,each,_⟩ := numeral
  obtain ⟨d,_,below,same⟩ := exists_of_mem_right each.flip member
  have all : ∀ d < 16, isSignChar d.digitChar = false ∧ isSignChar d.digitChar.toUpper = false := by decide
  rcases same with rfl | rfl
  · exact (all d (by omega)).1
  · exact (all d (by omega)).2

theorem IsBaseMark.facts {mark : List Char} {base : Nat} (marks : IsBaseMark mark base) :
    base ≤ 16 ∧ ∀ c ∈ mark, isSignChar c = false := by
  cases marks with
  | hexadecimal mark => rcases mark with rfl | rfl <;> decide
  | binary mark => rcases mark with rfl | rfl <;> decide
  | octal => decide

theorem isSignChar_of_magnitude {digits : List Char} {n : Nat} (magnitude : IsMagnitude digits n) :
    ∀ c ∈ digits, isSignChar c = false := by
  cases magnitude with
  | decimal numeral plain => exact isSignChar_of_numeral (by decide) numeral
  | marked marks numeral =>
    obtain ⟨small,plain⟩ := marks.facts
    intro c member
    rcases List.mem_append.mp member with front | behind
    · exact plain c front
    · exact isSignChar_of_numeral small numeral c behind

/-- A literal has no sign behind its first character. -/
theorem IsIntegerLiteral.tail (literal : IsIntegerLiteral text v) : ∀ c ∈ text.tail, isSignChar c = false := by
  obtain ⟨signed,magnitude,rfl,_,_⟩ := literal
  have plain := isSignChar_of_magnitude magnitude
  intro c member
  cases signed with
  | none => exact plain c (List.mem_of_mem_tail member)
  | plus => exact plain c member
  | minus => exact plain c member

/-- A text with two signs is no literal. -/
theorem IsTwiceSigned.not_literal {w : Int} (twice : IsTwiceSigned text w) : ¬ IsIntegerLiteral text v := by
  intro literal
  have plain := literal.tail
  obtain ⟨first,marks,second,again,_,rfl,_,_,_⟩ := twice
  cases second with
  | none => exact again rfl
  | plus =>
    have inside := plain '+' (by cases first <;> cases marks <;> simp)
    cases inside
  | minus =>
    have inside := plain '-' (by cases first <;> cases marks <;> simp)
    cases inside

/-! ### What is read -/

section

variable {sign rest : List Char} {factor : Int}

/-- Every text is a sign or none and what follows it. Where there is none the text does not begin with one. -/
theorem exists_sign (text : List Char) :
    ∃ sign factor rest, IsSign sign factor ∧ text = sign ++ rest ∧
      (sign = [] → ∀ c ∈ rest.head?, isSignChar c = false) := by
  cases text with
  | nil => exact ⟨[],1,[],.none,rfl,by simp⟩
  | cons c rest =>
    by_cases minus : c = '-'
    · subst minus
      exact ⟨['-'],-1,rest,.minus,rfl,by simp⟩
    · by_cases plus : c = '+'
      · subst plus
        exact ⟨['+'],1,rest,.plus,rfl,by simp⟩
      · exact ⟨[],1,c :: rest,.none,rfl,by simp [isSignChar,minus,plus]⟩

theorem signed?_of_sign (base : Nat) (signs : IsSign sign factor)
    (plain : sign = [] → ∀ c ∈ rest.head?, isSignChar c = false) :
    signed? base (sign ++ rest) = ((natural? base rest).map fun n : Nat => factor * (n : Int)).filter fitsInteger := by
  cases signs with
  | plus => cases number : natural? base rest <;> simp [signed?,number]
  | minus => cases number : natural? base rest <;> simp [signed?,number]
  | none =>
    cases rest with
    | nil => simp [signed?,natural?]
    | cons c rest =>
      obtain ⟨plus,minus⟩ : c ≠ '+' ∧ c ≠ '-' := by simpa [isSignChar] using plain rfl c rfl
      cases number : natural? base (c :: rest) <;> simp [signed?,plus,minus,number]

/-- What is read behind the mark of a base: a numeral behind a sign or none, if its value fits. -/
theorem signed?_eq_some {base : Nat} {i : Int} (small : base ≤ 16) :
    signed? base text = some i ↔ ∃ sign factor digits n, IsSign sign factor ∧ IsNumeral base digits n ∧
      text = sign ++ digits ∧ i = factor * n ∧ fitsInteger i = true := by
  have value : ∀ (factor : Int) (digits : List Char),
      ((natural? base digits).map fun n : Nat => factor * (n : Int)).filter fitsInteger = some i ↔
        ∃ n, IsNumeral base digits n ∧ i = factor * n ∧ fitsInteger i = true := by
    intro factor digits
    simp only [Option.filter_eq_some_iff,Option.map_eq_some_iff,natural?_eq_some small]
    constructor
    · rintro ⟨⟨n,numeral,rfl⟩,fits⟩
      exact ⟨n,numeral,rfl,fits⟩
    · rintro ⟨n,numeral,rfl,fits⟩
      exact ⟨⟨n,numeral,rfl⟩,fits⟩
  constructor
  · intro read
    obtain ⟨sign,factor,rest,signs,rfl,plain⟩ := exists_sign text
    rw [signed?_of_sign base signs plain,value] at read
    obtain ⟨n,numeral,rfl,fits⟩ := read
    exact ⟨sign,factor,rest,n,signs,numeral,rfl,rfl,fits⟩
  · rintro ⟨sign,factor,digits,n,signs,numeral,rfl,rfl,fits⟩
    have plain : ∀ c ∈ digits.head?, isSignChar c = false := fun c first =>
      isSignChar_of_numeral small numeral c (List.mem_of_mem_head? first)
    rw [signed?_of_sign base signs fun _ => plain,value]
    exact ⟨n,numeral,rfl,fits⟩

/-- The literals without a sign in front: behind the mark of a base they may have one. -/
inductive IsUnsigned (text : List Char) (i : Int) : Prop where
  | marked {mark sign digits : List Char} {factor : Int} {base n : Nat} (marks : IsBaseMark mark base)
      (signs : IsSign sign factor) (numeral : IsNumeral base digits n) (split : text = mark ++ (sign ++ digits))
      (value : i = factor * n) (fits : fitsInteger i = true)
  | decimal {n : Nat} (numeral : IsNumeral 10 text n) (plain : text.head? = some '0' → text = ['0']) (value : i = n)
      (fits : fitsInteger i = true)

theorem isUnsigned_of_signed? {mark : List Char} {base : Nat} {i : Int} (marks : IsBaseMark mark base)
    (read : signed? base text = some i) : IsUnsigned (mark ++ text) i := by
  obtain ⟨sign,factor,digits,n,signs,numeral,rfl,value,fits⟩ := (signed?_eq_some marks.facts.1).mp read
  exact .marked marks signs numeral rfl value fits

/-- A numeral to the base eight, behind a sign or none, begins with no letter that marks another base. -/
theorem begins_of_octal {digits : List Char} {n : Nat} (signs : IsSign sign factor) (numeral : IsNumeral 8 digits n) :
    ∃ c more, sign ++ digits = c :: more ∧ c ∉ ['x','X','b','B'] := by
  obtain ⟨filled,_,each,_⟩ := numeral
  cases signs with
  | plus => exact ⟨'+',digits,rfl,by decide⟩
  | minus => exact ⟨'-',digits,rfl,by decide⟩
  | none =>
    cases each with
    | nil => exact absurd rfl filled
    | @cons c d _ _ digit _ =>
      have all : ∀ d < 8, d.digitChar ∉ ['x','X','b','B'] ∧ d.digitChar.toUpper ∉ ['x','X','b','B'] := by decide
      refine ⟨c,_,rfl,?_⟩
      obtain ⟨below,rfl | rfl⟩ := digit
      · exact (all d below).1
      · exact (all d below).2

/-- Behind a zero there is a numeral to the base eight, if there is no letter that marks another base. -/
theorem unsignedLiteral?_octal {c : Char} (other : c ∉ ['x','X','b','B']) :
    unsignedLiteral? ('0' :: c :: text) = signed? 8 (c :: text) := by
  unfold unsignedLiteral?
  split <;> simp_all

/-- Without another digit behind a zero in front the digits are decimal. -/
theorem unsignedLiteral?_decimal (plain : text.head? = some '0' → text = ['0']) :
    unsignedLiteral? text = ((natural? 10 text).map fun n : Nat => (n : Int)).filter fitsInteger := by
  have single : ∀ c rest, text ≠ '0' :: c :: rest := by
    rintro c rest rfl
    simpa using plain rfl
  unfold unsignedLiteral?
  split
  · exact absurd rfl (single _ _)
  · exact absurd rfl (single _ _)
  · exact absurd rfl (single _ _)
  · exact absurd rfl (single _ _)
  · exact absurd rfl (single _ _)
  · cases number : natural? 10 text <;> simp

theorem unsignedLiteral?_eq_some {i : Int} : unsignedLiteral? text = some i ↔ IsUnsigned text i := by
  constructor
  · intro read
    by_cases plain : text.head? = some '0' → text = ['0']
    · rw [unsignedLiteral?_decimal plain,Option.filter_eq_some_iff,Option.map_eq_some_iff] at read
      obtain ⟨⟨n,digits,rfl⟩,fits⟩ := read
      exact .decimal ((natural?_eq_some (by decide)).mp digits) plain rfl fits
    · obtain ⟨zero,more⟩ := Classical.not_imp.mp plain
      obtain ⟨rest,rfl⟩ := List.head?_eq_some_iff.mp zero
      obtain ⟨c,rest,rfl⟩ := List.exists_cons_of_ne_nil (l := rest) (by rintro rfl; exact more rfl)
      by_cases letter : c ∈ ['x','X','b','B']
      · simp only [List.mem_cons,List.not_mem_nil,or_false] at letter
        rcases letter with rfl | rfl | rfl | rfl
        · exact isUnsigned_of_signed? (.hexadecimal (.inl rfl)) read
        · exact isUnsigned_of_signed? (.hexadecimal (.inr rfl)) read
        · exact isUnsigned_of_signed? (.binary (.inl rfl)) read
        · exact isUnsigned_of_signed? (.binary (.inr rfl)) read
      · rw [unsignedLiteral?_octal letter] at read
        exact isUnsigned_of_signed? .octal read
  · intro literal
    cases literal with
    | decimal numeral plain value fits =>
      rw [unsignedLiteral?_decimal plain,(natural?_eq_some (by decide)).mpr numeral]
      subst value
      simpa using fits
    | @marked mark sign digits factor base n marks signs numeral split value fits =>
      have read := (signed?_eq_some (i := i) marks.facts.1).mpr ⟨sign,factor,digits,n,signs,numeral,rfl,value,fits⟩
      subst split
      cases marks with
      | hexadecimal mark => rcases mark with rfl | rfl <;> exact read
      | binary mark => rcases mark with rfl | rfl <;> exact read
      | octal =>
        obtain ⟨c,more,chars,other⟩ := begins_of_octal signs numeral
        rw [chars] at read ⊢
        exact (unsignedLiteral?_octal other).trans read

theorem IsUnsigned.fits {i : Int} (literal : IsUnsigned text i) : fitsInteger i = true := by
  cases literal <;> assumption

/-- A literal without a sign in front begins with no sign. -/
theorem IsUnsigned.head {i : Int} (literal : IsUnsigned text i) : ∀ c ∈ text.head?, isSignChar c = false := by
  intro c first
  cases literal with
  | decimal numeral plain value fits =>
    exact isSignChar_of_numeral (by decide) numeral c (List.mem_of_mem_head? first)
  | @marked mark _ _ _ _ _ marks signs numeral split value fits =>
    obtain ⟨_,plain⟩ := marks.facts
    have filled : mark ≠ [] := by cases marks <;> simp
    subst split
    rw [List.head?_append_of_ne_nil _ filled] at first
    exact plain c (List.mem_of_mem_head? first)

/-- The value of a number with a sign fits and is not the least one exactly if the number fits without the sign. -/
theorem fitsInteger_of_sign (signs : IsSign sign factor) (n : Nat) :
    fitsInteger (n : Int) = true ↔ fitsInteger (factor * n) = true ∧ factor * n ≠ leastInteger := by
  have low := leastInteger_neg
  have high := greatestInteger_eq
  rw [fitsInteger_iff,fitsInteger_iff]
  cases signs <;> omega

theorem isUnsigned_of_magnitude {digits : List Char} {n : Nat} (magnitude : IsMagnitude digits n)
    (fits : fitsInteger (n : Int) = true) : IsUnsigned digits n := by
  cases magnitude with
  | marked marks numeral => exact .marked marks .none numeral rfl (by simp) fits
  | decimal numeral plain => exact .decimal numeral plain rfl fits

/-- A literal without a sign in front is one without any sign, or has one behind the mark of its base. -/
theorem IsUnsigned.magnitude_or_sign {i : Int} (literal : IsUnsigned text i) :
    (∃ n : Nat, IsMagnitude text n ∧ i = n) ∨
      ∃ mark inner digits factor base, ∃ n : Nat, IsBaseMark mark base ∧ IsSign inner factor ∧ inner ≠ [] ∧
        IsNumeral base digits n ∧ text = mark ++ (inner ++ digits) ∧ i = factor * n := by
  cases literal with
  | @decimal n numeral plain value fits => exact .inl ⟨n,.decimal numeral plain,value⟩
  | @marked mark inner digits factor base n marks signs numeral split value fits =>
    by_cases single : inner = []
    · subst single
      cases signs
      subst split
      exact .inl ⟨n,.marked marks numeral,by simpa using value⟩
    · exact .inr ⟨mark,inner,digits,factor,base,n,marks,signs,single,numeral,split,value⟩

theorem readInteger_of_sign (signs : IsSign sign factor)
    (plain : sign = [] → ∀ c ∈ rest.head?, isSignChar c = false) :
    readInteger (sign ++ rest) = .value v ↔ ∃ i, IsUnsigned rest i ∧ v = factor * i ∧ fitsInteger v = true := by
  have kept : (unsignedLiteral? rest).elim IntegerReading.malformed .value = .value v ↔ IsUnsigned rest v := by
    rw [← unsignedLiteral?_eq_some]
    cases unsignedLiteral? rest <;> simp
  have turned : (unsignedLiteral? rest).elim IntegerReading.malformed negated = .value v ↔
      ∃ i, IsUnsigned rest i ∧ i ≠ leastInteger ∧ -i = v := by
    simp only [← unsignedLiteral?_eq_some]
    cases unsignedLiteral? rest with
    | none => simp
    | some i =>
      simp only [Option.elim_some,negated,Option.some.injEq,exists_eq_left']
      split <;> simp [*]
  have own : IsUnsigned rest v ↔ ∃ i, IsUnsigned rest i ∧ v = 1 * i ∧ fitsInteger v = true := by
    constructor
    · intro literal
      exact ⟨v,literal,by simp,literal.fits⟩
    · rintro ⟨i,literal,rfl,_⟩
      simpa using literal
  cases signs with
  | plus => exact kept.trans own
  | minus =>
    refine turned.trans (exists_congr fun i => and_congr_right fun literal => ?_)
    have inside := literal.fits
    have low := leastInteger_neg
    have high := greatestInteger_eq
    rw [fitsInteger_iff] at inside ⊢
    omega
  | none =>
    refine Iff.trans ?_ (kept.trans own)
    cases rest with
    | nil => exact Iff.rfl
    | cons c rest =>
      obtain ⟨plus,minus⟩ : c ≠ '+' ∧ c ≠ '-' := by simpa [isSignChar] using plain rfl c rfl
      simp [readInteger,plus,minus]

theorem readInteger_eq_value :
    readInteger text = .value v ↔ IsIntegerLiteral text v ∧ v ≠ leastInteger ∨ IsTwiceSigned text v := by
  constructor
  · intro read
    obtain ⟨sign,factor,rest,signs,rfl,plain⟩ := exists_sign text
    obtain ⟨i,literal,rfl,whole⟩ := (readInteger_of_sign signs plain).mp read
    have fits := literal.fits
    rcases literal.magnitude_or_sign with
      ⟨n,magnitude,rfl⟩ | ⟨mark,inner,digits,factor',base,n,marks,second,again,numeral,rfl,rfl⟩
    · obtain ⟨_,other⟩ := (fitsInteger_of_sign signs n).mp fits
      exact .inl ⟨⟨signs,magnitude,rfl,rfl,whole⟩,other⟩
    · exact .inr ⟨signs,marks,second,again,numeral,rfl,fits,rfl,whole⟩
  · rintro (⟨⟨signs,magnitude,rfl,rfl,fits⟩,other⟩ | ⟨first,marks,second,again,numeral,rfl,fits,rfl,whole⟩)
    · have literal := isUnsigned_of_magnitude magnitude ((fitsInteger_of_sign signs _).mpr ⟨fits,other⟩)
      exact (readInteger_of_sign signs fun _ => literal.head).mpr ⟨_,literal,rfl,fits⟩
    · have literal : IsUnsigned _ _ := .marked marks second numeral rfl rfl fits
      exact (readInteger_of_sign first fun _ => literal.head).mpr ⟨_,literal,rfl,whole⟩

end

/-- What is read of a text as an integer. It is the value of the literal that the text is, unless that is the least
    integer, or else the value of a text with a second sign behind the mark of the base. So the texts of which exactly
    the literals are read are those that are neither a literal of the least integer nor have a second sign. -/
theorem readInteger_of_literals (text : List Char) :
    (∀ v, readInteger text = .value v ↔ IsIntegerLiteral text v ∧ v ≠ leastInteger ∨ IsTwiceSigned text v) ∧
    ((∀ v, readInteger text = .value v ↔ IsIntegerLiteral text v) ↔
      ¬ IsIntegerLiteral text leastInteger ∧ ∀ v, ¬ IsTwiceSigned text v) := by
  refine ⟨fun v => readInteger_eq_value,?_⟩
  simp only [readInteger_eq_value]
  constructor
  · intro same
    have single : ∀ v, ¬ IsTwiceSigned text v := fun v twice => twice.not_literal ((same v).mp (.inr twice))
    refine ⟨fun least => ?_,single⟩
    rcases (same leastInteger).mpr least with ⟨_,other⟩ | twice
    · exact other rfl
    · exact single _ twice
  · rintro ⟨other,single⟩ v
    constructor
    · rintro (⟨literal,_⟩ | twice)
      · exact literal
      · exact absurd twice (single v)
    · intro literal
      refine .inl ⟨literal,?_⟩
      rintro rfl
      exact other literal

/-- A text with a second sign is read, and a literal of the least integer is not. -/
theorem readInteger_of_second_sign :
    let least := "-170141183460469231731687303715884105728".toList
    readInteger "0x-5".toList = .value (-5) ∧ ¬ IsIntegerLiteral "0x-5".toList (-5) ∧
      readInteger least = .malformed ∧ IsIntegerLiteral least leastInteger := by
  intro least
  have five : IsNumeral 16 ['5'] 5 := (natural?_eq_some (by decide)).mp (by decide)
  have twice : IsTwiceSigned "0x-5".toList (-5) :=
    ⟨.none,.hexadecimal (.inl rfl),.minus,by decide,five,by decide,by decide,by decide,by decide⟩
  have digits : IsNumeral 10 least.tail (2 ^ 127) := (natural?_eq_some (by decide)).mp (by decide +kernel)
  have literal : IsIntegerLiteral least leastInteger :=
    ⟨.minus,.decimal digits (by decide +kernel),by decide +kernel,by decide +kernel,by decide +kernel⟩
  exact ⟨by decide +kernel,twice.not_literal,by decide +kernel,literal⟩

end MsgBindings
