import MsgBindings.Number.Integer

/-!
The texts whose reading overflows: a minus sign in front of a literal of the least value. Digits after
a base mark may have a minus sign of their own, so there are such literals in every base but ten
(`readInteger_eq_overflow`).
-/
namespace MsgBindings

/-- The literals, without a sign in front, of the least value: a base mark, a minus sign and the digits
    of its magnitude. -/
inductive IsLeast : List Char → Prop where
  | hexadecimal {mark : Char} {digits : List Char} (marked : mark = 'x' ∨ mark = 'X')
      (magnitude : natural? 16 digits = some leastInteger.natAbs) : IsLeast ('0' :: mark :: '-' :: digits)
  | binary {mark : Char} {digits : List Char} (marked : mark = 'b' ∨ mark = 'B')
      (magnitude : natural? 2 digits = some leastInteger.natAbs) : IsLeast ('0' :: mark :: '-' :: digits)
  | octal {digits : List Char} (magnitude : natural? 8 digits = some leastInteger.natAbs) :
      IsLeast ('0' :: '-' :: digits)

inductive NegatesLeast : List Char → Prop where
  | intro {text : List Char} (least : IsLeast text) : NegatesLeast ('-' :: text)

theorem leastInteger_neg : leastInteger < 0 := by decide

theorem not_least (n : Nat) : (n : Int) ≠ leastInteger := by
  have negative := leastInteger_neg
  omega

/-- Only a minus sign reads digits as the least value. -/
theorem signed?_eq_least {base : Nat} {text : List Char} :
    signed? base text = some leastInteger ↔
      ∃ digits, text = '-' :: digits ∧ natural? base digits = some leastInteger.natAbs := by
  have fits : fitsInteger leastInteger = true := by decide
  -- Without a minus sign the value is a natural number, and the least value is none.
  unfold signed?
  rw [Option.filter_eq_some_iff]
  simp only [fits,and_true]
  split
  · rename_i digits
    simp only [List.cons.injEq,true_and,exists_eq_left']
    cases natural? base digits with
    | none => simp
    | some n =>
      have negative := leastInteger_neg
      simp
      omega
  · rename_i digits
    cases natural? base digits <;> simp [not_least]
  · rename_i other _
    have absent : ¬ ∃ digits, text = '-' :: digits ∧ natural? base digits = some leastInteger.natAbs := by
      rintro ⟨digits,same,_⟩
      exact other digits same
    refine iff_of_false ?_ absent
    cases natural? base text <;> simp [not_least]

theorem unsignedLiteral?_eq_least {text : List Char} :
    unsignedLiteral? text = some leastInteger ↔ IsLeast text := by
  constructor
  · intro read
    unfold unsignedLiteral? at read
    split at read
    · obtain ⟨digits,rfl,magnitude⟩ := signed?_eq_least.mp read
      exact .hexadecimal (.inl rfl) magnitude
    · obtain ⟨digits,rfl,magnitude⟩ := signed?_eq_least.mp read
      exact .hexadecimal (.inr rfl) magnitude
    · obtain ⟨digits,rfl,magnitude⟩ := signed?_eq_least.mp read
      exact .binary (.inl rfl) magnitude
    · obtain ⟨digits,rfl,magnitude⟩ := signed?_eq_least.mp read
      exact .binary (.inr rfl) magnitude
    · obtain ⟨digits,same,magnitude⟩ := signed?_eq_least.mp read
      cases same
      exact .octal magnitude
    · obtain ⟨plain,_⟩ := Option.filter_eq_some_iff.mp read
      simp only [Option.map_eq_some_iff,Option.bind_eq_bind,Option.bind_eq_some_iff,Option.pure_def,
        Option.some.injEq] at plain
      obtain ⟨_,⟨n,_,rfl⟩,same⟩ := plain
      exact absurd same (not_least n)
  · intro least
    cases least with
    | hexadecimal marked magnitude =>
      rcases marked with rfl | rfl <;> exact signed?_eq_least.mpr ⟨_,rfl,magnitude⟩
    | binary marked magnitude =>
      rcases marked with rfl | rfl <;> exact signed?_eq_least.mpr ⟨_,rfl,magnitude⟩
    | octal magnitude => exact signed?_eq_least.mpr ⟨_,rfl,magnitude⟩

/-- Reading an integer overflows exactly on the texts that negate the least value. -/
theorem readInteger_eq_overflow {text : List Char} : readInteger text = .overflow ↔ NegatesLeast text := by
  have positive : ∀ {text : List Char},
      (unsignedLiteral? text).elim IntegerReading.malformed .value ≠ .overflow := by
    intro text
    cases unsignedLiteral? text <;> simp
  unfold readInteger
  split
  · rename_i rest
    have turned : (unsignedLiteral? rest).elim IntegerReading.malformed negated = .overflow ↔
        unsignedLiteral? rest = some leastInteger := by
      cases unsignedLiteral? rest with
      | none => simp
      | some v =>
        simp only [Option.elim_some,negated,Option.some.injEq]
        split <;> simp [*]
    rw [turned,unsignedLiteral?_eq_least]
    constructor
    · exact .intro
    · rintro ⟨least⟩
      exact least
  · simp only [positive,false_iff]
    rintro ⟨⟩
  · rename_i other _
    simp only [positive,false_iff]
    rintro ⟨⟩
    exact other _ rfl

end MsgBindings
