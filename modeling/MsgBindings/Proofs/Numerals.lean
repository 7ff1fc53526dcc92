import Mathlib.Data.List.Induction
import Mathlib.Data.Nat.Digits.Defs
import MsgBindings.Number.Integer
import MsgBindings.Proofs.Results
import MsgBindings.Proofs.Segments

/-!
Numerals: one or more digits of a base, the most significant first, and the number that they stand for. What is read
as a number without a sign is exactly a numeral (`natural?_eq_some`), and the digits that a number is shown with are a
numeral of it (`isNumeral_toDigits`).
-/
namespace MsgBindings

variable {base n : Nat} {c : Char} {text : List Char}

/-- A character as the digit of a value below the base. Letters, small or capital, stand for the values from ten on. -/
def IsDigitOf (base : Nat) (c : Char) (d : Nat) : Prop := d < base ∧ (c = d.digitChar ∨ c = d.digitChar.toUpper)

def IsNumeral (base : Nat) (text : List Char) (n : Nat) : Prop :=
  text ≠ [] ∧ ∃ digits, List.Forall₂ (IsDigitOf base) text digits ∧ n = Nat.ofDigits base digits.reverse

theorem digitValue?_digitChar {d : Nat} (small : d < 16) :
    digitValue? d.digitChar = some d ∧ digitValue? d.digitChar.toUpper = some d := by
  have all : ∀ d < 16, digitValue? d.digitChar = some d ∧ digitValue? d.digitChar.toUpper = some d := by decide
  exact all d small

theorem toNat_of_between {low high : Char} (inside : low ≤ c ∧ c ≤ high) :
    low.toNat ≤ c.toNat ∧ c.toNat ≤ high.toNat := by
  simpa [Char.le_def,UInt32.le_iff_toNat_le] using inside

/-- A character is the small or the capital digit of its value. -/
theorem digitChar_of_digitValue? {d : Nat} (small : d < 16) (valued : digitValue? c = some d) :
    c = d.digitChar ∨ c = d.digitChar.toUpper := by
  -- The value says which character it is, in each of the three ranges.
  have digit : ∀ d < 10, Char.ofNat (d + 48) = d.digitChar := by decide
  have letter : ∀ d < 16, 10 ≤ d → Char.ofNat (d + 87) = d.digitChar ∧ Char.ofNat (d + 55) = d.digitChar.toUpper := by
    decide
  have zero : '0'.toNat = 48 := rfl
  rw [← Char.ofNat_toNat c]
  unfold digitValue? at valued
  split_ifs at valued with number lower upper
  · obtain ⟨low,high⟩ := Text.isDigit_iff.mp number
    cases valued
    left
    rw [← digit _ (by omega)]
    congr 1
    omega
  · obtain ⟨low,high⟩ := toNat_of_between lower
    cases valued
    have a : 'a'.toNat = 97 := rfl
    rw [← (letter _ small (by omega)).1]
    left
    congr 1
    omega
  · obtain ⟨low,high⟩ := toNat_of_between upper
    cases valued
    have a : 'A'.toNat = 65 := rfl
    rw [← (letter _ small (by omega)).2]
    right
    congr 1
    omega

theorem digitBelow?_eq_some {d : Nat} (small : base ≤ 16) : digitBelow? base c = some d ↔ IsDigitOf base c d := by
  unfold digitBelow? IsDigitOf
  rw [Option.filter_eq_some_iff,decide_eq_true_eq,and_comm]
  refine and_congr_right fun below => ⟨digitChar_of_digitValue? (by omega),?_⟩
  rintro (rfl | rfl)
  · exact (digitValue?_digitChar (by omega)).1
  · exact (digitValue?_digitChar (by omega)).2

theorem ofDigits_append (base : Nat) (digits : List Nat) (d : Nat) :
    ofDigits base (digits ++ [d]) = ofDigits base digits * base + d := by
  simp [ofDigits]

theorem ofDigits_eq (base : Nat) (digits : List Nat) : ofDigits base digits = Nat.ofDigits base digits.reverse := by
  induction digits using List.reverseRecOn with
  | nil => rfl
  | append_singleton digits d ih =>
    rw [ofDigits_append,ih,List.reverse_append,List.reverse_singleton,List.singleton_append,Nat.ofDigits_cons]
    exact (Nat.add_comm _ _).trans (congrArg (d + ·) (Nat.mul_comm _ base))

/-- A text is read as a number exactly if it is a numeral. -/
theorem natural?_eq_some (small : base ≤ 16) : natural? base text = some n ↔ IsNumeral base text n := by
  unfold natural? IsNumeral digits?
  by_cases empty : text = []
  · simp [empty]
  · rw [if_neg (by simpa using empty),Option.map_eq_some_iff]
    simp only [mapM_eq_some,digitBelow?_eq_some small,ofDigits_eq,ne_eq,empty,not_false_eq_true,true_and,eq_comm]

/-- The digits that a number is shown with are a numeral of it. -/
theorem isNumeral_toDigits (begun : 1 < base) (small : base ≤ 16) (n : Nat) :
    IsNumeral base (Nat.toDigits base n) n := by
  refine ⟨Nat.toDigits_ne_nil,?_⟩
  induction n using Nat.strongRecOn with
  | ind n ih =>
    by_cases single : n < base
    · rw [Nat.toDigits_of_lt_base single]
      exact ⟨[n],.cons ⟨single,.inl rfl⟩ .nil,by simp⟩
    · obtain ⟨digits,each,value⟩ := ih (n / base) (Nat.div_lt_self (by omega) begun)
      have last : IsDigitOf base (n % base).digitChar (n % base) := ⟨Nat.mod_lt n (by omega),.inl rfl⟩
      rw [Nat.toDigits_of_base_le begun (by omega)]
      refine ⟨digits ++ [n % base],List.rel_append each (.cons last .nil),?_⟩
      rw [List.reverse_append,List.reverse_singleton,List.singleton_append,Nat.ofDigits_cons,← value]
      exact (Nat.mod_add_div n base).symm

theorem digit_of_mem_toString {n : Nat} : ∀ c ∈ (toString n).toList, c.isDigit = true := by
  intro c member
  exact Nat.isDigit_of_mem_toDigits (b := 10) (by decide) (by decide) (by simpa using member)

end MsgBindings
