import MsgBindings.Number.Integer

/-!
Floating-point numbers of 64 bits as exact values, and the number nearest to a decimal. A finite
number is `mantissa * 2 ^ exponent`; it is held in the form with the greatest mantissa below
`2 ^ 53` that an exponent of at least -1074 allows. The nearest number is found from the exact
quotient of two naturals, halves going to the even mantissa.
-/
namespace MsgBindings

/-- A floating-point number of 64 bits. -/
inductive Binary64 where
  | nan
  | infinite (negative : Bool)
  | finite (negative : Bool) (mantissa : Nat) (exponent : Int)
  deriving DecidableEq, Repr

namespace Binary64

/-- The exponent of the numbers closest to zero. -/
def leastExponent : Int := -1074

/-- The exponent of the greatest numbers. -/
def greatestExponent : Int := 971

def zero (negative : Bool) : Binary64 := .finite negative 0 leastExponent

/-- The quotient of two naturals to the nearest natural, a half going to the even one. -/
def roundQuotient (numerator denominator : Nat) : Nat :=
  let q := numerator / denominator
  let r := numerator % denominator
  if denominator < 2 * r ∨ (denominator = 2 * r ∧ q % 2 = 1) then q + 1 else q

/-- The quotient of `numerator / denominator` by `2 ^ exponent`, as a numerator and a
    denominator. -/
def scaleDown (numerator denominator : Nat) (exponent : Int) : Nat × Nat :=
  match exponent with
  | .ofNat n => (numerator, denominator * Nat.pow 2 n)
  | .negSucc n => (numerator * Nat.pow 2 (n + 1), denominator)

/-- The exponent for a quotient: the least one from -1074 on with which the mantissa stays below
    `2 ^ 53`. -/
def exponentOf (numerator denominator : Nat) : Int :=
  let low : Int := max ((numerator.log2 : Int) - denominator.log2 - 53) leastExponent
  let (n, d) := scaleDown numerator denominator low
  if n / d < Nat.pow 2 53 then low else low + 1

/-- The number nearest to a positive quotient. -/
def ofQuotient (negative : Bool) (numerator denominator : Nat) : Binary64 :=
  let exponent := exponentOf numerator denominator
  let (n, d) := scaleDown numerator denominator exponent
  let mantissa := roundQuotient n d
  let (mantissa, exponent) :=
    if mantissa = Nat.pow 2 53 then (Nat.pow 2 52, exponent + 1) else (mantissa, exponent)
  if greatestExponent < exponent then .infinite negative else .finite negative mantissa exponent

/-- The number nearest to `digits * 10 ^ exponent`, where `length` digits are given without
    leading zeros. Decimals far outside of the range are settled by their magnitude alone. -/
def ofDecimal (negative : Bool) (digits length : Nat) (exponent : Int) : Binary64 :=
  if digits = 0 then zero negative
  else if 400 < (length : Int) + exponent then .infinite negative
  else if (length : Int) + exponent < -400 then zero negative
  else
    match exponent with
    | .ofNat n => ofQuotient negative (digits * Nat.pow 10 n) 1
    | .negSucc n => ofQuotient negative digits (Nat.pow 10 (n + 1))

/-- The 64 bits of a number: sign, exponent, mantissa. Of the many bits that are no number one
    pattern is chosen. -/
def toBits : Binary64 → Nat
  | nan => 0x7FF8 * Nat.pow 2 48
  | infinite negative => (if negative then Nat.pow 2 63 else 0) + 0x7FF * Nat.pow 2 52
  | finite negative mantissa exponent =>
    (if negative then Nat.pow 2 63 else 0) +
      (if mantissa < Nat.pow 2 52 then mantissa
       else (exponent - leastExponent + 1).toNat * Nat.pow 2 52 + (mantissa - Nat.pow 2 52))

/-- The digits at the start of a text and the rest. -/
def spanDigits (text : List Char) : List Char × List Char := text.span Char.isDigit

/-- The exponent part of a number, all of the text: nothing, or the mark, a sign and digits. -/
def exponentPart? : List Char → Option Int
  | [] => some 0
  | c :: rest =>
    if c = 'e' ∨ c = 'E' then
      match rest with
      | '-' :: digits => (natural? 10 digits).map fun n => -(n : Int)
      | '+' :: digits => (natural? 10 digits).map fun n => (n : Int)
      | digits => (natural? 10 digits).map fun n => (n : Int)
    else none

/-- Reads a number without a sign: digits with at most one point before, between or after them,
    and an exponent part. -/
def readMagnitude (negative : Bool) (text : List Char) : Option Binary64 :=
  let (whole, rest) := spanDigits text
  let (fraction, rest) :=
    match rest with
    | '.' :: rest => spanDigits rest
    | rest => ([], rest)
  let digits := whole ++ fraction
  if digits.isEmpty then none
  else
    (exponentPart? rest).map fun exponent =>
      let significant := digits.dropWhile (· == '0')
      ofDecimal negative (ofDigits 10 (significant.map fun c => c.toNat - '0'.toNat))
        significant.length (exponent - fraction.length)

/-- Reads a number without a sign, or the words for infinity and for what is no number. -/
def readUnsigned (negative : Bool) (text : List Char) : Option Binary64 :=
  let word := text.map Char.toLower
  if word = "inf".toList ∨ word = "infinity".toList then some (.infinite negative)
  else if word = "nan".toList then some .nan
  else readMagnitude negative text

/-- Reads a floating-point number, the nearest one to the decimal that the text writes. -/
def read? : List Char → Option Binary64
  | '-' :: rest => readUnsigned true rest
  | '+' :: rest => readUnsigned false rest
  | text => readUnsigned false text

end Binary64

end MsgBindings
