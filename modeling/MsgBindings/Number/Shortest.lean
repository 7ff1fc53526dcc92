import MsgBindings.Number.Binary64

/-!
The shortest decimal that reads back as a given floating-point number, and its text. The decimal
is the value's neighbour on the coarsest grid of powers of ten that has a point in the interval of
the reals which round to the number. Of two neighbours in the interval the nearer is taken, and
the upper one of two at equal distance.
-/
namespace MsgBindings.Binary64

/-- The reals around a number that round to it, in quarters of its last place. -/
structure Interval where
  low : Nat
  middle : Nat
  high : Nat
  /-- Whether the two ends belong to it. -/
  closed : Bool
  deriving Repr

/-- The interval that rounds to a number. Below a power of two the numbers lie twice as dense. -/
def interval (mantissa : Nat) (exponent : Int) : Interval where
  low := if mantissa = Nat.pow 2 52 ∧ leastExponent < exponent then 4 * mantissa - 1 else 4 * mantissa - 2
  middle := 4 * mantissa
  high := 4 * mantissa + 2
  closed := mantissa % 2 = 0

/-- A power with an exponent of either sign, as a numerator and a denominator. -/
def power (base : Nat) : Int → Nat × Nat
  | .ofNat n => (Nat.pow base n, 1)
  | .negSucc n => (1, Nat.pow base (n + 1))

/-- The point of the grid of `10 ^ place` that stands for a number, if the interval holds one.
    Both are measured in a common unit, in which `step` is the grid and `unit` a quarter of the
    number's last place. -/
def gridPoint? (i : Interval) (unit step : Nat) : Option Nat :=
  let inside (n : Nat) : Bool :=
    if i.closed then i.low * unit ≤ n * step && n * step ≤ i.high * unit
    else i.low * unit < n * step && n * step < i.high * unit
  let below := i.middle * unit / step
  match inside below, inside (below + 1) with
  | true, true =>
    if i.middle * unit - below * step < (below + 1) * step - i.middle * unit then some below
    else some (below + 1)
  | true, false => some below
  | false, true => some (below + 1)
  | false, false => none

/-- The point on the coarsest grid from `10 ^ place` down that stands for a number, with the
    exponent of the grid. -/
def coarsest (i : Interval) (exponent : Int) : (fuel : Nat) → (place : Int) → Nat × Int
  | 0, place => (i.middle / 4, place)
  | fuel + 1, place =>
    let (unit, unitPart) := power 2 (exponent - 2)
    let (step, stepPart) := power 10 place
    match gridPoint? i (unit * stepPart) (step * unitPart) with
    | some n => (n, place)
    | none => coarsest i exponent fuel (place - 1)

/-- The digits of the shortest decimal of a positive number, and the power of ten that they count.
    The search starts above the number and goes down by as many places as the longest decimal
    needs. -/
def shortest (mantissa : Nat) (exponent : Int) : Nat × Int :=
  coarsest (interval mantissa exponent) exponent 25
    (((mantissa.log2 : Int) + 1 + exponent) * 30103 / 100000 + 1)

def digitsOf (n : Nat) : List Char := Nat.toDigits 10 n

def signText (negative : Bool) : List Char := if negative then ['-'] else []

/-- A decimal written out, without an exponent and with no point after the last whole place. -/
def positional (digits : List Char) (place : Int) : List Char :=
  match place with
  | .ofNat n => digits ++ List.replicate n '0'
  | .negSucc n =>
    let fraction := n + 1
    if fraction < digits.length then
      digits.take (digits.length - fraction) ++ '.' :: digits.drop (digits.length - fraction)
    else '0' :: '.' :: List.replicate (fraction - digits.length) '0' ++ digits

/-- A decimal with one digit before the point and an exponent. -/
def scientific (digits : List Char) (place : Int) : List Char :=
  let mantissa :=
    match digits with
    | [] => []
    | [d] => [d]
    | d :: rest => d :: '.' :: rest
  mantissa ++ 'e' :: (toString (place + digits.length - 1)).toList

/-- The text of a number that is shown: the shortest decimal written out. -/
def plainText : Binary64 → String
  | nan => "NaN"
  | infinite negative => if negative then "-inf" else "inf"
  | finite negative mantissa exponent =>
    if mantissa = 0 then .ofList (signText negative ++ ['0'])
    else
      let (n, place) := shortest mantissa exponent
      .ofList (signText negative ++ positional (digitsOf n) place)

/-- The text of a finite number in generated code: the shortest decimal, with an exponent from
    `10 ^ 16` on and below `10 ^ -4`, and otherwise with at least one digit after the point. -/
def codeDigits (mantissa : Nat) (exponent : Int) : List Char :=
  if mantissa = 0 then "0.0".toList
  else
    let (n, place) := shortest mantissa exponent
    let digits := digitsOf n
    let magnitude := place + digits.length
    if 17 ≤ magnitude ∨ magnitude ≤ -4 then scientific digits place
    else if 0 ≤ place then positional digits place ++ ".0".toList
    else positional digits place

end MsgBindings.Binary64
