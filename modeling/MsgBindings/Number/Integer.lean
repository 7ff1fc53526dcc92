/-!
Integer literals: decimal, hexadecimal after `0x`, binary after `0b` and octal after a leading
zero, with a sign in front, and values of 128 bits with a sign. The digits after a base mark may
carry a sign of their own, which the sign in front multiplies. Turning the least value around
leaves the 128 bits; that outcome is kept apart from the texts that are no literal.
-/
namespace MsgBindings

/-- What reading an integer literal comes to. -/
inductive IntegerReading where
  /-- The text is no integer literal, or its value does not fit. -/
  | malformed
  /-- The text negates the least value, whose negation does not fit. -/
  | overflow
  | value (v : Int)
  deriving DecidableEq, Repr

/-- The least value of 128 bits with a sign. -/
def leastInteger : Int := -(Nat.pow 2 127)

def greatestInteger : Int := Nat.pow 2 127 - 1

/-- Whether a value fits into 128 bits with a sign. -/
def fitsInteger (v : Int) : Bool := leastInteger ≤ v && v ≤ greatestInteger

/-- The value of a digit, letters counting on from ten. -/
def digitValue? (c : Char) : Option Nat :=
  if c.isDigit then some (c.toNat - '0'.toNat)
  else if 'a' ≤ c ∧ c ≤ 'z' then some (c.toNat - 'a'.toNat + 10)
  else if 'A' ≤ c ∧ c ≤ 'Z' then some (c.toNat - 'A'.toNat + 10)
  else none

/-- The value of a digit below `base`. -/
def digitBelow? (base : Nat) (c : Char) : Option Nat := (digitValue? c).filter (· < base)

/-- The digits of a text that holds only digits below `base`. -/
def digits? (base : Nat) (text : List Char) : Option (List Nat) := text.mapM (digitBelow? base)

/-- The number with the given digits, the most significant first. -/
def ofDigits (base : Nat) (digits : List Nat) : Nat := digits.foldl (fun n d => n * base + d) 0

/-- The value of one or more digits below `base`. -/
def natural? (base : Nat) (text : List Char) : Option Nat :=
  if text.isEmpty then none else (digits? base text).map (ofDigits base)

/-- The value of one or more digits with or without a sign in front, if it fits. -/
def signed? (base : Nat) (text : List Char) : Option Int :=
  let v : Option Int :=
    match text with
    | '-' :: rest => (natural? base rest).map fun n => -(n : Int)
    | '+' :: rest => (natural? base rest).map fun n => (n : Int)
    | _ => (natural? base text).map fun n => (n : Int)
  v.filter fitsInteger

/-- The value of a literal without its sign in front. -/
def unsignedLiteral? : List Char → Option Int
  | '0' :: 'x' :: rest | '0' :: 'X' :: rest => signed? 16 rest
  | '0' :: 'b' :: rest | '0' :: 'B' :: rest => signed? 2 rest
  | '0' :: c :: rest => signed? 8 (c :: rest)
  | text => ((natural? 10 text).map fun n => (n : Int)).filter fitsInteger

/-- The value turned around, if that fits. -/
def negated (v : Int) : IntegerReading := if v = leastInteger then .overflow else .value (-v)

def readInteger (text : List Char) : IntegerReading :=
  match text with
  | '-' :: rest => (unsignedLiteral? rest).elim .malformed negated
  | '+' :: rest => (unsignedLiteral? rest).elim .malformed .value
  | _ => (unsignedLiteral? text).elim .malformed .value

/-- The greatest number that a size or a bound may be. -/
def greatestSize : Nat := Nat.pow 2 32 - 1

/-- A size or a bound: digits after at most a plus sign, of a value that fits into 32 bits. -/
def size? (text : List Char) : Option Nat :=
  let n :=
    match text with
    | '+' :: rest => natural? 10 rest
    | _ => natural? 10 text
  n.filter (· ≤ greatestSize)

end MsgBindings
