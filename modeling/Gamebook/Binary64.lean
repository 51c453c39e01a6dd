/-! Binary64 numbers by their exact value, with rounding to nearest, a half going to even. -/

namespace Gamebook

/-- The nearest natural number to a quotient, a half going to the even neighbour. -/
def roundHalfEven (num den : Nat) : Nat :=
  let whole := num / den
  let twice := 2 * (num % den)
  if twice < den then whole
  else if den < twice then whole + 1
  else if whole % 2 = 0 then whole else whole + 1

/-- A binary64 number; the finite value is `mantissa · 2 ^ exponent` with its sign. -/
inductive Binary64 where
  | nan
  | infinite (negative : Bool)
  | finite (negative : Bool) (mantissa : Nat) (exponent : Int)
  deriving DecidableEq, Repr, Inhabited

namespace Binary64

/-- The exponent of the smallest steps, those between zero and the first normal number. -/
def leastExponent : Int := -1074

/-- The exponent of the largest steps. -/
def greatestExponent : Int := 971

/-- Mantissas lie below this power of two. -/
def mantissaLimit : Nat := Nat.pow 2 53

/-- Zero with a sign. -/
def zero (negative : Bool) : Binary64 := .finite negative 0 leastExponent

/-- A quotient measured in steps of `2 ^ exponent`, as a new quotient. -/
def inSteps (num den : Nat) : Int → Nat × Nat
  | .ofNat n => (num, den * Nat.pow 2 n)
  | .negSucc n => (num * Nat.pow 2 (n + 1), den)

/-- The exponent of the steps around a positive quotient. -/
def stepExponent (num den : Nat) : Int :=
  -- The quotient has one of two bit lengths, so the smaller step is tried first.
  let low : Int := (num.log2 : Int) - (den.log2 : Int) - 53
  let (n, d) := inSteps num den low
  max leastExponent (if n / d < mantissaLimit then low else low + 1)

/-- A rounded mantissa as a number, with one bit carried over and overflow to infinity. -/
def ofRounded (negative : Bool) (mantissa : Nat) (exponent : Int) : Binary64 :=
  let (m, e) := if mantissa = mantissaLimit then (mantissaLimit / 2, exponent + 1)
    else (mantissa, exponent)
  if greatestExponent < e then .infinite negative else .finite negative m e

/-- The binary64 number nearest to a quotient of natural numbers. -/
def ofRatio (negative : Bool) (num den : Nat) : Binary64 :=
  if num = 0 then zero negative
  else
    let e := stepExponent num den
    let (n, d) := inSteps num den e
    ofRounded negative (roundHalfEven n d) e

/-- The binary64 number nearest to an integer. -/
def ofInt (value : Int) : Binary64 := ofRatio (value < 0) value.natAbs 1

/-- The binary64 number nearest to `coefficient · 10 ^ exponent`. -/
def ofDecimal (negative : Bool) (coefficient : Nat) (exponent : Int) : Binary64 :=
  if coefficient = 0 then zero negative
  else
    -- Far outside the range the answer is known without writing the power of ten out.
    let place : Int := (Nat.repr coefficient).length + exponent
    if 400 < place then .infinite negative
    else if place < -400 then zero negative
    else match exponent with
      | .ofNat n => ofRatio negative (coefficient * Nat.pow 10 n) 1
      | .negSucc n => ofRatio negative coefficient (Nat.pow 10 (n + 1))

/-- The integer part toward zero; there is none of an infinity or of not-a-number. -/
def truncate? : Binary64 → Option Int
  | .finite negative mantissa exponent =>
    let magnitude : Nat := match exponent with
      | .ofNat n => mantissa * Nat.pow 2 n
      | .negSucc n => mantissa / Nat.pow 2 (n + 1)
    some (if negative then -(magnitude : Int) else magnitude)
  | _ => none

/-- Whether a number is finite and has no fractional part. -/
def isWhole : Binary64 → Bool
  | .finite _ mantissa exponent => match exponent with
    | .ofNat _ => true
    | .negSucc n => mantissa % Nat.pow 2 (n + 1) == 0
  | _ => false

/-- Whether a number is zero of either sign. -/
def isZero : Binary64 → Bool
  | .finite _ mantissa _ => mantissa == 0
  | _ => false

end Binary64

end Gamebook
