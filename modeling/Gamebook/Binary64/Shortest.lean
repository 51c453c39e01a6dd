import Gamebook.Binary64

/-! The shortest decimal that reads back as a given binary64 number. -/

namespace Gamebook

/-- The decimal number `coefficient · 10 ^ exponent`. -/
structure Decimal where
  coefficient : Nat
  exponent : Int
  deriving DecidableEq, Repr

namespace Decimal

/-- The same number without trailing zeros, of which at most `fuel` are dropped. -/
def trim : Nat → Decimal → Decimal
  | 0, decimal => decimal
  | fuel + 1, decimal =>
    if decimal.coefficient ≠ 0 ∧ decimal.coefficient % 10 = 0
    then trim fuel ⟨decimal.coefficient / 10, decimal.exponent + 1⟩
    else decimal

end Decimal

namespace Binary64

/-- The reals that round to one positive number, as numerators over one denominator. -/
structure Neighbourhood where
  low : Nat
  value : Nat
  high : Nat
  den : Nat
  -- The ends belong to the interval when the mantissa is even.
  closed : Bool

/-- The neighbourhood of `mantissa · 2 ^ exponent`. -/
def neighbourhood (mantissa : Nat) (exponent : Int) : Neighbourhood :=
  let (up, down) : Nat × Nat := match exponent with
    | .ofNat n => (Nat.pow 2 n, 1)
    | .negSucc n => (1, Nat.pow 2 (n + 1))
  -- Below a power of two the steps are half as wide.
  let below := if mantissa = mantissaLimit / 2 ∧ leastExponent < exponent then 1 else 2
  { low := (4 * mantissa - below) * up
    value := 4 * mantissa * up
    high := (4 * mantissa + 2) * up
    den := 4 * down
    closed := mantissa % 2 == 0 }

namespace Neighbourhood

/-- Powers of ten as a quotient. -/
def power : Int → Nat × Nat
  | .ofNat n => (Nat.pow 10 n, 1)
  | .negSucc n => (1, Nat.pow 10 (n + 1))

/-- Whether `coefficient · 10 ^ exponent` rounds to the number. -/
def holds (near : Neighbourhood) (decimal : Decimal) : Bool :=
  let (up, down) := power decimal.exponent
  let point := decimal.coefficient * up * near.den
  if near.closed then near.low * down ≤ point && point ≤ near.high * down
  else near.low * down < point && point < near.high * down

/-- The place of the leading digit: the value lies in `[10 ^ (place - 1), 10 ^ place)`. -/
def place (near : Neighbourhood) : Int :=
  -- Every positive number is above `10 ^ -340`, so the scaled quotient is positive.
  (Nat.repr (near.value * Nat.pow 10 340 / near.den)).length - 340

/-- The nearest decimal on a grid that rounds to the number, a tie going to the even coefficient. -/
def onGrid? (near : Neighbourhood) (exponent : Int) : Option Decimal :=
  let (up, down) := power exponent
  let floor := near.value * down / (up * near.den)
  let below : Decimal := ⟨floor, exponent⟩
  let above : Decimal := ⟨floor + 1, exponent⟩
  match near.holds below, near.holds above with
  | true, true =>
    let twice := 2 * near.value * down
    let middle := (2 * floor + 1) * up * near.den
    some (if twice < middle ∨ (twice = middle ∧ floor % 2 = 0) then below else above)
  | true, false => some below
  | false, true => some above
  | false, false => none

end Neighbourhood

/-- The fewest digits that read back, and of those the nearest to the number. -/
def shortest (mantissa : Nat) (exponent : Int) : Decimal :=
  let near := neighbourhood mantissa exponent
  let place := near.place
  -- Seventeen digits always suffice.
  match (List.range 17).findSome? fun n => near.onGrid? (place - (n + 1 : Nat)) with
  | some decimal => decimal.trim 20
  | none => ⟨0, 0⟩

end Binary64

end Gamebook
