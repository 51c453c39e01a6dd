import Gamebook.Binary64.Shortest

/-! Binary64 numbers rounded to a given number of digits, and their written forms. -/

namespace Gamebook.Binary64

/-- A finite magnitude as a quotient. -/
def quotient (mantissa : Nat) : Int → Nat × Nat
  | .ofNat n => (mantissa * Nat.pow 2 n, 1)
  | .negSucc n => (mantissa, Nat.pow 2 (n + 1))

/-- The multiple of a power of ten nearest to a magnitude, a half going to the even one. -/
def onPlace (mantissa : Nat) (exponent place : Int) : Decimal :=
  let (num, den) := quotient mantissa exponent
  let (up, down) := Neighbourhood.power place
  ⟨roundHalfEven (num * down) (den * up), place⟩

/-- The decimal of some digits nearest to a magnitude. The digits of zero are all zero. -/
def significant (count : Nat) (mantissa : Nat) (exponent : Int) : Decimal :=
  if mantissa = 0 then ⟨0, 1 - count⟩
  else
    let place := (neighbourhood mantissa exponent).place - count
    let rounded := onPlace mantissa exponent place
    -- Rounding up can carry into a digit more.
    if rounded.coefficient = Nat.pow 10 count then ⟨Nat.pow 10 (count - 1), place + 1⟩ else rounded

/-- At least some digits of a number. -/
def digitsOf (count value : Nat) : List Char :=
  let digits := Nat.toDigits 10 value
  List.replicate (count - digits.length) '0' ++ digits

/-- Digits with a point before the last ones; a point that nothing follows may be left out. -/
def pointed (keepsPoint : Bool) (digits : List Char) (places : Nat) : List Char :=
  let digits := List.replicate (places + 1 - digits.length) '0' ++ digits
  let whole := digits.length - places
  digits.take whole ++ if places = 0 && !keepsPoint then [] else '.' :: digits.drop whole

/-- Digits with the point after the first one, and an exponent of at least two digits. -/
def withExponent (keepsPoint : Bool) (digits : List Char) (exponent : Int) : List Char :=
  pointed keepsPoint digits (digits.length - 1) ++
    ['e', if exponent < 0 then '-' else '+'] ++ digitsOf 2 exponent.natAbs

/-- Digits without zeros at their end; the first digit stays. -/
def withoutTrailingZeros : List Char → List Char
  | [] => []
  | first :: rest => first :: (rest.reverse.dropWhile (· = '0')).reverse

/-- A magnitude with some digits after the point. -/
def fixedText (keepsPoint : Bool) (places : Nat) (mantissa : Nat) (exponent : Int) : List Char :=
  let rounded := onPlace mantissa exponent (-(places : Int))
  pointed keepsPoint (Nat.toDigits 10 rounded.coefficient) places

/-- A magnitude with one digit before the point, some after it, and an exponent. -/
def exponentText (keepsPoint : Bool) (places : Nat) (mantissa : Nat) (exponent : Int) :
    List Char :=
  let rounded := significant (places + 1) mantissa exponent
  withExponent keepsPoint (digitsOf (places + 1) rounded.coefficient) (rounded.exponent + places)

/-- A magnitude with some digits: positional unless it is very small or has too many digits before
the point. Zeros at the end are left out unless the point is kept. -/
def generalText (keepsPoint : Bool) (count : Nat) (mantissa : Nat) (exponent : Int) : List Char :=
  let rounded := significant count mantissa exponent
  let all := digitsOf count rounded.coefficient
  let digits := if keepsPoint then all else withoutTrailingZeros all
  let leading := rounded.exponent + count - 1
  if leading < -4 ∨ (count : Int) ≤ leading then withExponent keepsPoint digits leading
  else
    let digits := digits ++ List.replicate (leading + 1 - digits.length).toNat '0'
    pointed keepsPoint digits (digits.length - leading - 1).toNat

end Gamebook.Binary64
