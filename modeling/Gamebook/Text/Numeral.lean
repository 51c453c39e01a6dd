import Gamebook.Binary64
import Gamebook.Text.Blank
import Gamebook.Text.Digit

/-! Real numbers written as text: signs, fractions, exponents and grouping marks. -/

namespace Gamebook.Text

/-- A text without its sign, and whether the sign is a minus. -/
def unsigned : List Char → Bool × List Char
  | '-' :: rest => (true, rest)
  | '+' :: rest => (false, rest)
  | input => (false, input)

/-- Letters of ASCII in lower case. -/
def lowerAscii (input : List Char) : List Char := input.map Char.toLower

/-- An exponent in ASCII digits, or none at the end of the text. -/
def exponent? : List Char → Option Int
  | [] => some 0
  | e :: rest =>
    if e = 'e' ∨ e = 'E' then
      let (negative, digits) := unsigned rest
      if digits.isEmpty then none
      else (digits.mapM asciiDigit?).map fun values =>
        if negative then -(ofDigits 10 values : Int) else ofDigits 10 values
    else none

/-- A decimal number without a sign: digits with at most one point, then perhaps an exponent. -/
def decimal? (negative : Bool) (input : List Char) : Option Binary64 :=
  let (whole, rest) := input.span Char.isDigit
  let (fraction, rest) := match rest with
    | '.' :: rest => rest.span Char.isDigit
    | rest => ([], rest)
  if whole.isEmpty && fraction.isEmpty then none
  else do
    let values ← (whole ++ fraction).mapM asciiDigit?
    let exponent ← exponent? rest
    return .ofDecimal negative (ofDigits 10 values) (exponent - fraction.length)

/-- A real number in ASCII: a decimal number, an infinity or not-a-number, with an optional sign. -/
def real? (input : List Char) : Option Binary64 :=
  let (negative, rest) := unsigned input
  let word := String.ofList (lowerAscii rest)
  if word = "nan" then some .nan
  else if word = "inf" ∨ word = "infinity" then some (.infinite negative)
  else decimal? negative rest

/-- A text without grouping underscores; there is none if one stands at an end or beside another. -/
def ungrouped? (input : List Char) : Option (List Char) :=
  let pieces := input.splitBy fun a b => (a = '_') = (b = '_')
  if input.head? = some '_' ∨ input.getLast? = some '_'
      ∨ pieces.any (fun piece => piece.head? = some '_' ∧ 1 < piece.length) then none
  else some (input.filter (· ≠ '_'))

end Gamebook.Text
