import Gamebook.Binary64.Shortest

/-! Written forms of binary64 numbers: positional in the middle range, with an exponent outside. -/

namespace Gamebook.Binary64

/-- How a written form places its point and its exponent. -/
structure Layout where
  -- The point places that are written positionally.
  firstPlace : Int
  lastPlace : Int
  -- The least number of digits of an exponent.
  exponentWidth : Nat
  notANumber : String
  infinity : String

/-- Numbers inside messages. -/
def Layout.message : Layout :=
  { firstPlace := -3, lastPlace := 16, exponentWidth := 2, notANumber := "nan", infinity := "inf" }

/-- Numbers inside result documents. -/
def Layout.document : Layout :=
  { firstPlace := -4, lastPlace := 16, exponentWidth := 1, notANumber := "null",
    infinity := "null" }

/-- Numbers inside log lines. -/
def Layout.line : Layout :=
  { Layout.message with notANumber := "NaN", infinity := "Infinity" }

/-- A run of zeros. -/
def zeros (count : Nat) : String := String.ofList (List.replicate count '0')

/-- Digits with the point at a place inside, before or after them. -/
def positional (digits : String) (place : Int) : String :=
  let length : Int := digits.length
  if place ≤ 0 then "0." ++ zeros (-place).toNat ++ digits
  else if length ≤ place then digits ++ zeros (place - length).toNat ++ ".0"
  else
    let chars := digits.toList
    String.ofList (chars.take place.toNat) ++ "." ++ String.ofList (chars.drop place.toNat)

/-- Digits with the point after the first one, and an exponent. -/
def scientific (width : Nat) (digits : String) (place : Int) : String :=
  let exponent := place - 1
  let size := Nat.repr exponent.natAbs
  let head := match digits.toList with
    | [] => ""
    | [only] => String.ofList [only]
    | first :: rest => String.ofList (first :: '.' :: rest)
  head ++ "e" ++ (if exponent < 0 then "-" else "+") ++ zeros (width - size.length) ++ size

/-- The written form of a number. -/
def Layout.text (layout : Layout) : Binary64 → String
  | .nan => layout.notANumber
  | .infinite negative =>
    if negative && layout.infinity ≠ "null" then "-" ++ layout.infinity else layout.infinity
  | .finite negative mantissa exponent =>
    let sign := if negative then "-" else ""
    if mantissa = 0 then sign ++ "0.0"
    else
      let decimal := shortest mantissa exponent
      let digits := Nat.repr decimal.coefficient
      let place : Int := digits.length + decimal.exponent
      if layout.firstPlace ≤ place ∧ place ≤ layout.lastPlace then sign ++ positional digits place
      else sign ++ scientific layout.exponentWidth digits place

end Gamebook.Binary64
