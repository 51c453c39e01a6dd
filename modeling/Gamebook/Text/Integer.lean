import Gamebook.Text.Numeral

/-! Integers written as text: in the digits of any script, or in ASCII with zeros around them. -/

namespace Gamebook.Text

/-- The greatest number of digits of an integer that is read or written. -/
def integerDigitLimit : Nat := 4300

/-- The beginning of the report of an integer with too many digits. -/
def integerLimitMessage : String :=
  s!"Exceeds the limit ({integerDigitLimit} digits) for integer string conversion"

/-- The advice at the end of the report of an integer with too many digits. -/
def integerLimitAdvice : String := "use sys.set_int_max_str_digits() to increase the limit"

/-- The report of a text with too many digits. -/
def integerTooLongMessage (digits : Nat) : String :=
  s!"{integerLimitMessage}: value has {digits} digits; {integerLimitAdvice}"

/-- The report of an integer that is not written out, as it has too many digits. -/
def integerUnwrittenMessage : String := s!"{integerLimitMessage}; {integerLimitAdvice}"

/-- Why a text is no integer. -/
inductive IntegerFault where
  | unreadable
  | tooLong (digits : Nat)
  deriving DecidableEq, Repr

/-- The digits at the start of a text, with single underscores among them, and the rest. There
are none if an underscore stands anywhere but between two digits. -/
def groupedDigits? (digit? : Char → Option Nat) : List Char → Option (List Nat × List Char)
  | [] => none
  | c :: rest => match digit? c, rest with
    | none, _ => none
    | some value, [] => some ([value], [])
    | some value, '_' :: rest => (groupedDigits? digit? rest).map fun (values, rest) =>
      (value :: values, rest)
    | some value, next :: rest =>
      if (digit? next).isSome then (groupedDigits? digit? (next :: rest)).map
        fun (values, rest) => (value :: values, rest)
      else some ([value], next :: rest)

/-- The integer of a sign and digits. -/
def signedInteger (negative : Bool) (values : List Nat) : Int :=
  if negative then -(ofDigits 10 values : Int) else ofDigits 10 values

/-- An integer in grouped digits of any script, with a sign before it and white space around it.
Its digits are counted before anything that follows them is refused. -/
def readInteger (input : List Char) : Except IntegerFault Int :=
  let (negative, rest) := unsigned (input.dropWhile isWhiteSpace)
  match groupedDigits? digitValue? rest with
  | none => .error .unreadable
  | some (values, rest) =>
    if integerDigitLimit < values.length then .error (.tooLong values.length)
    else if rest.all isWhiteSpace then .ok (signedInteger negative values)
    else .error .unreadable

/-- Whether a character may start an integer that has no zeros before it. -/
def startsSignificant (c : Char) : Bool := ('1' ≤ c && c ≤ '9') || c == '-'

/-- What is left of a text after a zero or an underscore, without all such that follow; the last
of them stays before a point and at the end of the text. -/
def significant? (last : Char) : List Char → Option (List Char)
  | [] => some [last]
  | c :: rest =>
    if c = '0' ∨ c = '_' then significant? c rest
    else if startsSignificant c then some (c :: rest)
    else if c = '.' then some (last :: c :: rest)
    else none

/-- A text without zeros at its start. -/
def withoutLeadingZeros? : List Char → Option (List Char)
  | [] => none
  | c :: rest =>
    if startsSignificant c then some (c :: rest)
    else if c = '0' then significant? c rest
    else none

/-- A text without a plus sign; no other sign may follow it. -/
def withoutPlus? : List Char → Option (List Char)
  | '+' :: '-' :: _ => none
  | '+' :: rest => some rest
  | input => some input

/-- A text without a point and the zeros after it; all other texts stay as they are. -/
def withoutZeroFraction (input : List Char) : List Char :=
  let backwards := input.reverse
  let zeros := backwards.takeWhile (· = '0')
  match backwards.drop zeros.length with
  | '.' :: whole => if zeros.isEmpty then input else whole.reverse
  | _ => input

/-- An integer in ASCII digits without zeros before it; the limit on its length includes its
sign. -/
def readPlainInteger (input : List Char) : Except IntegerFault Int :=
  let (negative, digits) := match input with
    | '-' :: rest => (true, rest)
    | _ => (false, input)
  let leading := digits.takeWhile Char.isDigit
  let length := if negative then leading.length + 1 else leading.length
  if leading = ['0'] ∧ digits = ['0'] then .ok 0
  else if leading.isEmpty ∨ leading.head? = some '0' then .error .unreadable
  else if integerDigitLimit < length then .error (.tooLong leading.length)
  else if leading.length < digits.length then .error .unreadable
  else .ok (signedInteger negative (leading.filterMap asciiDigit?))

/-- An integer in ASCII digits with white space around it. Zeros before it, zeros after a point,
and single underscores inside it do not count. -/
def readPaddedInteger (input : List Char) : Except IntegerFault Int :=
  match (withoutPlus? (trim isWhiteSpace input)).bind withoutLeadingZeros? with
  | none => .error .unreadable
  | some significant =>
    let whole := withoutZeroFraction significant
    readPlainInteger ((ungrouped? whole).getD whole)

end Gamebook.Text
