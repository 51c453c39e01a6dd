import Gamebook.Text.Numeral
import Gamebook.Yaml.Fault
import Gamebook.Yaml.Node

/-! What plain scalars of a YAML text stand for. -/

namespace Gamebook.Yaml

/-- A text without underscores. -/
def bare (input : List Char) : List Char := input.filter (· ≠ '_')

/-- Whether a text consists of characters of a class, of which there is at least one. -/
def isRun (ofClass : Char → Bool) (input : List Char) : Bool := !input.isEmpty && input.all ofClass

/-- A digit below a base, or an underscore. -/
def isDigitBelow (base : Nat) (c : Char) : Bool :=
  c == '_' || (Text.hexDigit? c).any (· < base)

/-- Digits of a base as a number; only decimal ones are limited in their number. -/
def number (base : Nat) (digits : List Char) : Except Fault Nat :=
  let values := (bare digits).filterMap Text.hexDigit?
  if values.isEmpty then .error (.noDigits base)
  else if base = 10 ∧ Text.integerDigitLimit < values.length then
    .error (.integerTooLong values.length)
  else .ok (Text.ofDigits base values)

/-- The base and the digits of an integer without its sign, if it is one. -/
def integerForm? : List Char → Option (Nat × List Char)
  | '0' :: 'b' :: digits => if isRun (isDigitBelow 2) digits then some (2, digits) else none
  | '0' :: 'x' :: digits => if isRun (isDigitBelow 16) digits then some (16, digits) else none
  | '0' :: 'o' :: digits => if isRun (isDigitBelow 8) digits then some (8, digits) else none
  | digits => if isRun (isDigitBelow 10) digits then some (10, digits) else none

/-- An exponent: a letter, perhaps a sign, and digits. -/
def isExponent (signed : Bool) : List Char → Bool
  | [] => true
  | e :: rest =>
    (e == 'e' || e == 'E') && match rest with
      | '+' :: digits | '-' :: digits => isRun Char.isDigit digits
      | digits => !signed && isRun Char.isDigit digits

/-- Whether a text without its sign writes a decimal number with a point or an exponent. -/
def isReal (input : List Char) : Bool :=
  let whole := input.takeWhile (isDigitBelow 10)
  match input.drop whole.length with
  | '.' :: rest =>
    let exponent := rest.dropWhile (isDigitBelow 10)
    if whole.isEmpty then exponent.length < rest.length && isExponent true exponent
    else whole.head? ≠ some '_' && isExponent false exponent
  | rest => isRun Char.isDigit (whole.take 1) && !rest.isEmpty && isExponent false rest

/-- The number that a text without its sign writes; its underscores may be all that it has. -/
def real (negative : Bool) (unsigned : List Char) : Except Fault Binary64 :=
  let digits := Text.lowerAscii (bare unsigned)
  match Text.decimal? negative digits with
  | some value => .ok value
  | none => .error (.noReal (String.ofList digits))

/-- The infinities and not-a-number, with their signs. -/
def specialReals : List (String × Binary64) :=
  [(".inf", .infinite false), (".Inf", .infinite false), (".INF", .infinite false),
    ("+.inf", .infinite false), ("+.Inf", .infinite false), ("+.INF", .infinite false),
    ("-.inf", .infinite true), ("-.Inf", .infinite true), ("-.INF", .infinite true),
    (".nan", .nan), (".NaN", .nan), (".NAN", .nan)]

/-- What a plain scalar stands for. -/
inductive Meaning where
  | value (node : Node)
  -- The key whose tables are merged into the one that holds it.
  | merge
  -- A key for a value without a name.
  | unnamed

/-- The words with a meaning of their own. -/
def words : List (String × Meaning) :=
  [("", .value .null), ("~", .value .null), ("null", .value .null), ("Null", .value .null),
    ("NULL", .value .null), ("true", .value (.bool true)), ("True", .value (.bool true)),
    ("TRUE", .value (.bool true)), ("false", .value (.bool false)),
    ("False", .value (.bool false)), ("FALSE", .value (.bool false)), ("<<", .merge),
    ("=", .unnamed)]

/-- The number or timestamp that a text writes, or else the text. -/
def scalarNode (input : List Char) : Except Fault Node :=
  let (negative, unsigned) := Text.unsigned input
  if isReal unsigned then (real negative unsigned).map .real
  else match integerForm? unsigned, Timestamp.read? input with
    | some (base, digits), _ =>
      -- A number never starts with an underscore.
      if input.head? = some '_' then .ok (.text (String.ofList input))
      else (number base digits).map fun value => .int (if negative then -(value : Int) else value)
    | none, some timestamp => (timestamp.map .time).mapError .calendar
    | none, none => .ok (.text (String.ofList input))

/-- What a plain scalar stands for. -/
def Meaning.ofPlain (text : String) : Except Fault Meaning :=
  match Table.get? text words, Table.get? text specialReals with
  | some meaning, _ => .ok meaning
  | none, some real => .ok (.value (.real real))
  | none, none => (scalarNode text.toList).map .value

end Gamebook.Yaml
