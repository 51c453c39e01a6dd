import Gamebook.Json
import Gamebook.Text.Integer
import Gamebook.Text.Lines

/-! Reading JSON texts, with the place of the first fault. -/

namespace Gamebook.Json

/-- What a JSON text does wrong. -/
inductive ReadProblem where
  | valueExpected
  | commaExpected
  | colonExpected
  | keyExpected
  | extraData
  | controlCharacter
  | badEscape
  | badUnicodeEscape
  | unterminatedString
  | byteOrderMark
  deriving DecidableEq, Repr

/-- A problem in words. -/
def ReadProblem.message : ReadProblem → String
  | .valueExpected => "Expecting value"
  | .commaExpected => "Expecting ',' delimiter"
  | .colonExpected => "Expecting ':' delimiter"
  | .keyExpected => "Expecting property name enclosed in double quotes"
  | .extraData => "Extra data"
  | .controlCharacter => "Invalid control character at"
  | .badEscape => "Invalid \\escape"
  | .badUnicodeEscape => "Invalid \\uXXXX escape"
  | .unterminatedString => "Unterminated string starting at"
  | .byteOrderMark => "Unexpected UTF-8 BOM (decode using utf-8-sig)"

/-- Why a text has no value: it is no JSON at a position, or writes an integer too long to read. -/
inductive ReadFault where
  | malformed (problem : ReadProblem) (position line column : Nat)
  | integerTooLong (digits : Nat)
  deriving DecidableEq, Repr

namespace Reader

/-- Why reading stops; the place of a problem is the text that is left there. -/
inductive Stop where
  | malformed (problem : ReadProblem) (rest : List Char)
  | integerTooLong (digits : Nat)

/-- The characters that separate tokens. -/
def isSpace (c : Char) : Bool := c == ' ' || c == '\t' || c == '\n' || c == '\r'

/-- The text after leading space. -/
def skipSpace (input : List Char) : List Char := input.dropWhile isSpace

/-- The text after an expected word. -/
def afterWord? (word : String) (input : List Char) : Option (List Char) :=
  word.toList.isPrefixOf? input

/-- Four hexadecimal digits that are not the end of the text. -/
def codeUnit? : List Char → Option (Nat × List Char)
  | a :: b :: c :: d :: next :: rest => do
    let digits ← [a, b, c, d].mapM Text.hexDigit?
    return (Text.ofDigits 16 digits, next :: rest)
  | _ => none

/-- The character of an escape of one letter. -/
def letterEscape? : Char → Option Char
  | '"' => some '"'
  | '\\' => some '\\'
  | '/' => some '/'
  | 'b' => some (Char.ofNat 8)
  | 'f' => some (Char.ofNat 12)
  | 'n' => some '\n'
  | 'r' => some '\r'
  | 't' => some '\t'
  | _ => none

/-- The character of a code unit. A lone surrogate is no character: texts that escape one are left
out of the model, which reads the replacement character in its place. -/
def unitChar (unit : Nat) : Char :=
  if 0xd800 ≤ unit ∧ unit ≤ 0xdfff then Char.ofNat 0xfffd else Char.ofNat unit

/-- A character by code units: one, or a surrogate pair. The text starts after the `u`. -/
def escapedChar (digits : List Char) : Except Stop (Char × List Char) :=
  match codeUnit? digits with
  | none => .error (.malformed .badUnicodeEscape ('u' :: digits))
  | some (unit, rest) =>
    if 0xd800 ≤ unit ∧ unit ≤ 0xdbff then
      match rest with
      | '\\' :: 'u' :: low =>
        -- A second escape that ends the text is left to be read on its own.
        if low.length < 5 then .ok (unitChar unit, rest)
        else match codeUnit? low with
          | none => .error (.malformed .badUnicodeEscape ('u' :: low))
          | some (second, after) =>
            if 0xdc00 ≤ second ∧ second ≤ 0xdfff
            then .ok (Char.ofNat (0x10000 + (unit - 0xd800) * 0x400 + (second - 0xdc00)), after)
            else .ok (unitChar unit, rest)
      | _ => .ok (unitChar unit, rest)
    else .ok (unitChar unit, rest)

/-- The rest of a string after its opening quote. -/
def stringRest (opening acc : List Char) : Nat → List Char → Except Stop (String × List Char)
  | 0, _ => .error (.malformed .unterminatedString opening)
  | _ + 1, [] => .error (.malformed .unterminatedString opening)
  | fuel + 1, c :: rest =>
    if c = '"' then .ok (String.ofList acc.reverse, rest)
    else if c = '\\' then
      match rest with
      | [] => .error (.malformed .unterminatedString opening)
      | 'u' :: digits => do
        let (char, after) ← escapedChar digits
        stringRest opening (char :: acc) fuel after
      | letter :: after =>
        match letterEscape? letter with
        | some char => stringRest opening (char :: acc) fuel after
        | none => .error (.malformed .badEscape (c :: rest))
    else if c.toNat < 0x20 then .error (.malformed .controlCharacter (c :: rest))
    else stringRest opening (c :: acc) fuel rest

/-- A string, from its opening quote on. -/
def string (input : List Char) : Except Stop (String × List Char) :=
  stringRest input [] (input.length + 1) input.tail

/-- The digits of an integer: a zero, or a row that does not start with one. -/
def integerDigits? : List Char → Option (List Char × List Char)
  | '0' :: rest => some (['0'], rest)
  | input => match input.span Char.isDigit with
    | ([], _) => none
    | (digits, rest) => some (digits, rest)

/-- The digits after a point, if any. -/
def fractionDigits : List Char → List Char × List Char
  | '.' :: rest => match rest.span Char.isDigit with
    | ([], _) => ([], '.' :: rest)
    | (digits, rest) => (digits, rest)
  | input => ([], input)

/-- The exponent of a number, if any. -/
def exponentPart? (input : List Char) : Option (Int × List Char) :=
  match input with
  | e :: rest =>
    if e = 'e' ∨ e = 'E' then
      let (negative, digits) := match rest with
        | '-' :: digits => (true, digits)
        | '+' :: digits => (false, digits)
        | digits => (false, digits)
      match digits.span Char.isDigit with
      | ([], _) => none
      | (digits, rest) =>
        let size : Int := Text.ofDigits 10 (digits.filterMap Text.asciiDigit?)
        some (if negative then -size else size, rest)
    else none
  | [] => none

/-- A number; with a fraction or an exponent it is real. -/
def number (input : List Char) : Except Stop (Json × List Char) :=
  let (negative, unsigned) := match input with
    | '-' :: rest => (true, rest)
    | _ => (false, input)
  match integerDigits? unsigned with
  | none => .error (.malformed .valueExpected input)
  | some (digits, rest) =>
    let (fraction, rest) := fractionDigits rest
    let value := Text.ofDigits 10 ((digits ++ fraction).filterMap Text.asciiDigit?)
    match exponentPart? rest with
    | some (exponent, rest) =>
      .ok (.real (.ofDecimal negative value (exponent - fraction.length)), rest)
    | none =>
      if !fraction.isEmpty then .ok (.real (.ofDecimal negative value (-fraction.length)), rest)
      else if Text.integerDigitLimit < digits.length then .error (.integerTooLong digits.length)
      else .ok (.int (if negative then -value else value), rest)

/-- The words with a value of their own. -/
def words : List (String × Json) :=
  [("null", .null), ("true", .bool true), ("false", .bool false), ("NaN", .real .nan),
    ("Infinity", .real (.infinite false)), ("-Infinity", .real (.infinite true))]

/-- A word with a value of its own, if the text starts with one. -/
def word? (input : List Char) : Option (Json × List Char) :=
  words.findSome? fun (word, value) => (afterWord? word input).map (value, ·)

mutual

/-- A value at the start of a text; `fuel` bounds the steps left. -/
def value : Nat → List Char → Except Stop (Json × List Char)
  | 0, input => .error (.malformed .valueExpected input)
  | fuel + 1, input =>
    match input with
    | '"' :: _ => do
      let (content, rest) ← string input
      return (.text content, rest)
    | '[' :: rest =>
      match skipSpace rest with
      | ']' :: rest => .ok (.list [], rest)
      | rest => items [] fuel rest
    | '{' :: rest =>
      match skipSpace rest with
      | '}' :: rest => .ok (.object [], rest)
      | rest => entries [] fuel rest
    | _ =>
      match word? input with
      | some found => .ok found
      | none => number input

/-- The items of a list up to its closing bracket. -/
def items (acc : List Json) : Nat → List Char → Except Stop (Json × List Char)
  | 0, input => .error (.malformed .valueExpected input)
  | fuel + 1, input => do
    let (item, rest) ← value fuel input
    match skipSpace rest with
    | ']' :: rest => return (.list (item :: acc).reverse, rest)
    | ',' :: rest => items (item :: acc) fuel (skipSpace rest)
    | rest => .error (.malformed .commaExpected rest)

/-- The members of an object up to its closing brace. -/
def entries (acc : List (String × Json)) : Nat → List Char → Except Stop (Json × List Char)
  | 0, input => .error (.malformed .keyExpected input)
  | fuel + 1, input =>
    match input with
    | '"' :: _ => do
      let (key, rest) ← string input
      match skipSpace rest with
      | ':' :: rest => do
        let (item, rest) ← value fuel (skipSpace rest)
        match skipSpace rest with
        | '}' :: rest => return (.object (Table.ofEntries ((key, item) :: acc).reverse), rest)
        | ',' :: rest => entries ((key, item) :: acc) fuel (skipSpace rest)
        | rest => .error (.malformed .commaExpected rest)
      | rest => .error (.malformed .colonExpected rest)
    | _ => .error (.malformed .keyExpected input)

end

/-- The one value of a text. -/
def document (input : List Char) : Except Stop Json :=
  match input with
  | '\uFEFF' :: _ => .error (.malformed .byteOrderMark input)
  | _ => do
    -- Each step consumes a character or is followed by one that does.
    let (found, rest) ← value (2 * input.length + 2) (skipSpace input)
    match skipSpace rest with
    | [] => return found
    | rest => .error (.malformed .extraData rest)

/-- Where and why reading stopped. -/
def Stop.fault (input : List Char) : Stop → ReadFault
  | .integerTooLong digits => .integerTooLong digits
  | .malformed problem rest =>
    let position := input.length - rest.length
    .malformed problem position (Text.lineAt input position) (Text.columnAt input position)

end Reader

/-- The value of a JSON text. -/
def parse (input : List Char) : Except ReadFault Json :=
  (Reader.document input).mapError (Reader.Stop.fault input)

end Gamebook.Json
