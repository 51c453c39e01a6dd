import Gamebook.Binary64.Rounded
import Gamebook.Json.Shown
import Gamebook.Log.Place
import Gamebook.Text.Digit

/-! Messages: templates whose places are filled with arguments. -/

namespace Gamebook.Log

/-- Why a template cannot be filled. -/
inductive TemplateFault where
  -- The template ends inside a place, or inside its name.
  | placeUnfinished
  | nameUnfinished
  | letterUnknown (letter : Char) (index : Nat)
  | widthTooBig
  | precisionTooBig
  -- A place asks for a value by name, and the arguments have no names.
  | namesMissing
  | nameUnknown (name : String)
  | argumentsMissing
  | argumentsLeft
  -- What should tell a width or a precision is no integer, or does not fit into its type.
  | measureNotInteger
  | measureTooBig (type : String)
  | numberWanted (letter : Char) (found : Json)
  | integerWanted (letter : Char) (found : Json)
  | realWanted (found : Json)
  | characterWanted
  | characterOutOfRange
  | infiniteInteger
  | undefinedInteger
  | realTooBig

namespace TemplateFault

/-- A letter that is unknown, as shown; only printable ASCII and the unit separator are. -/
def shownLetter (letter : Char) : Char :=
  if 31 ≤ letter.toNat ∧ letter.toNat ≤ 126 then letter else '?'

/-- A fault in words. -/
def message : TemplateFault → String
  | placeUnfinished => "incomplete format"
  | nameUnfinished => "incomplete format key"
  | letterUnknown letter index =>
    s!"unsupported format character '{shownLetter letter}' (0x{Text.hex 1 letter.toNat}) " ++
      s!"at index {index}"
  | widthTooBig => "width too big"
  | precisionTooBig => "precision too big"
  | namesMissing => "format requires a mapping"
  | nameUnknown name => Text.quoted name
  | argumentsMissing => "not enough arguments for format string"
  | argumentsLeft => "not all arguments converted during string formatting"
  | measureNotInteger => "* wants int"
  | measureTooBig type => s!"Python int too large to convert to C {type}"
  | numberWanted letter found =>
    s!"%{letter} format: a real number is required, not {found.typeName}"
  | integerWanted letter found =>
    s!"%{letter} format: an integer is required, not {found.typeName}"
  | realWanted found => s!"must be real number, not {found.typeName}"
  | characterWanted => "%c requires int or char"
  | characterOutOfRange => "%c arg not in range(0x110000)"
  | infiniteInteger => "cannot convert float infinity to integer"
  | undefinedInteger => "cannot convert float NaN to integer"
  | realTooBig => "int too large to convert to float"

end TemplateFault

/-- What the places of a template are filled from. -/
structure Supply where
  -- The values that places ask for by name, if there are names.
  named : Option (Table Json)
  -- The values for places without a name, in order.
  pending : List Json

namespace Supply

/-- The supply of arguments. A single object that is not empty names its members, and is itself
the value for a place without a name. -/
def ofArguments : List Json → Supply
  | [.object (member :: members)] =>
    ⟨some (member :: members), [.object (member :: members)]⟩
  | arguments => ⟨none, arguments⟩

/-- The supply for a place: a name leaves its value alone. -/
def choose (supply : Supply) : PlaceName → Except TemplateFault Supply
  | .absent => .ok supply
  | name => match supply.named with
    | none => .error .namesMissing
    | some members => match name with
      | .given name => match Table.get? name members with
        | some value => .ok { supply with pending := [value] }
        | none => .error (.nameUnknown name)
      | _ => .error .nameUnfinished

/-- The next value, and the supply without it. -/
def next (supply : Supply) : Except TemplateFault (Json × Supply) :=
  match supply.pending with
  | [] => .error .argumentsMissing
  | value :: rest => .ok (value, { supply with pending := rest })

/-- Whether values are left that no place has asked for. -/
def isLeft (supply : Supply) : Bool := supply.named.isNone && !supply.pending.isEmpty

end Supply

/-- The range of a measure: its type in words, the number of its bits, and the fault of a written
measure beyond it. -/
structure MeasureRange where
  type : String
  bits : Nat
  fault : TemplateFault

namespace MeasureRange

/-- Widths. -/
def width : MeasureRange := ⟨"ssize_t", 63, .widthTooBig⟩

/-- Precisions. -/
def precision : MeasureRange := ⟨"int", 31, .precisionTooBig⟩

/-- The integer that a value is; truth values count as numbers. -/
def integer? : Json → Option Int
  | .int value => some value
  | .bool value => some (if value then 1 else 0)
  | _ => none

/-- What a measure asks for, with the supply for what follows. -/
def resolve (range : MeasureRange) (supply : Supply) :
    Option Measure → Except TemplateFault (Option Int × Supply)
  | none => .ok (none, supply)
  | some (.given count) =>
    if count < Nat.pow 2 range.bits then .ok (some count, supply) else .error range.fault
  | some .asked => do
    let (value, supply) ← supply.next
    match integer? value with
    | none => .error .measureNotInteger
    | some count =>
      let limit : Int := Nat.pow 2 range.bits
      if count < -limit ∨ limit ≤ count then .error (.measureTooBig range.type)
      else .ok (some count, supply)

end MeasureRange

/-- How a value is written. -/
structure Form where
  flags : Flags
  width : Nat
  precision : Option Nat

namespace Form

/-- The form of flags, a width and a precision. A negative width puts the blanks on the right, and
a negative precision is one of zero. -/
def ofMeasures (flags : Flags) (width precision : Option Int) : Form :=
  { flags := if (width.getD 0) < 0 then { flags with leftward := true } else flags
    width := (width.getD 0).natAbs
    precision := precision.map Int.toNat }

/-- A text with blanks up to the width. -/
def padded (form : Form) (text : List Char) : List Char :=
  let blanks := List.replicate (form.width - text.length) ' '
  if form.flags.leftward then text ++ blanks else blanks ++ text

/-- A text cut to the precision. -/
def shortened (form : Form) (text : String) : List Char :=
  match form.precision with
  | none => text.toList
  | some count => text.toList.take count

/-- The sign of a number. -/
def sign (form : Form) (negative : Bool) : List Char :=
  if negative then ['-']
  else if form.flags.signed then ['+']
  else if form.flags.spaced then [' ']
  else []

/-- A number of a sign, a mark of its base and digits; zeros stand between mark and digits. -/
def number (form : Form) (negative : Bool) (mark digits : List Char) : List Char :=
  let head := form.sign negative ++ mark
  let missing := form.width - (head ++ digits).length
  if form.flags.zeros && !form.flags.leftward then
    head ++ List.replicate missing '0' ++ digits
  else form.padded (head ++ digits)

/-- The base of the letter of an integer. -/
def baseOf (letter : Char) : Nat :=
  if letter = 'o' then 8 else if letter = 'x' ∨ letter = 'X' then 16 else 10

/-- The integer that a value is for a letter; where digits are decimal, reals are cut to one. -/
def integer (letter : Char) (value : Json) : Except TemplateFault Int :=
  match MeasureRange.integer? value, value with
  | some value, _ => .ok value
  | none, .real real =>
    if baseOf letter ≠ 10 then .error (.integerWanted letter value)
    else match real with
      | .nan => .error .undefinedInteger
      | .infinite _ => .error .infiniteInteger
      | finite => .ok ((finite.truncate?).getD 0)
  | none, _ =>
    .error (if baseOf letter = 10 then .numberWanted letter value else .integerWanted letter value)

/-- An integer; the precision is the least number of its digits. -/
def integerText (form : Form) (letter : Char) (value : Int) : List Char :=
  let base := baseOf letter
  let digits := Nat.toDigits base value.natAbs
  let digits := List.replicate (form.precision.getD 0 - digits.length) '0' ++ digits
  let digits := if letter = 'X' then digits.map Char.toUpper else digits
  let mark := if form.flags.alternate ∧ base ≠ 10 then ['0', letter] else []
  form.number (value < 0) mark digits

/-- The real number that a value is. -/
def real (value : Json) : Except TemplateFault Binary64 :=
  match MeasureRange.integer? value, value with
  | some value, _ => match Binary64.ofInt value with
    | .infinite _ => .error .realTooBig
    | real => .ok real
  | none, .real real => .ok real
  | none, _ => .error (.realWanted value)

/-- The digits of a real number by its letter in lower case. -/
def realDigits (form : Form) (letter : Char) : Binary64 → List Char
  | .nan => "nan".toList
  | .infinite _ => "inf".toList
  | .finite _ mantissa exponent =>
    let precision := form.precision.getD 6
    let keepsPoint := form.flags.alternate
    if letter = 'e' then Binary64.exponentText keepsPoint precision mantissa exponent
    else if letter = 'f' then Binary64.fixedText keepsPoint precision mantissa exponent
    else Binary64.generalText keepsPoint (max 1 precision) mantissa exponent

/-- Whether a real number has a minus sign. -/
def isNegative : Binary64 → Bool
  | .nan => false
  | .infinite negative => negative
  | .finite negative _ _ => negative

/-- A real number. -/
def realText (form : Form) (letter : Char) (value : Binary64) : List Char :=
  let digits := form.realDigits letter.toLower value
  form.number (isNegative value) [] (if letter.isUpper then digits.map Char.toUpper else digits)

/-- The character that a value is: itself, or the one of its code point. -/
def character (value : Json) : Except TemplateFault Char :=
  match MeasureRange.integer? value, value with
  | some point, _ =>
    if 0 ≤ point ∧ point < 0x110000 then .ok (Char.ofNat point.toNat)
    else .error .characterOutOfRange
  | none, .text text => match text.toList with
    | [c] => .ok c
    | _ => .error .characterWanted
  | none, _ => .error .characterWanted

/-- One character in ASCII. -/
def asciiChar (c : Char) : String :=
  if c.toNat < 0x80 then String.ofList [c]
  else if c.toNat < 0x100 then "\\x" ++ Text.hex 2 c.toNat
  else if c.toNat < 0x10000 then "\\u" ++ Text.hex 4 c.toNat
  else "\\U" ++ Text.hex 8 c.toNat

/-- A text with escapes for all but ASCII. -/
def asciiText (text : String) : String := String.join (text.toList.map asciiChar)

/-- A value as the letter at an index of the template asks for it. -/
def write (form : Form) (letter : Char) (index : Nat) (value : Json) :
    Except TemplateFault (List Char) :=
  if letter = 's' then .ok (form.padded (form.shortened value.plain))
  else if letter = 'r' then .ok (form.padded (form.shortened value.shown))
  else if letter = 'a' then .ok (form.padded (form.shortened (asciiText value.shown)))
  else if letter = 'c' then (character value).map fun c => form.padded [c]
  else if ['d', 'i', 'u', 'o', 'x', 'X'].contains letter then
    (integer letter value).map (form.integerText letter)
  else if ['e', 'E', 'f', 'F', 'g', 'G'].contains letter then
    (real value).map (form.realText letter)
  else .error (.letterUnknown letter index)

end Form

/-- The text in a place, and the supply for what follows. -/
def fillPlace (place : Place) (supply : Supply) :
    Except TemplateFault (List Char × Supply) := do
  let supply ← supply.choose place.name
  let (width, supply) ← MeasureRange.width.resolve supply place.width
  let (precision, supply) ← MeasureRange.precision.resolve supply place.precision
  match place.letter with
  | none => .error .placeUnfinished
  | some (letter, index) =>
    let (value, supply) ← supply.next
    let text ← (Form.ofMeasures place.flags width precision).write letter index value
    return (text, supply)

/-- The text of pieces; every argument has to be asked for. -/
def fill (supply : Supply) : List Piece → Except TemplateFault (List Char)
  | [] => if supply.isLeft then .error .argumentsLeft else .ok []
  | .plain c :: rest => do return c :: (← fill supply rest)
  | .place place :: rest => do
    let (text, supply) ← fillPlace place supply
    return text ++ (← fill supply rest)

/-- A message; without arguments the template is the message. -/
def message (template : String) (arguments : List Json) : Except TemplateFault String :=
  if arguments.isEmpty then .ok template
  else (fill (.ofArguments arguments) (pieces template.toList)).map String.ofList

end Gamebook.Log
