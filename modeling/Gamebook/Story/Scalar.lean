import Gamebook.Story.Issue
import Gamebook.Text.Integer

/-! Single values inside documents, with the conversions that they allow. -/

namespace Gamebook.Story

open Checked (refuse)

/-- A text. -/
def readText : Json → Checked String
  | .text value => .accepted value
  | _ => refuse .notText

/-- A text that is not empty. -/
def readName : Json → Checked String
  | .text value => if value = "" then refuse .textTooShort else .accepted value
  | _ => refuse .notText

/-- A tag that must be one given word. -/
def readTag (word : String) (value : Json) : Checked Unit :=
  if value.text? = some word then .accepted () else refuse (.otherTag word)

/-- A comparison operator. -/
def readOperator (value : Json) : Checked StatOperator :=
  match value.text?.bind StatOperator.ofName? with
  | some operator => .accepted operator
  | none => refuse .notOperator

/-- The binary64 number that stands for an integer, unless it is too large for one. -/
def realOfInt? (value : Int) : Option Binary64 :=
  match Binary64.ofInt value with
  | .infinite _ => none
  | real => some real

/-- A real number written as text, with white space around it or underscores inside it, but not
both. -/
def realOfText? (text : List Char) : Option Binary64 :=
  (Text.real? (Text.trim Text.isWhiteSpace text)).or ((Text.ungrouped? text).bind Text.real?)

/-- A real number; integers, booleans and numerals count as one. -/
def readReal : Json → Checked Binary64
  | .real value => .accepted value
  | .bool value => .accepted (.ofInt (if value then 1 else 0))
  | .int value => match realOfInt? value with
    | some real => .accepted real
    | none => refuse .notReal
  | .text value =>
    match realOfText? value.toList with
    | some real => .accepted real
    | none => refuse .unreadableReal
  | _ => refuse .notReal

/-- The number of integers that 63 bits hold. -/
def wordBound : Int := 0x8000000000000000

/-- Whether an integer lies strictly inside the range of 64 bits with a sign. -/
def insideWord (value : Int) : Bool := -wordBound < value && value < wordBound

/-- Whether an integer fits 64 bits with a sign. -/
def fitsWord (value : Int) : Bool := -wordBound ≤ value && value < wordBound

/-- An integer written as text. -/
def readIntegerText (value : String) : Checked Int :=
  match Text.readPaddedInteger value.toList with
  | .ok number => .accepted number
  | .error .unreadable => refuse .unreadableInteger
  | .error (.tooLong _) => refuse .integerTooLarge

/-- An integer; booleans, whole reals and numerals count as one. -/
def readInteger : Json → Checked Int
  | .int value => .accepted value
  | .bool value => .accepted (if value then 1 else 0)
  | .real value =>
    match value.truncate? with
    | none => refuse .notFinite
    | some number =>
      if !value.isWhole then refuse .fractional
      else if insideWord number then .accepted number
      else refuse .integerTooLarge
  | .text value => readIntegerText value
  | _ => refuse .notInteger

/-- A count: an integer of at least one. -/
def readCount (value : Json) : Checked Nat :=
  match readInteger value with
  | .accepted number => if number < 1 then refuse .belowOne else .accepted number.toNat
  | .refused issues => .refused issues

/-- The words that count as true. -/
def trueWords : List String := ["1", "on", "t", "true", "y", "yes"]

/-- The words that count as false. -/
def falseWords : List String := ["0", "off", "f", "false", "n", "no"]

/-- A truth value; zero, one and certain words count as one. -/
def readBool : Json → Checked Bool
  | .bool value => .accepted value
  | .int value =>
    if value = 0 then .accepted false
    else if value = 1 then .accepted true
    else if fitsWord value then refuse .unreadableBool
    else refuse .notBool
  | .real value =>
    if value.isWhole && value.truncate? == some 0 then .accepted false
    else if value.isWhole && value.truncate? == some 1 then .accepted true
    else refuse .notBool
  | .text value =>
    let word := String.ofList (Text.lowerAscii value.toList)
    if trueWords.contains word then .accepted true
    else if falseWords.contains word then .accepted false
    else refuse .unreadableBool
  | _ => refuse .notBool

/-- A value that may be null. -/
def orNull {α : Type} (read : Json → Checked α) : Json → Checked (Option α)
  | .null => .accepted none
  | value => some <$> read value

/-- The items of a list from a place on. -/
def readItems {α : Type} (read : Json → Checked α) (place : Nat) : List Json → Checked (List α)
  | [] => .accepted []
  | item :: rest =>
    .both List.cons ((read item).under (.index place)) (readItems read (place + 1) rest)

/-- A list. -/
def readList {α : Type} (read : Json → Checked α) : Json → Checked (List α)
  | .list items => readItems read 0 items
  | _ => refuse .notList

/-- The members of a table. -/
def readMembers {α : Type} (read : Json → Checked α) :
    List (String × Json) → Checked (Table α)
  | [] => .accepted []
  | (key, value) :: rest =>
    .both List.cons ((fun read => (key, read)) <$> (read value).under (.key key))
      (readMembers read rest)

/-- A table from any keys. -/
def readTable {α : Type} (read : Json → Checked α) : Json → Checked (Table α)
  | .object members => readMembers read members
  | _ => refuse .notTable

/-- A null for a missing value, and else the value as written. -/
def writtenOrNull {α : Type} (write : α → Json) : Option α → Json
  | none => .null
  | some value => write value

/-- A field: its key in documents, and a second name that also finds it. -/
structure Field where
  key : String
  name : String

/-- A field with one name. -/
def Field.named (name : String) : Field := ⟨name, name⟩

/-- The key under which a field is found, with its value. -/
def Field.find? (field : Field) (members : List (String × Json)) : Option (String × Json) :=
  match Table.get? field.key members with
  | some value => some (field.key, value)
  | none => (Table.get? field.name members).map (field.name, ·)

/-- A field that must be there. -/
def Field.required {α : Type} (field : Field) (read : Json → Checked α)
    (members : List (String × Json)) : Checked α :=
  match field.find? members with
  | none => .refused [⟨[.key field.key], .missing⟩]
  | some (key, value) => (read value).under (.key key)

/-- A field with a value for when it is absent. -/
def Field.optional {α : Type} (field : Field) (default : α) (read : Json → Checked α)
    (members : List (String × Json)) : Checked α :=
  match field.find? members with
  | none => .accepted default
  | some (key, value) => (read value).under (.key key)

/-- The members that belong to none of the fields. -/
def extras (fields : List Field) (members : List (String × Json)) : List (String × Json) :=
  let taken := fields.filterMap fun field => (field.find? members).map (·.1)
  members.filter fun member => !taken.contains member.1

/-- A document with members, of a shape whose name is used when it is no object. -/
def readShape {α : Type} (shape : String) (read : List (String × Json) → Checked α) :
    Json → Checked α
  | .object members => read members
  | _ => refuse (.notInstance shape)

/-- The tag that tells shapes of a union apart. -/
def tagField : Field := .named "type"

/-- One value, or a list of values. -/
inductive OneOrMany (α : Type) where
  | one (value : α)
  | many (values : List α)
  deriving Repr

namespace OneOrMany

/-- The values in order. -/
def toList {α : Type} : OneOrMany α → List α
  | one value => [value]
  | many values => values

/-- The reading as a list, or else as a single value; if both fail, the issues of both. -/
def choose {α : Type} (label : String) (list : Checked (List α)) (single : Checked α) :
    Checked (OneOrMany α) :=
  match list, single with
  | .accepted values, _ => .accepted (.many values)
  | .refused _, .accepted value => .accepted (.one value)
  | .refused ofList, .refused ofSingle =>
    .refused (ofList.map (Issue.under (.key s!"list[{label}]"))
      ++ ofSingle.map (Issue.under (.key label)))

end OneOrMany

/-- The label of a union by the names of its shapes. -/
def unionLabel (shapes : List String) : String :=
  "tagged-union[" ++ String.intercalate "," shapes ++ "]"

end Gamebook.Story
