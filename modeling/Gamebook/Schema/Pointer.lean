import Gamebook.Schema.Misfit
import Gamebook.Story.Issue
import Gamebook.Text.Lines
import Gamebook.Text.Utf8

/-! Pointers into JSON values: slashes between steps, and tildes that escape slashes and tildes. -/

namespace Gamebook.Schema.Pointer

/-- A step with its tildes and slashes escaped. -/
def escaped : List Char → List Char
  | [] => []
  | '~' :: rest => '~' :: '0' :: escaped rest
  | '/' :: rest => '~' :: '1' :: escaped rest
  | c :: rest => c :: escaped rest

/-- A step with its escapes undone. -/
def unescaped : List Char → List Char
  | [] => []
  | '~' :: '0' :: rest => '~' :: unescaped rest
  | '~' :: '1' :: rest => '/' :: unescaped rest
  | c :: rest => c :: unescaped rest

/-- The pointer of a path; the whole value is called `root`. -/
def written (path : List String) : String :=
  if path.isEmpty then "root"
  else String.join (path.map fun step => "/" ++ String.ofList (escaped step.toList))

/-- The path of a written pointer. -/
def path (pointer : String) : List String :=
  if pointer = "root" then []
  else ((Text.splitAt '/' (pointer.toList.drop 1)).map unescaped).map String.ofList

/-- The bytes of a text in ASCII in which bytes may be written as a percent sign and two hexadecimal
digits. -/
def percentBytes : List Char → List UInt8
  | [] => []
  | '%' :: a :: b :: rest =>
    match Text.hexDigit? a, Text.hexDigit? b with
    | some high, some low => (high * 16 + low).toUInt8 :: percentBytes rest
    | _, _ => '%'.toNat.toUInt8 :: percentBytes (a :: b :: rest)
  | c :: rest => c.toNat.toUInt8 :: percentBytes rest

/-- Whether a character is in ASCII. -/
def isAscii (c : Char) : Bool := c.toNat < 0x80

/-- A text with its percent signs decoded; each run of ASCII is decoded by itself. -/
def percentDecoded (input : List Char) : List Char :=
  ((input.splitBy fun a b => isAscii a == isAscii b).map fun run =>
    if run.all isAscii then
      let bytes := percentBytes run
      Text.decodeLossy (bytes.length + 1) bytes
    else run).flatten

/-- A text without another one before it, if that stands there. -/
def withoutStart (start input : List Char) : List Char :=
  if start.isPrefixOf input then input.drop start.length else input

/-- Whether an address without a fragment has no parts, but for the marks between them. -/
def isEmptyAddress (address : List Char) : Bool :=
  let rest := withoutStart ['?'] address
  rest.isEmpty || (withoutStart ['?'] (withoutStart [';'] address)).isEmpty
    || (withoutStart ['?'] (withoutStart ['/', '/'] address)).isEmpty

/-- The fragment of a reference into the same document. -/
def fragment? (reference : List Char) : Option (List Char) :=
  match reference with
  | [] => some []
  | '#' :: fragment => some fragment
  | reference =>
    if reference.contains '#' then
      let address := Address.withoutControls reference
      let before := address.takeWhile (· ≠ '#')
      if isEmptyAddress before then some (address.drop (before.length + 1)) else none
    else none

/-- The part of a value that steps lead to, if there is one. -/
def follow (value : Json) : List (List Char) → Except Misfit (Option Json)
  | [] => .ok (some value)
  | step :: rest => do
    -- Only names of members are escaped.
    let step := if value.isObject then unescaped step else step
    match ← partAt value (String.ofList step) with
    | some part => follow part rest
    | none => return none

/-- The part of a value that a local reference names, if there is one: the whole value, or a pointer
after `#`. -/
def resolve (root : Json) (reference : String) : Except Misfit (Option Json) :=
  match fragment? reference.toList with
  | some [] => .ok (some root)
  | some ('/' :: pointer) => follow root (Text.splitAt '/' (percentDecoded pointer))
  | _ => .ok none

end Gamebook.Schema.Pointer
