import Gamebook.Binary64.Layout
import Gamebook.Json
import Gamebook.Text.Digit

/-! JSON texts, compact or indented. -/

namespace Gamebook.Json

/-- How a JSON text is laid out. -/
structure Style where
  -- The width of one level of indentation; without one the text is a single line.
  indent : Option Nat
  -- Between the items of a single line, and between a key and its value.
  comma : String
  colon : String
  -- Whether every character outside printable ASCII is escaped.
  asciiOnly : Bool
  layout : Binary64.Layout

/-- Result documents. -/
def Style.document (indent : Option Nat) : Style :=
  { indent, comma := ",", colon := if indent.isSome then ": " else ":", asciiOnly := false,
    layout := .document }

/-- Reports and log lines, which hold ASCII only. -/
def Style.ascii (indent : Option Nat) : Style :=
  { indent, comma := ", ", colon := ": ", asciiOnly := true, layout := .line }

/-- One UTF-16 unit as an escape. -/
def unitEscape (unit : Nat) : String := "\\u" ++ Text.hex 4 unit

/-- A code point as one escape, or two above the first plane. -/
def pointEscape (point : Nat) : String :=
  if point < 0x10000 then unitEscape point
  else
    let rest := point - 0x10000
    unitEscape (0xd800 + rest / 0x400) ++ unitEscape (0xdc00 + rest % 0x400)

/-- One character inside a JSON string. -/
def writtenChar (asciiOnly : Bool) (c : Char) : String :=
  if c = '"' then "\\\""
  else if c = '\\' then "\\\\"
  else if c = '\n' then "\\n"
  else if c = '\r' then "\\r"
  else if c = '\t' then "\\t"
  else if c.toNat = 8 then "\\b"
  else if c.toNat = 12 then "\\f"
  else if c.toNat < 0x20 then unitEscape c.toNat
  else if asciiOnly && 0x7f ≤ c.toNat then pointEscape c.toNat
  else String.ofList [c]

/-- A JSON string. -/
def writtenText (asciiOnly : Bool) (text : String) : String :=
  "\"" ++ String.join (text.toList.map (writtenChar asciiOnly)) ++ "\""

/-- Parts between brackets, on lines of their own when the style indents. -/
def bracketed (style : Style) (depth : Nat) (opening closing : String) (parts : List String) :
    String :=
  if parts.isEmpty then opening ++ closing
  else match style.indent with
    | none => opening ++ String.intercalate style.comma parts ++ closing
    | some width =>
      let margin := fun level => "\n" ++ String.ofList (List.replicate (width * level) ' ')
      opening ++ margin (depth + 1) ++ String.intercalate ("," ++ margin (depth + 1)) parts
        ++ margin depth ++ closing

mutual

/-- The JSON text of a value at a depth of nesting. -/
def writtenAt (style : Style) (depth : Nat) : Json → String
  | .null => "null"
  | .bool value => if value then "true" else "false"
  | .int value => toString value
  | .real value => style.layout.text value
  | .text value => writtenText style.asciiOnly value
  | .list items => bracketed style depth "[" "]" (writtenItems style (depth + 1) items)
  | .object members =>
    bracketed style depth "\x7b" "\x7d" (writtenMembers style (depth + 1) members)

/-- The JSON texts of the items of a list. -/
def writtenItems (style : Style) (depth : Nat) : List Json → List String
  | [] => []
  | item :: rest => writtenAt style depth item :: writtenItems style depth rest

/-- The JSON texts of the members of an object. -/
def writtenMembers (style : Style) (depth : Nat) : List (String × Json) → List String
  | [] => []
  | (key, value) :: rest =>
    (writtenText style.asciiOnly key ++ style.colon ++ writtenAt style depth value)
      :: writtenMembers style depth rest

end

/-- The JSON text of a value. -/
def written (style : Style) (value : Json) : String := writtenAt style 0 value

end Gamebook.Json
