import Gamebook.Binary64.Layout
import Gamebook.Json
import Gamebook.Text.Quoted

/-! JSON values as messages show them. -/

namespace Gamebook.Json

mutual

/-- A value inside a message: text in quotes, lists and objects in brackets. -/
def shown : Json → String
  | .null => "None"
  | .bool value => if value then "True" else "False"
  | .int value => toString value
  | .real value => Binary64.Layout.message.text value
  | .text value => Text.quoted value
  | .list items => "[" ++ String.intercalate ", " (shownItems items) ++ "]"
  | .object members => "\x7b" ++ String.intercalate ", " (shownMembers members) ++ "\x7d"

/-- The items of a list as a message shows them. -/
def shownItems : List Json → List String
  | [] => []
  | item :: rest => shown item :: shownItems rest

/-- The members of an object as a message shows them. -/
def shownMembers : List (String × Json) → List String
  | [] => []
  | (key, value) :: rest => (Text.quoted key ++ ": " ++ shown value) :: shownMembers rest

end

/-- A value as plain text: as messages show it, but without quotes around bare text. -/
def plain : Json → String
  | .text value => value
  | value => shown value

/-- The name of the type of a value, inside messages. -/
def typeName : Json → String
  | .null => "NoneType"
  | .bool _ => "bool"
  | .int _ => "int"
  | .real _ => "float"
  | .text _ => "str"
  | .list _ => "list"
  | .object _ => "dict"

end Gamebook.Json
