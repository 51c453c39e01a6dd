import Gamebook.Json.Shown
import Gamebook.Kind

/-! What is wrong with a document, and where; all issues of a document are collected. -/

namespace Gamebook

/-- A step into a document. -/
inductive LocPart where
  | key (name : String)
  | index (place : Nat)
  deriving DecidableEq, Repr

/-- A step as text. -/
def LocPart.text : LocPart → String
  | key name => name
  | index place => toString place

/-- A way in which a value fails its shape. -/
inductive Problem where
  | notInstance (shape : String)
  | missing
  | notText
  | textTooShort
  | otherTag (expected : String)
  | notOperator
  | unreadableReal
  | notReal
  | notFinite
  | fractional
  | integerTooLarge
  | unreadableInteger
  | notInteger
  | belowOne
  | unreadableBool
  | notBool
  | notList
  | noItems
  | notTable
  | notTagged
  | tagMissing
  | tagUnknown (tag : String) (expected : List String)
  deriving DecidableEq, Repr

namespace Problem

/-- The short name of a problem. -/
def code : Problem → String
  | notInstance _ => "model_type"
  | missing => "missing"
  | notText => "string_type"
  | textTooShort => "string_too_short"
  | otherTag _ => "literal_error"
  | notOperator => "enum"
  | unreadableReal => "float_parsing"
  | notReal => "float_type"
  | notFinite => "finite_number"
  | fractional => "int_from_float"
  | integerTooLarge => "int_parsing_size"
  | unreadableInteger => "int_parsing"
  | notInteger => "int_type"
  | belowOne => "greater_than_equal"
  | unreadableBool => "bool_parsing"
  | notBool => "bool_type"
  | notList => "list_type"
  | noItems => "too_short"
  | notTable => "dict_type"
  | notTagged => "model_attributes_type"
  | tagMissing => "union_tag_not_found"
  | tagUnknown _ _ => "union_tag_invalid"

/-- A problem in words. -/
def message : Problem → String
  | notInstance shape => s!"Input should be a valid dictionary or instance of {shape}"
  | missing => "Field required"
  | notText => "Input should be a valid string"
  | textTooShort => "String should have at least 1 character"
  | otherTag expected => s!"Input should be '{expected}'"
  | notOperator => "Input should be 'gte', 'lte', 'eq', 'gt' or 'lt'"
  | unreadableReal => "Input should be a valid number, unable to parse string as a number"
  | notReal => "Input should be a valid number"
  | notFinite => "Input should be a finite number"
  | fractional => "Input should be a valid integer, got a number with a fractional part"
  | integerTooLarge => "Unable to parse input string as an integer, exceeded maximum size"
  | unreadableInteger => "Input should be a valid integer, unable to parse string as an integer"
  | notInteger => "Input should be a valid integer"
  | belowOne => "Input should be greater than or equal to 1"
  | unreadableBool => "Input should be a valid boolean, unable to interpret input"
  | notBool => "Input should be a valid boolean"
  | notList => "Input should be a valid list"
  | noItems => "List should have at least 1 item after validation, not 0"
  | notTable => "Input should be a valid dictionary"
  | notTagged => "Input should be a valid dictionary or object to extract fields from"
  | tagMissing => "Unable to extract tag using discriminator 'type'"
  | tagUnknown tag expected =>
    s!"Input tag '{tag}' found using 'type' does not match any of the expected tags: "
      ++ String.intercalate ", " (expected.map fun word => s!"'{word}'")

end Problem

/-- A problem and the steps that lead to it. -/
structure Issue where
  loc : List LocPart
  problem : Problem
  deriving DecidableEq, Repr

/-- An issue one step further out. -/
def Issue.under (part : LocPart) (issue : Issue) : Issue := { issue with loc := part :: issue.loc }

/-- An issue in words, after the steps that lead to it. -/
def Issue.message (issue : Issue) : String :=
  let place := String.intercalate "." (issue.loc.map LocPart.text)
  if place = "" then issue.problem.message else s!"{place}: {issue.problem.message}"

/-- The outcome of checking a value: what it stands for, or all of its issues. -/
inductive Checked (α : Type) where
  | accepted (value : α)
  | refused (issues : List Issue)
  deriving Repr

namespace Checked

/-- A refusal of the value itself. -/
def refuse {α : Type} (problem : Problem) : Checked α := .refused [⟨[], problem⟩]

/-- Combines two outcomes; the issues of both are kept. -/
def both {α β γ : Type} (combine : α → β → γ) : Checked α → Checked β → Checked γ
  | .accepted a, .accepted b => .accepted (combine a b)
  | .accepted _, .refused issues => .refused issues
  | .refused issues, .accepted _ => .refused issues
  | .refused first, .refused second => .refused (first ++ second)

instance : Applicative Checked where
  pure := .accepted
  seq functions values := both (fun function value => function value) functions (values ())

/-- The outcome for a part of a value, as seen from the value. -/
def under {α : Type} (part : LocPart) : Checked α → Checked α
  | .accepted value => .accepted value
  | .refused issues => .refused (issues.map (Issue.under part))

/-- The issues of an outcome. -/
def issues {α : Type} : Checked α → List Issue
  | .accepted _ => []
  | .refused issues => issues

/-- Whether a value was accepted. -/
def isAccepted {α : Type} : Checked α → Bool
  | .accepted _ => true
  | .refused _ => false

end Checked

end Gamebook
