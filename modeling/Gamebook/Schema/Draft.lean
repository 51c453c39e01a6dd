import Gamebook.Schema.Misfit

/-! The drafts of the schema language, and the keywords that each one knows. -/

namespace Gamebook.Schema

/-- A draft of the schema language. -/
inductive Draft where
  | draft4 | draft6 | draft7 | draft2019 | draft2020
  deriving DecidableEq, Repr

/-- A keyword that constrains a value, among those of the model. -/
inductive Keyword where
  | reference | type | enum | const
  | minimum | maximum | exclusiveMinimum | exclusiveMaximum
  | minLength | maxLength | minItems | maxItems | uniqueItems
  | items | additionalItems
  | properties | additionalProperties | required | dependencies
  | allOf | anyOf | oneOf | negation
  deriving DecidableEq, Repr

namespace Keyword

/-- The keywords of the model with their names. Keywords that are left out constrain nothing: those
that look at numbers of members, at patterns and factors, at conditions, or at what other keywords
have seen, such as `pattern`, `multipleOf`, `contains`, `if` and `propertyNames`. -/
def names : List (String × Keyword) := [
  ("$ref", reference), ("type", type), ("enum", enum), ("const", const),
  ("minimum", minimum), ("maximum", maximum),
  ("exclusiveMinimum", exclusiveMinimum), ("exclusiveMaximum", exclusiveMaximum),
  ("minLength", minLength), ("maxLength", maxLength),
  ("minItems", minItems), ("maxItems", maxItems), ("uniqueItems", uniqueItems),
  ("items", items), ("additionalItems", additionalItems),
  ("properties", properties), ("additionalProperties", additionalProperties),
  ("required", required), ("dependencies", dependencies),
  ("allOf", allOf), ("anyOf", anyOf), ("oneOf", oneOf), ("not", negation)]

end Keyword

namespace Draft

/-- Whether a keyword constrains values in a draft. -/
def knows : Draft → Keyword → Bool
  | draft4, .const | draft4, .exclusiveMinimum | draft4, .exclusiveMaximum => false
  | draft2019, .dependencies | draft2020, .dependencies => false
  | draft2020, .additionalItems => false
  | _, _ => true

/-- The keyword of a name in a draft. -/
def keyword? (draft : Draft) (name : String) : Option Keyword :=
  (Table.get? name Keyword.names).filter (draft.knows ·)

/-- Whether a reference stands alone: what is written beside it does not count. -/
def referenceStandsAlone : Draft → Bool
  | draft4 | draft6 | draft7 => true
  | _ => false

/-- The addresses of the drafts. -/
def addresses : List (String × Draft) := [
  ("http://json-schema.org/draft-04/schema", draft4),
  ("http://json-schema.org/draft-06/schema", draft6),
  ("http://json-schema.org/draft-07/schema", draft7),
  ("https://json-schema.org/draft/2019-09/schema", draft2019),
  ("https://json-schema.org/draft/2020-12/schema", draft2020)]

/-- A text without a mark at its end, if that is the first such mark in it. -/
def withoutEmpty (mark : Char) (input : List Char) : List Char :=
  let before := input.takeWhile (· ≠ mark)
  if before.length + 1 = input.length then before else input

/-- An address without control characters, its scheme in lower case, and without an empty query or
fragment. -/
def normalAddress (address : List Char) : List Char :=
  let bare := withoutEmpty '?' (withoutEmpty '#' (Address.withoutControls address))
  let scheme := bare.takeWhile (· ≠ ':')
  scheme.map Char.toLower ++ bare.drop scheme.length

/-- The draft at an address. -/
def ofAddress? (address : String) : Option Draft :=
  Table.get? (String.ofList (normalAddress address.toList)) addresses

/-- The draft that a value names; one that is empty names none. -/
def named? : Json → Except Misfit (Option Draft)
  | .text address => match Address.fault? address with
    | some fault => .error (.noAddress fault)
    | none => .ok (ofAddress? address)
  | .list items => .error (.noKey (.list items))
  | .object members => .error (.noKey (.object members))
  | name => if name.isTruthy then .error (.lacks name "decode") else .ok none

end Draft

end Gamebook.Schema
