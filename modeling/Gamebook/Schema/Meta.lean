import Gamebook.Schema.Draft

/-! The schemas that schemas themselves must fit, one for each draft.

Members stand in the order in which they are checked, and those that check nothing are left out. -/

namespace Gamebook.Schema.Meta

/-- A schema of one type. -/
def ofType (name : String) : Json := .object [("type", .text name)]

/-- A reference. -/
def reference (pointer : String) : Json := .object [("$ref", .text pointer)]

/-- A schema in turn. -/
def itself : Json := reference "#"

/-- Several schemas of which one must be fitted. -/
def anyOf (schemas : List Json) : Json := .object [("anyOf", .list schemas)]

/-- An object whose members all fit a schema. -/
def tableOf (schema : Json) : Json :=
  .object [("type", .text "object"), ("additionalProperties", schema)]

/-- A list whose items all fit a schema. -/
def listOf (schema : Json) (more : List (String × Json)) : Json :=
  .object ([("type", .text "array"), ("items", schema)] ++ more)

/-- A text. -/
def text : Json := ofType "string"
/-- A truth value. -/
def truth : Json := ofType "boolean"
/-- A number. -/
def number : Json := ofType "number"
/-- Anything. -/
def anything : Json := .object []

/-- The names of the types. -/
def simpleTypes : Json :=
  .object [("enum", .list (["array", "boolean", "integer", "null", "number", "object",
    "string"].map .text))]

/-- A count. -/
def count : Json := .object [("type", .text "integer"), ("minimum", .int 0)]

/-- A count that may be left out. -/
def countOrZero : Json := .object [("allOf", .list [count, anything])]

/-- A list of schemas that is not empty. -/
def schemaList : Json :=
  .object [("type", .text "array"), ("minItems", .int 1), ("items", itself)]

/-- The name of a type, or a list of different names that is not empty. -/
def typeNames : Json :=
  anyOf [simpleTypes, listOf simpleTypes [("minItems", .int 1), ("uniqueItems", .bool true)]]

/-- A schema or a list of schemas. -/
def schemaOrList : Json := anyOf [itself, schemaList]

/-- A list of different texts. -/
def textList : Json := listOf text [("uniqueItems", .bool true)]

/-- A list of different texts that is not empty. -/
def nonemptyTextList : Json :=
  listOf text [("minItems", .int 1), ("uniqueItems", .bool true)]

/-- A list of different values that is not empty. -/
def nonemptyList : Json :=
  .object [("type", .text "array"), ("minItems", .int 1), ("uniqueItems", .bool true)]

/-- A positive number. -/
def positive : Json := .object [("type", .text "number"), ("exclusiveMinimum", .int 0)]

/-- The types of a schema from the sixth draft on. -/
def schemaTypes : Json := .list [.text "object", .text "boolean"]

/-- The schema of schemas of the fourth draft. -/
def draft4 : Json :=
  .object [
    ("$schema", .text "http://json-schema.org/draft-04/schema#"),
    ("type", .text "object"),
    ("properties", .object [
      ("id", text), ("$schema", text), ("title", text), ("description", text),
      ("multipleOf", .object [("type", .text "number"), ("minimum", .int 0),
        ("exclusiveMinimum", .bool true)]),
      ("maximum", number), ("exclusiveMaximum", truth), ("minimum", number),
      ("exclusiveMinimum", truth), ("maxLength", count), ("minLength", countOrZero),
      ("pattern", text), ("additionalItems", anyOf [truth, itself]), ("items", schemaOrList),
      ("maxItems", count), ("minItems", countOrZero), ("uniqueItems", truth),
      ("maxProperties", count), ("minProperties", countOrZero), ("required", nonemptyTextList),
      ("additionalProperties", anyOf [truth, itself]), ("definitions", tableOf itself),
      ("properties", tableOf itself), ("patternProperties", tableOf itself),
      ("dependencies", tableOf (anyOf [itself, nonemptyTextList])), ("enum", nonemptyList),
      ("type", typeNames), ("format", text), ("allOf", schemaList), ("anyOf", schemaList),
      ("oneOf", schemaList), ("not", itself)]),
    ("dependencies", .object [("exclusiveMaximum", .list [.text "maximum"]),
      ("exclusiveMinimum", .list [.text "minimum"])])]

/-- The schema of schemas of the sixth draft. -/
def draft6 : Json :=
  .object [
    ("$schema", .text "http://json-schema.org/draft-06/schema#"),
    ("type", schemaTypes),
    ("properties", .object [
      ("$id", text), ("$schema", text), ("$ref", text), ("title", text), ("description", text),
      ("examples", ofType "array"), ("multipleOf", positive), ("maximum", number),
      ("exclusiveMaximum", number), ("minimum", number), ("exclusiveMinimum", number),
      ("maxLength", count), ("minLength", countOrZero), ("pattern", text),
      ("additionalItems", itself), ("items", schemaOrList), ("maxItems", count),
      ("minItems", countOrZero), ("uniqueItems", truth), ("contains", itself),
      ("maxProperties", count), ("minProperties", countOrZero), ("required", textList),
      ("additionalProperties", itself), ("definitions", tableOf itself),
      ("properties", tableOf itself), ("patternProperties", tableOf itself),
      ("dependencies", tableOf (anyOf [itself, textList])), ("propertyNames", itself),
      ("enum", ofType "array"), ("type", typeNames), ("format", text), ("allOf", schemaList),
      ("anyOf", schemaList), ("oneOf", schemaList), ("not", itself)])]

/-- The schema of schemas of the seventh draft. -/
def draft7 : Json :=
  .object [
    ("$schema", .text "http://json-schema.org/draft-07/schema#"),
    ("type", schemaTypes),
    ("properties", .object [
      ("$id", text), ("$schema", text), ("$ref", text), ("$comment", text), ("title", text),
      ("description", text), ("readOnly", truth), ("examples", ofType "array"),
      ("multipleOf", positive), ("maximum", number), ("exclusiveMaximum", number),
      ("minimum", number), ("exclusiveMinimum", number), ("maxLength", count),
      ("minLength", countOrZero), ("pattern", text), ("additionalItems", itself),
      ("items", schemaOrList), ("maxItems", count), ("minItems", countOrZero),
      ("uniqueItems", truth), ("contains", itself), ("maxProperties", count),
      ("minProperties", countOrZero), ("required", textList), ("additionalProperties", itself),
      ("definitions", tableOf itself), ("properties", tableOf itself),
      ("patternProperties", tableOf itself),
      ("dependencies", tableOf (anyOf [itself, textList])), ("propertyNames", itself),
      ("enum", ofType "array"), ("type", typeNames), ("format", text),
      ("contentMediaType", text), ("contentEncoding", text), ("if", itself), ("then", itself),
      ("else", itself), ("allOf", schemaList), ("anyOf", schemaList), ("oneOf", schemaList),
      ("not", itself)])]

/-- Named members of a schema from the draft of 2019 on, where each group is checked by itself. -/
def group (members : List (String × Json)) : Json :=
  .object [("type", schemaTypes), ("properties", .object members)]

/-- The members that apply schemas in turn, from the draft of 2019 on. -/
def applied : List (String × Json) :=
  [("properties", tableOf itself), ("patternProperties", tableOf itself),
    ("dependentSchemas", tableOf itself), ("propertyNames", itself), ("if", itself),
    ("then", itself), ("else", itself), ("allOf", schemaList), ("anyOf", schemaList),
    ("oneOf", schemaList), ("not", itself)]

/-- The members that bound numbers, lengths and members, from the draft of 2019 on. -/
def bounds : List (String × Json) :=
  [("multipleOf", positive), ("maximum", number), ("exclusiveMaximum", number),
    ("minimum", number), ("exclusiveMinimum", number), ("maxLength", count),
    ("minLength", count), ("pattern", text), ("maxItems", count), ("minItems", count),
    ("uniqueItems", truth), ("maxContains", count), ("minContains", count),
    ("maxProperties", count), ("minProperties", count), ("required", textList),
    ("dependentRequired", tableOf textList)]

/-- The members that describe, from the draft of 2019 on. -/
def descriptive : List (String × Json) :=
  [("title", text), ("description", text), ("deprecated", truth), ("readOnly", truth),
    ("writeOnly", truth), ("examples", ofType "array")]

/-- The members of earlier drafts that later ones still check. -/
def inherited : List (String × Json) :=
  [("definitions", tableOf itself), ("dependencies", tableOf (anyOf [itself, textList]))]

/-- The schema of schemas of the draft of 2019. -/
def draft2019 : Json :=
  .object [
    ("$schema", .text "https://json-schema.org/draft/2019-09/schema"),
    ("allOf", .list [
      group [("$id", text), ("$schema", text), ("$anchor", text), ("$ref", text),
        ("$recursiveRef", text), ("$recursiveAnchor", truth), ("$vocabulary", tableOf truth),
        ("$comment", text), ("$defs", tableOf itself)],
      group ([("additionalItems", itself), ("unevaluatedItems", itself), ("items", schemaOrList),
        ("contains", itself), ("additionalProperties", itself),
        ("unevaluatedProperties", itself)] ++ applied),
      group (bounds ++ [("enum", ofType "array"), ("type", typeNames)]),
      group descriptive,
      group [("format", text)],
      group [("contentMediaType", text), ("contentEncoding", text), ("contentSchema", itself)]]),
    ("type", schemaTypes),
    ("properties", .object inherited)]

/-- The schema of schemas of the draft of 2020. -/
def draft2020 : Json :=
  .object [
    ("$schema", .text "https://json-schema.org/draft/2020-12/schema"),
    ("allOf", .list [
      group [("$id", text), ("$schema", text), ("$ref", text), ("$anchor", text),
        ("$dynamicRef", text), ("$dynamicAnchor", text), ("$vocabulary", tableOf truth),
        ("$comment", text), ("$defs", tableOf itself)],
      group ([("prefixItems", schemaList), ("items", itself), ("contains", itself),
        ("additionalProperties", itself)] ++ applied),
      group [("unevaluatedItems", itself), ("unevaluatedProperties", itself)],
      group ([("type", typeNames), ("enum", ofType "array")] ++ bounds),
      group descriptive,
      group [("format", text)],
      group [("contentEncoding", text), ("contentMediaType", text), ("contentSchema", itself)]]),
    ("type", schemaTypes),
    ("properties", .object inherited)]

/-- The schema of schemas of a draft. -/
def ofDraft : Draft → Json
  | .draft4 => draft4
  | .draft6 => draft6
  | .draft7 => draft7
  | .draft2019 => draft2019
  | .draft2020 => draft2020

end Gamebook.Schema.Meta
