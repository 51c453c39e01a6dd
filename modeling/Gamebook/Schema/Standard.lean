import Gamebook.Json

/-! The schemas for documents that come without schemas of their own. -/

namespace Gamebook.Schema.Standard

/-- The schema of manifests. -/
def manifest : Json :=
  .object [
    ("$schema", .text "http://json-schema.org/draft-07/schema#"),
    ("title", .text "Gamebook manifest"),
    ("type", .text "object"),
    ("required", .list [.text "startingScene", .text "sceneIndex"]),
    ("properties", .object [
      ("gamebook", .object [
        ("type", .text "object"),
        ("properties", .object [
          ("title", .object [("type", .text "string")]),
          ("source", .object [("type", .text "string")]),
          ("version", .object [("type", .text "string")]),
          ("adaptationVersion", .object [("type", .text "string")])])]),
      ("startingScene", .object [("type", .text "string"), ("minLength", .int 1)]),
      ("acts", .object [
        ("type", .text "array"),
        ("items", .object [
          ("type", .text "object"),
          ("properties", .object [
            ("hubs", .object [
              ("type", .text "array"),
              ("items", .object [
                ("type", .text "object"),
                ("properties", .object [
                  ("convergenceScene", .object [
                    ("type", .text "string"), ("minLength", .int 1)])])])])])])]),
      ("endings", .object [
        ("type", .text "array"),
        ("items", .object [
          ("type", .text "object"),
          ("properties", .object [
            ("id", .object [("type", .list [.text "integer", .text "string"])]),
            ("sceneId", .object [("type", .text "string"), ("minLength", .int 1)]),
            ("title", .object [("type", .text "string")])])])]),
      ("sceneIndex", .object [
        ("type", .text "object"),
        ("additionalProperties", .object [
          ("type", .text "object"),
          ("properties", .object [
            ("id", .object [("type", .text "string"), ("minLength", .int 1)]),
            ("title", .object [("type", .text "string")]),
            ("unreachable", .object [("type", .text "boolean")])])])])])]

/-- The schema of scenes. -/
def scene : Json :=
  .object [
    ("$schema", .text "http://json-schema.org/draft-07/schema#"),
    ("title", .text "Gamebook scene"),
    ("type", .text "object"),
    ("required", .list [.text "id"]),
    ("definitions", .object [
      ("condition", .object [
        ("type", .text "object"),
        ("required", .list [.text "type"]),
        ("properties", .object [
          ("type", .object [
            ("enum", .list [
              .text "stat",
              .text "flag",
              .text "item",
              .text "faction",
              .text "and",
              .text "or",
              .text "not"])]),
          ("conditions", .object [
            ("oneOf", .list [
              .object [("$ref", .text "#/definitions/condition")],
              .object [
                ("type", .text "array"),
                ("minItems", .int 1),
                ("items", .object [("$ref", .text "#/definitions/condition")])]])])])]),
      ("conditions", .object [
        ("oneOf", .list [
          .object [("$ref", .text "#/definitions/condition")],
          .object [
            ("type", .text "array"),
            ("items", .object [("$ref", .text "#/definitions/condition")])]])]),
      ("effect", .object [
        ("type", .text "object"),
        ("required", .list [.text "type"]),
        ("properties", .object [
          ("type", .object [
            ("enum", .list [
              .text "set-stat",
              .text "modify-stat",
              .text "set-flag",
              .text "clear-flag",
              .text "add-item",
              .text "remove-item",
              .text "goto",
              .text "modify-faction"])]),
          ("sceneId", .object [("type", .text "string"), ("minLength", .int 1)])])]),
      ("effects", .object [
        ("oneOf", .list [
          .object [("$ref", .text "#/definitions/effect")],
          .object [
            ("type", .text "array"),
            ("items", .object [("$ref", .text "#/definitions/effect")])]])]),
      ("choice", .object [
        ("type", .text "object"),
        ("properties", .object [
          ("label", .object [("type", .text "string")]),
          ("to", .object [("type", .text "string"), ("minLength", .int 1)]),
          ("conditions", .object [("$ref", .text "#/definitions/conditions")]),
          ("effects", .object [("$ref", .text "#/definitions/effects")])])])]),
    ("properties", .object [
      ("id", .object [("type", .text "string"), ("minLength", .int 1)]),
      ("title", .object [("type", .text "string")]),
      ("text", .object [("type", .list [.text "string", .text "object"])]),
      ("effects", .object [("$ref", .text "#/definitions/effects")]),
      ("choices", .object [
        ("type", .text "array"),
        ("items", .object [("$ref", .text "#/definitions/choice")])])])]

/-- The schema of documents of items. -/
def items : Json :=
  .object [
    ("$schema", .text "http://json-schema.org/draft-07/schema#"),
    ("title", .text "Gamebook items"),
    ("type", .text "object"),
    ("properties", .object [
      ("items", .object [
        ("type", .text "object"),
        ("additionalProperties", .object [
          ("type", .text "object"),
          ("required", .list [.text "name"]),
          ("properties", .object [
            ("name", .object [("type", .text "string"), ("minLength", .int 1)]),
            ("description", .object [("type", .text "string")]),
            ("stackable", .object [("type", .text "boolean")])])])])])]

/-- The schema of documents of stats. -/
def stats : Json :=
  .object [
    ("$schema", .text "http://json-schema.org/draft-07/schema#"),
    ("title", .text "Gamebook stats"),
    ("type", .text "object"),
    ("properties", .object [
      ("stats", .object [
        ("type", .text "object"),
        ("additionalProperties", .object [
          ("type", .text "object"),
          ("properties", .object [
            ("name", .object [("type", .text "string")]),
            ("initial", .object [("type", .text "number")]),
            ("min", .object [("type", .text "number")]),
            ("max", .object [("type", .text "number")])])])])])]

end Gamebook.Schema.Standard
