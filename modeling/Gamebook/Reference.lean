import Gamebook.Json
import Gamebook.Kind

/-! Where content names scenes: the fields that hold a target, and the effects that carry one.

Content that cannot be interpreted names nothing, so these functions apply to every JSON value. -/

namespace Gamebook

/-- For a kind of condition or effect, the field that holds a scene identifier. -/
abbrev SceneFields := Table String

/-- No condition names a scene. -/
def conditionFields : SceneFields := []

/-- Of the effects, only a transition names a scene. -/
def effectFields : SceneFields := [(EffectKind.goto.name, "sceneId")]

/-- One node or a list of them, as a list; null is no node. -/
def nodes : Json → List Json
  | .null => []
  | .list items => items
  | value => [value]

/-- The nodes under a member of an object. -/
def nodesAt (key : String) (value : Json) : List Json :=
  match value.get? key with
  | some found => nodes found
  | none => []

/-- The scene that a member names: a text that is not empty. -/
def targetAt? (key : String) (value : Json) : Option String :=
  (value.get? key).bind Json.nonemptyText?

/-- The word that marks the kind of a condition or effect. -/
def kindWord? (value : Json) : Option String := (value.get? "type").bind Json.text?

/-- The scene that a node of a kind names in the field of that kind. -/
def namedScene? (fields : SceneFields) (value : Json) : Option String := do
  let word ← kindWord? value
  let field ← Table.get? word fields
  targetAt? field value

/-- The scenes that one effect or a list of effects leads to. -/
def effectTargets (effects : Json) : List String :=
  (nodes effects).filterMap (namedScene? effectFields)

end Gamebook
