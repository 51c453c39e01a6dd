import Gamebook.Story.Condition
import Gamebook.Story.Effect

/-! Scenes and the choices that they offer. -/

namespace Gamebook.Story

/-- An option of a scene. -/
structure Choice where
  label : Option String
  target : Option String
  conditions : Option (OneOrMany Condition)
  effects : Option (OneOrMany Effect)
  extra : List (String × Json)

/-- The text of a scene: plain, or a table of its own. -/
inductive Passage where
  | plain (text : String)
  | table (members : List (String × Json))

/-- One unit of a story. -/
structure Scene where
  id : String
  title : Option String
  text : Option Passage
  effects : Option (OneOrMany Effect)
  choices : List Choice
  extra : List (String × Json)

/-- The field of effects. -/
def effectsField : Field := .named "effects"

/-- The field of a title. -/
def titleField : Field := .named "title"

/-- The field of an identifier. -/
def idField : Field := .named "id"

namespace Choice

/-- The field of a choice's label. -/
def labelField : Field := .named "label"
/-- The field of the scene that a choice leads to. -/
def targetField : Field := .named "to"
/-- The field of the conditions of a choice. -/
def conditionsField : Field := .named "conditions"

/-- A choice. -/
def read : Json → Checked Choice :=
  readShape "Choice" fun members =>
    (fun label target conditions effects => ⟨label, target, conditions, effects,
        extras [labelField, targetField, conditionsField, effectsField] members⟩)
      <$> labelField.optional none (orNull readText) members
      <*> targetField.optional none (orNull readName) members
      <*> conditionsField.optional none (orNull (Condition.readHeld none)) members
      <*> effectsField.optional none (orNull Effect.readSome) members

/-- A choice as a document. -/
def write (choice : Choice) : Json :=
  .object ([("label", writtenOrNull .text choice.label),
    ("to", writtenOrNull .text choice.target),
    ("conditions", writtenOrNull Condition.writeHeld choice.conditions),
    ("effects", writtenOrNull Effect.writeSome choice.effects)] ++ choice.extra)

end Choice

namespace Passage

/-- The text of a scene. -/
def read : Json → Checked Passage
  | .text value => .accepted (.plain value)
  | .object members => .accepted (.table members)
  | _ => .refused [⟨[.key "str"], .notText⟩, ⟨[.key "dict[str,any]"], .notTable⟩]

/-- The text of a scene as a document. -/
def write : Passage → Json
  | plain text => .text text
  | table members => .object members

end Passage

namespace Scene

/-- The field of a scene's text. -/
def textField : Field := .named "text"
/-- The field of a scene's choices. -/
def choicesField : Field := .named "choices"

/-- A scene. -/
def read : Json → Checked Scene :=
  readShape "Scene" fun members =>
    (fun id title text effects choices => ⟨id, title, text, effects, choices,
        extras [idField, titleField, textField, effectsField, choicesField] members⟩)
      <$> idField.required readName members
      <*> titleField.optional none (orNull readText) members
      <*> textField.optional none (orNull Passage.read) members
      <*> effectsField.optional none (orNull Effect.readSome) members
      <*> choicesField.optional [] (readList Choice.read) members

/-- A scene as a document. -/
def write (scene : Scene) : Json :=
  .object ([("id", .text scene.id), ("title", writtenOrNull .text scene.title),
    ("text", writtenOrNull Passage.write scene.text),
    ("effects", writtenOrNull Effect.writeSome scene.effects),
    ("choices", .list (scene.choices.map Choice.write))] ++ scene.extra)

end Scene

end Gamebook.Story
