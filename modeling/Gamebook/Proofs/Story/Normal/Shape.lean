import Gamebook.Proofs.Story.Normal.Condition
import Gamebook.Proofs.Story.Normal.Effect

/-! Every shape of document has a normal form, in which all its fields are written out, and which is
its own normal form. -/

namespace Gamebook.Story

open Checked

section Shapes

/-- Held conditions are written as an object or a list. -/
theorem writeHeld_ne_null (held : OneOrMany Condition) : Condition.writeHeld held ≠ .null := by
  -- A condition is written as an object, several as a list.
  cases held with
  | one condition => cases condition <;> simp [Condition.writeHeld, Condition.write]
  | many conditions => simp [Condition.writeHeld]

/-- Effects are written as an object or a list. -/
theorem writeSome_ne_null (effects : OneOrMany Effect) : Effect.writeSome effects ≠ .null := by
  cases effects <;> simp [Effect.writeSome, Effect.write]

/-- A choice reads back, field by field. -/
theorem Choice.readsBack_read : ReadsBack Choice.read Choice.write := by
  intro value choice ok
  obtain ⟨members, rfl, built⟩ := exists_members_of_readShape ok
  simp only [seq_eq_accepted_iff, map_eq_accepted_iff] at built
  obtain ⟨_, ⟨_, ⟨_, ⟨label, labelRead, rfl⟩, target, targetRead, rfl⟩,
    conditions, conditionsRead, rfl⟩, effects, effectsRead, rfl⟩ := built
  have held := (Condition.readsBack_readHeld none).orNull writeHeld_ne_null
  -- Every field is written under its key, and the other members come behind the fields.
  rw [write, read, readShape]
  simp only [seq_eq_accepted_iff, map_eq_accepted_iff]
  refine ⟨_, ⟨_, ⟨_, ⟨label, ?_, rfl⟩, target, ?_, rfl⟩, conditions, ?_, rfl⟩, effects, ?_, ?_⟩
  · exact readsBack_textOrNull.optional rfl labelRead rfl
  · exact readsBack_nameOrNull.optional rfl targetRead rfl
  · exact held.optional rfl conditionsRead rfl
  · exact (Effect.readsBack_readSome.orNull writeSome_ne_null).optional rfl effectsRead rfl
  · rw [extras_append rfl]

/-- A passage is written as a text or an object. -/
theorem Passage.write_ne_null (passage : Passage) : passage.write ≠ .null := by
  cases passage <;> simp [write]

/-- A scene reads back, field by field. -/
theorem Scene.readsBack_read : ReadsBack Scene.read Scene.write := by
  intro value scene ok
  obtain ⟨members, rfl, built⟩ := exists_members_of_readShape ok
  simp only [seq_eq_accepted_iff, map_eq_accepted_iff] at built
  -- Every field was accepted from the original members.
  obtain ⟨_, ⟨_, ⟨_, ⟨_, ⟨id, idRead, rfl⟩, title, titleRead, rfl⟩, text, textRead, rfl⟩,
    effects, effectsRead, rfl⟩, choices, choicesRead, rfl⟩ := built
  rw [write, read, readShape]
  simp only [seq_eq_accepted_iff, map_eq_accepted_iff]
  -- Each is written under its own key, so reading again finds it in the same order.
  refine ⟨_, ⟨_, ⟨_, ⟨_, ⟨id, ?_, rfl⟩, title, ?_, rfl⟩, text, ?_, rfl⟩, effects, ?_, rfl⟩,
    choices, ?_, ?_⟩
  · exact readsBack_readName.required idRead rfl
  · exact readsBack_textOrNull.optional rfl titleRead rfl
  · exact (Passage.readsBack_read.orNull Passage.write_ne_null).optional rfl textRead rfl
  · exact (Effect.readsBack_readSome.orNull writeSome_ne_null).optional rfl effectsRead rfl
  · exact Choice.readsBack_read.list.optional rfl choicesRead rfl
  · rw [extras_append rfl]

/-- The identifier of an ending is written as a number or a text. -/
theorem EndingId.write_ne_null (id : EndingId) : id.write ≠ .null := by
  cases id <;> simp [write]

/-- An ending reads back, field by field. -/
theorem Ending.readsBack_read : ReadsBack Ending.read Ending.write := by
  intro value ending ok
  obtain ⟨members, rfl, built⟩ := exists_members_of_readShape ok
  simp only [seq_eq_accepted_iff, map_eq_accepted_iff] at built
  -- As for a scene: each field reads back from where it is written.
  obtain ⟨_, ⟨_, ⟨id, idRead, rfl⟩, scene, sceneRead, rfl⟩, title, titleRead, rfl⟩ := built
  rw [write, read, readShape]
  simp only [seq_eq_accepted_iff, map_eq_accepted_iff]
  refine ⟨_, ⟨_, ⟨id, ?_, rfl⟩, scene, ?_, rfl⟩, title, ?_, ?_⟩
  · exact (EndingId.readsBack_read.orNull EndingId.write_ne_null).optional rfl idRead rfl
  · exact readsBack_nameOrNull.optional rfl sceneRead rfl
  · exact readsBack_textOrNull.optional rfl titleRead rfl
  · rw [extras_append rfl]

/-- An entry of the scene index reads back, field by field. -/
theorem IndexEntry.readsBack_read : ReadsBack IndexEntry.read IndexEntry.write := by
  intro value entry ok
  obtain ⟨members, rfl, built⟩ := exists_members_of_readShape ok
  simp only [seq_eq_accepted_iff, map_eq_accepted_iff] at built
  -- As for a scene: each field reads back from where it is written.
  obtain ⟨_, ⟨id, idRead, rfl⟩, unreachable, unreachableRead, rfl⟩ := built
  rw [write, read, readShape]
  simp only [seq_eq_accepted_iff, map_eq_accepted_iff]
  refine ⟨_, ⟨id, ?_, rfl⟩, unreachable, ?_, ?_⟩
  · exact readsBack_nameOrNull.optional rfl idRead rfl
  · exact readsBack_readBool.optional rfl unreachableRead rfl
  · rw [extras_append rfl]

/-- A manifest reads back, field by field. -/
theorem Manifest.readsBack_read : ReadsBack Manifest.read Manifest.write := by
  intro value manifest ok
  obtain ⟨members, rfl, built⟩ := exists_members_of_readShape ok
  simp only [seq_eq_accepted_iff, map_eq_accepted_iff] at built
  -- As for a scene: each field reads back from where it is written.
  obtain ⟨_, ⟨_, ⟨start, startRead, rfl⟩, endings, endingsRead, rfl⟩, index, indexRead, rfl⟩ :=
    built
  rw [write, read, readShape]
  simp only [seq_eq_accepted_iff, map_eq_accepted_iff]
  refine ⟨_, ⟨_, ⟨start, ?_, rfl⟩, endings, ?_, rfl⟩, index, ?_, ?_⟩
  · exact readsBack_readName.required startRead rfl
  · exact Ending.readsBack_read.list.optional rfl endingsRead rfl
  · exact IndexEntry.readsBack_read.table.optional rfl indexRead rfl
  · rw [extras_append rfl]

end Shapes

/-- The shapes of documents and of their parts. -/
inductive Shape where
  | condition (kind : ConditionKind)
  | effect (kind : EffectKind)
  | choice
  | scene
  | ending
  | indexEntry
  | manifest
  deriving DecidableEq, Repr

namespace Shape

/-- What the documents of a shape stand for. -/
def Value : Shape → Type
  | condition _ => Condition
  | effect _ => Effect
  | choice => Choice
  | scene => Scene
  | ending => Ending
  | indexEntry => IndexEntry
  | manifest => Manifest

/-- What a document of a shape stands for, if it is accepted. -/
def read : (shape : Shape) → Json → Checked shape.Value
  | condition kind => Condition.readKind kind
  | effect kind => Effect.readKind kind
  | choice => Choice.read
  | scene => Scene.read
  | ending => Ending.read
  | indexEntry => IndexEntry.read
  | manifest => Manifest.read

/-- The document of a shape that stands for a value. -/
def write : (shape : Shape) → shape.Value → Json
  | condition _ => Condition.write
  | effect _ => Effect.write
  | choice => Choice.write
  | scene => Scene.write
  | ending => Ending.write
  | indexEntry => IndexEntry.write
  | manifest => Manifest.write

/-- A document of a shape in normal form, if it is accepted. -/
def normalized (shape : Shape) (value : Json) : Checked Json := shape.write <$> shape.read value

/-- Documents of every shape read back. -/
theorem readsBack_read (shape : Shape) : ReadsBack shape.read shape.write := by
  -- Each model has its own lemma.
  cases shape with
  | condition kind => exact Condition.readsBack_readKind kind
  | effect kind => exact Effect.readsBack_readKind kind
  | choice => exact Choice.readsBack_read
  | scene => exact Scene.readsBack_read
  | ending => exact Ending.readsBack_read
  | indexEntry => exact IndexEntry.readsBack_read
  | manifest => exact Manifest.readsBack_read

/-- The normal form of a document is accepted, stands for the same as the document, and is its own
normal form. -/
theorem normalized_normalized {shape : Shape} {value normal : Json}
    (ok : shape.normalized value = .accepted normal) :
    shape.read normal = shape.read value ∧ shape.normalized normal = .accepted normal := by
  -- The normal form is what was read, written again.
  obtain ⟨found, accepted, rfl⟩ := map_eq_accepted_iff.1 ok
  have again := shape.readsBack_read value found accepted
  exact ⟨again.trans accepted.symm, map_eq_accepted_iff.2 ⟨found, again, rfl⟩⟩

/-- A scene document with members in another order than in the normal form, nested conditions, a
number as text, and a transition with a target under either name of the field. -/
def tangledScene : Json := .object [
  ("mood", .text "grim"),
  ("choices", .list [.object [("to", .text "b"),
    ("conditions", .object [("type", .text "not"), ("conditions", .list [
      .object [("type", .text "item"), ("item", .text "key"), ("item_count", .bool true)],
      .object [("conditions", .object [("type", .text "stat"), ("operator", .text "gte"),
        ("stat", .text "luck"), ("value", .text " NaN ")]), ("type", .text "and")]])])]]),
  ("effects", .object [("scene_id", .text "c"), ("type", .text "goto"), ("sceneId", .text "b")]),
  ("id", .text "a")]

/-- The normal form of the tangled scene. -/
def untangledScene : Json := .object [
  ("id", .text "a"), ("title", .null), ("text", .null),
  ("effects", .object [("type", .text "goto"), ("sceneId", .text "b"), ("scene_id", .text "c")]),
  ("choices", .list [.object [("label", .null), ("to", .text "b"),
    ("conditions", .object [("type", .text "not"), ("conditions", .list [
      .object [("type", .text "item"), ("item", .text "key"), ("itemCount", .int 1)],
      .object [("type", .text "and"), ("conditions", .object [("type", .text "stat"),
        ("stat", .text "luck"), ("operator", .text "gte"), ("value", .real .nan)])]])]),
    ("effects", .null)]]),
  ("mood", .text "grim")]

/-- The tangled scene is normalized, and its normal form stays as it is. -/
theorem normalized_normalized_tangled :
    scene.normalized tangledScene = .accepted untangledScene ∧
      scene.read untangledScene = scene.read tangledScene ∧
        scene.normalized untangledScene = .accepted untangledScene :=
  ⟨by rfl, normalized_normalized (by rfl)⟩

end Shape

end Gamebook.Story
