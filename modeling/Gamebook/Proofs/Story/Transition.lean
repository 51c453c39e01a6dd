import Gamebook.Proofs.Kind
import Gamebook.Proofs.Story.Review
import Gamebook.Proofs.Story.Scene

/-! The transitions of an accepted scene, compared with the references that a review looks at. -/

namespace Gamebook.Story

open Checked

/-- The scene that an effect leads to. -/
def Effect.target? (effect : Effect) : Option String :=
  match effect.action with
  | .goto scene => some scene
  | _ => none

/-- The scenes that the effects of a scene or choice lead to. -/
def effectTargets : Option (OneOrMany Effect) → List String
  | none => []
  | some effects => effects.toList.filterMap Effect.target?

/-- The scenes that a choice leads to: its target, and those of its effects. -/
def Choice.transitions (choice : Choice) : List String :=
  choice.target.toList ++ effectTargets choice.effects

/-- The scenes that a scene leads to, by its effects and by its choices. -/
def Scene.transitions (scene : Scene) : List String :=
  effectTargets scene.effects ++ scene.choices.flatMap Choice.transitions

/-- An effect document writes a target: under the key for it or, where that is absent, under the
second name of the field. -/
def WritesTarget (effect : Json) (id : String) : Prop :=
  effect.get? "sceneId" = some (.text id) ∨
    effect.get? "sceneId" = none ∧ effect.get? "scene_id" = some (.text id)

/-- An effect document is a transition that leads to a scene. -/
def LeadsTo (effect : Json) (id : String) : Prop :=
  IsTransition effect ∧ WritesTarget effect id ∧ id ≠ ""

section Effects

variable {value holder : Json} {members : List (String × Json)} {id : String}

/-- Only the kind of transitions has their word. -/
theorem eq_goto_of_name {kind : EffectKind} (named : kind.name = "goto") : kind = .goto := by
  cases kind <;> first | rfl | exact absurd named (by decide)

/-- An accepted effect is an object whose tag is the name of a kind, with the action of that kind.
-/
theorem Effect.exists_kind_of_read {effect : Effect} (ok : Effect.read value = .accepted effect) :
    ∃ members kind, value = .object members ∧
      Table.get? "type" members = some (.text (EffectKind.name kind)) ∧
      Effect.readAction members kind = .accepted effect.action := by
  cases value with
  | object members =>
    simp only [Effect.read] at ok
    split at ok
    · cases ok
    · next tag tagged =>
      split at ok
      · cases ok
      · next kind named =>
        -- The tag is a text that marks the kind, and the rest is read as that kind.
        obtain ⟨word, isText, marked⟩ := Option.bind_eq_some_iff.1 named
        rw [Json.text?_eq_some_iff] at isText
        rw [EffectKind.ofName?_eq_some_iff] at marked
        subst isText marked
        rw [under_eq_accepted_iff, Effect.readMembers, seq_eq_accepted_iff] at ok
        obtain ⟨build, built, action, acted, rfl⟩ := ok
        obtain ⟨-, -, rfl⟩ := map_eq_accepted_iff.1 built
        exact ⟨members, kind, rfl, tagged, acted⟩
  | _ => cases ok

/-- A document with a target writes no other one. -/
theorem WritesTarget.unique {effect : Json} {other : String} (first : WritesTarget effect id)
    (second : WritesTarget effect other) : id = other := by
  -- The second name counts only where the key is absent.
  rcases first with here | ⟨absent, here⟩ <;> rcases second with there | ⟨gone, there⟩ <;>
    simp_all

/-- An accepted transition writes the target that it leads to. -/
theorem Effect.writesTarget_of_readAction {scene : String}
    (acted : Effect.readAction members .goto = .accepted (.goto scene)) :
    WritesTarget (.object members) scene ∧ scene ≠ "" := by
  -- A goto accepts one name, and it is read under either spelling of the key.
  obtain ⟨name, named, same⟩ := map_eq_accepted_iff.1 acted
  cases same
  obtain ⟨key, written, found, read⟩ := exists_value_of_required named
  obtain ⟨rfl, nonempty⟩ := readName_eq_accepted_iff.1 read
  exact ⟨exists_key_iff_find?.1 ⟨key, found⟩, nonempty⟩

/-- Only the actions of transitions are transitions. -/
theorem Effect.kind_eq_goto_of_readAction {kind : EffectKind} {scene : String}
    (acted : Effect.readAction members kind = .accepted (.goto scene)) : kind = .goto := by
  cases kind <;> simp_all [Effect.readAction, map_eq_accepted_iff, seq_eq_accepted_iff]

/-- An accepted effect leads where its document leads to. -/
theorem Effect.target?_eq_some_iff {effect : Effect} (ok : Effect.read value = .accepted effect) :
    effect.target? = some id ↔ LeadsTo value id := by
  obtain ⟨members, kind, rfl, tagged, acted⟩ := exists_kind_of_read ok
  constructor
  · -- Only a transition has a target, and only its kind reads one.
    intro leads
    obtain ⟨action, extra⟩ := effect
    cases action <;> cases leads
    cases kind_eq_goto_of_readAction acted
    exact ⟨tagged, writesTarget_of_readAction acted⟩
  · rintro ⟨transition, writes, -⟩
    -- The tag settles the kind, and the kind settles where the target is read.
    have named : kind.name = "goto" := by
      simpa [IsTransition, Json.get?, Json.members, tagged] using transition
    cases eq_goto_of_name named
    obtain ⟨scene, -, action⟩ := map_eq_accepted_iff.1 acted
    rw [← action] at acted
    rw [writes.unique (writesTarget_of_readAction acted).1, target?, ← action]

/-- Only an object leads to a scene. -/
theorem LeadsTo.isObject (leads : LeadsTo value id) : value.isObject = true :=
  isObject_of_isTransition leads.1

/-- Accepted effects lead where their documents lead to: the value itself, or the items of a list.
-/
theorem mem_effectTargets_of_readSome {effects : OneOrMany Effect}
    (ok : Effect.readSome value = .accepted effects) :
    id ∈ effectTargets (some effects) ↔ ∃ effect ∈ nodes value, LeadsTo effect id := by
  rw [effectTargets, List.mem_filterMap]
  rcases choose_eq_accepted ok with ⟨values, list, toList⟩ | ⟨effect, single, toList⟩
  · obtain ⟨items, rfl, matched⟩ := exists_items_of_readList list
    rw [toList]
    exact exists_mem_iff_of_forall₂ matched fun item effect read =>
      Effect.target?_eq_some_iff read
  · -- A single effect is an object, so it is its own only node.
    obtain ⟨members, -, rfl, -, -⟩ := Effect.exists_kind_of_read single
    rw [toList]
    simp [nodes, Effect.target?_eq_some_iff single]

/-- The accepted effects of a holder lead where the effects lead that stand there. -/
theorem mem_effectTargets_of_optional {effects : Option (OneOrMany Effect)}
    (ok : effectsField.optional none (orNull Effect.readSome) members = .accepted effects) :
    id ∈ effectTargets effects ↔
      ∃ effect, StandsUnder "effects" (.object members) effect ∧ LeadsTo effect id := by
  rw [exists_standsUnder_iff fun effect => LeadsTo.isObject, nodesAt, Json.get?, Json.members]
  -- Effects are absent, null, or a value that was read.
  rcases optional_named_eq_accepted ok with ⟨absent, rfl⟩ | ⟨value, found, read⟩
  · simp [absent, effectTargets]
  · rw [found]
    rcases orNull_eq_accepted_iff.1 read with ⟨rfl, rfl⟩ | ⟨-, written, readSome, rfl⟩
    · simp [effectTargets, nodes]
    · exact mem_effectTargets_of_readSome readSome

end Effects

section Scenes

variable {value : Json} {id : String}

/-- A choice document leads to a scene, as its target or by one of its effects. -/
def ChoiceLeadsTo (choice : Json) (id : String) : Prop :=
  (choice.get? "to" = some (.text id) ∧ id ≠ "") ∨
    ∃ effect, StandsUnder "effects" choice effect ∧ LeadsTo effect id

/-- Only an object leads to a scene as a choice. -/
theorem ChoiceLeadsTo.isObject (leads : ChoiceLeadsTo value id) : value.isObject = true := by
  -- Either way a member of the choice is looked up, which only objects have.
  rcases leads with ⟨target, -⟩ | ⟨effect, stands, -⟩
  · exact Json.isObject_of_get? target
  · obtain ⟨effects, held, -⟩ := exists_value_of_standsUnder stands
    exact Json.isObject_of_get? held

/-- An accepted choice leads where its document leads to. -/
theorem Choice.mem_transitions_iff {choice : Choice} (ok : Choice.read value = .accepted choice) :
    id ∈ choice.transitions ↔ ChoiceLeadsTo value id := by
  obtain ⟨members, rfl, built⟩ := exists_members_of_readShape ok
  simp only [seq_eq_accepted_iff, map_eq_accepted_iff] at built
  obtain ⟨_, ⟨_, ⟨_, ⟨_, -, rfl⟩, target, targetRead, rfl⟩, _, -, rfl⟩,
    effects, effectsRead, rfl⟩ := built
  -- The choice's own target; an absent or null one leads nowhere.
  have target_iff : target = some id ↔
      Table.get? "to" members = some (.text id) ∧ id ≠ "" := by
    rcases optional_named_eq_accepted targetRead with ⟨absent, rfl⟩ | ⟨value, found, read⟩
    · simp [absent]
    · rcases orNull_eq_accepted_iff.1 read with ⟨rfl, rfl⟩ | ⟨-, name, named, rfl⟩
      · simp [found]
      · obtain ⟨rfl, nonempty⟩ := readName_eq_accepted_iff.1 named
        rw [found]
        simp only [Option.some.injEq, Json.text.injEq]
        constructor
        · rintro rfl
          exact ⟨rfl, nonempty⟩
        · exact And.left
  rw [transitions, List.mem_append, Option.mem_toList, mem_effectTargets_of_optional effectsRead,
    ChoiceLeadsTo]
  exact or_congr target_iff Iff.rfl

/-- An accepted scene leads where the transitions of its document lead to, and to the targets of its
choices. -/
theorem Scene.mem_transitions_iff {scene : Scene} (ok : Scene.read value = .accepted scene) :
    id ∈ scene.transitions ↔
      (∃ effect, HasTransition value effect ∧ WritesTarget effect id ∧ id ≠ "") ∨
        ∃ choice, StandsUnder "choices" value choice ∧ choice.get? "to" = some (.text id) ∧
          id ≠ "" := by
  obtain ⟨members, rfl, built⟩ := exists_members_of_readShape ok
  simp only [seq_eq_accepted_iff, map_eq_accepted_iff] at built
  obtain ⟨_, ⟨_, ⟨_, ⟨_, ⟨_, -, rfl⟩, _, -, rfl⟩, _, -, rfl⟩, effects, effectsRead, rfl⟩,
    choices, choicesRead, rfl⟩ := built
  have choices_iff : (∃ choice ∈ choices, id ∈ choice.transitions) ↔
      ∃ choice, StandsUnder "choices" (.object members) choice ∧ ChoiceLeadsTo choice id := by
    rw [exists_standsUnder_iff fun choice => ChoiceLeadsTo.isObject, nodesAt, Json.get?,
      Json.members]
    rcases optional_named_eq_accepted choicesRead with ⟨absent, rfl⟩ | ⟨value, found, read⟩
    · simp [absent]
    · obtain ⟨items, rfl, matched⟩ := exists_items_of_readList read
      rw [found]
      exact exists_mem_iff_of_forall₂ matched fun item choice ok => Choice.mem_transitions_iff ok
  rw [transitions, List.mem_append, List.mem_flatMap, mem_effectTargets_of_optional effectsRead,
    choices_iff]
  -- The transitions of a scene are its own and those of its choices.
  constructor
  · rintro (⟨effect, stands, goes, leads⟩ | ⟨choice, among, target | ⟨effect, stands, goes, leads⟩⟩)
    · exact .inl ⟨effect, ⟨goes, .inl stands⟩, leads⟩
    · exact .inr ⟨choice, among, target⟩
    · exact .inl ⟨effect, ⟨goes, .inr ⟨choice, among, stands⟩⟩, leads⟩
  · rintro (⟨effect, ⟨goes, stands | ⟨choice, among, stands⟩⟩, leads⟩ | ⟨choice, among, target⟩)
    · exact .inl ⟨effect, stands, goes, leads⟩
    · exact .inr ⟨choice, among, .inr ⟨effect, stands, goes, leads⟩⟩
    · exact .inr ⟨choice, among, .inl target⟩

/-- One of the transitions of a scene document writes its target under the second name only. -/
def NamesAside (scene : Json) (id : String) : Prop :=
  ∃ effect, HasTransition scene effect ∧ effect.get? "sceneId" = none ∧
    effect.get? "scene_id" = some (.text id) ∧ id ≠ ""

/-- An accepted scene leads to what its document refers to, and to what it names aside. -/
theorem Scene.mem_transitions_iff_mem_sceneReferences {scene : Scene}
    (ok : Scene.read value = .accepted scene) :
    id ∈ scene.transitions ↔ id ∈ sceneReferences .everything value ∨ NamesAside value id := by
  rw [mem_transitions_iff ok, mem_sceneReferences_everything_iff]
  -- A reference is a target under the key; the second name is what it leaves out.
  constructor
  · rintro (⟨effect, transition, here | ⟨absent, aside⟩, nonempty⟩ | choice)
    · exact .inl (.inl ⟨effect, transition, here, nonempty⟩)
    · exact .inr ⟨effect, transition, absent, aside, nonempty⟩
    · exact .inl (.inr choice)
  · rintro ((⟨effect, transition, here, nonempty⟩ | choice) |
      ⟨effect, transition, absent, aside, nonempty⟩)
    · exact .inl ⟨effect, transition, .inl here, nonempty⟩
    · exact .inr choice
    · exact .inl ⟨effect, transition, .inr ⟨absent, aside⟩, nonempty⟩

end Scenes

namespace Review

/-- A scene document in which nothing is found wrong is accepted as a scene, all of whose
transitions lead to known scenes but for those that it names aside. -/
theorem transitions_known_of_isValid {document : Json} {known : List String}
    (valid : (ofScene document known).isValid = true) :
    ∃ scene, Scene.read document = .accepted scene ∧
      (∀ id ∈ scene.transitions, id ∈ known ∨ NamesAside document id) ∧
      ∀ id, NamesAside document id → id ∈ scene.transitions := by
  obtain ⟨clear, known⟩ := isValid_ofScene_iff.1 valid
  obtain ⟨scene, ok⟩ := (Scene.isReasoned_read document).exists_accepted clear
  -- A transition is either collected as a reference, hence known, or stands aside.
  refine ⟨scene, ok, ?_, ?_⟩
  · intro id member
    rcases (Scene.mem_transitions_iff_mem_sceneReferences ok).1 member with refers | aside
    · exact .inl (known id refers)
    · exact .inr aside
  · intro id aside
    exact (Scene.mem_transitions_iff_mem_sceneReferences ok).2 (.inr aside)

/-- A scene with a choice that goes back and one whose effect names its target aside. -/
def crossroads : Json := .object [("id", .text "a"), ("choices", .list [
  .object [("to", .text "a")],
  .object [("effects", .object [("type", .text "goto"), ("scene_id", .text "b")])]])]

/-- Nothing is found wrong with the crossroads. -/
theorem isValid_crossroads : (ofScene crossroads ["a"]).isValid = true := by decide +kernel

/-- The transitions of the crossroads, with the start of the first choice as the only known scene.
-/
theorem transitions_known_of_isValid_crossroads :
    (ofScene crossroads ["a"]).isValid = true ∧
      ∃ scene, Scene.read crossroads = .accepted scene ∧
        (∀ id ∈ scene.transitions, id ∈ ["a"] ∨ NamesAside crossroads id) ∧
        ∀ id, NamesAside crossroads id → id ∈ scene.transitions :=
  ⟨isValid_crossroads, transitions_known_of_isValid isValid_crossroads⟩

/-- Nothing is found wrong with the crossroads although they lead to a scene that is not known. -/
theorem aside_transition_isValid :
    (ofScene crossroads ["a"]).isValid = true ∧
      ∃ scene, Scene.read crossroads = .accepted scene ∧
        "b" ∈ scene.transitions ∧ "b" ∉ ["a"] := by
  refine ⟨isValid_crossroads, _, rfl, ?_, by decide⟩
  decide +kernel

end Review

end Gamebook.Story
