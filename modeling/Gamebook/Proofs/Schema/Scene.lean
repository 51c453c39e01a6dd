import Gamebook.Proofs.Kind
import Gamebook.Proofs.Reference
import Gamebook.Proofs.Schema.Load
import Gamebook.Proofs.Schema.Recognize
import Mathlib.Tactic.MkIffOfInductiveProp

/-! The grammar of scenes, which is exactly what the standard schema of scenes lets through. -/

namespace Gamebook.Schema

/-- A value of a form, or a list of such values, which may be empty. -/
def IsOneOrMany (form : Json → Prop) (value : Json) : Prop := form value ∨ IsListOf form value

/-- A condition is of one of the kinds of conditions. Whatever its kind, it may hold a condition, or
some conditions. -/
inductive IsCondition : Json → Prop where
  | bare {value : Json} (kind : ConditionKind) (tagged : value.get? "type" = some (.text kind.name))
      (holds : value.get? "conditions" = none) : IsCondition value
  | one {value part : Json} (kind : ConditionKind)
      (tagged : value.get? "type" = some (.text kind.name))
      (holds : value.get? "conditions" = some part) (condition : IsCondition part) :
      IsCondition value
  | some {value : Json} {parts : List Json} (kind : ConditionKind)
      (tagged : value.get? "type" = some (.text kind.name))
      (holds : value.get? "conditions" = some (.list parts)) (nonempty : parts ≠ [])
      (conditions : ∀ part ∈ parts, IsCondition part) : IsCondition value

/-- An effect is of one of the kinds of effects. Whatever its kind, it may name a scene. -/
@[mk_iff]
structure IsEffect (value : Json) : Prop where
  tagged : ∃ kind : EffectKind, value.get? "type" = some (.text kind.name)
  sceneId : IfPresent "sceneId" IsName value

/-- A choice may have a label, a target, conditions and effects. -/
@[mk_iff]
structure IsChoice (value : Json) : Prop where
  object : value.isObject = true
  label : IfPresent "label" IsText value
  target : IfPresent "to" IsName value
  conditions : IfPresent "conditions" (IsOneOrMany IsCondition) value
  effects : IfPresent "effects" (IsOneOrMany IsEffect) value

/-- A scene has an identifier, and may have a title, a text, effects and choices. -/
@[mk_iff]
structure IsScene (value : Json) : Prop where
  id : ∃ id, value.get? "id" = some id ∧ IsName id
  title : IfPresent "title" IsText value
  text : IfPresent "text" (fun text => IsText text ∨ text.isObject = true) value
  effects : IfPresent "effects" (IsOneOrMany IsEffect) value
  choices : IfPresent "choices" (IsListOf IsChoice) value

section Forms

variable {value : Json} {form : Json → Prop}

/-- A condition is of some kind, and what it holds is a condition or some conditions. -/
theorem isCondition_iff : IsCondition value ↔
    (∃ kind : ConditionKind, value.get? "type" = some (.text kind.name)) ∧
      IfPresent "conditions" (fun held => IsCondition held ∨ held ≠ .list [] ∧
        IsListOf IsCondition held) value := by
  constructor
  · rintro (⟨kind, tagged, holds⟩ | ⟨kind, tagged, holds, condition⟩ |
      ⟨kind, tagged, holds, nonempty, conditions⟩)
    · refine ⟨⟨kind, tagged⟩, ?_⟩
      intro held found
      cases holds.symm.trans found
    · refine ⟨⟨kind, tagged⟩, ?_⟩
      intro held found
      cases holds.symm.trans found
      exact .inl condition
    · refine ⟨⟨kind, tagged⟩, ?_⟩
      intro held found
      cases holds.symm.trans found
      exact .inr ⟨by simpa using nonempty, _, rfl, conditions⟩
  · -- The constructor is told by what is held, if anything is.
    rintro ⟨⟨kind, tagged⟩, holding⟩
    cases holds : value.get? "conditions" with
    | none => exact .bare kind tagged holds
    | some held =>
      rcases holding held holds with condition | ⟨nonempty, parts, rfl, conditions⟩
      · exact .one kind tagged holds condition
      · exact .some kind tagged holds (by simpa using nonempty) conditions

/-- A condition is an object. -/
theorem IsCondition.isObject (condition : IsCondition value) : value.isObject = true := by
  obtain ⟨⟨kind, tagged⟩, -⟩ := isCondition_iff.1 condition
  exact Json.isObject_of_get? tagged

/-- An effect is an object. -/
theorem IsEffect.isObject (effect : IsEffect value) : value.isObject = true := by
  obtain ⟨kind, tagged⟩ := effect.tagged
  exact Json.isObject_of_get? tagged

/-- An object that stands under a key of a value is of a form, if what is there must be one object
of the form or many. -/
theorem IsOneOrMany.of_standsUnder {key : String} {holder : Json}
    (forms : IfPresent key (IsOneOrMany form) holder)
    (objects : ∀ part, form part → part.isObject = true) (object : value.isObject = true)
    (stands : StandsUnder key holder value) : form value := by
  obtain ⟨held, found, among⟩ := exists_value_of_standsUnder stands
  rcases forms held found with one | ⟨items, rfl, each⟩
  · rcases among with rfl | ⟨items, rfl, -⟩
    · exact one
    · -- A single object is no list that holds the value.
      cases objects _ one
  · rcases among with rfl | ⟨others, same, member⟩
    · cases object
    · cases same
      exact each value member

/-- An object among the choices of a scene is a choice. -/
theorem IsScene.choice {choice : Json} (isScene : IsScene value) (object : choice.isObject = true)
    (stands : StandsUnder "choices" value choice) : IsChoice choice := by
  obtain ⟨choices, held, among⟩ := exists_value_of_standsUnder stands
  obtain ⟨items, rfl, each⟩ := isScene.choices choices held
  -- Choices are a list, which is no object, so the object is one of its items.
  rcases among with rfl | ⟨others, same, member⟩
  · cases object
  · cases same
    exact each choice member

end Forms

namespace Standard

variable {limit : Nat} {form : Json → Prop} {document choice effect target : Json}

/-- A definition of the schema of scenes. -/
def definition (name : String) : Json :=
  ((scene.get? "definitions").bind (·.get? name)).getD .null

/-- The definition of conditions recognizes conditions, however deep they are nested. -/
theorem recognizes_condition (limit : Nat) :
    Recognizes scene 4 limit 1 (definition "condition") IsCondition := by
  -- What a condition holds is smaller than the condition.
  induction limit with
  | zero => exact recognizes_zero
  | succ limit ih =>
    -- By the hypothesis of the induction the reference back to conditions recognizes what is held.
    have one : Recognizes scene 4 limit 2 (referTo "#/definitions/condition") IsCondition :=
      recognizes_referTo rfl ih
    have some : Recognizes scene 4 limit 3 (nonemptyListOf (referTo "#/definitions/condition"))
        fun value => value ≠ .list [] ∧ IsListOf IsCondition value :=
      recognizes_nonemptyList rfl (one.mono (by omega) (by omega))
    have held : Recognizes scene 4 limit 4 (oneOf (referTo "#/definitions/condition")
        (nonemptyListOf (referTo "#/definitions/condition")))
        fun value => IsCondition value ∨ value ≠ .list [] ∧ IsListOf IsCondition value :=
      recognizes_oneOf ranked_scene.1 (isTame_referTo rfl (by decide))
        (isTame_nonemptyListOf rfl (isTame_referTo rfl (by decide)))
        (one.mono (by omega) (by omega)) some
        (fun _ condition => condition.isObject) fun _ list => list.2.isObject_eq_false
    refine recognizes_object rfl (recognizes_words (ConditionKind.all.map ConditionKind.name))
      (.cons (held.under "conditions") .nil) ?_
    intro value
    rw [isCondition_iff]
    simp [ConditionKind.mem_all]

/-- The definition of effects recognizes effects. -/
theorem recognizes_effect : Recognizes scene 4 limit 1 (definition "effect") IsEffect := by
  -- An effect needs its type, and its scene must be named if it is there.
  refine recognizes_object rfl (recognizes_words (EffectKind.all.map EffectKind.name))
    (.cons (recognizes_name.under "sceneId") .nil) ?_
  intro value
  simp [isEffect_iff, EffectKind.mem_all]

/-- A schema of one value or many of a form, to which a reference leads, recognizes both. -/
theorem recognizes_oneOrMany {reference : String} {target : Json}
    (ranked : Table.get? reference ranks = some 1)
    (resolved : Pointer.resolve scene reference = .ok (some target))
    (recognizes : ∀ limit, Recognizes scene 4 limit 1 target form)
    (objects : ∀ value, form value → value.isObject = true) :
    Recognizes scene 4 limit 3 (oneOf (referTo reference) (listOf (referTo reference)))
      (IsOneOrMany form) := by
  -- Items of the list are smaller than the list, and have steps of their own.
  have one (limit : Nat) : Recognizes scene 4 limit 2 (referTo reference) form :=
    recognizes_referTo resolved (recognizes limit)
  have many : Recognizes scene 4 limit 2 (listOf (referTo reference)) (IsListOf form) :=
    recognizes_list rfl ((one (limit - 1)).mono (by omega) (by omega))
  exact recognizes_oneOf ranked_scene.1 (isTame_referTo ranked (by decide))
    (isTame_listOf rfl (isTame_referTo ranked (by decide))) (one limit) many objects
    fun _ list => list.isObject_eq_false

/-- What refers to conditions recognizes one condition or many. -/
theorem recognizes_conditions :
    Recognizes scene 4 limit 4 (referTo "#/definitions/conditions") (IsOneOrMany IsCondition) := by
  -- The definition is looked up one level down.
  have target : Recognizes scene 4 limit 3 (definition "conditions") (IsOneOrMany IsCondition) :=
    recognizes_oneOrMany rfl rfl recognizes_condition fun _ condition => condition.isObject
  exact recognizes_referTo rfl target

/-- What refers to effects recognizes one effect or many. -/
theorem recognizes_effects :
    Recognizes scene 4 limit 4 (referTo "#/definitions/effects") (IsOneOrMany IsEffect) := by
  -- The definition is looked up one level down.
  have target : Recognizes scene 4 limit 3 (definition "effects") (IsOneOrMany IsEffect) :=
    recognizes_oneOrMany rfl rfl (fun _ => recognizes_effect) fun _ effect => effect.isObject
  exact recognizes_referTo rfl target

/-- The definition of choices recognizes choices. -/
theorem recognizes_choice : Recognizes scene 4 limit 1 (definition "choice") IsChoice := by
  -- Every property of a choice may be left out.
  refine .of_constraints [(.type, _), (.properties, _)] rfl
      (.cons (.type ["object"] rfl (by decide))
    (.cons (.properties (.cons (recognizes_text.under "label") (.cons (recognizes_name.under "to")
      (.cons (recognizes_conditions.under "conditions")
        (.cons (recognizes_effects.under "effects") .nil))))) .nil)) ?_
  simp [isChoice_iff, hasType_object]

/-- The schema of texts and objects. -/
theorem recognizes_textOrObject :
    Recognizes scene 4 limit 4 (.object [("type", .list [.text "string", .text "object"])])
      fun value => IsText value ∨ value.isObject = true := by
  refine .of_constraints [(.type, _)] rfl
    (.cons (.type ["string", "object"] rfl (by decide)) .nil) ?_
  simp [hasType_string_iff, hasType_object]

/-- The schema of scenes recognizes scenes. -/
theorem recognizes_scene : Recognizes scene 4 limit 1 scene IsScene := by
  -- A choice is an item of a member of the scene, and therefore smaller by two.
  have choices : Recognizes scene 4 (limit - 1) 4 (listOf (referTo "#/definitions/choice"))
      (IsListOf IsChoice) := by
    have item : Recognizes scene 4 (limit - 1 - 1) 2 (referTo "#/definitions/choice") IsChoice :=
      recognizes_referTo rfl recognizes_choice
    exact recognizes_list rfl (item.mono (by omega) (by omega))
  refine recognizes_object rfl recognizes_name (.cons (recognizes_text.under "title")
    (.cons (recognizes_textOrObject.under "text") (.cons (recognizes_effects.under "effects")
      (.cons (choices.under "choices") .nil)))) ?_
  simp [isScene_iff]

/-- The check of a document by the schema of scenes finds nothing exactly when the document is a
scene. -/
theorem check_scene_eq_none_iff : check .draft7 scene document = .none ↔ IsScene document := by
  -- A check has fuel for every value of the schema in every value of the document.
  have inside : 4 * (document.size + 1) ≤ (scene.size + 1) * (document.size + 1) :=
    Nat.mul_le_mul_right _ (Nat.le_succ_of_le four_le_size_scene)
  exact recognizes_scene _ .trial document (Nat.le_refl _) (by omega)

/-- A choice of a scene has a text that is not empty as its target, if it has one. -/
theorem exists_nonempty_of_choice (isScene : IsScene document)
    (stands : StandsUnder "choices" document choice) (found : choice.get? "to" = some target) :
    ∃ text, target = .text text ∧ text ≠ "" :=
  (isScene.choice (Json.isObject_of_get? found) stands).target target found

/-- A transition of a scene names a scene, if it does, by a text that is not empty. -/
theorem exists_nonempty_of_hasTransition (isScene : IsScene document)
    (transition : HasTransition document effect)
    (found : effect.get? "sceneId" = some target) : ∃ text, target = .text text ∧ text ≠ "" := by
  have object := Json.isObject_of_get? found
  -- The transition is among the effects of the scene, or among those of one of its choices.
  have isEffect : IsEffect effect := by
    rcases transition.2 with stands | ⟨choice, among, stands⟩
    · exact IsOneOrMany.of_standsUnder isScene.effects (fun _ => IsEffect.isObject) object stands
    · obtain ⟨effects, held, -⟩ := exists_value_of_standsUnder stands
      have isChoice := isScene.choice (Json.isObject_of_get? held) among
      exact IsOneOrMany.of_standsUnder isChoice.effects (fun _ => IsEffect.isObject) object stands
  exact isEffect.sceneId target found

end Standard

end Gamebook.Schema
