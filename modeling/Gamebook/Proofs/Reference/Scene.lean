import Mathlib.Logic.Relation
import Gamebook.Proofs.Reference.Condition

/-! The scenes that a scene document refers to, told by what stands in it, and why neither order nor
repetition of its choices and effects makes a difference. -/

namespace Gamebook

/-- A holder of effects leads to a scene, if effects count: one of its effects is a transition with
the scene as its target. -/
def LeadsByEffect (following : Following) (holder : Json) (id : String) : Prop :=
  following = .everything ∧ ∃ effect, StandsUnder "effects" holder effect ∧ IsTransition effect ∧
    effect.get? "sceneId" = some (.text id)

variable {following : Following} {fields : SceneFields} {holder choice scene other node : Json}
  {id : String}

/-- A holder of effects leads to the targets of its effects. -/
theorem mem_effectTargetsOf_iff_leadsByEffect :
    id ∈ following.effectTargetsOf holder ↔ id ≠ "" ∧ LeadsByEffect following holder id := by
  -- Following the choices only, no effect of the holder counts.
  cases following with
  | choicesOnly => simp [LeadsByEffect]
  | everything =>
    rw [mem_effectTargetsOf_iff, LeadsByEffect]
    constructor
    · rintro ⟨effect, stands, transition, named, nonempty⟩
      exact ⟨nonempty, rfl, effect, stands, transition, named⟩
    · rintro ⟨nonempty, -, effect, stands, transition, named⟩
      exact ⟨effect, stands, transition, named, nonempty⟩

/-- A condition tree names a scene by a text that is not empty. -/
theorem ne_empty_of_namesScene (names : NamesScene fields node id) : id ≠ "" := by
  -- In the end some node has the name itself.
  induction names with
  | item listed names ih => exact ih
  | held kind holds names ih => exact ih
  | own kind leaf row target nonempty => exact nonempty

/-- Conditions lead to a scene: the walk over them finds it. -/
def LeadsByCondition (choice : Json) (id : String) : Prop :=
  id ∈ addConditionTargets conditionFields ((choice.get? "conditions").getD .null) .empty

/-- The walk over conditions finds what the conditions name. -/
theorem leadsByCondition_iff :
    LeadsByCondition choice id ↔
      id ∈ conditionTargets conditionFields ((choice.get? "conditions").getD .null) := by
  rw [LeadsByCondition, mem_addConditionTargets_iff]
  simp

/-- A choice refers to its target, and to the scenes that its conditions and its effects lead to. -/
theorem choiceRefers_iff :
    ChoiceRefers following choice id ↔ id ≠ "" ∧
      (choice.get? "to" = some (.text id) ∨ LeadsByCondition choice id ∨
        LeadsByEffect following choice id) := by
  rw [ChoiceRefers, mem_effectTargetsOf_iff_leadsByEffect, leadsByCondition_iff]
  constructor
  · rintro (⟨target, nonempty⟩ | named | ⟨nonempty, effect⟩)
    · exact ⟨nonempty, .inl target⟩
    -- No condition names the empty text either.
    · have nonempty := ne_empty_of_namesScene ((mem_conditionTargets_iff_namesScene _).1 named)
      exact ⟨nonempty, .inr (.inl named)⟩
    · exact ⟨nonempty, .inr (.inr effect)⟩
  · rintro ⟨nonempty, target | named | effect⟩
    · exact .inl ⟨target, nonempty⟩
    · exact .inr (.inl named)
    · exact .inr (.inr ⟨nonempty, effect⟩)

/-- Something stands only under the keys of objects. -/
theorem isObject_of_standsUnder {key : String} (stands : StandsUnder key holder node) :
    holder.isObject = true := by
  obtain ⟨value, found, -⟩ := exists_value_of_standsUnder stands
  exact Json.isObject_of_get? found

/-- Only an object leads to a scene by its effects. -/
theorem LeadsByEffect.isObject (leads : LeadsByEffect following holder id) :
    holder.isObject = true := by
  obtain ⟨-, effect, stands, -⟩ := leads
  exact isObject_of_standsUnder stands

/-- Only an object refers to a scene as a choice does. -/
theorem isObject_of_choiceRefers (refers : ChoiceRefers following choice id) :
    choice.isObject = true := by
  rcases (choiceRefers_iff.1 refers).2 with target | named | leads
  · exact Json.isObject_of_get? target
  · -- A choice without conditions has none that name a scene.
    cases found : choice.get? "conditions" with
    | none => simp [leadsByCondition_iff, found, conditionTargets] at named
    | some conditions => exact Json.isObject_of_get? found
  · exact leads.isObject

/-- A scene refers to the targets of its effects and to what the nodes under its choices refer to.
-/
theorem mem_sceneReferences_iff_nodesAt :
    id ∈ sceneReferences following scene ↔
      id ∈ following.effectTargetsOf scene ∨
        ∃ choice ∈ nodesAt "choices" scene, ChoiceRefers following choice id := by
  rw [mem_sceneReferences_iff, ← exists_standsUnder_iff fun _ => isObject_of_choiceRefers]
  refine or_congr_right (exists_congr fun choice => ?_)
  -- What refers to anything is an object already.
  constructor
  · rintro ⟨-, stands, refers⟩
    exact ⟨stands, refers⟩
  · rintro ⟨stands, refers⟩
    exact ⟨isObject_of_choiceRefers refers, stands, refers⟩

section Rewording

/-- Two lists have the same items, in whichever order and however often. -/
def HaveSame (items others : List Json) : Prop := ∀ item, item ∈ items ↔ item ∈ others

/-- Two values differ under one key only, where their nodes are related. -/
def DifferAt (key : String) (related : List Json → List Json → Prop) (value other : Json) : Prop :=
  (∀ name, name ≠ key → value.get? name = other.get? name) ∧
    related (nodesAt key value) (nodesAt key other)

/-- Two scenes differ in order and repetition only: of their effects, of their choices, or of the
effects of their choices. -/
inductive Reworded (scene other : Json) : Prop where
  | effects (differ : DifferAt "effects" HaveSame scene other)
  | choices (differ : DifferAt "choices" HaveSame scene other)
  | withinChoices
    (differ : DifferAt "choices" (List.Forall₂ (DifferAt "effects" HaveSame)) scene other)

/-- What holds of one of several nodes holds of one of the same nodes. -/
theorem HaveSame.exists_mem_iff {items others : List Json} (same : HaveSame items others)
    (holds : Json → Prop) : (∃ item ∈ items, holds item) ↔ ∃ item ∈ others, holds item :=
  exists_congr fun item => and_congr_left fun _ => same item

/-- The nodes under a key are the same where the values under it are. -/
theorem nodesAt_congr {key : String} (same : holder.get? key = other.get? key) :
    nodesAt key holder = nodesAt key other := by
  rw [nodesAt, nodesAt, same]

/-- The same effects lead to the same scenes. -/
theorem effectTargetsOf_of_haveSame
    (same : HaveSame (nodesAt "effects" holder) (nodesAt "effects" other)) :
    id ∈ following.effectTargetsOf holder ↔ id ∈ following.effectTargetsOf other := by
  -- Only what effects there are counts, not in which order or how often.
  have leads (holder : Json) : id ∈ following.effectTargetsOf holder ↔ id ≠ "" ∧
      following = .everything ∧ ∃ effect ∈ nodesAt "effects" holder, IsTransition effect ∧
        effect.get? "sceneId" = some (.text id) := by
    rw [mem_effectTargetsOf_iff_leadsByEffect, LeadsByEffect,
      exists_standsUnder_iff fun _ named => isObject_of_isTransition named.1]
  rw [leads, leads, same.exists_mem_iff]

/-- A choice with the same effects refers to the same scenes, if nothing else is different. -/
theorem choiceRefers_of_differAt (differ : DifferAt "effects" HaveSame choice other) :
    ChoiceRefers following choice id ↔ ChoiceRefers following other id := by
  -- The target and the conditions are untouched, the effects have the same items.
  rw [ChoiceRefers, ChoiceRefers, differ.1 "to" (by decide), differ.1 "conditions" (by decide),
    effectTargetsOf_of_haveSame differ.2]

/-- Scenes that differ in order and repetition only have the same references. -/
theorem Reworded.sceneReferences_eq (reworded : Reworded scene other) (following : Following) :
    sceneReferences following scene = sceneReferences following other := by
  apply IdSet.eq_of_mem_iff
  intro id
  rw [mem_sceneReferences_iff_nodesAt, mem_sceneReferences_iff_nodesAt]
  -- Where the scenes differ in their choices, their effects are the same.
  have ofChoices {related : List Json → List Json → Prop}
      (differ : DifferAt "choices" related scene other) :
      id ∈ following.effectTargetsOf scene ↔ id ∈ following.effectTargetsOf other := by
    apply effectTargetsOf_of_haveSame
    intro effect
    rw [nodesAt_congr (differ.1 "effects" (by decide))]
  cases reworded with
  | effects differ =>
    rw [effectTargetsOf_of_haveSame differ.2, nodesAt_congr (differ.1 "choices" (by decide))]
  | choices differ => rw [ofChoices differ, differ.2.exists_mem_iff]
  | withinChoices differ =>
    rw [ofChoices differ]
    exact or_congr_right (exists_mem_iff_of_forall₂ differ.2 fun _ _ differ =>
      (choiceRefers_of_differAt differ).symm).symm

end Rewording

/-- A scene refers to exactly the scenes that it names: by a transition among its effects, or in a
choice as its target, by its conditions, or by a transition among the effects of the choice, where
effects count. Rewording it makes no difference to that, and following choices only finds no more
than following effects too. -/
theorem sceneReferences_isExact (following : Following) (scene : Json) :
    (∀ id, id ∈ sceneReferences following scene ↔ scene.isObject = true ∧ id ≠ "" ∧
      (LeadsByEffect following scene id ∨
        ∃ choice, choice.isObject = true ∧ StandsUnder "choices" scene choice ∧
          (choice.get? "to" = some (.text id) ∨ LeadsByEffect following choice id ∨
            LeadsByCondition choice id))) ∧
    (∀ other, Relation.ReflTransGen Reworded scene other →
      sceneReferences following scene = sceneReferences following other) ∧
    ∀ id, id ∈ sceneReferences .choicesOnly scene → id ∈ sceneReferences .everything scene := by
  refine ⟨?_, ?_, fun _ => mem_sceneReferences_everything⟩
  · intro id
    rw [mem_sceneReferences_iff, mem_effectTargetsOf_iff_leadsByEffect]
    simp only [choiceRefers_iff]
    -- An object is one that holds effects or choices, and no reference is to the empty text.
    constructor
    · rintro (⟨nonempty, leads⟩ | ⟨choice, object, stands, nonempty, refers⟩)
      · exact ⟨leads.isObject, nonempty, .inl leads⟩
      · exact ⟨isObject_of_standsUnder stands, nonempty, .inr ⟨choice, object, stands, by tauto⟩⟩
    · rintro ⟨-, nonempty, leads | ⟨choice, object, stands, refers⟩⟩
      · exact .inl ⟨nonempty, leads⟩
      · exact .inr ⟨choice, object, stands, nonempty, by tauto⟩
  · intro other reworded
    -- Each rewording by itself leaves the references as they are.
    induction reworded with
    | refl => rfl
    | tail _ step ih => exact ih.trans (step.sceneReferences_eq following)

/-- An effect that leads to a scene. -/
def leadTo (id : String) : Json := .object [("type", .text "goto"), ("sceneId", .text id)]

/-- A holder of effects and choices. -/
def holderOf (effects choices : Json) : Json := .object [("effects", effects), ("choices", choices)]

/-- Holders of other effects differ at the effects as these do. -/
theorem differAt_effects {related : List Json → List Json → Prop} {effects others : Json}
    (choices : Json) (differ : related (nodes effects) (nodes others)) :
    DifferAt "effects" related (holderOf effects choices) (holderOf others choices) := by
  -- Every other member is the same.
  refine ⟨?_, differ⟩
  intro name different
  simp [holderOf, Json.get?, Json.members, Table.get?, Ne.symm different]

/-- Holders of other choices differ at the choices as these do. -/
theorem differAt_choices {related : List Json → List Json → Prop} {choices : Json}
    (effects others : Json) (differ : related (nodes choices) (nodes others)) :
    DifferAt "choices" related (holderOf effects choices) (holderOf effects others) := by
  -- Every other member is the same.
  refine ⟨?_, differ⟩
  intro name different
  simp [holderOf, Json.get?, Json.members, Table.get?, Ne.symm different]

/-- The effect of a scene may be written twice, the effects of a choice in another order, and its
choices in another order with one of them twice. -/
theorem sceneReferences_isExact_forked :
    let ahead : Json := .object [("to", .text "b")]
    let aside (effects : List Json) : Json := holderOf (.list effects) .null
    let scene := holderOf (leadTo "a") (.list [ahead, aside [leadTo "c", leadTo "d"]])
    let other := holderOf (.list [leadTo "a", leadTo "a"])
      (.list [aside [leadTo "d", leadTo "c"], ahead, ahead])
    Relation.ReflTransGen Reworded scene other ∧
      sceneReferences .everything scene = sceneReferences .everything other := by
  intro ahead aside scene other
  have reworded : Relation.ReflTransGen Reworded scene other := by
    refine .head (.effects (differAt_effects _ ?_)) (.head (.withinChoices (differAt_choices _
      (.list [ahead, aside [leadTo "d", leadTo "c"]]) ?_))
      (.single (.choices (differAt_choices _ _ ?_))))
    · intro effect
      simp [nodes, leadTo]
    · -- Only the second choice is changed.
      refine .cons ⟨fun _ _ => rfl, fun _ => Iff.rfl⟩ (.cons (differAt_effects _ ?_) .nil)
      intro effect
      simp [nodes, or_comm]
    · intro choice
      simp [nodes, or_comm]
  exact ⟨reworded, (sceneReferences_isExact .everything scene).2.1 other reworded⟩

end Gamebook
