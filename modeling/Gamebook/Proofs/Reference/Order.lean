import Gamebook.Proofs.IdSet
import Gamebook.Proofs.Reference
import Gamebook.Proofs.Table

/-! The order of choices and of effects makes no difference to the references of a scene. -/

namespace Gamebook

mutual

/-- One value is another one with lists of choices and of effects inside it in another order. -/
inductive Rearranged : Json → Json → Prop where
  | same (value : Json) : Rearranged value value
  | list {items others : List Json} (each : List.Forall₂ Rearranged items others) :
    Rearranged (.list items) (.list others)
  | object {members others : List (String × Json)}
    (each : List.Forall₂ RearrangedMember members others) :
    Rearranged (.object members) (.object others)

/-- The same for a member of an object; only under two keys may the items of a list move. -/
inductive RearrangedMember : String × Json → String × Json → Prop where
  | keep (key : String) {value other : Json} (within : Rearranged value other) :
    RearrangedMember (key, value) (key, other)
  | move {key : String} {items middle others : List Json}
    (free : key = "choices" ∨ key = "effects") (perm : items.Perm middle)
    (each : List.Forall₂ Rearranged middle others) :
    RearrangedMember (key, .list items) (key, .list others)

end

/-- Rearranging a value rearranges what stands under each of its keys. -/
theorem Rearranged.get? {value other : Json} (rearranged : Rearranged value other) (key : String) :
    Option.Rel (fun found found' => RearrangedMember (key, found) (key, found'))
      (value.get? key) (other.get? key) := by
  cases rearranged with
  | same =>
    -- The value is its own rearrangement, and so is what it holds.
    cases value.get? key with
    | none => exact .none
    | some found => exact .some (.keep key (.same found))
  | list each => exact .none
  | object each =>
    -- Members keep their keys and their order, so a lookup finds the member at the same place.
    refine Table.rel_get?_of_forall₂ (fun key found found' =>
      RearrangedMember (key, found) (key, found')) (each.imp ?_) key
    intro member member' moved
    cases moved with
    | keep key within => exact ⟨rfl, .keep key within⟩
    | move free perm each => exact ⟨rfl, .move free perm each⟩

/-- Only objects are rearranged to objects. -/
theorem Rearranged.isObject_iff {value other : Json} (rearranged : Rearranged value other) :
    value.isObject = true ↔ other.isObject = true := by
  -- Rearranging leaves the kind of a value as it is.
  cases rearranged with
  | same => exact Iff.rfl
  | list each => exact Iff.rfl
  | object each => exact Iff.rfl

/-- A text is moved nowhere. -/
theorem RearrangedMember.text_iff {key written : String} {value other : Json}
    (moved : RearrangedMember (key, value) (key, other)) :
    value = .text written ↔ other = .text written := by
  -- A text is kept as it is, because only lists and objects are rearranged.
  cases moved with
  | keep _ within =>
    cases within with
    | same => exact Iff.rfl
    | list each => simp
    | object each => simp
  | move free perm each => simp

/-- Rearranging a value keeps the texts under its keys. -/
theorem Rearranged.get?_text_iff {value other : Json} (rearranged : Rearranged value other)
    {key written : String} :
    value.get? key = some (.text written) ↔ other.get? key = some (.text written) := by
  -- Both values have something under the key, or neither has.
  have related := rearranged.get? key
  generalize value.get? key = found at related ⊢
  generalize other.get? key = found' at related ⊢
  cases related with
  | none => exact Iff.rfl
  | some moved => simpa only [Option.some.injEq] using moved.text_iff

section Nodes

variable {holds : Json → Prop}
  (kept : ∀ value other, Rearranged value other → (holds value ↔ holds other))

include kept

/-- Moving the items of a member keeps whether one of its nodes is of such a kind. -/
theorem RearrangedMember.exists_mem_nodes_iff {key : String} {value other : Json}
    (moved : RearrangedMember (key, value) (key, other)) :
    (∃ node ∈ nodes value, holds node) ↔ ∃ node ∈ nodes other, holds node := by
  cases moved with
  | keep _ within =>
    cases within with
    | same => exact Iff.rfl
    | list each =>
      exact (exists_mem_iff_of_forall₂ each fun _ _ within => (kept _ _ within).symm).symm
    | object each =>
      -- An object is its own only node.
      simpa [nodes] using kept _ _ (.object each)
  | @move _ items middle others free perm each =>
    -- The items move first, and then each of them is rearranged.
    have reordered : (∃ item ∈ items, holds item) ↔ ∃ item ∈ middle, holds item := by
      simp only [perm.mem_iff]
    exact reordered.trans
      (exists_mem_iff_of_forall₂ each fun _ _ within => (kept _ _ within).symm).symm

/-- Rearranging a value keeps whether an object of such a kind stands under a key. -/
theorem Rearranged.exists_standsUnder_iff {value other : Json}
    (rearranged : Rearranged value other) (key : String)
    (object : ∀ node, holds node → node.isObject = true) :
    (∃ node, StandsUnder key value node ∧ holds node) ↔
      ∃ node, StandsUnder key other node ∧ holds node := by
  rw [Gamebook.exists_standsUnder_iff object, Gamebook.exists_standsUnder_iff object, nodesAt,
    nodesAt]
  -- Under the key both have nothing, or both have values that are rearranged.
  have related := rearranged.get? key
  generalize value.get? key = found at related ⊢
  generalize other.get? key = found' at related ⊢
  cases related with
  | none => exact Iff.rfl
  | some moved => exact moved.exists_mem_nodes_iff kept

end Nodes

/-- Rearranging a holder keeps where its effects lead. -/
theorem Rearranged.mem_effectTargetsOf_iff {following : Following} {holder other : Json}
    (rearranged : Rearranged holder other) {id : String} :
    id ∈ following.effectTargetsOf holder ↔ id ∈ following.effectTargetsOf other := by
  cases following with
  | choicesOnly => exact Iff.rfl
  | everything =>
    rw [Gamebook.mem_effectTargetsOf_iff, Gamebook.mem_effectTargetsOf_iff]
    refine rearranged.exists_standsUnder_iff ?_ "effects" ?_
    · -- The kind of an effect and its target are texts.
      intro effect effect' within
      rw [IsTransition, IsTransition, within.get?_text_iff, within.get?_text_iff]
    · intro effect named
      exact isObject_of_isTransition named.1

/-- Rearranging a choice keeps what it refers to. -/
theorem Rearranged.choiceRefers_iff {following : Following} {choice other : Json}
    (rearranged : Rearranged choice other) {id : String} :
    ChoiceRefers following choice id ↔ ChoiceRefers following other id := by
  -- Conditions name no scene, however they are arranged.
  simp only [ChoiceRefers, conditionTargets_conditionFields, rearranged.get?_text_iff,
    rearranged.mem_effectTargetsOf_iff]

/-- Rearranging a scene keeps its references. -/
theorem Rearranged.sceneReferences_eq {scene other : Json} (rearranged : Rearranged scene other)
    (following : Following) :
    sceneReferences following scene = sceneReferences following other := by
  -- Sets are equal once they have the same members, so the order of collecting drops out here.
  apply IdSet.eq_of_mem_iff
  intro id
  have choices : (∃ choice, StandsUnder "choices" scene choice ∧
        choice.isObject = true ∧ ChoiceRefers following choice id) ↔
      ∃ choice, StandsUnder "choices" other choice ∧
        choice.isObject = true ∧ ChoiceRefers following choice id := by
    refine rearranged.exists_standsUnder_iff ?_ "choices" ?_
    · intro choice choice' within
      rw [within.isObject_iff, within.choiceRefers_iff]
    · intro choice held
      exact held.1
  rw [mem_sceneReferences_iff, mem_sceneReferences_iff, rearranged.mem_effectTargetsOf_iff]
  refine or_congr_right ?_
  simpa only [and_left_comm] using choices

end Gamebook
