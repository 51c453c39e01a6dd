import Mathlib.Logic.Function.Iterate
import Gamebook.Proofs.IdSet
import Gamebook.Proofs.Reference

/-! The walk over condition trees ends, and adds exactly what the trees name. -/

namespace Gamebook

/-- A condition tree names a scene: in an item of a list, in what a logical condition holds, or in
the field that belongs to the kind of any other condition. -/
inductive NamesScene (fields : SceneFields) : Json → String → Prop where
  | item {items : List Json} {item : Json} {id : String} (listed : item ∈ items)
    (names : NamesScene fields item id) : NamesScene fields (.list items) id
  | held {node inner : Json} {logical : LogicalKind} {id : String}
    (kind : node.get? "type" = some (.text logical.name))
    (holds : node.get? "conditions" = some inner) (names : NamesScene fields inner id) :
    NamesScene fields node id
  | own {node : Json} {word field id : String} (kind : node.get? "type" = some (.text word))
    (leaf : ∀ logical : LogicalKind, word ≠ logical.name)
    (row : Table.get? word fields = some field) (target : node.get? field = some (.text id))
    (nonempty : id ≠ "") : NamesScene fields node id

variable {fields : SceneFields} {node value : Json} {held : List Json} {id : String}

/-- No conditions are held by a node that is not of a logical kind. -/
theorem heldConditions?_eq_none_iff :
    heldConditions? node = none ↔
      ∀ logical : LogicalKind, node.get? "type" ≠ some (.text logical.name) := by
  rw [Option.eq_none_iff_forall_ne_some]
  -- There is something held exactly where the tag is one of the logical kinds.
  constructor
  · intro none logical tagged
    exact none _ (heldConditions?_eq_some_iff.2 ⟨⟨logical, tagged⟩, rfl⟩)
  · intro leaf held found
    obtain ⟨⟨logical, tagged⟩, -⟩ := heldConditions?_eq_some_iff.1 found
    exact leaf logical tagged

/-- A node names a scene itself exactly when it is of no logical kind and names it in its field. -/
theorem ownTarget?_eq_some_iff :
    ownTarget? fields node = some id ↔
      heldConditions? node = none ∧ namedScene? fields node = some id := by
  rw [ownTarget?]
  cases heldConditions? node <;> simp

/-- The nodes of a value name what the value names. -/
theorem exists_mem_nodes_namesScene_iff :
    (∃ node ∈ nodes value, NamesScene fields node id) ↔ NamesScene fields value id := by
  cases value with
  | null =>
    -- Null is no node, and has no kind by which it could name a scene.
    constructor
    · rintro ⟨node, member, -⟩
      cases member
    · rintro (_ | ⟨kind, -, -⟩ | ⟨kind, -, -, -, -⟩) <;> cases kind
  | list items =>
    constructor
    · rintro ⟨node, listed, names⟩
      exact .item listed names
    · rintro (⟨listed, names⟩ | ⟨kind, -, -⟩ | ⟨kind, -, -, -, -⟩)
      · exact ⟨_, listed, names⟩
      all_goals cases kind
  | _ => simp [nodes]

/-- The parts of a node are the items of a list, or the conditions that a logical condition
holds. -/
theorem mem_expansion_iff {part : Json} :
    part ∈ expansion node ↔
      (∃ items, node = .list items ∧ part ∈ items) ∨
        (∃ logical : LogicalKind, node.get? "type" = some (.text logical.name)) ∧
          part ∈ nodesAt "conditions" node := by
  have held : part ∈ (heldConditions? node).getD [] ↔
      (∃ logical : LogicalKind, node.get? "type" = some (.text logical.name)) ∧
        part ∈ nodesAt "conditions" node := by
    constructor
    · intro member
      cases found : heldConditions? node with
      | none => simp [found] at member
      | some parts =>
        rw [found] at member
        obtain ⟨kind, rfl⟩ := heldConditions?_eq_some_iff.1 found
        exact ⟨kind, member⟩
    · rintro ⟨kind, member⟩
      rw [heldConditions?_eq_some_iff.2 ⟨kind, rfl⟩]
      exact member
  cases node with
  | list items =>
    -- A list has no kind.
    have kindless : ∀ logical : LogicalKind,
        (Json.list items).get? "type" ≠ some (.text logical.name) := by
      rintro logical ⟨⟩
    simp [expansion, kindless]
  | _ => simpa [expansion] using held

/-- A node names a scene itself, or one of its parts does. -/
theorem namesScene_iff :
    NamesScene fields node id ↔
      ownTarget? fields node = some id ∨ ∃ part ∈ expansion node, NamesScene fields part id := by
  simp only [ownTarget?_eq_some_iff, heldConditions?_eq_none_iff, namedScene?_eq_some_iff,
    mem_expansion_iff]
  constructor
  · intro names
    -- What names a scene is an item, a held condition, or the node itself.
    cases names with
    | item listed names => exact .inr ⟨_, .inl ⟨_, rfl, listed⟩, names⟩
    | held kind holds names =>
      obtain ⟨part, member, names⟩ := exists_mem_nodes_namesScene_iff.2 names
      refine .inr ⟨part, .inr ⟨⟨_, kind⟩, ?_⟩, names⟩
      rw [nodesAt, holds]
      exact member
    | own kind leaf row target nonempty =>
      refine .inl ⟨?_, _, kind, _, row, target, nonempty⟩
      intro logical tagged
      rw [kind] at tagged
      cases tagged
      exact leaf logical rfl
  · rintro (⟨leaf, word, kind, field, row, target, nonempty⟩ |
      ⟨part, ⟨items, rfl, listed⟩ | ⟨⟨logical, kind⟩, member⟩, names⟩)
    · refine .own kind ?_ row target nonempty
      rintro logical rfl
      exact leaf logical kind
    · exact .item listed names
    · rw [nodesAt] at member
      split at member
      · next inner holds =>
        exact .held kind holds (exists_mem_nodes_namesScene_iff.1 ⟨part, member, names⟩)
      · cases member

/-- A part of a node is smaller than the node. -/
theorem size_lt_of_mem_expansion {part : Json} (member : part ∈ expansion node) :
    part.size < node.size := by
  -- A part of the expansion is within its size, which is less than that of the node.
  have within := Json.size_lt_of_mem member
  have smaller := sizeItems_expansion_lt node
  rw [Json.size] at within
  omega

/-- The collected targets of a condition tree are the scenes that it names. -/
theorem mem_conditionTargets_iff_namesScene (node : Json) :
    id ∈ conditionTargets fields node ↔ NamesScene fields node id := by
  -- Both are told by a node and its parts in the same way, and parts are smaller.
  rw [mem_conditionTargets_iff, namesScene_iff]
  refine or_congr_right (exists_congr fun part => and_congr_right fun member => ?_)
  have := size_lt_of_mem_expansion member
  exact mem_conditionTargets_iff_namesScene part
termination_by node.size

/-- A walk over condition trees under way. -/
structure ConditionWalk where
  -- The scenes found so far.
  found : IdSet
  -- The nodes on the stack, top first.
  pending : List Json

/-- One turn of a walk takes the top node off the stack, adds the scene that it names, and puts its
parts on the stack. Without nodes the walk is over. -/
def ConditionWalk.turn (fields : SceneFields) (walk : ConditionWalk) : ConditionWalk :=
  match walk.pending with
  | [] => walk
  | node :: rest =>
    ⟨walk.found.insertAll (ownTarget? fields node).toList, expansion node ++ rest⟩

/-- A walk is over after as many turns as its nodes have values inside them, or fewer, and has then
found what it collects. -/
theorem exists_turns_eq_walkConditions (fields : SceneFields) (found : IdSet)
    (pending : List Json) :
    ∃ turns ≤ Json.sizeItems pending, (ConditionWalk.turn fields)^[turns] ⟨found, pending⟩ =
      ⟨walkConditions fields found pending, []⟩ := by
  fun_induction walkConditions fields found pending with
  | case1 found => exact ⟨0, Nat.zero_le _, rfl⟩
  | case2 found node rest ih =>
    obtain ⟨turns, bound, ended⟩ := ih
    refine ⟨turns + 1, ?_, ?_⟩
    · -- The stack may grow, but what is inside of its nodes becomes less.
      have smaller := sizeItems_expansion_lt node
      rw [Json.sizeItems_append] at bound
      rw [Json.sizeItems]
      omega
    · rw [Function.iterate_succ_apply]
      exact ended

/-- Adding the targets of conditions gives the union with the targets collected by recursion. -/
theorem addConditionTargets_eq (conditions : Json) (found : IdSet) :
    addConditionTargets fields conditions found =
      found.union (.ofList (conditionTargets fields conditions)) := by
  -- The walker adds to what was found before it.
  apply IdSet.eq_of_mem_iff
  intro id
  rw [mem_addConditionTargets_iff, IdSet.mem_union, IdSet.mem_ofList]

/-- The walk over a condition tree ends, with the scenes found before together with those that the
tree names, which are the same whether told by recursion or by rules. Where no kind has a field, as
is the case, it finds nothing new. -/
theorem walk_adds_named_scenes (fields : SceneFields) (conditions : Json) (found : IdSet) :
    addConditionTargets fields conditions found =
        found.union (.ofList (conditionTargets fields conditions)) ∧
    (∀ id, id ∈ conditionTargets fields conditions ↔ NamesScene fields conditions id) ∧
    (∃ turns ≤ conditions.size,
      (ConditionWalk.turn fields)^[turns] ⟨found, (nodes conditions).reverse⟩ =
        ⟨found.union (.ofList (conditionTargets fields conditions)), []⟩) ∧
    addConditionTargets conditionFields conditions found = found := by
  refine ⟨addConditionTargets_eq conditions found,
    fun _ => mem_conditionTargets_iff_namesScene conditions, ?_, ?_⟩
  -- The stack starts with the nodes of the value, which are no larger than that.
  · obtain ⟨turns, bound, ended⟩ :=
      exists_turns_eq_walkConditions fields found (nodes conditions).reverse
    rw [← addConditionTargets, addConditionTargets_eq] at ended
    rw [Json.sizeItems_reverse] at bound
    exact ⟨turns, Nat.le_trans bound (sizeItems_nodes_le conditions), ended⟩
  · rw [addConditionTargets_eq, conditionTargets_conditionFields]
    rfl

/-- Conditions within conditions, where one kind of condition has a field. -/
example : (addConditionTargets [("visited", "scene")]
    (.list [.object [("type", .text "and"), ("conditions", .list [
        .object [("type", .text "visited"), ("scene", .text "b")],
        .object [("type", .text "not"), ("conditions",
          .object [("type", .text "visited"), ("scene", .text "c")])]])],
      .object [("type", .text "visited"), ("scene", .text "")]])
    (.ofList ["a"])).ids = ["a", "b", "c"] := by decide +kernel

end Gamebook
