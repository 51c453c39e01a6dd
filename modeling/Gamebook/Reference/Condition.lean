import Gamebook.IdSet
import Gamebook.Reference

/-! Scenes named inside condition trees, by a walk with an explicit stack. -/

namespace Gamebook

/-- The conditions held by a logical condition. -/
def heldConditions? (value : Json) : Option (List Json) := do
  let word ← kindWord? value
  let kind ← ConditionKind.ofName? word
  if kind.isLogical then return nodesAt "conditions" value else none

mutual

/-- The scenes that a condition tree names: lists and logical conditions stand for their parts,
and every other object names the scene in the field of its kind. -/
def conditionTargets (fields : SceneFields) : Json → List String
  | .list items => conditionTargetsOfItems fields items
  | .object members =>
    match heldConditions? (.object members) with
    | some _ => conditionTargetsOfMember fields members
    | none => (namedScene? fields (.object members)).toList
  | _ => []

/-- The scenes that a list of condition trees names. -/
def conditionTargetsOfItems (fields : SceneFields) : List Json → List String
  | [] => []
  | item :: rest => conditionTargets fields item ++ conditionTargetsOfItems fields rest

/-- The scenes named under the first member called `conditions`. -/
def conditionTargetsOfMember (fields : SceneFields) : List (String × Json) → List String
  | [] => []
  | (key, value) :: rest =>
    if key = "conditions" then conditionTargets fields value
    else conditionTargetsOfMember fields rest

end

/-- The nodes of a value hold no more values than it. -/
theorem sizeItems_nodes_le (value : Json) : Json.sizeItems (nodes value) ≤ value.size := by
  cases value <;> simp [nodes, Json.size, Json.sizeItems]

/-- The nodes under a member hold fewer values than the object. -/
theorem sizeItems_nodesAt_lt (key : String) (value : Json) :
    Json.sizeItems (nodesAt key value) < value.size := by
  rw [nodesAt]
  split
  -- The value under the key is a proper part of the object.
  · next inner found =>
    have bound := sizeItems_nodes_le inner
    cases value with
    | object members =>
      have below : inner.size ≤ Json.sizeMembers members := Json.size_le_sizeMembers found
      rw [Json.size]
      omega
    | _ => simp [Json.get?, Json.members, Table.get?] at found
  · simpa [Json.sizeItems] using value.size_pos

/-- What a node of the walk puts on the stack, its last part on top. -/
def expansion (node : Json) : List Json :=
  match node with
  | .list items => items.reverse
  | node => ((heldConditions? node).getD []).reverse

/-- The parts of a node hold fewer values than the node. -/
theorem sizeItems_expansion_lt (node : Json) : Json.sizeItems (expansion node) < node.size := by
  have held : Json.sizeItems ((heldConditions? node).getD []) < node.size := by
    cases parts : heldConditions? node with
    | none => simpa [Json.sizeItems] using node.size_pos
    | some items =>
      -- Only the nodes under one member are ever held.
      simp only [heldConditions?, Option.bind_eq_bind, Option.bind_eq_some_iff] at parts
      obtain ⟨word, _, kind, _, parts⟩ := parts
      split at parts
      · cases parts
        exact sizeItems_nodesAt_lt _ _
      · simp at parts
  cases node with
  | list items => simp [expansion, Json.sizeItems_reverse, Json.size]
  | _ => simpa [expansion, Json.sizeItems_reverse] using held

/-- The scene that a node of the walk names itself. -/
def ownTarget? (fields : SceneFields) (node : Json) : Option String :=
  match heldConditions? node with
  | some _ => none
  | none => namedScene? fields node

/-- Walks the nodes of a stack, top first, and adds every scene that one of them names. -/
def walkConditions (fields : SceneFields) (found : IdSet) : List Json → IdSet
  | [] => found
  | node :: rest =>
    walkConditions fields (found.insertAll (ownTarget? fields node).toList) (expansion node ++ rest)
termination_by pending => Json.sizeItems pending
decreasing_by
  have := sizeItems_expansion_lt node
  simp only [Json.sizeItems_append, Json.sizeItems]
  omega

/-- Adds the scenes that one condition or a list of conditions names. -/
def addConditionTargets (fields : SceneFields) (conditions : Json) (found : IdSet) : IdSet :=
  walkConditions fields found (nodes conditions).reverse

end Gamebook
