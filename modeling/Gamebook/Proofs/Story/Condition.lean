import Gamebook.Proofs.Reference.Condition
import Gamebook.Proofs.Story.Acceptance
import Gamebook.Proofs.Story.Normal.Condition

/-! The grammar of conditions, which is exactly what is accepted as a condition. In a condition the
walk finds what stands in its leaves, and nothing else. -/

namespace Gamebook.Story

open Checked Schema

/-- A leaf of a kind has the fields that the kind declares. No leaf is of a logical kind. -/
def LeafFields (members : List (String × Json)) : ConditionKind → Prop
  | .stat => Condition.statField.Has IsName members ∧
      Condition.operatorField.Has IsOperator members ∧ Condition.valueField.Has IsReal members
  | .flag => Condition.flagField.Has IsName members
  | .item => Condition.itemField.Has IsName members ∧
      Condition.itemCountField.MayHave IsCount members
  | .faction => Condition.factionField.Has IsName members ∧
      Condition.factionLevelField.MayHave IsReal members
  | .logical _ => False

/-- A condition is a leaf of some kind, or it is of a logical kind and holds a condition, or one or
more conditions in a list. -/
inductive IsCondition : Json → Prop where
  | leaf {members : List (String × Json)} (kind : ConditionKind)
      (tagged : Table.get? "type" members = some (.text kind.name))
      (fields : LeafFields members kind) : IsCondition (.object members)
  | one {members : List (String × Json)} {part : Json} (kind : LogicalKind)
      (tagged : Table.get? "type" members = some (.text kind.name))
      (holds : Table.get? "conditions" members = some part) (condition : IsCondition part) :
      IsCondition (.object members)
  | many {members : List (String × Json)} {parts : List Json} (kind : LogicalKind)
      (tagged : Table.get? "type" members = some (.text kind.name))
      (holds : Table.get? "conditions" members = some (.list parts)) (nonempty : parts ≠ [])
      (conditions : ∀ part ∈ parts, IsCondition part) : IsCondition (.object members)

/-- A leaf of a kind in a condition tree: the tree itself, or a leaf of what stands under the
conditions of a tree of a logical kind. -/
inductive IsLeafOf (kind : ConditionKind) (leaf : Json) : Json → Prop where
  | self (tagged : leaf.get? "type" = some (.text kind.name)) (single : kind.isLogical = false) :
      IsLeafOf kind leaf leaf
  | held {tree part : Json} (logical : LogicalKind)
      (tagged : tree.get? "type" = some (.text logical.name))
      (stands : StandsUnder "conditions" tree part) (leafOf : IsLeafOf kind leaf part) :
      IsLeafOf kind leaf tree

/-- The kind of a leaf is no logical kind. -/
theorem LeafFields.isLogical_eq_false {members : List (String × Json)} {kind : ConditionKind}
    (fields : LeafFields members kind) : kind.isLogical = false := by
  -- A logical kind has no fields of a leaf.
  cases kind with
  | logical => cases fields
  | _ => rfl

section Acceptance

variable {members : List (String × Json)} {value : Json}

/-- A tag that is the word of a kind is accepted for that kind. -/
theorem isAccepted_tag {word : String} (tagged : Table.get? "type" members = some (.text word)) :
    (tagField.required (readTag word) members).isAccepted = true :=
  isAccepted_iff.2 ⟨(), required_readTag tagged⟩

/-- An object with the tag of a kind is accepted where its members are accepted for that kind. -/
theorem isAccepted_object_iff {kind : ConditionKind}
    (tagged : Table.get? "type" members = some (.text kind.name)) :
    (Condition.readNode (.object members)).isAccepted = true ↔
      (Condition.readOfKind members kind).isAccepted = true := by
  simp only [isAccepted_iff, Condition.readNode_eq_accepted_iff]
  -- An accepted condition is read by some kind, and the tag leaves one choice of it.
  refine exists_congr fun condition => ?_
  constructor
  · rintro ⟨others, other, same, marked, read⟩
    cases same
    have names : kind.name = other.name :=
      Json.text.inj (Option.some.inj (tagged.symm.trans marked))
    rw [ConditionKind.eq_of_name_eq names]
    exact read
  · intro read
    exact ⟨members, kind, rfl, tagged, read⟩

/-- An object with the tag of a kind of leaves is accepted where it has the fields of that kind. -/
theorem isAccepted_leaf_iff {kind : ConditionKind} (single : kind.isLogical = false)
    (tagged : Table.get? "type" members = some (.text kind.name)) :
    (Condition.readNode (.object members)).isAccepted = true ↔ LeafFields members kind := by
  -- The tag reads back its own name, so it never decides a leaf.
  have tag := isAccepted_tag tagged
  have name (field : Field) :
      (field.required readName members).isAccepted = true ↔ field.Has IsName members :=
    Field.isAccepted_required_iff fun _ => isAccepted_readName_iff
  have operator (field : Field) :
      (field.required readOperator members).isAccepted = true ↔ field.Has IsOperator members :=
    Field.isAccepted_required_iff fun _ => isAccepted_readOperator_iff
  have real (field : Field) :
      (field.required readReal members).isAccepted = true ↔ field.Has IsReal members :=
    Field.isAccepted_required_iff fun _ => isAccepted_readReal_iff
  have count (field : Field) :
      (field.optional none (orNull readCount) members).isAccepted = true ↔
        field.MayHave IsCount members :=
    Field.isAccepted_optional_iff (fun _ => isAccepted_readCount_iff) none
  have level (field : Field) :
      (field.optional none (orNull readReal) members).isAccepted = true ↔
        field.MayHave IsReal members :=
    Field.isAccepted_optional_iff (fun _ => isAccepted_readReal_iff) none
  rw [isAccepted_object_iff tagged]
  -- What is left is the list of fields that the kind asks for.
  cases kind with
  | logical => cases single
  | _ =>
    simp only [Condition.readOfKind, Condition.readMembers, isAccepted_seq, isAccepted_map,
      Bool.and_eq_true, tag, true_and, LeafFields, name, operator, real, count, level, and_assoc]

/-- Held conditions are accepted as a list of one or more conditions, or as one condition. -/
theorem isAccepted_readHeld_iff {kind : LogicalKind} :
    (Condition.readHeld (some kind) value).isAccepted = true ↔
      (∃ parts, value = .list parts ∧ parts ≠ [] ∧
          ∀ part ∈ parts, (Condition.readNode part).isAccepted = true) ∨
        (Condition.readNode value).isAccepted = true := by
  -- The list is tried first, then the value as one condition.
  rw [Condition.readHeld_eq_choose, isAccepted_choose, Bool.or_eq_true]
  refine or_congr_left ⟨?_, ?_⟩
  · intro ok
    obtain ⟨conditions, ok⟩ := isAccepted_iff.1 ok
    obtain ⟨list, unheld | nonempty⟩ := Condition.atLeastOne_eq_accepted_iff.1 ok
    · cases unheld
    · obtain ⟨parts, rfl, matched⟩ := exists_items_of_readList list
      refine ⟨parts, rfl, ?_, isAccepted_readItems_iff.1 (isAccepted_iff.2 ⟨conditions, list⟩)⟩
      rintro rfl
      cases matched
      exact nonempty rfl
  · rintro ⟨parts, rfl, nonempty, each⟩
    -- The parts are read one by one, so as many conditions come out as went in.
    obtain ⟨conditions, list⟩ := isAccepted_iff.1 (isAccepted_readItems_iff.2 each)
    refine isAccepted_iff.2
      ⟨conditions, Condition.atLeastOne_eq_accepted_iff.2 ⟨list, .inr ?_⟩⟩
    rintro rfl
    cases forall₂_of_readItems list
    exact nonempty rfl

/-- An object with the tag of a logical kind is accepted where the conditions that it holds are. -/
theorem isAccepted_logical_iff {kind : LogicalKind}
    (tagged : Table.get? "type" members = some (.text kind.name)) :
    (Condition.readNode (.object members)).isAccepted = true ↔
      ∃ held, Table.get? "conditions" members = some held ∧
        (Condition.readHeld (some kind) held).isAccepted = true := by
  have held : (Condition.heldField.required (Condition.readHeld (some kind)) members).isAccepted =
      true ↔ Condition.heldField.Has
        (fun held => (Condition.readHeld (some kind) held).isAccepted = true) members :=
    Field.isAccepted_required_iff fun _ => Iff.rfl
  have logical : Table.get? "type" members =
    some (.text (ConditionKind.logical kind).name) := tagged
  rw [isAccepted_object_iff logical]
  simp only [Condition.readOfKind, Condition.readMembers, isAccepted_seq, isAccepted_map,
    Bool.and_eq_true, isAccepted_tag tagged, true_and, ConditionKind.name, held]
  -- Both names of the field are the same.
  refine exists_congr fun value => and_congr_left fun _ => ?_
  exact ⟨fun holds => holds.elim id And.right, .inl⟩

/-- What is accepted as a condition is one. -/
theorem isCondition_of_isAccepted {value : Json}
    (ok : (Condition.readNode value).isAccepted = true) : IsCondition value := by
  obtain ⟨condition, read⟩ := isAccepted_iff.1 ok
  obtain ⟨members, kind, rfl, tagged, -⟩ := Condition.readNode_eq_accepted_iff.1 read
  cases kind with
  | logical kind =>
    -- What is held stands in a member, and is smaller than the condition.
    obtain ⟨held, holds, accepted⟩ := (isAccepted_logical_iff tagged).1 ok
    have small : held.size < (Json.object members).size :=
      Json.size_lt_of_mem_members (Table.mem_of_get? holds)
    rcases isAccepted_readHeld_iff.1 accepted with ⟨parts, rfl, nonempty, each⟩ | single
    · refine .many kind tagged holds nonempty fun part listed => ?_
      have smaller := Json.size_lt_of_mem listed
      exact isCondition_of_isAccepted (each part listed)
    · exact .one kind tagged holds (isCondition_of_isAccepted single)
  | _ => exact .leaf _ tagged ((isAccepted_leaf_iff rfl tagged).1 ok)
termination_by value.size
decreasing_by
  all_goals
    subst_vars
    omega

/-- Every condition is accepted. -/
theorem IsCondition.isAccepted (condition : IsCondition value) :
    (Condition.readNode value).isAccepted = true := by
  -- The induction follows the grammar, one rule for each way a condition is built.
  induction condition with
  | leaf kind tagged fields =>
    exact (isAccepted_leaf_iff fields.isLogical_eq_false tagged).2 fields
  | one kind tagged holds _ ih =>
    rw [isAccepted_logical_iff tagged]
    exact ⟨_, holds, isAccepted_readHeld_iff.2 (.inr ih)⟩
  | many kind tagged holds nonempty _ ih =>
    rw [isAccepted_logical_iff tagged]
    exact ⟨_, holds, isAccepted_readHeld_iff.2 (.inl ⟨_, rfl, nonempty, ih⟩)⟩

end Acceptance

section Walk

variable {fields : SceneFields} {kind : ConditionKind} {leaf value : Json} {field id : String}

/-- A tree names what its leaves name. -/
theorem IsLeafOf.namesScene (leafOf : IsLeafOf kind leaf value)
    (row : Table.get? kind.name fields = some field) (target : leaf.get? field = some (.text id))
    (nonempty : id ≠ "") : NamesScene fields value id := by
  -- The walker descends through the logical conditions above the leaf.
  induction leafOf with
  | self tagged single =>
    refine .own tagged ?_ row target nonempty
    intro logical same
    cases single.symm.trans (ConditionKind.isLogical_of_name_eq same)
  | held logical tagged stands _ ih =>
    -- The members of one logical condition are held singly or in a list.
    rcases stands with holds | ⟨items, holds, listed⟩
    · exact .held tagged holds ih
    · exact .held tagged holds (.item listed ih)

/-- A condition names nothing but what its leaves name. -/
theorem IsCondition.exists_leaf (condition : IsCondition value)
    (names : NamesScene fields value id) :
    ∃ kind leaf field, IsLeafOf kind leaf value ∧ Table.get? kind.name fields = some field ∧
      leaf.get? field = some (.text id) ∧ id ≠ "" := by
  induction condition with
  | leaf kind tagged declared =>
    have single := declared.isLogical_eq_false
    cases names with
    | held logical _ _ =>
      have same := Json.text.inj (Option.some.inj (tagged.symm.trans logical))
      cases single.symm.trans (ConditionKind.isLogical_of_name_eq same)
    | own marked _ row target nonempty =>
      cases tagged.symm.trans marked
      exact ⟨kind, _, _, .self tagged single, row, target, nonempty⟩
  | one logical tagged holds _ ih =>
    cases names with
    | held _ found names =>
      cases holds.symm.trans found
      obtain ⟨kind, leaf, field, leafOf, rest⟩ := ih names
      exact ⟨kind, leaf, field, .held logical tagged (.inl holds) leafOf, rest⟩
    | own marked leaf _ _ _ =>
      cases tagged.symm.trans marked
      exact absurd rfl (leaf logical)
  | many logical tagged holds nonempty _ ih =>
    cases names with
    | held _ found names =>
      cases holds.symm.trans found
      cases names with
      | item listed names =>
        obtain ⟨kind, leaf, field, leafOf, rest⟩ := ih _ listed names
        exact ⟨kind, leaf, field, .held logical tagged (.inr ⟨_, holds, listed⟩) leafOf, rest⟩
      -- A list has no kind.
      | held kind _ _ => cases kind
      | own kind _ _ _ _ => cases kind
    | own marked leaf _ _ _ =>
      cases tagged.symm.trans marked
      exact absurd rfl (leaf logical)

/-- In a condition the walk finds what its leaves have in the fields of their kinds. -/
theorem IsCondition.mem_addConditionTargets_iff (condition : IsCondition value) :
    id ∈ addConditionTargets fields value .empty ↔
      ∃ kind leaf field, IsLeafOf kind leaf value ∧ Table.get? kind.name fields = some field ∧
        leaf.get? field = some (.text id) ∧ id ≠ "" := by
  -- Starting from nothing, the walker has exactly the named scenes.
  rw [Gamebook.mem_addConditionTargets_iff, mem_conditionTargets_iff_namesScene]
  constructor
  · rintro (none | names)
    · cases none
    · exact condition.exists_leaf names
  · rintro ⟨kind, leaf, field, leafOf, row, target, nonempty⟩
    exact .inr (leafOf.namesScene row target nonempty)

/-- Where one kind is given a field, no other kind has one. -/
theorem get?_put_conditionFields_iff {other : ConditionKind} {found : String} :
    Table.get? other.name (Table.put kind.name field conditionFields) = some found ↔
      other = kind ∧ found = field := by
  -- The table holds no other row, so only the one that was put can answer.
  rw [Table.get?_put]
  by_cases same : kind.name = other.name
  · rw [if_pos same, ConditionKind.eq_of_name_eq same]
    simp [eq_comm]
  · have different : other ≠ kind := fun kinds => same (congrArg ConditionKind.name kinds.symm)
    rw [if_neg same]
    simp [different, conditionFields, Table.get?]

/-- What is accepted as a condition is what the grammar of conditions has. Where a kind of leaves is
given a field for scenes, the walk over a condition finds exactly the names that the leaves of that
kind have in the field, however deep they stand. -/
theorem conditionGrammar_isExact (value : Json) :
    ((Condition.readNode value).isAccepted = true ↔ IsCondition value) ∧
      ((Condition.readNode value).isAccepted = true → ∀ (kind : ConditionKind) (field id : String),
        id ∈ addConditionTargets (Table.put kind.name field conditionFields) value .empty ↔
          ∃ leaf, IsLeafOf kind leaf value ∧ leaf.get? field = some (.text id) ∧ id ≠ "") := by
  refine ⟨⟨isCondition_of_isAccepted, IsCondition.isAccepted⟩, ?_⟩
  -- In an accepted condition the walker meets the grammar's leaves, and the row picks their kind.
  intro accepted kind field id
  rw [(isCondition_of_isAccepted accepted).mem_addConditionTargets_iff]
  simp only [get?_put_conditionFields_iff]
  constructor
  · rintro ⟨_, leaf, _, leafOf, ⟨rfl, rfl⟩, names⟩
    exact ⟨leaf, leafOf, names⟩
  · rintro ⟨leaf, leafOf, names⟩
    exact ⟨kind, leaf, field, leafOf, ⟨rfl, rfl⟩, names⟩

/-- A condition that holds a list, in which one condition holds another. The count of its item is
written as text, under the second name of the field. -/
def nestedCondition : Json :=
  .object [("type", .text "and"), ("conditions", .list [
    .object [("type", .text "flag"), ("flag", .text "met"), ("item", .text "rope")],
    .object [("type", .text "not"), ("conditions",
      .object [("type", .text "item"), ("item", .text "lamp"), ("item_count", .text " 2 ")])]])]

/-- A nested condition is in the grammar, and where the kind of items is given a field, the walk
finds the item that stands inside. -/
theorem conditionGrammar_isExact_nested :
    (Condition.readNode nestedCondition).isAccepted = true ∧ IsCondition nestedCondition ∧
      "lamp" ∈ addConditionTargets (Table.put ConditionKind.item.name "item" conditionFields)
        nestedCondition .empty := by
  obtain ⟨grammar, walk⟩ := conditionGrammar_isExact nestedCondition
  have accepted : (Condition.readNode nestedCondition).isAccepted = true := rfl
  refine ⟨accepted, grammar.1 accepted, (walk accepted .item "item" "lamp").2 ?_⟩
  -- The lamp hangs below two logical conditions.
  have lamp : IsLeafOf .item
      (.object [("type", .text "item"), ("item", .text "lamp"), ("item_count", .text " 2 ")])
      nestedCondition :=
    .held .and rfl (.inr ⟨_, rfl, .tail _ (.head _)⟩) (.held .not rfl (.inl rfl) (.self rfl rfl))
  exact ⟨_, lamp, rfl, by decide⟩

end Walk

end Gamebook.Story
