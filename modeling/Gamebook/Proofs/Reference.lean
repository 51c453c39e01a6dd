import Gamebook.Proofs.Json
import Gamebook.Proofs.Kind
import Gamebook.Proofs.Result
import Gamebook.Reference.Scene

/-! The scenes that a document refers to, said without the walks that collect them. -/

namespace Gamebook

/-- A node stands under a key: as the value there, or as an item of the list there. -/
def StandsUnder (key : String) (holder node : Json) : Prop :=
  holder.get? key = some node ∨
    ∃ items, holder.get? key = some (.list items) ∧ node ∈ items

/-- Under a key at which something stands there is a value: the node, or a list that holds it. -/
theorem exists_value_of_standsUnder {key : String} {holder node : Json}
    (stands : StandsUnder key holder node) :
    ∃ value, holder.get? key = some value ∧
      (value = node ∨ ∃ items, value = .list items ∧ node ∈ items) := by
  -- A node is the value itself or an item of it.
  rcases stands with found | ⟨items, found, member⟩
  · exact ⟨node, found, .inl rfl⟩
  · exact ⟨.list items, found, .inr ⟨items, rfl, member⟩⟩

/-- An effect is a transition to another scene, whether or not it names one. -/
def IsTransition (effect : Json) : Prop := effect.get? "type" = some (.text "goto")

/-- An object among the nodes under a key is one that stands there. -/
theorem mem_nodesAt_iff {key : String} {holder node : Json} (object : node.isObject = true) :
    node ∈ nodesAt key holder ↔ StandsUnder key holder node := by
  rw [nodesAt, StandsUnder]
  cases found : holder.get? key with
  | none => simp
  | some value =>
    -- Null and lists are no objects, and every other value is its own only node.
    cases value with
    | null =>
      have different : node ≠ .null := by
        rintro rfl
        cases object
      simp [nodes, different.symm]
    | list items =>
      have different : node ≠ .list items := by
        rintro rfl
        cases object
      simp [nodes, different.symm]
    | _ => simp [nodes, eq_comm]

/-- For objects it is the same to stand under a key and to be one of the nodes there. -/
theorem exists_standsUnder_iff {key : String} {holder : Json} {property : Json → Prop}
    (objects : ∀ node, property node → node.isObject = true) :
    (∃ node, StandsUnder key holder node ∧ property node) ↔
      ∃ node ∈ nodesAt key holder, property node := by
  -- A node with the property is an object, and objects are nodes where they stand.
  constructor
  · rintro ⟨node, stands, holds⟩
    exact ⟨node, (mem_nodesAt_iff (objects node holds)).2 stands, holds⟩
  · rintro ⟨node, member, holds⟩
    exact ⟨node, (mem_nodesAt_iff (objects node holds)).1 member, holds⟩

/-- The scene named by a member. -/
theorem targetAt?_eq_some_iff {key : String} {value : Json} {id : String} :
    targetAt? key value = some id ↔ value.get? key = some (.text id) ∧ id ≠ "" :=
  Json.bind_nonemptyText?_eq_some_iff

/-- The word of a kind. -/
theorem kindWord?_eq_some_iff {value : Json} {word : String} :
    kindWord? value = some word ↔ value.get? "type" = some (.text word) :=
  Json.bind_text?_eq_some_iff

/-- The scene that a node of a kind names is the text in the field of its kind. -/
theorem namedScene?_eq_some_iff {fields : SceneFields} {node : Json} {id : String} :
    namedScene? fields node = some id ↔
      ∃ word, node.get? "type" = some (.text word) ∧
        ∃ field, Table.get? word fields = some field ∧
          node.get? field = some (.text id) ∧ id ≠ "" := by
  simp only [namedScene?, Option.bind_eq_bind, Option.bind_eq_some_iff, kindWord?_eq_some_iff,
    targetAt?_eq_some_iff]

/-- An effect names a scene exactly when it is a transition with a target. -/
theorem namedScene?_effect_iff {effect : Json} {id : String} :
    namedScene? effectFields effect = some id ↔
      IsTransition effect ∧ effect.get? "sceneId" = some (.text id) ∧ id ≠ "" := by
  -- There is only one kind of effect with a field for scenes.
  have fields (word : String) : Table.get? word effectFields =
      if "goto" = word then some "sceneId" else none := rfl
  simp only [namedScene?_eq_some_iff, fields, IsTransition]
  constructor
  · rintro ⟨word, kind, field, named, target⟩
    split at named
    · next same =>
      cases named
      subst same
      exact ⟨kind, target⟩
    · cases named
  · rintro ⟨kind, target⟩
    exact ⟨"goto", kind, "sceneId", rfl, target⟩

/-- A value with a kind is an object. -/
theorem isObject_of_isTransition {effect : Json} (transition : IsTransition effect) :
    effect.isObject = true :=
  Json.isObject_of_get? transition

/-- The effects of a holder lead to the targets of the transitions that stand there. -/
theorem mem_effectTargetsOf_iff {holder : Json} {id : String} :
    id ∈ Following.everything.effectTargetsOf holder ↔
      ∃ effect, StandsUnder "effects" holder effect ∧ IsTransition effect ∧
        effect.get? "sceneId" = some (.text id) ∧ id ≠ "" := by
  -- A member that is absent has no nodes, as a null has none.
  have asNodes : nodes ((holder.get? "effects").getD .null) = nodesAt "effects" holder := by
    rw [nodesAt]
    cases holder.get? "effects" <;> rfl
  simp only [Following.effectTargetsOf, Following.effectTargets, effectTargets, asNodes,
    List.mem_filterMap, namedScene?_effect_iff]
  exact (exists_standsUnder_iff fun _ named => isObject_of_isTransition named.1).symm

/-- Where only choices count, effects lead nowhere. -/
@[simp] theorem effectTargetsOf_choicesOnly (holder : Json) :
    Following.choicesOnly.effectTargetsOf holder = [] := rfl

section Conditions

variable {fields : SceneFields}

/-- A list of conditions names what its items name. -/
theorem mem_conditionTargetsOfItems_iff {items : List Json} {id : String} :
    id ∈ conditionTargetsOfItems fields items ↔
      ∃ item ∈ items, id ∈ conditionTargets fields item := by
  -- The targets of the items are put one behind another.
  induction items with
  | nil => simp [conditionTargetsOfItems]
  | cons item rest ih => simp [conditionTargetsOfItems, ih]

/-- The nodes of a condition tree name what the tree names. -/
theorem mem_conditionTargets_nodes_iff {value : Json} {id : String} :
    (∃ node ∈ nodes value, id ∈ conditionTargets fields node) ↔
      id ∈ conditionTargets fields value := by
  -- Only a list has other nodes than itself.
  cases value with
  | null => simp [nodes, conditionTargets]
  | list items => simp [nodes, conditionTargets, mem_conditionTargetsOfItems_iff]
  | _ => simp [nodes]

/-- A logical condition names what the value of its conditions names. -/
theorem mem_conditionTargetsOfMember_iff {members : List (String × Json)} {id : String} :
    id ∈ conditionTargetsOfMember fields members ↔
      ∃ part ∈ nodesAt "conditions" (.object members), id ∈ conditionTargets fields part := by
  have held : id ∈ conditionTargetsOfMember fields members ↔
      ∃ value, Table.get? "conditions" members = some value ∧
        id ∈ conditionTargets fields value := by
    induction members with
    | nil => simp [conditionTargetsOfMember, Table.get?]
    | cons entry rest ih =>
      obtain ⟨key, value⟩ := entry
      rw [conditionTargetsOfMember, Table.get?]
      -- The first member of the name is the one that counts.
      by_cases here : key = "conditions"
      · simp [here]
      · rw [if_neg here, if_neg here]
        exact ih
  rw [held, nodesAt, Json.get?, Json.members]
  cases Table.get? "conditions" members with
  | none => simp
  | some value => simp [mem_conditionTargets_nodes_iff]

/-- Conditions are held by a node of a logical kind, and they are the nodes under one member. -/
theorem heldConditions?_eq_some_iff {node : Json} {held : List Json} :
    heldConditions? node = some held ↔
      (∃ logical : LogicalKind, node.get? "type" = some (.text logical.name)) ∧
        held = nodesAt "conditions" node := by
  simp only [heldConditions?, Option.bind_eq_bind, Option.bind_eq_some_iff, kindWord?_eq_some_iff,
    ConditionKind.ofName?_eq_some_iff]
  constructor
  · rintro ⟨word, tagged, kind, rfl, found⟩
    -- Only the logical kinds hold conditions.
    cases kind with
    | logical logical => exact ⟨⟨logical, tagged⟩, (Option.some.inj found).symm⟩
    | _ => cases found
  · rintro ⟨⟨logical, tagged⟩, rfl⟩
    exact ⟨logical.name, tagged, .logical logical, rfl, rfl⟩

/-- A node of a condition tree names its own target and what its parts name. -/
theorem mem_conditionTargets_iff {node : Json} {id : String} :
    id ∈ conditionTargets fields node ↔
      ownTarget? fields node = some id ∨
        ∃ part ∈ expansion node, id ∈ conditionTargets fields part := by
  -- Only objects have a kind, so other nodes neither hold conditions nor name a scene.
  have kindless (value : Json) (bare : value.members = []) : kindWord? value = none := by
    simp [kindWord?, Json.get?, bare, Table.get?]
  cases node with
  | list items =>
    have bare := kindless (.list items) rfl
    simp [conditionTargets, ownTarget?, heldConditions?, namedScene?, expansion, bare,
      mem_conditionTargetsOfItems_iff]
  | object members =>
    have expanded : expansion (.object members) =
        ((heldConditions? (.object members)).getD []).reverse := rfl
    rw [conditionTargets, ownTarget?, expanded]
    cases held : heldConditions? (.object members) with
    | some parts =>
      obtain ⟨-, rfl⟩ := heldConditions?_eq_some_iff.1 held
      simp [mem_conditionTargetsOfMember_iff]
    | none => simp
  | _ =>
    simp [conditionTargets, ownTarget?, heldConditions?, namedScene?, expansion, kindWord?,
      Json.get?, Json.members, Table.get?]

/-- The walk adds what the trees on its stack name, and nothing else. -/
theorem mem_walkConditions_iff {found : IdSet} {pending : List Json} {id : String} :
    id ∈ walkConditions fields found pending ↔
      id ∈ found ∨ ∃ node ∈ pending, id ∈ conditionTargets fields node := by
  -- One turn replaces a node by its own target and its parts, which name the same scenes.
  fun_induction walkConditions fields found pending with
  | case1 found => simp
  | case2 found node rest ih =>
    rw [ih, IdSet.mem_insertAll]
    simp only [List.mem_append, List.mem_cons, Option.mem_toList]
    constructor
    · rintro ((own | before) | ⟨part, part_of | later, named⟩)
      · exact .inr ⟨node, .inl rfl, mem_conditionTargets_iff.2 (.inl own)⟩
      · exact .inl before
      · exact .inr ⟨node, .inl rfl, mem_conditionTargets_iff.2 (.inr ⟨part, part_of, named⟩)⟩
      · exact .inr ⟨part, .inr later, named⟩
    · rintro (before | ⟨other, rfl | later, named⟩)
      · exact .inl (.inr before)
      · rcases mem_conditionTargets_iff.1 named with own | ⟨part, part_of, named⟩
        · exact .inl (.inl own)
        · exact .inr ⟨part, .inl part_of, named⟩
      · exact .inr ⟨other, .inr later, named⟩

/-- Adding the targets of conditions adds what the conditions name. -/
theorem mem_addConditionTargets_iff {conditions : Json} {found : IdSet} {id : String} :
    id ∈ addConditionTargets fields conditions found ↔
      id ∈ found ∨ id ∈ conditionTargets fields conditions := by
  rw [addConditionTargets, mem_walkConditions_iff]
  simp only [List.mem_reverse, mem_conditionTargets_nodes_iff]

end Conditions

mutual

/-- No kind of condition has a field for a scene, so that conditions name none. -/
theorem conditionTargets_conditionFields (value : Json) :
    conditionTargets conditionFields value = [] := by
  -- No kind of condition has a field for scenes.
  have unnamed : namedScene? conditionFields value = none := by
    simp [namedScene?, conditionFields, Table.get?]
  cases value with
  | list items =>
    rw [conditionTargets]
    exact conditionTargetsOfItems_conditionFields items
  | object members =>
    rw [conditionTargets]
    split
    · exact conditionTargetsOfMember_conditionFields members
    · rw [unnamed]
      rfl
  | _ => simp [conditionTargets]

/-- A list of conditions refers to no scene. -/
theorem conditionTargetsOfItems_conditionFields (items : List Json) :
    conditionTargetsOfItems conditionFields items = [] := by
  match items with
  | [] => rfl
  | item :: rest =>
    rw [conditionTargetsOfItems, conditionTargets_conditionFields item,
      conditionTargetsOfItems_conditionFields rest, List.append_nil]

/-- The conditions that a condition holds refer to no scene. -/
theorem conditionTargetsOfMember_conditionFields (members : List (String × Json)) :
    conditionTargetsOfMember conditionFields members = [] := by
  match members with
  | [] => rfl
  | (key, value) :: rest =>
    rw [conditionTargetsOfMember]
    split
    · exact conditionTargets_conditionFields value
    · exact conditionTargetsOfMember_conditionFields rest

end

/-- What one choice refers to: its target, and what its conditions and its effects name. -/
def ChoiceRefers (following : Following) (choice : Json) (id : String) : Prop :=
  (choice.get? "to" = some (.text id) ∧ id ≠ "") ∨
    id ∈ conditionTargets conditionFields ((choice.get? "conditions").getD .null) ∨
    id ∈ following.effectTargetsOf choice

/-- Adding the targets of a choice adds what the choice refers to, if it is an object. -/
theorem mem_addChoiceTargets_iff {following : Following} {choice : Json} {found : IdSet}
    {id : String} :
    id ∈ addChoiceTargets following choice found ↔
      id ∈ found ∨ choice.isObject = true ∧ ChoiceRefers following choice id := by
  rw [addChoiceTargets]
  -- Only an object is a choice.
  split
  · next object =>
    simp only [IdSet.mem_insertAll, mem_addConditionTargets_iff, Option.mem_toList,
      targetAt?_eq_some_iff, object, true_and, ChoiceRefers]
    grind
  · next bare => simp [bare]

/-- A scene refers to the targets of its effects and to what its choices refer to. -/
theorem mem_sceneReferences_iff {following : Following} {scene : Json} {id : String} :
    id ∈ sceneReferences following scene ↔
      id ∈ following.effectTargetsOf scene ∨
        ∃ choice, choice.isObject = true ∧ StandsUnder "choices" scene choice ∧
          ChoiceRefers following choice id := by
  have general : ∀ (choices : List Json) (found : IdSet),
      id ∈ choices.foldl (fun found choice => addChoiceTargets following choice found) found ↔
        id ∈ found ∨ ∃ choice ∈ choices, choice.isObject = true ∧
          ChoiceRefers following choice id := by
    intro choices
    induction choices with
    | nil => simp
    | cons choice rest ih =>
      intro found
      rw [List.foldl_cons, ih, mem_addChoiceTargets_iff]
      simp only [List.mem_cons, exists_eq_or_imp, or_assoc]
  -- Choices that count are objects, so the nodes among them are those that stand there.
  rw [sceneReferences, general, IdSet.mem_ofList, ← exists_standsUnder_iff fun _ held => held.1]
  simp only [and_left_comm]

/-- Following effects as well as choices finds no fewer references. -/
theorem mem_sceneReferences_everything {following : Following} {scene : Json} {id : String}
    (member : id ∈ sceneReferences following scene) : id ∈ sceneReferences .everything scene := by
  cases following with
  | everything => exact member
  | choicesOnly =>
    rw [mem_sceneReferences_iff] at member ⊢
    -- Following the choices only, no effect of the scene itself counts.
    rcases member with effect | ⟨choice, object, stands, refers⟩
    · simp at effect
    · refine .inr ⟨choice, object, stands, ?_⟩
      rcases refers with target | condition | effect
      · exact .inl target
      · exact .inr (.inl condition)
      · simp at effect

/-- An effect is a transition of a scene document: one of the scene, or one of its choices. -/
def HasTransition (scene effect : Json) : Prop :=
  IsTransition effect ∧ (StandsUnder "effects" scene effect ∨
    ∃ choice, StandsUnder "choices" scene choice ∧ StandsUnder "effects" choice effect)

/-- A scene refers to the scene that one of its transitions names. -/
theorem mem_sceneReferences_of_hasTransition {scene effect : Json} {id : String}
    (transition : HasTransition scene effect) (named : effect.get? "sceneId" = some (.text id))
    (nonempty : id ≠ "") : id ∈ sceneReferences .everything scene := by
  obtain ⟨goes, stands | ⟨choice, among, stands⟩⟩ := transition
  · exact mem_sceneReferences_iff.2
      (.inl (mem_effectTargetsOf_iff.2 ⟨effect, stands, goes, named, nonempty⟩))
  · -- A choice with effects is an object.
    obtain ⟨effects, held, -⟩ := exists_value_of_standsUnder stands
    exact mem_sceneReferences_iff.2 (.inr ⟨choice, Json.isObject_of_get? held, among,
      .inr (.inr (mem_effectTargetsOf_iff.2 ⟨effect, stands, goes, named, nonempty⟩))⟩)

/-- A scene refers to the target of each of its choices. -/
theorem mem_sceneReferences_of_choice {scene choice : Json} {id : String}
    (stands : StandsUnder "choices" scene choice) (named : choice.get? "to" = some (.text id))
    (nonempty : id ≠ "") : id ∈ sceneReferences .everything scene :=
  mem_sceneReferences_iff.2
    (.inr ⟨choice, Json.isObject_of_get? named, stands, .inl ⟨named, nonempty⟩⟩)

/-- A scene refers to the scenes that its transitions name, and to the targets of its choices. -/
theorem mem_sceneReferences_everything_iff {scene : Json} {id : String} :
    id ∈ sceneReferences .everything scene ↔
      (∃ effect, HasTransition scene effect ∧ effect.get? "sceneId" = some (.text id) ∧ id ≠ "") ∨
        ∃ choice, StandsUnder "choices" scene choice ∧ choice.get? "to" = some (.text id) ∧
          id ≠ "" := by
  constructor
  · intro refers
    rcases mem_sceneReferences_iff.1 refers with
      effects | ⟨choice, -, among, target | conditions | effects⟩
    · obtain ⟨effect, stands, goes, named⟩ := mem_effectTargetsOf_iff.1 effects
      exact .inl ⟨effect, ⟨goes, .inl stands⟩, named⟩
    · exact .inr ⟨choice, among, target⟩
    · -- No condition names a scene.
      simp [conditionTargets_conditionFields] at conditions
    · obtain ⟨effect, stands, goes, named⟩ := mem_effectTargetsOf_iff.1 effects
      exact .inl ⟨effect, ⟨goes, .inr ⟨choice, among, stands⟩⟩, named⟩
  · rintro (⟨effect, transition, named, nonempty⟩ | ⟨choice, among, named, nonempty⟩)
    · exact mem_sceneReferences_of_hasTransition transition named nonempty
    · exact mem_sceneReferences_of_choice among named nonempty

end Gamebook
