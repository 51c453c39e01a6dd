import Gamebook.Proofs.Kind
import Gamebook.Proofs.Story.Normal

/-! Conditions read back as they are written, however deep they are nested. -/

namespace Gamebook.Story.Condition

open Checked

section Reading

/-- A list of conditions is read item by item. -/
theorem readNodes_eq_readItems (place : Nat) (items : List Json) :
    readNodes place items = readItems readNode place items := by
  -- The place counts up in both readers alike.
  induction items generalizing place with
  | nil => rfl
  | cons item rest ih => rw [readNodes, readItems, ih]

/-- Held conditions are a list of conditions, or else a single condition. -/
theorem readHeld_eq_choose (holder : Option LogicalKind) (value : Json) :
    readHeld holder value = OneOrMany.choose (conditionLabel holder)
      (atLeastOne holder (readList readNode value)) (readNode value) := by
  -- The reader goes by the value's form, so trying both readings comes out the same.
  cases value with
  | list items =>
    rw [readHeld, readNodes_eq_readItems]
    rfl
  | object members =>
    rw [readHeld, readNode]
    cases holder <;> rfl
  | _ => cases holder <;> rfl

/-- The held conditions of a condition are a required field of it. -/
theorem readHeldMember_eq_required (kind : LogicalKind) (members : List (String × Json)) :
    readHeldMember kind members = heldField.required (readHeld (some kind)) members := by
  induction members with
  | nil => rfl
  | cons member rest ih =>
    obtain ⟨key, value⟩ := member
    rw [readHeldMember]
    by_cases here : key = heldField.key
    · subst here
      rfl
    · -- The field has only one name, so a member of another name does not count.
      have other : ¬ key = heldField.name := here
      have later : heldField.find? ((key, value) :: rest) = heldField.find? rest := by
        simp only [Field.find?, Table.get?, if_neg here, if_neg other]
      rw [if_neg here, ih, Field.required, Field.required, later]

/-- A list of conditions is accepted as it is, unless it is empty and held by a condition. -/
theorem atLeastOne_eq_accepted_iff {holder : Option LogicalKind} {items : Checked (List Condition)}
    {conditions : List Condition} :
    atLeastOne holder items = .accepted conditions ↔
      items = .accepted conditions ∧ (holder = none ∨ conditions ≠ []) := by
  unfold atLeastOne
  -- Only a logical condition refuses to hold nothing.
  split
  · simp [refuse]
  · next other =>
    constructor
    · rintro rfl
      refine ⟨rfl, ?_⟩
      cases holder with
      | none => exact .inl rfl
      | some kind => exact .inr fun empty => other kind rfl (empty ▸ rfl)
    · exact And.left

/-- The condition of a kind that members write. -/
def readOfKind (members : List (String × Json)) (kind : ConditionKind) : Checked Condition :=
  readMembers (fun kind => heldField.required (readHeld (some kind)) members) members kind

/-- The members of a condition are read as those of a kind. -/
theorem readMembers_eq_readOfKind (members : List (String × Json)) (kind : ConditionKind) :
    readMembers (fun kind => readHeldMember kind members) members kind =
      readOfKind members kind := by
  rw [readOfKind]
  -- The two differ in how the conditions of a logical kind are looked up.
  congr 1
  funext kind
  exact readHeldMember_eq_required kind members

/-- A condition is an object whose tag is the name of a kind, with the members of that kind. -/
theorem readNode_eq_accepted_iff {value : Json} {condition : Condition} :
    readNode value = .accepted condition ↔
      ∃ members kind, value = .object members ∧
        Table.get? tagField.key members = some (.text (ConditionKind.name kind)) ∧
          readOfKind members kind = .accepted condition := by
  constructor
  · intro ok
    cases value with
    | object members =>
      rw [readNode, readTagged] at ok
      split at ok
      · cases ok
      · next tag tagged =>
        split at ok
        · cases ok
        · next kind named =>
          -- The tag is a text that marks the kind, and the rest is read as that kind.
          obtain ⟨word, isText, marked⟩ := Option.bind_eq_some_iff.1 named
          rw [Json.text?_eq_some_iff] at isText
          rw [ConditionKind.ofName?_eq_some_iff] at marked
          subst isText marked
          rw [readMembers_eq_readOfKind] at ok
          exact ⟨members, kind, rfl, tagged, under_eq_accepted_iff.1 ok⟩
    | _ => cases ok
  · rintro ⟨members, kind, rfl, tagged, ok⟩
    have marked : (Json.text (ConditionKind.name kind)).text?.bind ConditionKind.ofName? =
        some kind := ConditionKind.ofName?_eq_some_iff.2 rfl
    rw [readNode, readTagged, tagged]
    simp only [marked, readMembers_eq_readOfKind]
    exact under_eq_accepted_iff.2 ok

end Reading

section Writing

/-- Conditions are written one by one. -/
theorem writeAll_eq_map (conditions : List Condition) :
    writeAll conditions = conditions.map write := by
  -- The writer walks the list itself, for the sake of its recursion.
  induction conditions with
  | nil => rfl
  | cons condition rest ih => rw [writeAll, ih, List.map_cons]

/-- What is written for a condition has the tag of a kind, and is read as the condition. -/
def IsWritten (kind : ConditionKind) (condition : Condition) : Prop :=
  ∃ written, write condition = .object written ∧
    Table.get? tagField.key written = some (.text kind.name) ∧
      readOfKind written kind = .accepted condition

variable {members : List (String × Json)} {condition : Condition}

/-- A condition on a value is written with its name, its operator and the other value. -/
theorem isWritten_stat (ok : readOfKind members .stat = .accepted condition) :
    IsWritten .stat condition := by
  simp only [readOfKind, readMembers, seq_eq_accepted_iff, map_eq_accepted_iff] at ok
  -- Every field was read from the original members.
  obtain ⟨_, ⟨_, ⟨_, ⟨_, -, rfl⟩, name, nameRead, rfl⟩, operator, operatorRead, rfl⟩,
    value, valueRead, rfl⟩ := ok
  -- What is written carries each of them under its own key, extras last.
  refine ⟨_, by rw [write], rfl, ?_⟩
  simp only [readOfKind, readMembers, seq_eq_accepted_iff, map_eq_accepted_iff]
  refine ⟨_, ⟨_, ⟨_, ⟨_, required_readTag rfl, rfl⟩, name, ?_, rfl⟩, operator, ?_, rfl⟩,
    value, ?_, ?_⟩
  · exact readsBack_readName.required nameRead rfl
  · exact readsBack_readOperator.required operatorRead rfl
  · exact readsBack_readReal.required valueRead rfl
  · rw [extras_append rfl]

/-- A condition on a flag is written with its name. -/
theorem isWritten_flag (ok : readOfKind members .flag = .accepted condition) :
    IsWritten .flag condition := by
  simp only [readOfKind, readMembers, seq_eq_accepted_iff, map_eq_accepted_iff] at ok
  -- The one field besides the tag was read from the original members.
  obtain ⟨_, ⟨_, -, rfl⟩, name, nameRead, rfl⟩ := ok
  refine ⟨_, by rw [write], rfl, ?_⟩
  simp only [readOfKind, readMembers, seq_eq_accepted_iff, map_eq_accepted_iff]
  refine ⟨_, ⟨_, required_readTag rfl, rfl⟩, name, ?_, ?_⟩
  · exact readsBack_readName.required nameRead rfl
  · rw [extras_append rfl]

/-- A condition on an item is written with its name and how many are needed. -/
theorem isWritten_item (ok : readOfKind members .item = .accepted condition) :
    IsWritten .item condition := by
  simp only [readOfKind, readMembers, seq_eq_accepted_iff, map_eq_accepted_iff] at ok
  -- The count may be null, so it is written back as it was read.
  obtain ⟨_, ⟨_, ⟨_, -, rfl⟩, name, nameRead, rfl⟩, count, countRead, rfl⟩ := ok
  refine ⟨_, by rw [write], rfl, ?_⟩
  simp only [readOfKind, readMembers, seq_eq_accepted_iff, map_eq_accepted_iff]
  refine ⟨_, ⟨_, ⟨_, required_readTag rfl, rfl⟩, name, ?_, rfl⟩, count, ?_, ?_⟩
  · exact readsBack_readName.required nameRead rfl
  · exact readsBack_countOrNull.optional rfl countRead rfl
  · rw [extras_append rfl]

/-- A condition on a faction is written with its name and the level that is needed. -/
theorem isWritten_faction (ok : readOfKind members .faction = .accepted condition) :
    IsWritten .faction condition := by
  simp only [readOfKind, readMembers, seq_eq_accepted_iff, map_eq_accepted_iff] at ok
  -- The level may be null, so it is written back as it was read.
  obtain ⟨_, ⟨_, ⟨_, -, rfl⟩, name, nameRead, rfl⟩, level, levelRead, rfl⟩ := ok
  refine ⟨_, by rw [write], rfl, ?_⟩
  simp only [readOfKind, readMembers, seq_eq_accepted_iff, map_eq_accepted_iff]
  refine ⟨_, ⟨_, ⟨_, required_readTag rfl, rfl⟩, name, ?_, rfl⟩, level, ?_, ?_⟩
  · exact readsBack_readName.required nameRead rfl
  · exact readsBack_realOrNull.optional rfl levelRead rfl
  · rw [extras_append rfl]

/-- A logical condition reads back if the value from which its conditions are read does. -/
theorem isWritten_logical {kind : LogicalKind}
    (back : ∀ value held, Table.get? heldField.key members = some value →
      readHeld (some kind) value = .accepted held →
        readHeld (some kind) (writeHeld held) = .accepted held)
    (ok : readOfKind members (.logical kind) = .accepted condition) :
    IsWritten (.logical kind) condition := by
  simp only [readOfKind, readMembers, seq_eq_accepted_iff, map_eq_accepted_iff] at ok
  obtain ⟨_, ⟨_, -, rfl⟩, held, heldRead, rfl⟩ := ok
  obtain ⟨key, value, found, accepted⟩ := exists_value_of_required heldRead
  -- Whichever of the two names of the field is meant, it is the same name.
  have member : Table.get? heldField.key members = some value :=
    (exists_key_iff_find?.1 ⟨key, found⟩).elim id And.right
  refine ⟨_, by rw [write], rfl, ?_⟩
  simp only [readOfKind, readMembers, seq_eq_accepted_iff, map_eq_accepted_iff]
  refine ⟨_, ⟨_, required_readTag rfl, rfl⟩, held, ?_, ?_⟩
  · exact Field.required_of_get? rfl (back value held member accepted)
  · rw [extras_append rfl]

/-- A condition of any kind reads back if the value from which held conditions are read does. -/
theorem isWritten_of_readOfKind {kind : ConditionKind}
    (back : ∀ kind value held, Table.get? heldField.key members = some value →
      readHeld (some kind) value = .accepted held →
        readHeld (some kind) (writeHeld held) = .accepted held)
    (ok : readOfKind members kind = .accepted condition) : IsWritten kind condition := by
  -- A leaf is read field by field; a logical condition needs the hypothesis on what it holds.
  cases kind with
  | stat => exact isWritten_stat ok
  | flag => exact isWritten_flag ok
  | item => exact isWritten_item ok
  | faction => exact isWritten_faction ok
  | logical kind => exact isWritten_logical (back kind) ok

/-- Held conditions read back if each of the nodes does from which they are read. -/
theorem readHeld_writeHeld {holder : Option LogicalKind} {value : Json} {held : OneOrMany Condition}
    (back : ∀ node, node.size ≤ value.size → ∀ condition, readNode node = .accepted condition →
      readNode (write condition) = .accepted condition)
    (ok : readHeld holder value = .accepted held) :
    readHeld holder (writeHeld held) = .accepted held := by
  rw [readHeld_eq_choose, choose_eq_accepted_iff] at ok ⊢
  rcases ok with ⟨conditions, many, rfl⟩ | ⟨issues, condition, -, single, rfl⟩
  · obtain ⟨list, nonempty⟩ := atLeastOne_eq_accepted_iff.1 many
    obtain ⟨items, rfl, -⟩ := exists_items_of_readList list
    have again : readItems readNode 0 (conditions.map write) = .accepted conditions :=
      readItems_map_of_readItems
        (fun item listed => back item (Nat.le_of_lt (Json.size_lt_of_mem listed))) list
    rw [writeHeld, writeAll_eq_map]
    exact .inl ⟨conditions, atLeastOne_eq_accepted_iff.2 ⟨again, nonempty⟩, rfl⟩
  · have again := back value (Nat.le_refl _) condition single
    rw [writeHeld]
    -- What is written for a condition is an object, and therefore no list.
    obtain ⟨written, kind, same, -⟩ := readNode_eq_accepted_iff.1 again
    have refused : atLeastOne holder (readList readNode (write condition)) = refuse .notList := by
      rw [same]
      cases holder <;> rfl
    exact .inr ⟨_, condition, refused, again, rfl⟩

/-- A condition reads back as it is written, whatever it holds. -/
theorem readNode_write {value : Json} {condition : Condition}
    (ok : readNode value = .accepted condition) :
    readNode (write condition) = .accepted condition := by
  obtain ⟨members, kind, rfl, -, read⟩ := readNode_eq_accepted_iff.1 ok
  -- By recursion on the size of the value: held conditions stand in one of its members.
  have held : ∀ kind inner held, Table.get? heldField.key members = some inner →
      readHeld (some kind) inner = .accepted held →
        readHeld (some kind) (writeHeld held) = .accepted held := by
    intro kind inner held found accepted
    have small := Json.size_lt_of_mem_members (Table.mem_of_get? found)
    refine readHeld_writeHeld (fun node smaller condition nodeRead => ?_) accepted
    exact readNode_write nodeRead
  obtain ⟨written, same, tagged, again⟩ := isWritten_of_readOfKind held read
  rw [same]
  exact readNode_eq_accepted_iff.2 ⟨written, kind, rfl, tagged, again⟩
termination_by value.size
decreasing_by
  subst_vars
  exact Nat.lt_of_le_of_lt smaller small

/-- Held conditions read back, be it one or a list. -/
theorem readsBack_readHeld (holder : Option LogicalKind) :
    ReadsBack (readHeld holder) writeHeld :=
  fun _ _ ok => readHeld_writeHeld (fun _ _ _ read => readNode_write read) ok

/-- A condition of a given kind reads back. -/
theorem readsBack_readKind (kind : ConditionKind) : ReadsBack (readKind kind) write := by
  intro value condition ok
  obtain ⟨members, rfl, read⟩ := exists_members_of_readShape ok
  rw [readMembers_eq_readOfKind] at read
  -- The parts of a logical condition read back as conditions of any kind do.
  obtain ⟨written, same, -, again⟩ :=
    isWritten_of_readOfKind (fun kind value held _ ok => readsBack_readHeld _ value held ok) read
  rw [same, readKind, readShape, readMembers_eq_readOfKind]
  exact again

end Writing

end Gamebook.Story.Condition
