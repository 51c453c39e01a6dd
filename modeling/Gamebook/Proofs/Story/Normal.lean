import Gamebook.Proofs.Json
import Gamebook.Proofs.Story.Checked
import Gamebook.Proofs.Table
import Gamebook.Story.Manifest

/-! What is read from a document and written out again reads back as the same: single values, lists,
tables, and the fields of shapes. -/

namespace Gamebook.Story

open Checked

variable {α : Type} {read : Json → Checked α} {write : α → Json}

/-- What a reader accepts reads back as the same once it is written. -/
def ReadsBack (read : Json → Checked α) (write : α → Json) : Prop :=
  ∀ value found, read value = .accepted found → read (write found) = .accepted found

section Values

/-- A text is written as it is read. -/
theorem readsBack_readText : ReadsBack readText .text := fun _ _ _ => rfl

/-- A name is written as it is read, and is not empty. -/
theorem readsBack_readName : ReadsBack readName .text := by
  intro value name ok
  -- A name is written as it is read.
  obtain ⟨-, nonempty⟩ := readName_eq_accepted_iff.1 ok
  exact readName_eq_accepted_iff.2 ⟨rfl, nonempty⟩

/-- An operator is written by its mark. -/
theorem readsBack_readOperator : ReadsBack readOperator fun operator => .text operator.name := by
  intro _ operator _
  cases operator <;> rfl

/-- A real number is written as a real number, whatever it was read from. -/
theorem readsBack_readReal : ReadsBack readReal .real := fun _ _ _ => rfl

/-- A count is at least one, and therefore a count again. -/
theorem readsBack_readCount : ReadsBack readCount fun count => .int (count : Nat) := by
  intro value count ok
  simp only [readCount] at ok
  split at ok
  · next number _ =>
    split at ok
    · cases ok
    -- An accepted count is positive, so turning it into a natural number loses nothing.
    · next large =>
      cases ok
      have whole : (number.toNat : Int) = number := Int.toNat_of_nonneg (by omega)
      simp only [readCount, readInteger, whole, if_neg large]
  · cases ok

/-- A truth value is written as a truth value, whatever it was read from. -/
theorem readsBack_readBool : ReadsBack readBool .bool := fun _ _ _ => rfl

/-- The identifier of an ending is written as the number or the text that it is. -/
theorem EndingId.readsBack_read : ReadsBack EndingId.read EndingId.write := by
  intro _ id _
  cases id <;> rfl

/-- A passage is written as the text or the object that it is. -/
theorem Passage.readsBack_read : ReadsBack Passage.read Passage.write := by
  intro _ passage _
  cases passage <;> rfl

end Values

section Collections

/-- A value that may be null reads back if no other value is written as null. -/
theorem ReadsBack.orNull (back : ReadsBack read write) (solid : ∀ found, write found ≠ .null) :
    ReadsBack (Story.orNull read) (writtenOrNull write) := by
  intro value found ok
  -- What is not null is not written as null either, so it is read in the same way again.
  rcases orNull_eq_accepted_iff.1 ok with ⟨-, rfl⟩ | ⟨-, inner, accepted, rfl⟩
  · rfl
  · exact orNull_eq_accepted_iff.2 (.inr ⟨solid inner, inner, back _ _ accepted, rfl⟩)

/-- A text that may be null reads back. -/
theorem readsBack_textOrNull : ReadsBack (orNull readText) (writtenOrNull .text) :=
  readsBack_readText.orNull fun _ => by simp

/-- A name that may be null reads back. -/
theorem readsBack_nameOrNull : ReadsBack (orNull readName) (writtenOrNull .text) :=
  readsBack_readName.orNull fun _ => by simp

/-- A real number that may be null reads back. -/
theorem readsBack_realOrNull : ReadsBack (orNull readReal) (writtenOrNull .real) :=
  readsBack_readReal.orNull fun _ => by simp

/-- A count that may be null reads back. -/
theorem readsBack_countOrNull :
    ReadsBack (orNull readCount) (writtenOrNull fun count => .int (count : Nat)) :=
  readsBack_readCount.orNull fun _ => by simp

/-- Values that read back one by one read back as the items of a list. -/
theorem readItems_map {values : List α} (place : Nat)
    (each : ∀ found ∈ values, read (write found) = .accepted found) :
    readItems read place (values.map write) = .accepted values := by
  -- The place only labels errors, and none arise here.
  induction values generalizing place with
  | nil => rfl
  | cons found rest ih =>
    obtain ⟨first, later⟩ := List.forall_mem_cons.1 each
    rw [List.map_cons, readItems, first, ih (place + 1) later]
    rfl

/-- What is accepted as the items of a list reads back if it does so one by one. -/
theorem readItems_map_of_readItems {place again : Nat} {items : List Json} {values : List α}
    (back : ∀ item ∈ items, ∀ found, read item = .accepted found →
      read (write found) = .accepted found)
    (ok : readItems read place items = .accepted values) :
    readItems read again (values.map write) = .accepted values := by
  apply readItems_map
  -- Each value was read from the item at its place, whatever the places are counted from.
  have matched := forall₂_of_readItems ok
  clear ok
  induction matched with
  | nil => simp
  | cons head _ ih =>
    obtain ⟨first, later⟩ := List.forall_mem_cons.1 back
    exact List.forall_mem_cons.2 ⟨first _ head, ih later⟩

/-- A list reads back if its items do. -/
theorem ReadsBack.list (back : ReadsBack read write) :
    ReadsBack (readList read) fun values => .list (values.map write) := by
  intro value values ok
  -- Only a list is accepted, and its items read back one by one.
  cases value with
  | list items => exact readItems_map_of_readItems (fun item _ => back item) ok
  | _ => cases ok

/-- A table reads back if its values do. -/
theorem ReadsBack.table (back : ReadsBack read write) :
    ReadsBack (readTable read) fun table =>
      .object (table.map fun (key, found) => (key, write found)) := by
  intro value table ok
  cases value with
  | object members =>
    -- The keys are written as they are, so the members read back one by one.
    simp only [readTable] at ok ⊢
    induction members generalizing table with
    | nil =>
      cases ok
      rfl
    | cons member rest ih =>
      rw [readMembers, both_eq_accepted_iff] at ok
      obtain ⟨first, head, later, tail, rfl⟩ := ok
      obtain ⟨found, accepted, rfl⟩ := map_eq_accepted_iff.1 head
      have again := back _ _ (under_eq_accepted_iff.1 accepted)
      rw [List.map_cons, readMembers, again, ih later tail]
      rfl
  | _ => cases ok

/-- A choice accepts a list as many values, and what is no list as one value. -/
theorem choose_eq_accepted_iff {label : String} {list : Checked (List α)} {single : Checked α}
    {result : OneOrMany α} :
    OneOrMany.choose label list single = .accepted result ↔
      (∃ values, list = .accepted values ∧ .many values = result) ∨
        ∃ issues value, list = .refused issues ∧ single = .accepted value ∧
          .one value = result := by
  cases list <;> cases single <;> simp [OneOrMany.choose]

end Collections

section Fields

variable {field : Field} {fields : List Field} {members again : List (String × Json)} {found : α}

/-- A value under the key of a field is the value of the field. -/
theorem Field.find?_of_get? {value : Json} (written : Table.get? field.key members = some value) :
    field.find? members = some (field.key, value) := by
  rw [find?, written]

/-- A required field is accepted where an accepted value is written under its key. -/
theorem Field.required_of_get? {value : Json} (written : Table.get? field.key members = some value)
    (ok : read value = .accepted found) : field.required read members = .accepted found := by
  rw [required, find?_of_get? written]
  exact under_eq_accepted_iff.2 ok

/-- A required field reads back where what was read from it is written under its key. -/
theorem ReadsBack.required (back : ReadsBack read write)
    (ok : field.required read members = .accepted found)
    (written : Table.get? field.key again = some (write found)) :
    field.required read again = .accepted found := by
  -- What was found under the field reads back from where it is written.
  obtain ⟨_, value, -, accepted⟩ := exists_value_of_required ok
  exact Field.required_of_get? written (back value found accepted)

/-- A field with a default reads back where what was read from it is written under its key, if the
default reads back as well. -/
theorem ReadsBack.optional (back : ReadsBack read write) {default : α}
    (settled : read (write default) = .accepted default)
    (ok : field.optional default read members = .accepted found)
    (written : Table.get? field.key again = some (write found)) :
    field.optional default read again = .accepted found := by
  rw [Field.optional, Field.find?_of_get? written]
  refine under_eq_accepted_iff.2 ?_
  -- The value is the default, or was read from a member.
  unfold Field.optional at ok
  split at ok
  · cases ok
    exact settled
  · exact back _ _ (under_eq_accepted_iff.1 ok)

/-- The tag of a shape is read where it is written. -/
theorem required_readTag {word : String}
    (written : Table.get? tagField.key again = some (.text word)) :
    tagField.required (readTag word) again = .accepted () :=
  Field.required_of_get? written (if_pos rfl)

/-- No member that belongs to none of the fields stands under the key of one. -/
theorem not_mem_keys_of_mem_extras {member : String × Json}
    (extra : member ∈ extras fields members) :
    member.1 ∉ fields.map Field.key := by
  simp only [extras, List.mem_filter, Bool.not_eq_true', Bool.eq_false_iff, ne_eq,
    List.contains_iff_mem, List.mem_filterMap, Option.map_eq_some_iff] at extra
  obtain ⟨listed, free⟩ := extra
  intro key
  obtain ⟨field, declared, same⟩ := List.mem_map.1 key
  -- The field finds something under its key before it looks for its second name.
  have present : Table.get? field.key members ≠ none := by
    rw [ne_eq, Table.get?_eq_none_iff, same, not_not]
    exact List.mem_map_of_mem listed
  obtain ⟨value, written⟩ := Option.ne_none_iff_exists'.1 present
  exact free ⟨field, declared, _, Field.find?_of_get? written, same⟩

/-- Where each field of a shape is written under its key, the other members are the same as
before. -/
theorem extras_append {declared : List (String × Json)}
    (keys : Table.keys declared = fields.map Field.key) :
    extras fields (declared ++ extras fields members) = extras fields members := by
  -- All fields are found under their keys, and nothing else stands under these.
  have taken : (fields.filterMap fun field =>
      (field.find? (declared ++ extras fields members)).map (·.1)) = fields.map Field.key := by
    rw [← List.filterMap_eq_map]
    refine List.filterMap_congr fun field listed => ?_
    have key : field.key ∈ Table.keys declared := keys ▸ List.mem_map_of_mem listed
    obtain ⟨value, written⟩ := Table.mem_keys_iff.1 key
    have first : Table.get? field.key (declared ++ extras fields members) = some value := by
      rw [Table.get?_append, written]
      rfl
    rw [Field.find?_of_get? first]
    rfl
  rw [extras, taken, List.filter_append]
  have gone : declared.filter (fun member => !(fields.map Field.key).contains member.1) = [] := by
    rw [List.filter_eq_nil_iff, ← keys]
    intro member listed
    have key : member.1 ∈ Table.keys declared := List.mem_map_of_mem listed
    simpa using key
  have kept : (extras fields members).filter
      (fun member => !(fields.map Field.key).contains member.1) = extras fields members := by
    rw [List.filter_eq_self]
    intro member listed
    simpa using not_mem_keys_of_mem_extras listed
  rw [gone, kept, List.nil_append]

end Fields

end Gamebook.Story
