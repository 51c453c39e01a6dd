import Gamebook.Document
import Gamebook.Proofs.Json
import Gamebook.Proofs.Result
import Gamebook.Proofs.Table

/-! No object of a document that is read has two members under one key.

The reader itself keeps every member as it comes, and an object is made only once its closing brace
is there: then the last member of a key stands in the place of the first. -/

namespace Gamebook

namespace Json

/-- No object inside a value has two members under one key. -/
inductive HasDistinctKeys : Json → Prop where
  | null : HasDistinctKeys null
  | bool (value : Bool) : HasDistinctKeys (bool value)
  | int (value : Int) : HasDistinctKeys (int value)
  | real (value : Binary64) : HasDistinctKeys (real value)
  | text (value : String) : HasDistinctKeys (text value)
  | list {items : List Json} (each : ∀ item ∈ items, HasDistinctKeys item) :
      HasDistinctKeys (list items)
  | object {members : List (String × Json)} (distinct : (Table.keys members).Nodup)
      (each : ∀ member ∈ members, HasDistinctKeys member.2) : HasDistinctKeys (object members)

/-- The members of a value without repeated keys are no repetition either. -/
theorem HasDistinctKeys.get? {key : String} {value member : Json} (distinct : value.HasDistinctKeys)
    (found : value.get? key = some member) : member.HasDistinctKeys := by
  obtain ⟨members, rfl, listed⟩ := exists_members_of_get? found
  -- Every member of such an object is such a value.
  cases distinct with
  | object _ each => exact each _ (Table.mem_of_get? listed)

/-- The keys of a value without repeated keys are all different. -/
theorem HasDistinctKeys.nodup_keys {value : Json} (distinct : value.HasDistinctKeys) :
    (Table.keys value.members).Nodup := by
  -- A value that is no object has no keys.
  cases distinct with
  | object distinct _ => exact distinct
  | _ => exact List.nodup_nil

/-- The table of members without repeated keys inside is an object without repeated keys. -/
theorem hasDistinctKeys_ofEntries {members : List (String × Json)}
    (each : ∀ member ∈ members, HasDistinctKeys member.2) :
    HasDistinctKeys (.object (Table.ofEntries members)) :=
  -- A table keeps one entry for each key, and each of them is a member.
  .object (Table.nodup_keys_ofEntries members) fun member listed =>
    each member (Table.mem_of_mem_ofEntries listed)

namespace Reader

variable {fuel : Nat} {input rest : List Char} {found : Json}

/-- A word with a value of its own writes neither a list nor an object. -/
theorem hasDistinctKeys_of_word? (read : word? input = some (found, rest)) :
    found.HasDistinctKeys := by
  obtain ⟨⟨word, value⟩, listed, read⟩ := List.exists_of_findSome?_eq_some read
  obtain ⟨_, _, same⟩ := Option.map_eq_some_iff.1 read
  cases same
  simp only [words, List.mem_cons, Prod.mk.injEq, List.not_mem_nil, or_false] at listed
  -- The words are three for truth values and null, and three for reals.
  obtain ⟨_, rfl⟩ | ⟨_, rfl⟩ | ⟨_, rfl⟩ | ⟨_, rfl⟩ | ⟨_, rfl⟩ | ⟨_, rfl⟩ := listed
  · exact .null
  · exact .bool _
  · exact .bool _
  · exact .real _
  · exact .real _
  · exact .real _

/-- A number is neither a list nor an object. -/
theorem hasDistinctKeys_of_number (read : number input = .ok (found, rest)) :
    found.HasDistinctKeys := by
  unfold number at read
  dsimp only at read
  -- A number with a fraction or an exponent is a real, and any other one an integer.
  split at read
  · cases read
  · split at read
    · cases read
      exact .real _
    · split at read
      · cases read
        exact .real _
      · split at read
        · cases read
        · cases read
          exact .int _

/-- What is read with some number of steps left has no repeated keys, if what was read of it before
has none. -/
structure ReadsDistinct (fuel : Nat) : Prop where
  value {input rest : List Char} {found : Json}
    (read : Reader.value fuel input = .ok (found, rest)) : found.HasDistinctKeys
  items {acc : List Json} {input rest : List Char} {found : Json}
    (before : ∀ item ∈ acc, HasDistinctKeys item)
    (read : Reader.items acc fuel input = .ok (found, rest)) : found.HasDistinctKeys
  entries {acc : List (String × Json)} {input rest : List Char} {found : Json}
    (before : ∀ member ∈ acc, HasDistinctKeys member.2)
    (read : Reader.entries acc fuel input = .ok (found, rest)) : found.HasDistinctKeys

/-- A value is a text, a list, an object, a word or a number. -/
theorem ReadsDistinct.value_succ (fewer : ReadsDistinct fuel)
    (read : Reader.value (fuel + 1) input = .ok (found, rest)) : found.HasDistinctKeys := by
  rw [Reader.value.eq_def] at read
  dsimp only at read
  -- The first character decides, and a list or an object goes on with nothing read of it yet.
  split at read
  · obtain ⟨_, _, read⟩ := bind_eq_ok_iff.1 read
    cases read
    exact .text _
  · split at read
    · cases read
      exact .list (List.forall_mem_nil _)
    · exact fewer.items (List.forall_mem_nil _) read
  · split at read
    · cases read
      exact .object List.nodup_nil (List.forall_mem_nil _)
    · exact fewer.entries (List.forall_mem_nil _) read
  · split at read
    · next word =>
      cases read
      exact hasDistinctKeys_of_word? word
    · exact hasDistinctKeys_of_number read

/-- A list ends with an item, or goes on after one. -/
theorem ReadsDistinct.items_succ (fewer : ReadsDistinct fuel) {acc : List Json}
    (before : ∀ item ∈ acc, HasDistinctKeys item)
    (read : Reader.items acc (fuel + 1) input = .ok (found, rest)) : found.HasDistinctKeys := by
  rw [Reader.items] at read
  obtain ⟨⟨item, after⟩, first, read⟩ := bind_eq_ok_iff.1 read
  -- Each item was read in fewer steps, and the list is closed or goes on.
  have all := List.forall_mem_cons.2 ⟨fewer.value first, before⟩
  dsimp only at read
  split at read
  · cases read
    exact .list fun item member => all item (List.mem_reverse.1 member)
  · exact fewer.items all read
  · cases read

/-- An object ends with a member, or goes on after one. -/
theorem ReadsDistinct.entries_succ (fewer : ReadsDistinct fuel) {acc : List (String × Json)}
    (before : ∀ member ∈ acc, HasDistinctKeys member.2)
    (read : Reader.entries acc (fuel + 1) input = .ok (found, rest)) : found.HasDistinctKeys := by
  rw [Reader.entries.eq_def] at read
  dsimp only at read
  split at read
  · obtain ⟨⟨key, after⟩, _, read⟩ := bind_eq_ok_iff.1 read
    dsimp only at read
    split at read
    · obtain ⟨⟨item, behind⟩, first, read⟩ := bind_eq_ok_iff.1 read
      have all : ∀ member ∈ (key, item) :: acc, HasDistinctKeys member.2 :=
        List.forall_mem_cons.2 ⟨fewer.value first, before⟩
      dsimp only at read
      split at read
      · -- The members become a table here, whatever keys they repeat.
        cases read
        exact hasDistinctKeys_ofEntries fun member listed => all member (List.mem_reverse.1 listed)
      · exact fewer.entries all read
      · cases read
    · cases read
  · cases read

/-- However many steps are left, what is read has no repeated keys. -/
theorem readsDistinct (fuel : Nat) : ReadsDistinct fuel := by
  -- One induction carries the three readers, because they call each other.
  induction fuel with
  | zero =>
    -- Without a step left nothing is read.
    constructor
    case value => intro _ _ _ read; cases read
    case items => intro _ _ _ _ _ read; cases read
    case entries => intro _ _ _ _ _ read; cases read
  | succ fuel fewer => exact ⟨fewer.value_succ, fewer.items_succ, fewer.entries_succ⟩

end Reader

/-- The value of a text has no repeated keys. -/
theorem hasDistinctKeys_of_parse {input : List Char} {value : Json}
    (read : parse input = .ok value) : value.HasDistinctKeys := by
  rw [parse, mapError_eq_ok_iff, Reader.document.eq_def] at read
  dsimp only at read
  split at read
  · cases read
  · obtain ⟨⟨found, rest⟩, first, read⟩ := bind_eq_ok_iff.1 read
    dsimp only at read
    -- Nothing may follow the value that is read.
    split at read
    · cases read
      exact (Reader.readsDistinct _).value first
    · cases read

end Json

/-- The document that bytes write has no repeated keys. -/
theorem Document.hasDistinctKeys_of_ofBytes {bytes : List UInt8} {document : Json}
    (read : ofBytes bytes = .ok document) : document.HasDistinctKeys := by
  rw [ofBytes] at read
  split at read
  · cases read
  -- The bytes must be a text before that is parsed.
  · split at read
    · next parsed =>
      cases read
      exact Json.hasDistinctKeys_of_parse parsed
    · cases read
    · cases read

end Gamebook
