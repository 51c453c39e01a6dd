import Gamebook.Proofs.SceneIndex

/-! The index of a manifest, told by its declarations alone: which of them an identifier stands for,
at which place, and which of them name another identifier than their key. -/

namespace Gamebook.SceneIndex

/-- The identifier of a declaration: its own, or else the key it stands under. -/
inductive Identifies : String × Json → String → Prop where
  | own {key id : String} {entry : Json} (written : entry.get? "id" = some (.text id))
      (nonempty : id ≠ "") : Identifies (key, entry) id
  | byKey {key : String} {entry : Json}
      (missing : ∀ id, entry.get? "id" = some (.text id) → id = "") : Identifies (key, entry) key

/-- An entry is that of the last declaration with an identifier. -/
def IsLast (declared : List (String × Json)) (id : String) (entry : Json) : Prop :=
  ∃ earlier key later, declared = earlier ++ (key, entry) :: later ∧ Identifies (key, entry) id ∧
    ∀ other ∈ later, ¬ Identifies other id

/-- The keys of the declarations that name another identifier, each with that identifier, in
order. -/
inductive Mismatched : List (String × Json) → List (String × String) → Prop where
  | nil : Mismatched [] []
  | foreign {key id : String} {entry : Json} {declared : List (String × Json)}
      {pairs : List (String × String)} (written : entry.get? "id" = some (.text id))
      (nonempty : id ≠ "") (other : id ≠ key) (rest : Mismatched declared pairs) :
      Mismatched ((key, entry) :: declared) ((key, id) :: pairs)
  | fitting {key : String} {entry : Json} {declared : List (String × Json)}
      {pairs : List (String × String)}
      (fits : ∀ id, entry.get? "id" = some (.text id) → id = "" ∨ id = key)
      (rest : Mismatched declared pairs) : Mismatched ((key, entry) :: declared) pairs

/-- An index tells the declarations of a manifest, and the scenes that it makes reachable. -/
structure Indexes (manifest : Json) (index : SceneIndex) : Prop where
  -- Identifiers stand in the order in which they are first declared.
  keys : ∃ ids, List.Forall₂ Identifies (declarations manifest) ids ∧
    Table.keys index.entries = ids.eraseDups
  entry (id : String) (entry : Json) :
    Table.get? id index.entries = some entry ↔ IsLast (declarations manifest) id entry
  exempt (id : String) :
    index.isExempt id = true ↔ ∃ entry, IsLast (declarations manifest) id entry ∧ Exempts entry
  mismatches : Mismatched (declarations manifest) index.keyMismatches
  seeded (id : String) : id ∈ index.seeded ↔ Seeds manifest id

/-- A declaration that names another identifier than its key names it itself. -/
theorem effectiveId_eq_iff_of_ne {key id : String} {entry : Json} (other : id ≠ key) :
    effectiveId key entry = id ↔ entry.get? "id" = some (.text id) ∧ id ≠ "" := by
  rw [effectiveId, ← Json.bind_nonemptyText?_eq_some_iff]
  -- Without an identifier of its own the entry has its key.
  cases (entry.get? "id").bind Json.nonemptyText? with
  | none => simp [Ne.symm other]
  | some own => simp

/-- A declaration stands under its key exactly when it names no other identifier. -/
theorem effectiveId_eq_key_iff {key : String} {entry : Json} :
    effectiveId key entry = key ↔
      ∀ id, entry.get? "id" = some (.text id) → id = "" ∨ id = key := by
  constructor
  · intro stands id written
    by_contra! foreign
    rw [(effectiveId_eq_iff_of_ne foreign.2).2 ⟨written, foreign.1⟩] at stands
    exact foreign.2 stands
  · -- An identifier that is not the key can only be the entry's own.
    intro fits
    by_contra other
    obtain ⟨written, nonempty⟩ := (effectiveId_eq_iff_of_ne other).1 rfl
    exact (fits _ written).elim nonempty other

/-- The identifier that the index takes for a declaration is the identifier of it. -/
theorem effectiveId_eq_iff {key id : String} {entry : Json} :
    effectiveId key entry = id ↔ Identifies (key, entry) id := by
  constructor
  · rintro rfl
    rw [effectiveId]
    -- The identifier is that of the entry if it has a text that is not empty, and else the key.
    cases own : (entry.get? "id").bind Json.nonemptyText? with
    | none =>
      refine .byKey fun id written => ?_
      by_contra nonempty
      rw [Json.bind_nonemptyText?_eq_some_iff.2 ⟨written, nonempty⟩] at own
      cases own
    | some id =>
      obtain ⟨written, nonempty⟩ := Json.bind_nonemptyText?_eq_some_iff.1 own
      exact .own written nonempty
  · intro identifies
    cases identifies with
    | own written nonempty =>
      rw [effectiveId, Json.bind_nonemptyText?_eq_some_iff.2 ⟨written, nonempty⟩]
      rfl
    | byKey missing => exact effectiveId_eq_key_iff.2 fun id written => .inl (missing id written)

/-- The pairs that the index keeps of some declarations are those of the mismatched ones. -/
theorem mismatched_filter (declared : List (String × Json)) :
    Mismatched declared ((declared.map fun (key, entry) => (key, effectiveId key entry)).filter
      fun (key, id) => id ≠ key) := by
  -- By induction on the declarations: the filter keeps the first pair exactly if it is foreign.
  induction declared with
  | nil => exact .nil
  | cons declaration declared rest =>
    obtain ⟨key, entry⟩ := declaration
    rw [List.map_cons, List.filter_cons]
    by_cases fits : effectiveId key entry = key
    · rw [if_neg (by simpa using fits)]
      exact .fitting (effectiveId_eq_key_iff.1 fits) rest
    · obtain ⟨written, nonempty⟩ := (effectiveId_eq_iff_of_ne fits).1 rfl
      rw [if_pos (by simpa using fits)]
      exact .foreign written nonempty fits rest

/-- The key of a declaration with another identifier is a mismatch. -/
theorem Mismatched.mem {declared : List (String × Json)} {pairs : List (String × String)}
    {key id : String} {entry : Json} (mismatched : Mismatched declared pairs)
    (member : (key, entry) ∈ declared) (identifies : Identifies (key, entry) id)
    (other : id ≠ key) : (key, id) ∈ pairs := by
  obtain ⟨written, nonempty⟩ := (effectiveId_eq_iff_of_ne other).1 (effectiveId_eq_iff.2 identifies)
  -- An entry that does not fit its key is not among those that do.
  induction mismatched with
  | nil => cases member
  | foreign first _ _ _ ih =>
    rcases List.mem_cons.1 member with same | later
    · cases same
      cases written.symm.trans first
      exact List.mem_cons_self
    · exact List.mem_cons_of_mem _ (ih later)
  | fitting fits _ ih =>
    rcases List.mem_cons.1 member with same | later
    · cases same
      exact ((fits id written).elim nonempty other).elim
    · exact ih later

section

variable {manifest : Json}

/-- The index keeps the last declaration of each identifier. -/
theorem get?_entries_ofManifest_iff {id : String} {entry : Json} :
    Table.get? id (ofManifest manifest).entries = some entry ↔
      IsLast (declarations manifest) id entry := by
  rw [ofManifest, Table.get?_ofEntries_eq_some_iff, IsLast]
  -- A split of the declarations with their identifiers is one of the declarations.
  constructor
  · rintro ⟨earlier, later, parted, last⟩
    obtain ⟨before, rest, whole, -, tail⟩ := List.map_eq_append_iff.1 parted
    obtain ⟨⟨key, declared⟩, after, rfl, same, rfl⟩ := List.map_eq_cons_iff.1 tail
    cases same
    refine ⟨before, key, after, whole, effectiveId_eq_iff.1 rfl, fun other member named => ?_⟩
    rw [← effectiveId_eq_iff] at named
    apply last
    rw [Table.keys, List.map_map]
    exact List.mem_map.2 ⟨other, member, named⟩
  · rintro ⟨earlier, key, later, whole, identifies, last⟩
    rw [whole, List.map_append, List.map_cons, ← effectiveId_eq_iff.2 identifies]
    refine ⟨_, _, rfl, fun member => ?_⟩
    rw [Table.keys, List.map_map] at member
    obtain ⟨other, member, named⟩ := List.mem_map.1 member
    exact last other member (effectiveId_eq_iff.1 (named.trans (effectiveId_eq_iff.2 identifies)))

/-- The identifiers of the index are those of the declarations, in the order in which they first
come. -/
theorem keys_ofManifest (manifest : Json) :
    Table.keys (ofManifest manifest).entries =
      ((declarations manifest).map fun (key, entry) => effectiveId key entry).eraseDups := by
  -- Keys stay where they first came up.
  rw [ofManifest, Table.keys_ofEntries, Table.keys, List.map_map]
  rfl

/-- The pairs of an index are those of the declarations that are mismatched. -/
theorem mismatched_ofManifest (manifest : Json) :
    Mismatched (declarations manifest) (ofManifest manifest).keyMismatches :=
  mismatched_filter _

/-- Where no key is mismatched, every declaration stands under its identifier. -/
theorem effectiveId_eq_key (fitting : (ofManifest manifest).keyMismatches = [])
    {declaration : String × Json} (member : declaration ∈ declarations manifest) :
    effectiveId declaration.1 declaration.2 = declaration.1 := by
  by_contra other
  -- An entry with another identifier would have left a mismatch.
  have kept := (mismatched_ofManifest manifest).mem member (effectiveId_eq_iff.1 rfl) other
  rw [fitting] at kept
  cases kept

end

/-- Of every value taken as a manifest the index tells the declarations. -/
theorem indexes_ofManifest (manifest : Json) : Indexes manifest (ofManifest manifest) where
  keys := by
    refine ⟨_, ?_, keys_ofManifest manifest⟩
    rw [List.forall₂_map_right_iff, List.forall₂_same]
    -- Each declaration identifies what its effective identifier is.
    exact fun declaration _ => effectiveId_eq_iff.1 rfl
  entry id entry := get?_entries_ofManifest_iff
  exempt id := by
    rw [isExempt_iff]
    simp only [get?_entries_ofManifest_iff]
  mismatches := mismatched_ofManifest manifest
  seeded id := mem_seeded_iff

end Gamebook.SceneIndex
