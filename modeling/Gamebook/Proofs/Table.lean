import Mathlib.Data.List.Forall2
import Mathlib.Data.List.Induction
import Mathlib.Data.List.Nodup
import Mathlib.Data.List.Perm.Basic
import Gamebook.Proofs.Result
import Gamebook.Table

/-! Laws of ordered tables: what storing changes, and which keys a table has. -/

namespace Gamebook.Table

variable {α : Type}

/-- A pair that a lookup finds belongs to the table. -/
theorem mem_of_get? {key : String} {value : α} {table : List (String × α)}
    (found : get? key table = some value) : (key, value) ∈ table := by
  -- The lookup stops at the first entry with the key, which is an entry of the table.
  induction table with
  | nil => simp [get?] at found
  | cons entry rest ih =>
    obtain ⟨other, stored⟩ := entry
    rw [get?] at found
    split at found
    · next same =>
      cases found
      subst same
      exact List.mem_cons_self
    · exact List.mem_cons_of_mem _ (ih found)

/-- A key without a value is none of the keys. -/
theorem get?_eq_none_iff {key : String} {table : List (String × α)} :
    get? key table = none ↔ key ∉ keys table := by
  -- The lookup fails only after passing every entry.
  induction table with
  | nil => simp [get?, keys]
  | cons entry rest ih =>
    obtain ⟨other, stored⟩ := entry
    rw [get?]
    by_cases same : other = key
    · simp [same, keys]
    · rw [if_neg same, ih]
      simp [keys, Ne.symm same]

/-- The keys are those that have a value. -/
theorem mem_keys_iff {key : String} {table : List (String × α)} :
    key ∈ keys table ↔ ∃ value, get? key table = some value := by
  rw [← Option.isSome_iff_exists, Option.isSome_iff_ne_none, ne_eq, get?_eq_none_iff,
    Decidable.not_not]

/-- The test for a key agrees with the list of keys. -/
@[simp] theorem has_iff {key : String} {table : List (String × α)} :
    has key table = true ↔ key ∈ keys table := by
  rw [has, Option.isSome_iff_exists, mem_keys_iff]

/-- Where no key occurs twice, every pair of the table is found by a lookup. -/
theorem get?_of_mem {key : String} {value : α} {table : List (String × α)}
    (distinct : (keys table).Nodup) (member : (key, value) ∈ table) :
    get? key table = some value := by
  induction table with
  | nil => simp at member
  | cons entry rest ih =>
    obtain ⟨other, stored⟩ := entry
    obtain ⟨fresh, distinct⟩ := List.nodup_cons.1 distinct
    rw [get?]
    rcases List.mem_cons.1 member with same | member
    · cases same
      exact if_pos rfl
    · -- A key of the rest differs from the first one.
      have later : key ∈ keys rest := List.mem_map_of_mem (f := (·.1)) member
      have different : other ≠ key := by
        rintro rfl
        exact fresh later
      rw [if_neg different]
      exact ih distinct member

section Order

variable {first second : List (String × α)}

/-- Where no key occurs twice, lookups find exactly the pairs of the table. -/
theorem get?_eq_some_iff {key : String} {value : α} {table : List (String × α)}
    (distinct : (keys table).Nodup) : get? key table = some value ↔ (key, value) ∈ table :=
  ⟨mem_of_get?, get?_of_mem distinct⟩

/-- Reordering a table repeats no key. -/
theorem nodup_keys_of_perm (perm : first.Perm second) (distinct : (keys first).Nodup) :
    (keys second).Nodup := by
  -- The keys are reordered with their entries.
  rw [keys] at distinct ⊢
  exact (perm.map _).nodup distinct

/-- Where no key occurs twice, the order of a table does not matter for lookups. -/
theorem get?_eq_of_perm (perm : first.Perm second) (distinct : (keys first).Nodup)
    (key : String) : get? key first = get? key second := by
  have distinct' := nodup_keys_of_perm perm distinct
  -- With distinct keys, looking up is membership, which no reordering changes.
  apply Option.ext
  intro value
  rw [get?_eq_some_iff distinct, get?_eq_some_iff distinct', perm.mem_iff]

/-- Tables without repeated keys that agree on every lookup differ in their order at most. -/
theorem perm_of_get?_eq (distinct : (keys first).Nodup) (distinct' : (keys second).Nodup)
    (same : ∀ key, get? key first = get? key second) : first.Perm second := by
  -- Neither table repeats a pair, so it is enough that they have the same pairs.
  refine (List.perm_ext_iff_of_nodup (.of_map _ distinct) (.of_map _ distinct')).2 ?_
  rintro ⟨key, value⟩
  rw [← get?_eq_some_iff distinct, ← get?_eq_some_iff distinct', same]

/-- Tables with the same key at every place have the same keys in order. -/
theorem keys_eq_of_forall₂ {β : Type} {others : List (String × β)}
    (each : List.Forall₂ (fun entry other => entry.1 = other.1) first others) :
    keys first = keys others := by
  -- Side by side, the entries have the same keys.
  rw [← List.forall₂_eq_eq_eq, keys, keys, List.forall₂_map_left_iff, List.forall₂_map_right_iff]
  exact each

/-- Tables with the same keys in order, and related values under them, have related lookups. -/
theorem rel_get?_of_forall₂ {β : Type} (related : String → α → β → Prop)
    {others : List (String × β)}
    (each : List.Forall₂ (fun entry other => entry.1 = other.1 ∧ related entry.1 entry.2 other.2)
      first others) (key : String) :
    Option.Rel (related key) (get? key first) (get? key others) := by
  induction each with
  | nil => exact .none
  | @cons entry other _ _ head _ ih =>
    obtain ⟨name, value⟩ := entry
    obtain ⟨name', value'⟩ := other
    obtain ⟨rfl, head⟩ := head
    -- Both lookups stop here, or both go on.
    rw [get?, get?]
    by_cases same : name = key
    · rw [if_pos same, if_pos same]
      subst same
      exact .some head
    · rw [if_neg same, if_neg same]
      exact ih

end Order

/-- A lookup in one table after another takes the first that has the key. -/
theorem get?_append (key : String) (first second : List (String × α)) :
    get? key (first ++ second) = (get? key first).or (get? key second) := by
  -- The second table is reached only when the first has no entry.
  induction first with
  | nil => simp [get?]
  | cons entry rest ih =>
    obtain ⟨other, stored⟩ := entry
    rw [List.cons_append, get?, get?]
    split
    · rfl
    · exact ih

/-- A lookup after keeping the entries of some keys finds what it found under these keys. -/
theorem get?_filter (keep : String → Bool) (key : String) (table : List (String × α)) :
    get? key (table.filter fun entry => keep entry.1) =
      if keep key then get? key table else none := by
  induction table with
  | nil => simp [get?]
  | cons entry rest ih =>
    obtain ⟨other, stored⟩ := entry
    by_cases same : other = key
    · -- The first entry decides, unless it is left out along with its key.
      subst same
      cases kept : keep other <;> simp [kept, get?, ih]
    · cases kept : keep other <;> simp [kept, get?, same, ih]

/-- A lookup after changing every value changes what it finds. -/
theorem get?_map {β : Type} (change : α → β) (key : String) (table : List (String × α)) :
    get? key (table.map fun entry => (entry.1, change entry.2)) = (get? key table).map change := by
  -- Keys are kept, so the lookup takes the same path.
  induction table with
  | nil => rfl
  | cons entry rest ih =>
    obtain ⟨other, stored⟩ := entry
    rw [List.map_cons, get?, get?]
    split
    · rfl
    · exact ih

/-- A lookup among names that all have one value finds it under each name. -/
theorem get?_map_pair (value : α) (key : String) (names : List String) :
    get? key (names.map (·, value)) = if key ∈ names then some value else none := by
  -- Every name has the same value, so which occurrence is found does not matter.
  induction names with
  | nil => rfl
  | cons name rest ih =>
    rw [List.map_cons, get?, ih]
    by_cases same : name = key
    · simp [same]
    · simp [same, Ne.symm same]

/-- A stored value is found under its key, and every other key keeps its value. -/
theorem get?_put (key other : String) (value : α) (table : List (String × α)) :
    get? other (put key value table) = if key = other then some value else get? other table := by
  induction table with
  | nil => rfl
  | cons entry rest ih =>
    obtain ⟨first, stored⟩ := entry
    rw [put]
    -- The entry is replaced where it stands, and a new one goes to the end.
    by_cases here : first = key
    · subst here
      simp only [if_pos, get?]
      split <;> rfl
    · rw [if_neg here, get?, get?, ih]
      by_cases same : first = other
      · subst same
        simp [Ne.symm here]
      · simp [same]

/-- Tables that agree on every lookup still do after the same value is stored in both. -/
theorem get?_put_congr {first second : List (String × α)}
    (agree : ∀ key, get? key first = get? key second) (key : String) (value : α) (other : String) :
    get? other (put key value first) = get? other (put key value second) := by
  rw [get?_put, get?_put, agree]

/-- Storing keeps the keys, and puts a new one at the end. -/
theorem keys_put (key : String) (value : α) (table : List (String × α)) :
    keys (put key value table) = if key ∈ keys table then keys table else keys table ++ [key] := by
  induction table with
  | nil => rfl
  | cons entry rest ih =>
    obtain ⟨first, stored⟩ := entry
    rw [put]
    -- Replacing a value leaves the key where it is.
    by_cases here : first = key
    · simp [here, keys]
    · rw [if_neg here]
      simp only [keys, List.map_cons, List.mem_cons] at ih ⊢
      rw [ih]
      by_cases present : key ∈ rest.map (·.1)
      · simp [present]
      · simp [present, Ne.symm here]

/-- Storing adds at most its key. -/
@[simp] theorem mem_keys_put {key other : String} {value : α} {table : List (String × α)} :
    other ∈ keys (put key value table) ↔ other = key ∨ other ∈ keys table := by
  rw [keys_put]
  -- A key already there keeps the list as it is.
  by_cases present : key ∈ keys table
  · rw [if_pos present]
    constructor
    · exact Or.inr
    · rintro (rfl | member)
      · exact present
      · exact member
  · simp [if_neg present, or_comm]

/-- Storing repeats no key. -/
theorem nodup_keys_put {key : String} {value : α} {table : List (String × α)}
    (distinct : (keys table).Nodup) : (keys (put key value table)).Nodup := by
  rw [keys_put]
  -- Only a new key is added, and it is added once.
  split
  · exact distinct
  · next absent =>
    refine List.nodup_append.2 ⟨distinct, List.nodup_singleton key, ?_⟩
    intro other member new isNew same
    rw [List.mem_singleton] at isNew
    subst isNew
    subst same
    exact absent member

section PutAll

variable {β : Type} (value : β → α)

/-- Storing entries one after another: the last entry of a key counts, then the table before. -/
theorem get?_foldl_put (key : String) (entries : List (String × β)) (table : List (String × α)) :
    get? key (entries.foldl (fun table entry => put entry.1 (value entry.2) table) table) =
      ((get? key entries.reverse).map value).or (get? key table) := by
  -- The last entry of a key wins, so the entries are searched from the end.
  induction entries generalizing table with
  | nil => simp [get?]
  | cons entry rest ih =>
    obtain ⟨first, stored⟩ := entry
    rw [List.foldl_cons, ih, get?_put, List.reverse_cons, get?_append]
    cases get? key rest.reverse with
    | some later => rfl
    | none =>
      by_cases same : first = key
      · simp [same, get?]
      · simp [same, get?]

/-- The keys after storing entries are those of the entries and those of before. -/
theorem mem_keys_foldl_put {key : String} {entries : List (String × β)}
    {table : List (String × α)} :
    key ∈ keys (entries.foldl (fun table entry => put entry.1 (value entry.2) table) table) ↔
      key ∈ keys entries ∨ key ∈ keys table := by
  -- Each entry adds its key, and none is ever taken out.
  induction entries generalizing table with
  | nil => simp [keys]
  | cons entry rest ih =>
    rw [List.foldl_cons, ih, mem_keys_put]
    simp only [keys, List.map_cons, List.mem_cons]
    grind

/-- Storing entries repeats no key. -/
theorem nodup_keys_foldl_put {entries : List (String × β)} {table : List (String × α)}
    (distinct : (keys table).Nodup) :
    (keys (entries.foldl (fun table entry => put entry.1 (value entry.2) table) table)).Nodup := by
  -- Each entry that is put keeps the keys distinct.
  induction entries generalizing table with
  | nil => exact distinct
  | cons entry rest ih => exact ih (nodup_keys_put distinct)

end PutAll

/-- In a table of entries the last entry of a key counts. -/
theorem get?_ofEntries (key : String) (entries : List (String × α)) :
    get? key (ofEntries entries) = get? key entries.reverse := by
  -- Building a table starts from the empty one.
  have last : get? key (ofEntries entries) =
      ((get? key entries.reverse).map fun value => value).or (get? key ([] : List (String × α))) :=
    get?_foldl_put (fun value => value) key entries []
  simpa [get?] using last

/-- The keys of a table of entries are those of the entries. -/
@[simp] theorem mem_keys_ofEntries {key : String} {entries : List (String × α)} :
    key ∈ keys (ofEntries entries) ↔ key ∈ keys entries := by
  -- Building a table starts from the empty one.
  have added : key ∈ keys (ofEntries entries) ↔
      key ∈ keys entries ∨ key ∈ keys ([] : List (String × α)) :=
    mem_keys_foldl_put id
  simpa [keys] using added

/-- A table of entries has no key twice. -/
theorem nodup_keys_ofEntries (entries : List (String × α)) : (keys (ofEntries entries)).Nodup :=
  nodup_keys_foldl_put id List.nodup_nil

/-- A lookup finds the first entry of a key. -/
theorem get?_eq_some_iff_append {key : String} {value : α} {table : List (String × α)} :
    get? key table = some value ↔
      ∃ before after, table = before ++ (key, value) :: after ∧ key ∉ keys before := by
  constructor
  · intro found
    -- The entry that is found splits the table, with no earlier entry of the same key.
    induction table with
    | nil => cases found
    | cons entry rest ih =>
      obtain ⟨other, stored⟩ := entry
      rw [get?] at found
      by_cases same : other = key
      · subst same
        rw [if_pos rfl, Option.some.injEq] at found
        subst found
        exact ⟨[], rest, rfl, List.not_mem_nil⟩
      · rw [if_neg same] at found
        obtain ⟨before, after, rfl, fresh⟩ := ih found
        exact ⟨(other, stored) :: before, after, rfl, by simpa [keys, Ne.symm same] using fresh⟩
  -- The entries in front have other keys, so the lookup passes them.
  · rintro ⟨before, after, rfl, fresh⟩
    rw [get?_append, get?_eq_none_iff.2 fresh, Option.none_or, get?, if_pos rfl]

/-- In a table of entries a lookup finds the last entry of a key. -/
theorem get?_ofEntries_eq_some_iff {key : String} {value : α} {entries : List (String × α)} :
    get? key (ofEntries entries) = some value ↔
      ∃ earlier later, entries = earlier ++ (key, value) :: later ∧ key ∉ keys later := by
  rw [get?_ofEntries, get?_eq_some_iff_append]
  -- The entries backwards are split up where the entries are.
  constructor
  · rintro ⟨before, after, split, fresh⟩
    refine ⟨after.reverse, before.reverse, ?_, by simpa [keys] using fresh⟩
    rw [← List.reverse_reverse entries, split]
    simp
  · rintro ⟨earlier, later, rfl, fresh⟩
    exact ⟨later.reverse, earlier.reverse, by simp, by simpa [keys] using fresh⟩

/-- Every entry of a table of entries is one of these entries. -/
theorem mem_of_mem_ofEntries {entry : String × α} {entries : List (String × α)}
    (member : entry ∈ ofEntries entries) : entry ∈ entries := by
  -- The entry that is kept is the last of its key.
  have found := get?_of_mem (nodup_keys_ofEntries entries) member
  rw [get?_ofEntries] at found
  exact List.mem_reverse.1 (mem_of_get? found)

/-- A table of entries with one more at the end is the table before with this entry stored. -/
theorem ofEntries_append_singleton (entries : List (String × α)) (entry : String × α) :
    ofEntries (entries ++ [entry]) = put entry.1 entry.2 (ofEntries entries) := by
  rw [ofEntries, List.foldl_append]
  rfl

/-- The keys of a table of entries are those of the entries, in the order in which they first
come. -/
theorem keys_ofEntries (entries : List (String × α)) :
    keys (ofEntries entries) = (keys entries).eraseDups := by
  -- Entries are stored one behind the other, so the last one is stored at the end.
  induction entries using List.reverseRecOn with
  | nil => rfl
  | append_singleton entries entry ih =>
    have split : keys (entries ++ [entry]) = keys entries ++ [entry.1] := List.map_append
    rw [ofEntries_append_singleton, keys_put, ih, split, List.eraseDups_append]
    by_cases present : entry.1 ∈ keys entries
    · simp [present, List.removeAll]
    · simp [present, List.removeAll, List.eraseDups_cons]

/-- A value under a new key is stored at the end. -/
theorem put_eq_append {key : String} {value : α} {table : List (String × α)}
    (fresh : key ∉ keys table) : put key value table = table ++ [(key, value)] := by
  -- No entry has the key, so the new one goes to the end.
  induction table with
  | nil => rfl
  | cons entry rest ih =>
    obtain ⟨other, stored⟩ := entry
    simp only [keys, List.map_cons, List.mem_cons, not_or] at fresh ih
    rw [put, if_neg (Ne.symm fresh.1), ih fresh.2, List.cons_append]

/-- Entries without a repeated key are the table of them. -/
theorem ofEntries_eq_self {entries : List (String × α)} (distinct : (keys entries).Nodup) :
    ofEntries entries = entries := by
  induction entries using List.reverseRecOn with
  | nil => rfl
  | append_singleton entries entry ih =>
    have split : keys (entries ++ [entry]) = keys entries ++ [entry.1] := List.map_append
    rw [split, List.nodup_append] at distinct
    obtain ⟨distinct, -, apart⟩ := distinct
    -- The key of the last entry is none of the earlier ones.
    have fresh : entry.1 ∉ keys entries := fun member =>
      apart entry.1 member entry.1 List.mem_cons_self rfl
    rw [ofEntries_append_singleton, ih distinct, put_eq_append fresh]

/-- Where no key occurs twice, lookups in the entries from last to first find the same. -/
theorem get?_reverse {key : String} {table : List (String × α)} (distinct : (keys table).Nodup) :
    get? key table.reverse = get? key table :=
  (get?_eq_of_perm (List.reverse_perm table).symm distinct key).symm

/-- Loading a table entry by entry loads each of its values under its key. -/
theorem get?_of_mapM {β ε : Type} {name : String} {entryOf : String × α → Except ε (String × β)}
    {load : String → α → Except ε β} {table : List (String × α)} {loaded : List (String × β)}
    {value : α}
    (each : ∀ key value entry, entryOf (key, value) = .ok entry →
      ∃ one, load key value = .ok one ∧ entry = (key, one))
    (loading : table.mapM entryOf = .ok loaded) (listed : get? name table = some value) :
    ∃ one, get? name loaded = some one ∧ load name value = .ok one := by
  induction table generalizing loaded with
  | nil => cases listed
  | cons entry rest ih =>
    obtain ⟨key, first⟩ := entry
    -- The first entry loads, and so do the later ones.
    simp only [List.mapM_cons, bind_eq_ok_iff] at loading
    obtain ⟨entry, head, others, tail, whole⟩ := loading
    cases whole
    obtain ⟨one, loads, rfl⟩ := each key first entry head
    rw [get?] at listed ⊢
    by_cases same : key = name
    · rw [if_pos same] at listed ⊢
      cases listed
      subst same
      exact ⟨one, rfl, loads⟩
    · rw [if_neg same] at listed ⊢
      exact ih tail listed

end Gamebook.Table
