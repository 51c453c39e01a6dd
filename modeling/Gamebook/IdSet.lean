/-! Finite sets of identifiers, kept as increasing lists, and their order in reports. -/

namespace Gamebook

/-- A set of identifiers: each once, in increasing order of code points. -/
structure IdSet where
  ids : List String
  increasing : ids.Pairwise (· < ·)
  deriving DecidableEq

namespace IdSet

/-- An increasing list with one more identifier. -/
def insertInto (id : String) : List String → List String
  | [] => [id]
  | other :: rest =>
    if id < other then id :: other :: rest
    else if id = other then other :: rest
    else other :: insertInto id rest

/-- An insertion adds its identifier and nothing else. -/
theorem mem_insertInto {id x : String} {ids : List String} :
    x ∈ insertInto id ids ↔ x = id ∨ x ∈ ids := by
  induction ids with
  | nil => simp [insertInto]
  | cons other rest step =>
    rw [insertInto]
    -- Before a greater identifier the new one is put in, and an equal one is there already.
    split
    · simp
    · split
      · grind
      · grind

/-- An insertion keeps the list increasing. -/
theorem pairwise_insertInto {id : String} {ids : List String} (increasing : ids.Pairwise (· < ·)) :
    (insertInto id ids).Pairwise (· < ·) := by
  induction ids with
  | nil => simp [insertInto]
  | cons other rest step =>
    obtain ⟨below, tail⟩ := List.pairwise_cons.1 increasing
    rw [insertInto]
    split
    · next less =>
      -- The new head lies below the old one, which lies below the rest.
      refine List.pairwise_cons.2 ⟨?_, increasing⟩
      intro x member
      rcases List.mem_cons.1 member with rfl | member
      · exact less
      · exact String.lt_trans less (below x member)
    · split
      · exact increasing
      · refine List.pairwise_cons.2 ⟨?_, step tail⟩
        intro x member
        rcases mem_insertInto.1 member with rfl | member
        · grind
        · exact below x member

/-- The empty set. -/
def empty : IdSet := ⟨[], .nil⟩

/-- A set with one more identifier. -/
def insert (id : String) (set : IdSet) : IdSet :=
  ⟨insertInto id set.ids, pairwise_insertInto set.increasing⟩

/-- A set with the identifiers of a list. -/
def insertAll (ids : List String) (set : IdSet) : IdSet :=
  ids.foldl (fun set id => set.insert id) set

/-- The set of the identifiers of a list. -/
def ofList (ids : List String) : IdSet := empty.insertAll ids

/-- The union of two sets. -/
def union (a b : IdSet) : IdSet := a.insertAll b.ids

/-- Whether an identifier belongs to a set. -/
def contains (id : String) (set : IdSet) : Bool := set.ids.contains id

/-- The members that satisfy a condition. -/
def filter (keep : String → Bool) (set : IdSet) : IdSet :=
  ⟨set.ids.filter keep, set.increasing.filter keep⟩

/-- The number of members. -/
def size (set : IdSet) : Nat := set.ids.length

/-- Whether a set has no member. -/
def isEmpty (set : IdSet) : Bool := set.ids.isEmpty

instance : Inhabited IdSet := ⟨empty⟩

instance : Membership String IdSet := ⟨fun set id => id ∈ set.ids⟩

instance {id : String} {set : IdSet} : Decidable (id ∈ set) :=
  inferInstanceAs (Decidable (id ∈ set.ids))

/-- Membership is membership in the list. -/
theorem mem_def {id : String} {set : IdSet} : id ∈ set ↔ id ∈ set.ids := Iff.rfl

/-- The empty set has no member. -/
@[simp] theorem not_mem_empty {id : String} : ¬ id ∈ empty := by simp [mem_def, empty]

/-- The test for membership agrees with membership. -/
@[simp] theorem contains_iff {id : String} {set : IdSet} : set.contains id = true ↔ id ∈ set := by
  simp [contains, mem_def]

/-- An insertion adds one member. -/
@[simp] theorem mem_insert {id x : String} {set : IdSet} : x ∈ set.insert id ↔ x = id ∨ x ∈ set :=
  mem_insertInto

/-- The members after inserting a list are those of the list and the old ones. -/
@[simp] theorem mem_insertAll {ids : List String} {x : String} {set : IdSet} :
    x ∈ set.insertAll ids ↔ x ∈ ids ∨ x ∈ set := by
  induction ids generalizing set with
  | nil => simp [insertAll]
  | cons id rest step =>
    -- The first identifier is in the set from which the others start.
    have := @step (set.insert id)
    rw [insertAll] at this ⊢
    rw [List.foldl_cons, this, mem_insert]
    grind

/-- A set made of a list has its members. -/
@[simp] theorem mem_ofList {ids : List String} {x : String} : x ∈ ofList ids ↔ x ∈ ids := by
  simp [ofList]

/-- A union has the members of both sets. -/
@[simp] theorem mem_union {a b : IdSet} {x : String} : x ∈ a.union b ↔ x ∈ a ∨ x ∈ b := by
  rw [union, mem_insertAll, ← mem_def, Or.comm]

/-- Filtering keeps the members that satisfy the condition. -/
@[simp] theorem mem_filter {keep : String → Bool} {set : IdSet} {x : String} :
    x ∈ set.filter keep ↔ x ∈ set ∧ keep x = true := by
  simp [mem_def, filter]

end IdSet

/-- Identifiers in increasing order, repetitions kept. -/
def sortIds (ids : List String) : List String := ids.mergeSort (fun a b => decide (a ≤ b))

end Gamebook
