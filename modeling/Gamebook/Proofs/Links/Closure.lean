import Mathlib.Data.Set.Basic
import Mathlib.Order.Bounds.Defs
import Gamebook.Proofs.Links.Route

/-! A limit that is greater than the number of nodes cuts nothing off: the search then finds the
least set of scenes that contains the start and whatever its scenes lead to. -/

namespace Gamebook

namespace Links

/-- A set of scenes contains a start, and with a scene whatever that scene leads to. -/
structure IsClosedFrom (links : Links) (start : String) (scenes : Set String) : Prop where
  begins : start ∈ scenes
  leads : ∀ a ∈ scenes, ∀ b, links.LeadsTo a b → b ∈ scenes

variable {links : Links} {start id : String} {limit : Int}

/-- A walk from the start does not leave a set that is closed from it. -/
theorem IsClosedFrom.mem_of_walk {scenes : Set String} (closed : links.IsClosedFrom start scenes)
    {length : Nat} (walk : Walk links.LeadsTo start length id) : id ∈ scenes := by
  -- The induction is on the walk, whose last step cannot leave the set.
  induction walk with
  | rest => exact closed.begins
  | step _ last ih => exact closed.leads _ ih _ last

/-- What walks of any length lead to is the least set that is closed from their start. -/
theorem isLeast_setOf_walk (links : Links) (start : String) :
    IsLeast {scenes | links.IsClosedFrom start scenes}
      {id | ∃ length, Walk links.LeadsTo start length id} := by
  -- Walks make a closed set, and no closed set lacks the end of a walk.
  constructor
  · refine ⟨⟨0, .rest⟩, ?_⟩
    rintro a ⟨length, walk⟩ b leads
    exact ⟨length + 1, walk.step leads⟩
  · rintro scenes closed id ⟨length, walk⟩
    exact closed.mem_of_walk walk

/-- Within a limit that is greater than the number of nodes, a search finds what any walk leads
to. -/
theorem mem_reachable_iff_exists_walk (named : start ≠ "")
    (ample : ((Table.keys links).length : Int) < limit) :
    id ∈ links.reachable (some start) limit ↔ ∃ length, Walk links.LeadsTo start length id := by
  rw [mem_reachable]
  constructor
  · rintro ⟨first, same, -, length, -, walk⟩
    cases same
    exact ⟨length, walk⟩
  · rintro ⟨length, walk⟩
    -- A shortest walk comes by different nodes before its end, so it is short enough.
    obtain ⟨distance, -, away⟩ := walk.exists_isDistance
    have bound := away.le_length fun _ _ => mem_keys_of_leadsTo
    exact ⟨start, rfl, named, distance, by omega, away.walk⟩

/-- Within a limit that is greater than the number of nodes, a search from a named start finds
exactly what walks of any length lead to: the least set that contains the start and whatever its
scenes lead to. All such limits find the same scenes. -/
theorem reachable_within_ample_limit (named : start ≠ "")
    (ample : ((Table.keys links).length : Int) < limit) :
    (∀ id, id ∈ links.reachable (some start) limit ↔
      ∃ length, Walk links.LeadsTo start length id) ∧
    IsLeast {scenes | links.IsClosedFrom start scenes}
      {id | id ∈ links.reachable (some start) limit} ∧
    ∀ other : Int, ((Table.keys links).length : Int) < other →
      links.reachable (some start) other = links.reachable (some start) limit := by
  refine ⟨fun _ => mem_reachable_iff_exists_walk named ample, ?_, ?_⟩
  -- Within the limit, what is reached is the same as what walks lead to.
  · have same : {id | id ∈ links.reachable (some start) limit} =
        {id | ∃ length, Walk links.LeadsTo start length id} :=
      Set.ext fun _ => mem_reachable_iff_exists_walk named ample
    rw [same]
    exact isLeast_setOf_walk links start
  -- Under every ample limit the same walks decide.
  · intro other ampleToo
    apply IdSet.eq_of_mem_iff
    intro id
    rw [mem_reachable_iff_exists_walk named ampleToo, mem_reachable_iff_exists_walk named ample]

/-- Three nodes in a row, with a way back and a scene behind them that is no node. A limit of three
would miss that scene. -/
theorem reachable_within_ample_limit_row :
    let links : Links := [("hall", ["cellar"]), ("gate", ["hall"]), ("cellar", ["well", "gate"])]
    "gate" ≠ "" ∧ ((Table.keys links).length : Int) < 4 ∧
      (∃ length, Walk links.LeadsTo "gate" length "well") ∧
      IsLeast {scenes | links.IsClosedFrom "gate" scenes}
        {id | id ∈ links.reachable (some "gate") 4} ∧
      links.reachable (some "gate") 1000 = links.reachable (some "gate") 4 ∧
      (links.reachable (some "gate") 4).ids = ["cellar", "gate", "hall", "well"] ∧
      (links.reachable (some "gate") 3).ids = ["cellar", "gate", "hall"] := by
  intro links
  have named : "gate" ≠ "" := by decide
  have ample : ((Table.keys links).length : Int) < 4 := by decide
  obtain ⟨walks, least, same⟩ := reachable_within_ample_limit named ample
  -- With four levels the search comes to the end of the row, and with three it does not.
  have found : (links.reachable (some "gate") 4).ids = ["cellar", "gate", "hall", "well"] := by
    decide +kernel
  have well : "well" ∈ links.reachable (some "gate") 4 := by
    rw [IdSet.mem_def, found]
    decide
  exact ⟨named, ample, (walks "well").1 well, least, same 1000 (by decide), found,
    by decide +kernel⟩

end Links

end Gamebook
