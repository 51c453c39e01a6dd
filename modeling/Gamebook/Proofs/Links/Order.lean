import Gamebook.Proofs.Links.Cycle

/-! What is computed from a graph does not depend on the order in which its nodes are written. -/

namespace Gamebook

namespace CycleSearch

variable {links others : Links} {search other : CycleSearch}

/-- Two searches are at the same point; only the order of their marks may differ. -/
structure Alike (search other : CycleSearch) : Prop where
  roots : search.roots = other.roots
  frames : search.frames = other.frames
  cycles : search.cycles = other.cycles
  marks : ∀ id, search.mark? id = other.mark? id

/-- Entering a scene with the same successors keeps searches alike. -/
theorem Alike.enter (alike : Alike search other)
    (agree : ∀ id, links.successors id = others.successors id) (id : String) :
    Alike (search.enter links id) (other.enter others id) where
  roots := alike.roots
  frames := by
    show (⟨id, links.successors id⟩ :: search.frames) = ⟨id, others.successors id⟩ :: other.frames
    -- The same links are to be examined from the scene that is entered.
    rw [agree, alike.frames]
  cycles := alike.cycles
  marks := Table.get?_put_congr alike.marks id .onPath

/-- Searches that are alike make alike moves, or are both over. -/
theorem Alike.step (alike : Alike search other)
    (agree : ∀ id, links.successors id = others.successors id) :
    Option.Rel Alike (search.step links) (other.step others) := by
  obtain ⟨roots, marks, frames, cycles⟩ := search
  obtain ⟨roots', marks', frames', cycles'⟩ := other
  obtain ⟨sameRoots, sameFrames, sameCycles, agreeMarks⟩ := alike
  dsimp only at sameRoots sameFrames sameCycles
  subst sameRoots sameFrames sameCycles
  have mark_eq (id : String) : Table.get? id marks = Table.get? id marks' := agreeMarks id
  -- One case for each kind of move; only looking up a mark could tell the searches apart.
  match frames with
  | [] =>
    cases roots with
    | nil => exact .none
    | cons root roots =>
      -- Off the path the next root is entered, or passed if it has been seen.
      have rest : Alike ⟨roots, marks, [], cycles⟩ ⟨roots, marks', [], cycles⟩ :=
        ⟨rfl, rfl, rfl, mark_eq⟩
      simp only [CycleSearch.step, mark_eq root]
      split
      · exact .some (rest.enter agree root)
      · exact .some rest
  | ⟨scene, []⟩ :: above =>
    exact .some ⟨rfl, rfl, rfl, Table.get?_put_congr mark_eq scene .finished⟩
  | ⟨scene, successor :: pending⟩ :: above =>
    -- The link is examined, and then its mark decides.
    have advanced : Alike ⟨roots, marks, ⟨scene, pending⟩ :: above, cycles⟩
        ⟨roots, marks', ⟨scene, pending⟩ :: above, cycles⟩ := ⟨rfl, rfl, rfl, mark_eq⟩
    simp only [CycleSearch.step, mark_eq successor]
    split
    · exact .some ⟨rfl, rfl, rfl, mark_eq⟩
    · exact .some (advanced.enter agree successor)
    · exact .some advanced

/-- Searches that are alike still are after as many moves. -/
theorem Alike.run (alike : Alike search other)
    (agree : ∀ id, links.successors id = others.successors id) (fuel : Nat) :
    Alike (search.run links fuel) (other.run others fuel) := by
  induction fuel generalizing search other with
  | zero => exact alike
  | succ fuel ih =>
    rw [CycleSearch.run, CycleSearch.run]
    -- Both searches are over, or both make a move and are alike afterwards.
    have related := alike.step agree
    generalize search.step links = next at related ⊢
    generalize other.step others = next' at related ⊢
    cases related with
    | none => exact alike
    | some moved => exact ih moved

end CycleSearch

namespace Links

variable {links others : Links} (perm : links.Perm others) (distinct : (Table.keys links).Nodup)

include perm

/-- The number of links does not depend on the order of the nodes. -/
theorem edgeCount_eq_of_perm : links.edgeCount = others.edgeCount := by
  -- Adding up does not depend on the order.
  refine perm.foldr_eq' ?_ 0
  intro node _ node' _ total
  exact Nat.add_left_comm _ _ _

/-- The sources of a scene do not depend on the order of the nodes. -/
theorem getD_get?_incoming_eq_of_perm (target : String) :
    (Table.get? target links.incoming).getD .empty =
      (Table.get? target others.incoming).getD .empty := by
  -- What links to a scene is a set, told by membership in the graph.
  apply IdSet.eq_of_mem_iff
  intro id
  simp only [mem_incoming_iff, perm.mem_iff]

include distinct

/-- The successors of a scene do not depend on the order of the nodes. -/
theorem successors_eq_of_perm (id : String) : links.successors id = others.successors id := by
  rw [successors, successors, Table.get?_eq_of_perm perm distinct]

/-- Where a search reaches does not depend on the order of the nodes. -/
theorem reachable_eq_of_perm (start : Option String) (limit : Int) :
    links.reachable start limit = others.reachable start limit := by
  -- A search reaches what short walks lead to, and walks follow the successors.
  have sameLinks : links.LeadsTo = others.LeadsTo := by
    funext a b
    rw [LeadsTo, LeadsTo, successors_eq_of_perm perm distinct]
  apply IdSet.eq_of_mem_iff
  intro id
  rw [mem_reachable, mem_reachable, sameLinks]

/-- The cycles that are found, and where each of them begins, do not depend on the order of the
nodes. -/
theorem cycles_eq_of_perm : links.cycles = others.cycles := by
  -- Sorting makes the roots the same ones in the same order.
  have started : CycleSearch.Alike (.start links) (.start others) := by
    refine ⟨sortIds_eq_of_perm (perm.map _), rfl, rfl, ?_⟩
    intro id
    rw [CycleSearch.mark?_start, CycleSearch.mark?_start,
      Table.get?_eq_of_perm perm distinct]
  -- The bound on the moves is the same, since there are as many nodes and links.
  have ended := started.run (successors_eq_of_perm perm distinct)
    (2 * links.length + links.edgeCount + 1)
  rw [cycles, cycles, ← perm.length_eq, ← edgeCount_eq_of_perm perm, ended.cycles]

end Links

end Gamebook
