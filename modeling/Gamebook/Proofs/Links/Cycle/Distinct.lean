import Mathlib.Data.List.Perm.Basic
import Gamebook.Proofs.Links.Cycle

/-! No cycle is reported twice: a link closes at most as many of the reported cycles as it is
written, and each of them lists its scenes in the order in which the search entered them. -/

namespace Gamebook

instance (cycle : List String) (a b : String) : Decidable (Closes cycle a b) :=
  inferInstanceAs (Decidable (_ ∧ _))

/-- The number of cycles that a link closes. -/
def closedCount (a b : String) (cycles : List (List String)) : Nat :=
  cycles.countP fun cycle => Closes cycle a b

/-- One more cycle counts for the link that closes it. -/
theorem closedCount_cons (a b : String) (cycle : List String) (cycles : List (List String)) :
    closedCount a b (cycle :: cycles) =
      closedCount a b cycles + if Closes cycle a b then 1 else 0 := by
  simp [closedCount, List.countP_cons]

/-- Where every link closes at most one cycle, no two cycles are closed by the same link. -/
theorem pairwise_of_closedCount_le_one {cycles : List (List String)}
    (once : ∀ a b, closedCount a b cycles ≤ 1) :
    cycles.Pairwise fun first second => ∀ a b, Closes first a b → ¬ Closes second a b := by
  induction cycles with
  | nil => exact .nil
  | cons cycle rest ih =>
    simp only [closedCount_cons] at once
    refine List.pairwise_cons.2 ⟨?_, ih fun a b => Nat.le_trans (Nat.le_add_right _ _) (once a b)⟩
    intro other member a b closes again
    -- Two cycles that the link closes are one too many.
    have later : 0 < closedCount a b rest := by
      rw [closedCount, List.countP_pos_iff]
      exact ⟨other, member, by simpa using again⟩
    have bound := once a b
    rw [if_pos closes] at bound
    omega

namespace CycleSearch

variable {links : Links} {search next : CycleSearch} {id scene successor : String}
  {seen : List String}

/-- How many of the cycles found so far each link closes. -/
structure Tallied (links : Links) (search : CycleSearch) : Prop where
  total : ∀ a b, closedCount a b search.cycles ≤ (links.successors a).count b
  -- On the path, what is still to be examined can still close cycles.
  ahead : ∀ frame ∈ search.frames, ∀ b,
    closedCount frame.scene b search.cycles + frame.pending.count b ≤
      (links.successors frame.scene).count b
  -- From a scene that has not been seen nothing was examined.
  unseen : ∀ a b, search.mark? a = some .unseen → closedCount a b search.cycles = 0

/-- A search that has seen nothing has found no cycle. -/
theorem tallied_start : Tallied links (.start links) := by
  -- No cycle is closed yet.
  constructor
  case total => exact fun a b => Nat.zero_le _
  case ahead => simp [start]
  case unseen => exact fun a b _ => rfl

/-- The cycle that a link back to the path makes is closed by that link only. -/
theorem closes_closedBy_iff {path : List String} (member : id ∈ path)
    (top : path.head? = some scene)
    (a b : String) : Closes (closedBy id path) a b ↔ a = scene ∧ b = id := by
  -- The cycle starts where the scene was met and ends at the top of the path.
  obtain ⟨ends, begins⟩ := closes_closedBy member top
  rw [Closes, ends, begins, Option.some.injEq, Option.some.injEq, eq_comm, @eq_comm _ id]

section Moves

variable {roots pending : List String} {frames above : List Frame}

/-- Entering an unseen scene finds no cycle, and everything about it is ahead. -/
theorem Tallied.enter (tallied : Tallied links search) (unseen : search.mark? id = some .unseen)
    (ahead : ∀ frame ∈ frames, ∀ b,
      closedCount frame.scene b search.cycles + frame.pending.count b ≤
        (links.successors frame.scene).count b) :
    Tallied links (({ search with roots, frames } : CycleSearch).enter links id) := by
  constructor
  case total => exact tallied.total
  case ahead =>
    refine List.forall_mem_cons.2 ⟨?_, ahead⟩
    intro b
    -- An unseen scene has closed no cycle, so that all its links are still ahead.
    have none : closedCount id b search.cycles = 0 := tallied.unseen id b unseen
    show closedCount id b search.cycles + (links.successors id).count b ≤ _
    rw [none, Nat.zero_add]
  case unseen =>
    intro a b still
    rw [mark?_enter] at still
    split at still
    · cases still
    · exact tallied.unseen a b still

/-- What is ahead on the path with one link less examined there. -/
theorem Tallied.ahead_of_top (tallied : Tallied links search)
    (top : search.frames = ⟨scene, successor :: pending⟩ :: above) :
    ∀ frame ∈ ⟨scene, pending⟩ :: above, ∀ b,
      closedCount frame.scene b search.cycles + frame.pending.count b ≤
        (links.successors frame.scene).count b := by
  have ahead := tallied.ahead
  rw [top] at ahead
  obtain ⟨here, others⟩ := List.forall_mem_cons.1 ahead
  refine List.forall_mem_cons.2 ⟨?_, others⟩
  intro b
  -- One link less is to be examined from the last scene of the path.
  have fewer : pending.count b ≤ (successor :: pending).count b :=
    (List.sublist_cons_self successor pending).count_le b
  exact Nat.le_trans (Nat.add_le_add_left fewer _) (here b)

/-- A link back to the path was still to be examined, so the cycle that it closes is accounted
for. -/
theorem Tallied.close (tallied : Tallied links search) (valid : Valid links search)
    (top : search.frames = ⟨scene, successor :: pending⟩ :: above)
    (entered : search.mark? successor = some .onPath) :
    Tallied links { search with
      frames := ⟨scene, pending⟩ :: above
      cycles := closedBy successor search.path :: search.cycles } := by
  have scenes : search.path = scene :: above.map (·.scene) := path_eq_cons top
  have closes : ∀ a b, Closes (closedBy successor search.path) a b ↔ a = scene ∧ b = successor :=
    closes_closedBy_iff ((valid.entered successor).1 entered) (by rw [scenes]; rfl)
  have distinct := valid.distinct
  rw [scenes] at distinct
  have ahead := tallied.ahead
  rw [top] at ahead
  obtain ⟨here, others⟩ := List.forall_mem_cons.1 ahead
  -- The link counts once more, and is no longer ahead.
  have paid : ∀ b, closedCount scene b (closedBy successor search.path :: search.cycles) +
      pending.count b ≤ (links.successors scene).count b := by
    intro b
    have before := here b
    simp only [closedCount_cons, closes, true_and, List.count_cons, beq_iff_eq] at before ⊢
    by_cases same : b = successor
    · subst same
      simp only [if_true] at before ⊢
      omega
    · simp only [same, Ne.symm same, if_false] at before ⊢
      exact before
  -- Every other scene has as many as before.
  have kept : ∀ a b, a ≠ scene →
      closedCount a b (closedBy successor search.path :: search.cycles) =
        closedCount a b search.cycles := by
    intro a b different
    simp [closedCount_cons, closes, different]
  constructor
  case total =>
    intro a b
    by_cases same : a = scene
    · subst same
      exact Nat.le_trans (Nat.le_add_right _ _) (paid b)
    · exact Nat.le_trans (Nat.le_of_eq (kept a b same)) (tallied.total a b)
  case ahead =>
    refine List.forall_mem_cons.2 ⟨paid, ?_⟩
    intro frame member b
    have different : frame.scene ≠ scene := by
      rintro rfl
      exact (List.nodup_cons.1 distinct).1 (List.mem_map_of_mem member)
    exact Nat.le_trans (Nat.le_of_eq (by rw [kept _ b different])) (others frame member b)
  case unseen =>
    intro a b still
    have different : a ≠ scene := by
      -- The deepest scene is on the path, and is seen.
      rintro rfl
      have onPath := (valid.entered a).2 (by rw [scenes]; exact List.mem_cons_self)
      cases still.symm.trans onPath
    exact (kept a b different).trans (tallied.unseen a b still)

/-- Leaving a scene takes its frame off the path, and finds no cycle. -/
theorem Tallied.leave (tallied : Tallied links search)
    (top : search.frames = ⟨scene, []⟩ :: above) :
    Tallied links { search with
      marks := Table.put scene .finished search.marks, frames := above } := by
  constructor
  case total => exact tallied.total
  case ahead =>
    -- The scenes that stay on the path keep the links that they had.
    intro frame member
    exact tallied.ahead frame (by rw [top]; exact List.mem_cons_of_mem _ member)
  case unseen =>
    intro a b still
    rw [mark?, Table.get?_put] at still
    split at still
    · cases still
    · exact tallied.unseen a b still

end Moves

/-- Every move of a valid search keeps count of the cycles that each link closes. -/
theorem Tallied.step (tallied : Tallied links search) (valid : Valid links search)
    (taken : search.step links = some next) : Tallied links next := by
  -- Only closing a cycle counts, and for that a link of the last scene is used up.
  cases move_of_step taken with
  | begin root roots off waiting unseen same =>
    subst same
    exact tallied.enter unseen tallied.ahead
  | pass root roots off waiting seen same =>
    subst same
    exact ⟨tallied.total, tallied.ahead, tallied.unseen⟩
  | leave scene above top same =>
    subst same
    exact tallied.leave top
  | close scene successor pending above top entered same =>
    subst same
    exact tallied.close valid top entered
  | enter scene successor pending above top unseen same =>
    subst same
    exact tallied.enter unseen (tallied.ahead_of_top top)
  | skip scene successor pending above top settled same =>
    subst same
    exact ⟨tallied.total, tallied.ahead_of_top top, tallied.unseen⟩

/-- The scenes that a search has entered, in order: its path and each of its cycles keep to it. -/
structure Entered (search : CycleSearch) (seen : List String) : Prop where
  distinct : seen.Nodup
  marked : ∀ id ∈ seen, search.mark? id ≠ some .unseen
  path : search.path.reverse.Sublist seen
  cycles : ∀ cycle ∈ search.cycles, cycle.Sublist seen

/-- A search that has seen nothing has entered no scene. -/
theorem entered_start : Entered (.start links) [] := by
  -- Nothing is entered yet, and the path is empty.
  constructor
  case distinct => exact List.nodup_nil
  case marked => simp
  case path => exact List.Sublist.refl []
  case cycles => simp [start]

/-- A scene that is entered comes last. -/
theorem Entered.enter {roots : List String} {frames : List Frame} (entered : Entered search seen)
    (unseen : search.mark? id = some .unseen) (scenes : frames.map (·.scene) = search.path) :
    Entered (({ search with roots, frames } : CycleSearch).enter links id) (seen ++ [id]) := by
  constructor
  case distinct =>
    rw [List.nodup_append]
    refine ⟨entered.distinct, List.nodup_singleton id, ?_⟩
    -- A scene that was entered before is no longer unseen.
    rintro a member b isLast rfl
    rw [List.mem_singleton.1 isLast] at member
    exact entered.marked id member unseen
  case marked =>
    intro other member
    rw [mark?_enter]
    split
    · simp
    · next different =>
      rcases List.mem_append.1 member with earlier | last
      · exact entered.marked other earlier
      · exact absurd (List.mem_singleton.1 last).symm different
  case path =>
    -- The scene comes last on the path, as it does among those that were entered.
    have path_next : (({ search with roots, frames } : CycleSearch).enter links id).path =
        id :: search.path := congrArg (id :: ·) scenes
    rw [path_next, List.reverse_cons]
    exact entered.path.append (List.Sublist.refl [id])
  case cycles =>
    intro cycle found
    exact (entered.cycles cycle found).trans (List.sublist_append_left seen [id])

/-- A cycle that is closed is the end of the path. -/
theorem closedBy_sublist {path : List String} (member : id ∈ path) :
    (closedBy id path).Sublist path.reverse := by
  -- The cycle is the part of the path since the scene was met.
  obtain ⟨rest, split⟩ := exists_eq_takeWhile_append member
  rw [closedBy]
  exact (split ▸ List.sublist_append_left _ rest).reverse

/-- Every move of a valid search keeps the order in which scenes were entered. -/
theorem Entered.step (entered : Entered search seen) (valid : Valid links search)
    (taken : search.step links = some next) : ∃ more, Entered next more := by
  -- Only a scene that is entered joins the list, and closing a cycle takes a part of the path.
  cases move_of_step taken with
  | begin root roots off waiting unseen same =>
    subst same
    exact ⟨_, entered.enter unseen rfl⟩
  | pass root roots off waiting seen same =>
    subst same
    exact ⟨_, entered.distinct, entered.marked, entered.path, entered.cycles⟩
  | leave scene above top same =>
    subst same
    refine ⟨seen, entered.distinct, ?_, ?_, entered.cycles⟩
    · intro id member
      rw [mark?, Table.get?_put]
      split
      · simp
      · exact entered.marked id member
    · have shorter : (above.map (·.scene)).Sublist search.path := by
        rw [path_eq_cons top]
        exact List.sublist_cons_self scene _
      exact shorter.reverse.trans entered.path
  | close scene successor pending above top onPath same =>
    subst same
    have path_same : ({ search with frames := ⟨scene, pending⟩ :: above } : CycleSearch).path =
        search.path := (path_eq_cons top).symm
    refine ⟨seen, entered.distinct, entered.marked, path_same ▸ entered.path,
      List.forall_mem_cons.2 ⟨?_, entered.cycles⟩⟩
    exact (closedBy_sublist ((valid.entered successor).1 onPath)).trans entered.path
  | enter scene successor pending above top unseen same =>
    subst same
    exact ⟨_, entered.enter unseen (path_eq_cons top).symm⟩
  | skip scene successor pending above top settled same =>
    subst same
    have path_same : ({ search with frames := ⟨scene, pending⟩ :: above } : CycleSearch).path =
        search.path := (path_eq_cons top).symm
    exact ⟨seen, entered.distinct, entered.marked, path_same ▸ entered.path, entered.cycles⟩

/-- Any number of moves of a valid search keeps count and keeps the order. -/
theorem Tallied.run (tallied : Tallied links search) (entered : Entered search seen)
    (valid : Valid links search) (fuel : Nat) :
    Tallied links (search.run links fuel) ∧ ∃ more, Entered (search.run links fuel) more := by
  -- Both invariants are carried along, because the one about scenes needs the search to be valid.
  induction fuel generalizing search seen with
  | zero => exact ⟨tallied, seen, entered⟩
  | succ fuel ih =>
    rw [CycleSearch.run]
    split
    · exact ⟨tallied, seen, entered⟩
    · next next taken =>
      obtain ⟨more, enters⟩ := entered.step valid taken
      exact ih (tallied.step valid taken) enters (valid.step taken)

end CycleSearch

namespace Links

/-- No link closes more of the reported cycles than it is written, and all of them list their scenes
in one order. -/
theorem closedCount_cycles (links : Links) :
    (∀ a b, closedCount a b links.cycles ≤ (links.successors a).count b) ∧
      ∃ seen : List String, seen.Nodup ∧ ∀ cycle ∈ links.cycles, cycle.Sublist seen := by
  obtain ⟨tallied, seen, entered⟩ :=
    CycleSearch.tallied_start.run CycleSearch.entered_start CycleSearch.valid_start
      (2 * links.length + links.edgeCount + 1)
  refine ⟨?_, seen, entered.distinct, ?_⟩
  -- Reversing the cycles does not change how often a link closes one.
  · intro a b
    rw [cycles, closedCount, List.countP_reverse]
    exact tallied.total a b
  · intro cycle reported
    rw [cycles, List.mem_reverse] at reported
    exact entered.cycles cycle reported

/-- Every reported cycle is a cycle of the graph, and no link closes more of them than it is
written. Where no node has a link twice, no two of them are closed by the same link or go through
the same scenes, from whichever scene they are read. -/
theorem cycles_real_and_distinct (links : Links) :
    (∀ cycle ∈ links.cycles, links.IsCycle cycle) ∧
      (∀ a b, closedCount a b links.cycles ≤ (links.successors a).count b) ∧
      ((∀ id, (links.successors id).Nodup) →
        links.cycles.Pairwise fun first second =>
          (∀ a b, Closes first a b → ¬ Closes second a b) ∧ ¬ first.Perm second) := by
  obtain ⟨bounded, seen, distinct, ordered⟩ := closedCount_cycles links
  have real : ∀ cycle ∈ links.cycles, links.IsCycle cycle := fun _ => isCycle_of_mem_cycles
  refine ⟨real, bounded, ?_⟩
  intro single
  have once : ∀ a b, closedCount a b links.cycles ≤ 1 := fun a b =>
    Nat.le_trans (bounded a b) (List.nodup_iff_count_le_one.1 (single a) b)
  refine (pairwise_of_closedCount_le_one once).imp_of_mem ?_
  intro first second reported reportedToo apart
  refine ⟨apart, ?_⟩
  intro perm
  -- Both list their scenes in the order of the search, so they would be the same list.
  have same : first = second := (distinct.perm_iff_eq_of_sublist
    (ordered first reported) (ordered second reportedToo)).1 perm
  subst same
  obtain ⟨a, rest, split⟩ := List.exists_cons_of_ne_nil (real first reported).nonempty
  have closes : Closes first (first.getLast (real first reported).nonempty) a :=
    ⟨List.getLast?_eq_getLast_of_ne_nil _, by rw [split]; rfl⟩
  exact apart _ _ closes closes

/-- The cycles of a graph with a link from a scene to itself, two cycles that share a scene, and a
link to a scene that is no node. -/
theorem cycles_real_and_distinct_shared :
    let links : Links := [("b", ["b", "a", "ghost"]), ("a", ["b", "c"]), ("c", ["a"])]
    (∀ id, (links.successors id).Nodup) ∧ links.cycles = [["b"], ["a", "b"], ["a", "c"]] ∧
      links.IsCycle ["a", "c"] ∧ closedCount "c" "a" links.cycles ≤ 1 ∧
      links.cycles.Pairwise fun first second =>
        (∀ a b, Closes first a b → ¬ Closes second a b) ∧ ¬ first.Perm second := by
  intro links
  have single : ∀ id, (links.successors id).Nodup := by
    intro id
    simp only [links, successors, Table.get?]
    split
    · decide
    · split
      · decide
      · split <;> decide
  -- The search takes the roots in order, whatever order they are written in.
  have sorted : sortIds (Table.keys links) = ["a", "b", "c"] :=
    (sortIds_eq_of_perm (by decide)).trans (sortIds_eq_self (by decide))
  have found : links.cycles = [["b"], ["a", "b"], ["a", "c"]] := by
    rw [cycles, CycleSearch.start, sorted]
    decide +kernel
  obtain ⟨real, bounded, distinct⟩ := cycles_real_and_distinct links
  exact ⟨single, found, real _ (by simp [found]), bounded "c" "a", distinct single⟩

/-- A link that is written twice closes its cycle twice. -/
example : cycles [("a", ["a", "a"])] = [["a"], ["a"]] := by decide +kernel

end Links

end Gamebook
