import Gamebook.Proofs.Links.Route

/-! Changes of a graph that a search within a limit does not notice: those of scenes that it does
not reach. -/

namespace Gamebook

section Walks

variable {leads others : String → String → Prop} {start id : String} {length bound : Nat}

/-- A walk with one more step comes by the scene before the last step. -/
theorem walk_succ_iff :
    Walk leads start (length + 1) id ↔
      ∃ before, Walk leads start length before ∧ leads before id := by
  constructor
  -- The last step of a walk is the one that makes it longer.
  · intro walk
    cases walk with
    | step before last => exact ⟨_, before, last⟩
  · rintro ⟨_, before, last⟩
    exact before.step last

/-- Relations that lead on alike from wherever a short walk leads have the same walks that are at
most one step longer. -/
theorem walk_iff_of_agree
    (agree : ∀ length, length < bound → ∀ a, Walk leads start length a →
      ∀ b, others a b ↔ leads a b)
    (within : length ≤ bound) : Walk others start length id ↔ Walk leads start length id := by
  -- By induction on the length, since each scene on the way is reached by a shorter walk.
  induction length generalizing id with
  | zero =>
    constructor
    · rintro ⟨⟩
      exact .rest
    · rintro ⟨⟩
      exact .rest
  | succ length ih =>
    rw [walk_succ_iff, walk_succ_iff]
    constructor
    · rintro ⟨before, walk, last⟩
      have same := (ih (by omega)).1 walk
      exact ⟨before, same, (agree length within before same id).1 last⟩
    · rintro ⟨before, walk, last⟩
      exact ⟨before, (ih (by omega)).2 walk, (agree length within before walk id).2 last⟩

end Walks

namespace Links

/-- A change of a graph at one scene. -/
inductive Edit where
  -- The scene leads to the given scenes, whether or not it was a node before.
  | redirect (id : String) (targets : List String)
  -- The scene is a node no longer.
  | remove (id : String)

/-- The scene at which a graph is changed. -/
def Edit.scene : Edit → String
  | redirect id _ => id
  | remove id => id

/-- The graph after a change. -/
def edited (links : Links) : Edit → Links
  | .redirect id targets => Table.put id targets links
  | .remove id => links.filter fun node => node.1 ≠ id

/-- The graph after several changes, one after another. -/
def editedAll (links : Links) (edits : List Edit) : Links := edits.foldl edited links

variable {links others : Links} {start : Option String} {limit : Int} {id target : String}

/-- A change leaves the entry of every other scene as it is. -/
theorem get?_edited_of_ne {edit : Edit} (apart : edit.scene ≠ id) :
    Table.get? id (links.edited edit) = Table.get? id links := by
  -- Neither kind of change touches the entry of another scene.
  cases edit with
  | redirect scene targets =>
    rw [edited, Table.get?_put]
    exact if_neg apart
  | remove scene =>
    have kept := Table.get?_filter (fun name => decide (name ≠ scene)) id links
    exact kept.trans (if_pos (decide_eq_true (Ne.symm apart)))

/-- Several changes leave the entry of every other scene as it is. -/
theorem get?_editedAll_of_ne {edits : List Edit} (apart : ∀ edit ∈ edits, edit.scene ≠ id) :
    Table.get? id (links.editedAll edits) = Table.get? id links := by
  -- The changes are made one by one, and none of them is of the scene.
  induction edits generalizing links with
  | nil => rfl
  | cons edit rest ih =>
    obtain ⟨first, later⟩ := List.forall_mem_cons.1 apart
    exact (ih later).trans (get?_edited_of_ne first)

/-- A scene that is redirected leads to the new scenes. -/
theorem leadsTo_redirect {targets : List String} (member : target ∈ targets) :
    (links.edited (.redirect id targets)).LeadsTo id target := by
  rw [LeadsTo, successors, edited, Table.get?_put, if_pos rfl]
  exact member

/-- A search sees nothing of a graph but the links of the scenes that it reaches with a transition
to spare. -/
theorem reachable_eq_of_agree
    (agree : ∀ id ∈ links.reachable start (limit - 1), others.successors id = links.successors id) :
    others.reachable start limit = links.reachable start limit := by
  apply IdSet.eq_of_mem_iff
  intro id
  rw [mem_reachable, mem_reachable]
  -- A scene before the last step of a short enough walk is one of those on which the graphs agree.
  have same : ∀ first, start = some first → first ≠ "" → ∀ length : Nat, (length : Int) < limit →
      (Walk others.LeadsTo first length id ↔ Walk links.LeadsTo first length id) := by
    intro first named nonempty length short
    refine walk_iff_of_agree ?_ (Nat.le_refl length)
    intro before less a walk b
    have spare : a ∈ links.reachable start (limit - 1) :=
      mem_reachable.2 ⟨first, named, nonempty, before, by omega, walk⟩
    rw [LeadsTo, LeadsTo, agree a spare]
  constructor
  · rintro ⟨first, named, nonempty, length, short, walk⟩
    exact ⟨first, named, nonempty, length, short, (same first named nonempty length short).1 walk⟩
  · rintro ⟨first, named, nonempty, length, short, walk⟩
    exact ⟨first, named, nonempty, length, short, (same first named nonempty length short).2 walk⟩

/-- A lower limit reaches no more scenes. -/
theorem mem_reachable_of_le {lower : Int} (below : lower ≤ limit)
    (member : id ∈ links.reachable start lower) : id ∈ links.reachable start limit := by
  rw [mem_reachable] at member ⊢
  -- The same walk is short enough for the larger limit.
  obtain ⟨first, named, nonempty, length, short, walk⟩ := member
  exact ⟨first, named, nonempty, length, by omega, walk⟩

/-- A scene that is reached with a transition to spare is noticed: where it is redirected, the
search follows. -/
theorem mem_reachable_redirect (spare : id ∈ links.reachable start (limit - 1)) :
    target ∈ (links.edited (.redirect id [target])).reachable start limit := by
  obtain ⟨first, named, nonempty, length, short, walk⟩ := mem_reachable.1 spare
  obtain ⟨distance, bound, away⟩ := walk.exists_isDistance
  have kept : Walk (links.edited (.redirect id [target])).LeadsTo first distance id := by
    refine (walk_iff_of_agree ?_ (Nat.le_refl distance)).2 away.walk
    intro before less a walk b
    -- A shortest walk does not come by its end before, so it keeps its links.
    have apart : (Edit.redirect id [target]).scene ≠ a := by
      rintro rfl
      exact absurd (away.least before walk) (Nat.not_le.2 less)
    rw [LeadsTo, LeadsTo, successors, successors, get?_edited_of_ne apart]
  exact mem_reachable.2 ⟨first, named, nonempty, distance + 1, by omega,
    kept.step (leadsTo_redirect List.mem_cons_self)⟩

/-- Scenes that a search does not reach have no say in it, though it may have seen some of them
beyond its limit: whatever they are made to lead to, and whether they are nodes at all, it reaches
the same scenes. A scene that is reached with a transition to spare does have a say. -/
theorem unreached_without_effect (links : Links) (start : Option String) (limit : Int) :
    (∀ others : Links,
      (∀ id ∈ links.reachable start limit, Table.get? id others = Table.get? id links) →
        others.reachable start limit = links.reachable start limit) ∧
    (∀ edits : List Edit, (∀ edit ∈ edits, edit.scene ∉ links.reachable start limit) →
      (links.editedAll edits).reachable start limit = links.reachable start limit) ∧
    (∀ id ∈ links.reachable start (limit - 1), ∀ target,
      target ∈ (links.edited (.redirect id [target])).reachable start limit) := by
  -- Graphs that agree on what is reached have walks to the same scenes.
  have same : ∀ others : Links,
      (∀ id ∈ links.reachable start limit, Table.get? id others = Table.get? id links) →
        others.reachable start limit = links.reachable start limit := by
    intro others agree
    apply reachable_eq_of_agree
    intro id spare
    rw [successors, successors, agree id (mem_reachable_of_le (by omega) spare)]
  refine ⟨same, ?_, fun id spare target => mem_reachable_redirect spare⟩
  intro edits unreached
  apply same
  intro id reached
  apply get?_editedAll_of_ne
  rintro edit member rfl
  exact unreached edit member reached

/-- A search from the gate has seen the attic, but beyond its limit, and has not seen the well; what
becomes of either makes no difference. The yard is reached though it is no node, and what becomes of
the gate makes a difference. -/
theorem unreached_without_effect_gate :
    let links : Links := [("gate", ["hall", "yard"]), ("hall", ["attic", "hall"]),
      ("attic", ["gate"]), ("well", ["gate"])]
    let edits : List Edit := [.redirect "attic" ["roof", "well"], .remove "well",
      .redirect "roof" ["gate"], .redirect "attic" []]
    let others : Links := [("well", ["attic"]), ("hall", ["attic", "hall"]), ("roof", ["well"]),
      ("gate", ["hall", "yard"])]
    (links.reachable (some "gate") 2).ids = ["gate", "hall", "yard"] ∧
      (∀ id ∈ links.reachable (some "gate") 2, Table.get? id others = Table.get? id links) ∧
      others.reachable (some "gate") 2 = links.reachable (some "gate") 2 ∧
      (∀ edit ∈ edits, edit.scene ∉ links.reachable (some "gate") 2) ∧
      (links.editedAll edits).reachable (some "gate") 2 = links.reachable (some "gate") 2 ∧
      "gate" ∈ links.reachable (some "gate") (2 - 1) ∧
      "well" ∈ (links.edited (.redirect "gate" ["well"])).reachable (some "gate") 2 := by
  intro links edits others
  -- The attic is two links away from the gate, and nothing leads to the well.
  have found : (links.reachable (some "gate") 2).ids = ["gate", "hall", "yard"] := by
    decide +kernel
  have agree : ∀ id ∈ links.reachable (some "gate") 2,
      Table.get? id others = Table.get? id links := by
    intro id reached
    rw [IdSet.mem_def, found] at reached
    revert id
    decide
  have unreached : ∀ edit ∈ edits, edit.scene ∉ links.reachable (some "gate") 2 := by
    intro edit member
    rw [IdSet.mem_def, found]
    revert edit
    decide
  have spare : "gate" ∈ links.reachable (some "gate") (2 - 1) := by decide +kernel
  obtain ⟨same, keeps, notices⟩ := unreached_without_effect links (some "gate") 2
  exact ⟨found, agree, same others agree, unreached, keeps edits unreached, spare,
    notices "gate" spare "well"⟩

end Links

end Gamebook
