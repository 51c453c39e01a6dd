import Gamebook.Links.Search
import Gamebook.Proofs.Links

/-! Breadth-first search finds exactly the scenes that a short enough walk leads to. -/

namespace Gamebook

/-- Where a run takes one step after another while there is one, a run of one step more takes the
last step where the others end, if there is one. -/
theorem run_succ_of_step {State : Type} {step : State → Option State} {run : Nat → State → State}
    (rest : ∀ state, run 0 state = state)
    (goes : ∀ steps state, run (steps + 1) state = ((step state).map (run steps)).getD state)
    (steps : Nat) (state : State) :
    run (steps + 1) state = (step (run steps state)).getD (run steps state) := by
  -- The steps are taken from the front, and the last one is to be split off.
  induction steps generalizing state with
  | zero =>
    rw [goes, rest]
    cases step state with
    | none => rfl
    | some next => exact rest next
  | succ steps ih =>
    rw [goes steps, goes]
    cases taken : step state with
    | none => simp [taken]
    | some next => exact ih next

namespace Search

/-- The number of transitions recorded for a scene that has been seen. -/
def depth? (id : String) (search : Search) : Option Nat := Table.get? id search.depths

/-- What a search sees anew among the successors of a scene. -/
structure Discovery (depth : Nat) (successors fresh : List String) (before after : Search) :
    Prop where
  queue : after.queue = before.queue ++ fresh
  reached : after.reached = before.reached
  depths : ∀ id, after.depth? id = if id ∈ fresh then some depth else before.depth? id
  distinct : fresh.Nodup
  mem_fresh : ∀ id, id ∈ fresh ↔ id ∈ successors ∧ before.depth? id = none
  short : fresh.length ≤ successors.length

/-- The successors of a scene are discovered if they have not been seen, each once. -/
theorem exists_discovery (depth : Nat) (successors : List String) (search : Search) :
    ∃ fresh, Discovery depth successors fresh search
      (successors.foldl (discover depth) search) := by
  induction successors generalizing search with
  | nil => exact ⟨[], by simp, rfl, by simp, List.nodup_nil, by simp, Nat.le_refl 0⟩
  | cons successor rest ih =>
    rw [List.foldl_cons]
    cases seen : search.depth? successor with
    | some known =>
      -- A scene that was seen before leaves the search as it is.
      have kept : discover depth search successor = search := by
        rw [discover, if_pos]
        rw [Table.has_iff, Table.mem_keys_iff]
        exact ⟨known, seen⟩
      rw [kept]
      obtain ⟨fresh, later⟩ := ih search
      refine ⟨fresh, later.queue, later.reached, later.depths, later.distinct, ?_,
        Nat.le_succ_of_le later.short⟩
      intro id
      rw [later.mem_fresh, List.mem_cons]
      constructor
      · rintro ⟨member, unseen⟩
        exact ⟨.inr member, unseen⟩
      · rintro ⟨rfl | member, unseen⟩
        · rw [seen] at unseen
          cases unseen
        · exact ⟨member, unseen⟩
    | none =>
      have absent : ¬ Table.has successor search.depths = true := by
        rw [Table.has_iff, ← Table.get?_eq_none_iff]
        exact seen
      rw [discover, if_neg absent]
      obtain ⟨fresh, later⟩ := ih { search with
        depths := Table.put successor depth search.depths
        queue := search.queue ++ [successor] }
      have depths := later.depths
      have mem_fresh := later.mem_fresh
      simp only [depth?, Table.get?_put] at depths mem_fresh
      refine ⟨successor :: fresh, ?_, later.reached, ?_, ?_, ?_, ?_⟩
      · rw [later.queue, List.append_assoc]
        rfl
      · intro id
        rw [depth?, depths, depth?]
        simp only [List.mem_cons]
        grind
      · refine List.nodup_cons.2 ⟨?_, later.distinct⟩
        intro member
        have unseen := ((mem_fresh successor).1 member).2
        rw [if_pos rfl] at unseen
        cases unseen
      · intro id
        rw [List.mem_cons, mem_fresh, List.mem_cons]
        simp only [depth?] at seen ⊢
        grind
      · simpa using later.short

variable {links : Links} {limit : Int} {start : String} {search next : Search}

/-- A search is over when no scene waits. -/
theorem step_eq_none_iff : search.step links limit = none ↔ search.queue = [] := by
  rw [step]
  -- There is a step exactly while a scene waits.
  split
  · next empty => simp [empty]
  · next current waiting queued =>
    simp only [queued, reduceCtorEq, iff_false]
    split <;> simp

/-- A turn takes the first waiting scene, and either leaves it at the limit or counts it and
discovers its successors. -/
theorem step_cases (taken : search.step links limit = some next) :
    ∃ current waiting, search.queue = current :: waiting ∧
      ((limit ≤ ((search.depth? current).getD 0 : Nat) ∧ next = { search with queue := waiting }) ∨
        (((search.depth? current).getD 0 : Nat) < limit ∧
          ∃ fresh, Discovery ((search.depth? current).getD 0 + 1) (links.successors current) fresh
            { search with queue := waiting, reached := search.reached.insert current } next)) := by
  rw [step] at taken
  split at taken
  · cases taken
  · next current waiting queued =>
    refine ⟨current, waiting, queued, ?_⟩
    simp only [depth?] at taken ⊢
    -- The first scene is passed over at the limit, and else its successors are taken up.
    split at taken
    · next atLimit => exact .inl ⟨atLimit, (Option.some.inj taken).symm⟩
    · next below =>
      refine .inr ⟨Int.not_le.1 below, ?_⟩
      cases taken
      exact exists_discovery _ _ _

/-- What holds of a search from a start at every turn. -/
structure Valid (links : Links) (limit : Int) (start : String) (search : Search) : Prop where
  -- The start is at no distance from itself.
  begun : search.depth? start = some 0
  -- A recorded depth is the length of a walk.
  walked : ∀ id depth, search.depth? id = some depth → Walk links.LeadsTo start depth id
  -- A waiting scene has been seen, and waits once.
  queued : ∀ id ∈ search.queue, ∃ depth, search.depth? id = some depth
  distinct : search.queue.Nodup
  -- Scenes wait in order of depth, and no scene is seen more than one step beyond them.
  ordered : search.queue.Pairwise fun a b =>
    ∀ depth later, search.depth? a = some depth → search.depth? b = some later → depth ≤ later
  near : ∀ a ∈ search.queue, ∀ depth, search.depth? a = some depth →
    ∀ b far, search.depth? b = some far → far ≤ depth + 1
  -- What had its turn below the limit is counted, and its successors have been seen.
  counted : ∀ id, id ∈ search.reached ↔
    id ∉ search.queue ∧ ∃ depth : Nat, search.depth? id = some depth ∧ (depth : Int) < limit
  closed : ∀ id depth, id ∉ search.queue → search.depth? id = some depth → (depth : Int) < limit →
    ∀ successor, links.LeadsTo id successor →
      ∃ next, search.depth? successor = some next ∧ next ≤ depth + 1

/-- A search that has only seen its start is valid. -/
theorem valid_start : Valid links limit start (.start start) := by
  -- At first only the start has a depth, and it waits.
  have depth_iff : ∀ id depth, (Search.start start).depth? id = some depth ↔
      id = start ∧ depth = 0 := by
    intro id depth
    simp only [depth?, Search.start, Table.get?]
    grind
  refine ⟨?_, ?_, ?_, ?_, ?_, ?_, ?_, ?_⟩
  · exact (depth_iff start 0).2 ⟨rfl, rfl⟩
  · intro id depth seen
    obtain ⟨rfl, rfl⟩ := (depth_iff id depth).1 seen
    exact .rest
  · intro id member
    rw [Search.start, List.mem_singleton] at member
    exact ⟨0, (depth_iff id 0).2 ⟨member, rfl⟩⟩
  · exact List.nodup_singleton start
  · exact List.pairwise_singleton _ start
  · intro a _ depth _ b far seen
    obtain ⟨_, rfl⟩ := (depth_iff b far).1 seen
    exact Nat.zero_le _
  · intro id
    constructor
    · intro member
      exact absurd member IdSet.not_mem_empty
    · rintro ⟨out, depth, seen, _⟩
      exact absurd (List.mem_singleton.2 ((depth_iff id depth).1 seen).1) out
  · intro id depth out seen
    exact absurd (List.mem_singleton.2 ((depth_iff id depth).1 seen).1) out

/-- Passing over a scene at the limit keeps a search valid. -/
theorem Valid.skip {current : String} {waiting : List String}
    (valid : Valid links limit start search) (queued : search.queue = current :: waiting)
    (atLimit : limit ≤ ((search.depth? current).getD 0 : Nat)) :
    Valid links limit start { search with queue := waiting } := by
  have member : ∀ id, id ∈ search.queue ↔ id = current ∨ id ∈ waiting := by
    intro id
    rw [queued, List.mem_cons]
  have distinct := valid.distinct
  have ordered := valid.ordered
  rw [queued] at distinct ordered
  obtain ⟨currentDepth, seen⟩ := valid.queued current ((member current).2 (.inl rfl))
  rw [seen, Option.getD_some] at atLimit
  -- The scene that leaves the queue has a depth that the limit excludes.
  have excluded : ∀ depth : Nat, search.depth? current = some depth → ¬ (depth : Int) < limit := by
    intro depth found
    rw [seen] at found
    cases found
    omega
  refine ⟨valid.begun, valid.walked, ?_, (List.nodup_cons.1 distinct).2,
    (List.pairwise_cons.1 ordered).2, ?_, ?_, ?_⟩
  · intro id waits
    exact valid.queued id ((member id).2 (.inr waits))
  · intro a waits
    exact valid.near a ((member a).2 (.inr waits))
  · intro id
    show id ∈ search.reached ↔ id ∉ waiting ∧ _
    rw [valid.counted, member]
    constructor
    · rintro ⟨out, depth, found, below⟩
      exact ⟨fun waits => out (.inr waits), depth, found, below⟩
    · rintro ⟨out, depth, found, below⟩
      refine ⟨?_, depth, found, below⟩
      rintro (rfl | waits)
      · exact excluded depth found below
      · exact out waits
  · intro id depth out found below
    refine valid.closed id depth ?_ found below
    intro waits
    rcases (member id).1 waits with rfl | waits
    · exact excluded depth found below
    · exact out waits

/-- A turn that counts the first waiting scene and discovers its successors. -/
structure Turn (links : Links) (current : String) (depth : Nat) (waiting fresh : List String)
    (search next : Search) : Prop where
  queued : search.queue = current :: waiting
  seen : search.depth? current = some depth
  found : Discovery (depth + 1) (links.successors current) fresh
    { search with queue := waiting, reached := search.reached.insert current } next

namespace Turn

variable {current : String} {depth : Nat} {waiting fresh : List String}

/-- After a turn the scenes discovered by it wait behind the others. -/
theorem queue (turn : Turn links current depth waiting fresh search next) :
    next.queue = waiting ++ fresh :=
  turn.found.queue

/-- What waited before a turn is its scene and the scenes behind it. -/
theorem mem_queue (turn : Turn links current depth waiting fresh search next) (id : String) :
    id ∈ search.queue ↔ id = current ∨ id ∈ waiting := by
  rw [turn.queued, List.mem_cons]

/-- A turn discovers the successors that have not been seen. -/
theorem mem_fresh (turn : Turn links current depth waiting fresh search next) (id : String) :
    id ∈ fresh ↔ links.LeadsTo current id ∧ search.depth? id = none :=
  turn.found.mem_fresh id

/-- A scene discovered by a turn is one step beyond the scene of the turn. -/
theorem depth_fresh (turn : Turn links current depth waiting fresh search next) {id : String}
    (isFresh : id ∈ fresh) : next.depth? id = some (depth + 1) := by
  rw [turn.found.depths, if_pos isFresh]

/-- What was seen before a turn is not discovered by it. -/
theorem stale (turn : Turn links current depth waiting fresh search next) {id : String}
    {known : Nat} (before : search.depth? id = some known) : id ∉ fresh := by
  intro isFresh
  -- What is fresh had no depth before.
  have unseen := ((turn.mem_fresh id).1 isFresh).2
  rw [before] at unseen
  cases unseen

/-- What was seen before a turn keeps its depth. -/
theorem kept (turn : Turn links current depth waiting fresh search next) {id : String}
    {known : Nat} (before : search.depth? id = some known) : next.depth? id = some known := by
  -- A turn marks only scenes that were not marked.
  rw [turn.found.depths, if_neg (turn.stale before)]
  exact before

/-- What has been seen after a turn was discovered by it or seen before. -/
theorem depth_cases (turn : Turn links current depth waiting fresh search next) {id : String}
    {known : Nat} (after : next.depth? id = some known) :
    id ∈ fresh ∧ known = depth + 1 ∨ id ∉ fresh ∧ search.depth? id = some known := by
  -- Fresh scenes get the next depth, and all others keep theirs.
  rw [turn.found.depths] at after
  split at after
  · next isFresh => exact .inl ⟨isFresh, (Option.some.inj after).symm⟩
  · next isStale => exact .inr ⟨isStale, after⟩

/-- No scene has been seen more than one step beyond the scene of a turn. -/
theorem bounded (turn : Turn links current depth waiting fresh search next)
    (valid : Valid links limit start search) {id : String} {known : Nat}
    (after : next.depth? id = some known) : known ≤ depth + 1 := by
  -- A scene is marked either at this turn or at an earlier one.
  rcases turn.depth_cases after with ⟨_, rfl⟩ | ⟨_, before⟩
  · exact Nat.le_refl _
  · exact valid.near current ((turn.mem_queue current).2 (.inl rfl)) depth turn.seen id known before

/-- A scene that waits on has been seen before the turn, at least as deep as the turn's scene. -/
theorem waiting_seen (turn : Turn links current depth waiting fresh search next)
    (valid : Valid links limit start search) {id : String} (waits : id ∈ waiting) :
    ∃ known, search.depth? id = some known ∧ depth ≤ known := by
  obtain ⟨known, before⟩ := valid.queued id ((turn.mem_queue id).2 (.inr waits))
  -- The queue is in order of depth, and the current scene was its first.
  have ordered := valid.ordered
  rw [turn.queued] at ordered
  exact ⟨known, before,
    (List.pairwise_cons.1 ordered).1 id waits depth known turn.seen before⟩

/-- A scene that waits after a turn is at least as deep as the turn's scene. -/
theorem depth_le (turn : Turn links current depth waiting fresh search next)
    (valid : Valid links limit start search) {id : String} {known : Nat}
    (waits : id ∈ next.queue) (after : next.depth? id = some known) : depth ≤ known := by
  rw [turn.queue, List.mem_append] at waits
  -- What waited is at least as deep, and what is fresh is one deeper.
  rcases waits with waits | isFresh
  · obtain ⟨earlier, before, above⟩ := turn.waiting_seen valid waits
    rw [turn.kept before] at after
    cases after
    exact above
  · rw [turn.depth_fresh isFresh] at after
    cases after
    exact Nat.le_succ depth

/-- After a turn no scene waits twice. -/
theorem distinct (turn : Turn links current depth waiting fresh search next)
    (valid : Valid links limit start search) : next.queue.Nodup := by
  have distinct := valid.distinct
  rw [turn.queued] at distinct
  rw [turn.queue, List.nodup_append]
  refine ⟨(List.nodup_cons.1 distinct).2, turn.found.distinct, ?_⟩
  -- A scene that waits has a depth, and a fresh one has none.
  rintro id waits _ isFresh rfl
  obtain ⟨known, before, _⟩ := turn.waiting_seen valid waits
  exact turn.stale before isFresh

/-- After a turn scenes still wait in order of depth. -/
theorem ordered (turn : Turn links current depth waiting fresh search next)
    (valid : Valid links limit start search) :
    next.queue.Pairwise fun a b => ∀ depth later,
      next.depth? a = some depth → next.depth? b = some later → depth ≤ later := by
  have ordered := valid.ordered
  rw [turn.queued] at ordered
  rw [turn.queue, List.pairwise_append]
  refine ⟨?_, ?_, ?_⟩
  · -- Both scenes waited before, so their depths are unchanged.
    refine (List.pairwise_cons.1 ordered).2.imp_of_mem ?_
    intro a b waitsA waitsB inOrder known later afterA afterB
    obtain ⟨_, beforeA, _⟩ := turn.waiting_seen valid waitsA
    obtain ⟨_, beforeB, _⟩ := turn.waiting_seen valid waitsB
    rw [turn.kept beforeA] at afterA
    rw [turn.kept beforeB] at afterB
    cases afterA
    cases afterB
    exact inOrder _ _ beforeA beforeB
  · refine List.pairwise_of_forall_mem_list ?_
    intro a isFreshA b isFreshB known later afterA afterB
    rw [turn.depth_fresh isFreshA] at afterA
    rw [turn.depth_fresh isFreshB] at afterB
    cases afterA
    cases afterB
    exact Nat.le_refl _
  · intro a _ b isFresh known later afterA afterB
    rw [turn.depth_fresh isFresh] at afterB
    cases afterB
    exact turn.bounded valid afterA

/-- A turn below the limit counts its scene. -/
theorem counted (turn : Turn links current depth waiting fresh search next)
    (valid : Valid links limit start search) (below : (depth : Int) < limit) (id : String) :
    id ∈ next.reached ↔
      id ∉ next.queue ∧ ∃ known : Nat, next.depth? id = some known ∧ (known : Int) < limit := by
  have distinct := valid.distinct
  rw [turn.queued] at distinct
  rw [turn.found.reached, turn.queue, List.mem_append]
  show id ∈ search.reached.insert current ↔ _
  rw [IdSet.mem_insert, valid.counted, turn.mem_queue]
  constructor
  -- ⟨out | The current scene is counted now, and every other one is as it was before.
  · rintro (rfl | ⟨out, known, before, less⟩)
    · refine ⟨?_, depth, turn.kept turn.seen, below⟩
      rintro (waits | isFresh)
      · exact (List.nodup_cons.1 distinct).1 waits
      · exact turn.stale turn.seen isFresh
    · refine ⟨?_, known, turn.kept before, less⟩
      rintro (waits | isFresh)
      · exact out (.inr waits)
      · exact turn.stale before isFresh
  · rintro ⟨out, known, after, less⟩
    by_cases same : id = current
    · exact .inl same
    · rcases turn.depth_cases after with ⟨isFresh, _⟩ | ⟨_, before⟩
      · exact absurd (.inr isFresh) out
      · refine .inr ⟨?_, known, before, less⟩
        rintro (isCurrent | waits)
        · exact same isCurrent
        · exact out (.inl waits)

/-- After a turn the successors of every counted scene have been seen. -/
theorem closed (turn : Turn links current depth waiting fresh search next)
    (valid : Valid links limit start search) {id successor : String} {known : Nat}
    (out : id ∉ next.queue) (after : next.depth? id = some known) (less : (known : Int) < limit)
    (leads : links.LeadsTo id successor) :
    ∃ far, next.depth? successor = some far ∧ far ≤ known + 1 := by
  rw [turn.queue, List.mem_append] at out
  rcases turn.depth_cases after with ⟨isFresh, _⟩ | ⟨_, before⟩
  · exact absurd (.inr isFresh) out
  by_cases same : id = current
  · -- Each successor of the turn's scene is discovered now, or was seen before.
    subst same
    rw [turn.seen] at before
    cases before
    by_cases isFresh : successor ∈ fresh
    · exact ⟨depth + 1, turn.depth_fresh isFresh, Nat.le_refl _⟩
    · cases earlier : search.depth? successor with
      | none => exact absurd ((turn.mem_fresh successor).2 ⟨leads, earlier⟩) isFresh
      | some far => exact ⟨far, turn.kept earlier, turn.bounded valid (turn.kept earlier)⟩
  · have settled : id ∉ search.queue := by
      rw [turn.mem_queue]
      rintro (isCurrent | waits)
      · exact same isCurrent
      · exact out (.inl waits)
    obtain ⟨far, earlier, close⟩ := valid.closed id known settled before less successor leads
    exact ⟨far, turn.kept earlier, close⟩

/-- A turn below the limit keeps a search valid. -/
theorem valid (turn : Turn links current depth waiting fresh search next)
    (valid : Valid links limit start search) (below : (depth : Int) < limit) :
    Valid links limit start next where
  begun := turn.kept valid.begun
  walked := by
    -- A discovered scene is one step beyond the scene of the turn.
    intro id known after
    rcases turn.depth_cases after with ⟨isFresh, rfl⟩ | ⟨_, before⟩
    · exact (valid.walked current depth turn.seen).step ((turn.mem_fresh id).1 isFresh).1
    · exact valid.walked id known before
  queued := by
    intro id waits
    rw [turn.queue, List.mem_append] at waits
    rcases waits with waits | isFresh
    · obtain ⟨known, before, _⟩ := turn.waiting_seen valid waits
      exact ⟨known, turn.kept before⟩
    · exact ⟨depth + 1, turn.depth_fresh isFresh⟩
  distinct := turn.distinct valid
  ordered := turn.ordered valid
  near := by
    intro a waits known after b far afterB
    have above := turn.depth_le valid waits after
    have bound := turn.bounded valid afterB
    omega
  counted := turn.counted valid below
  closed := fun _ _ out after less _ leads => turn.closed valid out after less leads

end Turn

/-- What a turn of a valid search does: it passes over a scene at the limit, or counts it. -/
theorem Valid.step_cases (valid : Valid links limit start search)
    (taken : search.step links limit = some next) :
    ∃ current waiting, search.queue = current :: waiting ∧
      (limit ≤ ((search.depth? current).getD 0 : Nat) ∧ next = { search with queue := waiting } ∨
        ∃ (depth : Nat) (fresh : List String), (depth : Int) < limit ∧
          Turn links current depth waiting fresh search next) := by
  obtain ⟨current, waiting, queued, passed | ⟨below, fresh, found⟩⟩ := Search.step_cases taken
  · exact ⟨current, waiting, queued, .inl passed⟩
  -- In a valid search the current scene has a depth.
  · obtain ⟨depth, seen⟩ := valid.queued current (by simp [queued])
    rw [seen, Option.getD_some] at below found
    exact ⟨current, waiting, queued, .inr ⟨depth, fresh, below, queued, seen, found⟩⟩

/-- Every turn keeps a search valid. -/
theorem Valid.step (valid : Valid links limit start search)
    (taken : search.step links limit = some next) : Valid links limit start next := by
  -- A scene is passed over at the limit, or its turn is taken.
  obtain ⟨current, waiting, queued, ⟨atLimit, rfl⟩ | ⟨depth, fresh, below, turn⟩⟩ :=
    valid.step_cases taken
  · exact valid.skip queued atLimit
  · exact turn.valid valid below

/-- Any number of turns keeps a search valid. -/
theorem Valid.run (valid : Valid links limit start search) (fuel : Nat) :
    Valid links limit start (search.run links limit fuel) := by
  induction fuel generalizing search with
  | zero => exact valid
  | succ fuel ih =>
    rw [Search.run]
    -- A run stops where there is no step, and else goes on from a valid search.
    split
    · exact valid
    · next next taken => exact ih (valid.step taken)

/-- Whether a scene still has a turn ahead: it waits, or has not been seen. -/
def isAhead (search : Search) (id : String) : Bool :=
  search.queue.contains id || (search.depth? id).isNone

/-- A bound on the turns ahead: those that wait, and one for each link of a node ahead. -/
def turnsAhead (links : Links) (search : Search) : Nat :=
  search.queue.length + Links.edgeCount (links.filter fun node => search.isAhead node.1)

/-- What is ahead waits or is unseen. -/
theorem isAhead_iff {id : String} :
    search.isAhead id = true ↔ id ∈ search.queue ∨ search.depth? id = none := by
  simp [isAhead]

/-- Fewer nodes have no more links. -/
theorem edgeCount_filter_le (links : Links) {few many : String → Bool}
    (fewer : ∀ id, few id = true → many id = true) :
    Links.edgeCount (links.filter fun node => few node.1) ≤
      Links.edgeCount (links.filter fun node => many node.1) := by
  induction links with
  | nil => exact Nat.le_refl _
  | cons node rest ih =>
    rw [List.filter_cons, List.filter_cons]
    -- A node that few keep is kept by many as well.
    by_cases kept : few node.1 = true
    · rw [if_pos kept, if_pos (fewer _ kept)]
      exact Nat.add_le_add_left ih _
    · rw [if_neg kept]
      split
      · exact Nat.le_trans ih (Nat.le_add_left _ _)
      · exact ih

/-- Without one more node there are fewer links, by at least those of the node. -/
theorem successors_add_edgeCount_filter_le (links : Links) {few many : String → Bool} {id : String}
    (fewer : ∀ other, few other = true → many other = true) (out : few id = false)
    (within : many id = true) :
    (links.successors id).length + Links.edgeCount (links.filter fun node => few node.1) ≤
      Links.edgeCount (links.filter fun node => many node.1) := by
  induction links with
  | nil => exact Nat.le_refl _
  | cons node rest ih =>
    obtain ⟨other, targets⟩ := node
    have smaller := edgeCount_filter_le rest fewer
    have unfolded (kept : List (String × List String)) :
        Links.edgeCount ((other, targets) :: kept) = targets.length + Links.edgeCount kept := rfl
    rw [List.filter_cons, List.filter_cons, Links.successors, Table.get?]
    by_cases same : other = id
    · -- The successors of a node are the links of its first entry.
      subst same
      rw [if_pos rfl, if_neg (by simp [out]), if_pos within, unfolded]
      simpa using smaller
    · rw [if_neg same]
      have rest_le : ((Table.get? id rest).getD []).length + _ ≤ _ := ih
      by_cases kept : few other = true
      · rw [if_pos kept, if_pos (fewer other kept), unfolded, unfolded]
        omega
      · rw [if_neg kept]
        split
        · rw [unfolded]
          omega
        · exact rest_le

/-- At first there is a turn for the start and at most one for each link. -/
theorem turnsAhead_start (links : Links) (start : String) :
    (Search.start start).turnsAhead links ≤ links.edgeCount + 1 := by
  -- Each link can put a scene into the queue once, and the start is there already.
  have all : Links.edgeCount (links.filter fun node => (Search.start start).isAhead node.1) ≤
      Links.edgeCount (links.filter fun _ => true) :=
    edgeCount_filter_le links fun _ _ => rfl
  rw [List.filter_true] at all
  have one : (Search.start start).queue.length = 1 := rfl
  rw [turnsAhead]
  omega

/-- Every turn leaves fewer turns ahead. -/
theorem Valid.turnsAhead_lt (valid : Valid links limit start search)
    (taken : search.step links limit = some next) :
    next.turnsAhead links < search.turnsAhead links := by
  have distinct := valid.distinct
  obtain ⟨current, waiting, queued, ⟨_, rfl⟩ | ⟨depth, fresh, _, turn⟩⟩ := valid.step_cases taken
  · -- The scene at the limit leaves the queue, and nothing else changes.
    have fewer : ∀ id, ({ search with queue := waiting } : Search).isAhead id = true →
        search.isAhead id = true := by
      intro id ahead
      rw [isAhead_iff] at ahead ⊢
      rw [queued, List.mem_cons]
      exact ahead.imp_left .inr
    have links_le := edgeCount_filter_le links fewer
    have length : search.queue.length = waiting.length + 1 := by rw [queued, List.length_cons]
    simp only [turnsAhead] at links_le ⊢
    omega
  · rw [queued] at distinct
    have fewer : ∀ id, next.isAhead id = true → search.isAhead id = true := by
      intro id ahead
      rw [isAhead_iff] at ahead ⊢
      rw [turn.mem_queue]
      rcases ahead with waits | unseen
      · rw [turn.queue, List.mem_append] at waits
        rcases waits with waits | isFresh
        · exact .inl (.inr waits)
        · exact .inr ((turn.mem_fresh id).1 isFresh).2
      · cases before : search.depth? id with
        | none => exact .inr rfl
        | some known =>
          rw [turn.kept before] at unseen
          cases unseen
    -- The scene of the turn is never ahead again, which pays for what it discovers.
    have out : next.isAhead current = false := by
      rw [Bool.eq_false_iff, ne_eq, isAhead_iff, turn.queue, List.mem_append,
        turn.kept turn.seen]
      rintro ((waits | isFresh) | unseen)
      · exact (List.nodup_cons.1 distinct).1 waits
      · exact turn.stale turn.seen isFresh
      · cases unseen
    have within : search.isAhead current = true := by
      rw [isAhead_iff, queued]
      exact .inl List.mem_cons_self
    have links_le := successors_add_edgeCount_filter_le links fewer out within
    have short := turn.found.short
    have length : search.queue.length = waiting.length + 1 := by rw [queued, List.length_cons]
    have nextLength : next.queue.length = waiting.length + fresh.length := by
      rw [turn.queue, List.length_append]
    simp only [turnsAhead]
    omega

/-- A search with enough fuel goes on until no scene waits. -/
theorem Valid.queue_run (valid : Valid links limit start search) {fuel : Nat}
    (enough : search.turnsAhead links ≤ fuel) : (search.run links limit fuel).queue = [] := by
  induction fuel generalizing search with
  | zero =>
    rw [turnsAhead, Nat.le_zero, Nat.add_eq_zero_iff] at enough
    exact List.length_eq_zero_iff.1 enough.1
  | succ fuel ih =>
    rw [Search.run]
    -- Each turn makes those that are ahead fewer, so the fuel lasts until the queue is empty.
    split
    · next spent => exact step_eq_none_iff.1 spent
    · next next taken =>
      have fewer := valid.turnsAhead_lt taken
      exact ih (valid.step taken) (by omega)

/-- When no scene waits, every scene that a short enough walk leads to has been seen. -/
theorem Valid.depth_le_of_walk (valid : Valid links limit start search) (spent : search.queue = [])
    {length : Nat} {id : String} (walk : Walk links.LeadsTo start length id)
    (short : (length : Int) < limit) :
    ∃ depth, search.depth? id = some depth ∧ depth ≤ length := by
  induction walk with
  | rest => exact ⟨0, valid.begun, Nat.le_refl 0⟩
  | step before last ih =>
    -- The scene before the last step was counted, so its successors have been seen.
    obtain ⟨depth, seen, bound⟩ := ih (by omega)
    obtain ⟨next, found, close⟩ :=
      valid.closed _ depth (by simp [spent]) seen (by omega) _ last
    exact ⟨next, found, by omega⟩

end Search

namespace Links

/-- A scene is found within a limit exactly when the start is named and some walk with fewer
transitions than the limit leads from it to the scene. -/
theorem mem_reachable {links : Links} {start : Option String} {limit : Int} {id : String} :
    id ∈ links.reachable start limit ↔
      ∃ first, start = some first ∧ first ≠ "" ∧
        ∃ length : Nat, (length : Int) < limit ∧ Walk links.LeadsTo first length id := by
  cases start with
  | none => simp [reachable]
  | some first =>
    by_cases unnamed : first = ""
    · simp [reachable, unnamed]
    have started : Search.Valid links limit first (.start first) := Search.valid_start
    have valid := started.run (links.edgeCount + 1)
    have spent := started.queue_run (Search.turnsAhead_start links first)
    simp only [reachable, if_neg unnamed, valid.counted, spent, Option.some.injEq]
    -- Where the queue is empty, having a depth below the limit is having a short walk.
    constructor
    · rintro ⟨_, depth, seen, below⟩
      exact ⟨first, rfl, unnamed, depth, below, valid.walked id depth seen⟩
    · rintro ⟨_, rfl, _, length, short, walk⟩
      obtain ⟨depth, seen, bound⟩ := valid.depth_le_of_walk spent walk short
      exact ⟨List.not_mem_nil, depth, seen, by omega⟩

end Links

end Gamebook
