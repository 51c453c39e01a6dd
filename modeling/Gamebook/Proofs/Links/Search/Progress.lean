import Gamebook.Proofs.Links.Route

/-! Every turn of a breadth-first search: scenes wait in order of depth, none is put into the queue
twice, and each recorded depth is the length of a shortest walk. -/

namespace Gamebook

namespace Search

variable {links : Links} {limit : Int} {start : String} {search next : Search}

section Distances

/-- Only scenes below the limit are followed: every recorded depth is that of the start, or one more
than a depth below the limit. -/
def IsLimited (limit : Int) (search : Search) : Prop :=
  ∀ id (depth : Nat), search.depth? id = some (depth + 1) → (depth : Int) < limit

/-- A search that has seen only its start has followed no scene. -/
theorem isLimited_start : IsLimited limit (.start start) := by
  intro id depth seen
  -- Only the start has a depth, and it is 0.
  simp only [depth?, Search.start, Table.get?] at seen
  split at seen <;> simp at seen

/-- No turn follows a scene at the limit. -/
theorem IsLimited.step (limited : IsLimited limit search) (valid : Valid links limit start search)
    (taken : search.step links limit = some next) : IsLimited limit next := by
  obtain ⟨current, waiting, -, ⟨-, rfl⟩ | ⟨known, fresh, below, turn⟩⟩ := valid.step_cases taken
  · exact limited
  · intro id depth seen
    -- A fresh scene is one deeper than a scene below the limit.
    rcases turn.depth_cases seen with ⟨-, same⟩ | ⟨-, before⟩
    · rw [Nat.add_right_cancel_iff] at same
      exact same ▸ below
    · exact limited id depth before

/-- What a walk leads to has been seen in time, unless the walk comes by a nearer scene that still
waits, or comes to the limit. -/
theorem Valid.seen_or_nearer (valid : Valid links limit start search) {length : Nat} {id : String}
    (walk : Walk links.LeadsTo start length id) :
    (∃ depth, search.depth? id = some depth ∧ depth ≤ length) ∨
      ∃ nearer : Nat, nearer < length ∧
        ((∃ waits ∈ search.queue, search.depth? waits = some nearer) ∨ limit ≤ nearer) := by
  induction walk with
  | rest => exact .inl ⟨0, valid.begun, Nat.le_refl 0⟩
  | @step length before id _ last ih =>
    rcases ih with ⟨depth, seen, bound⟩ | ⟨nearer, less, stops⟩
    · by_cases waits : before ∈ search.queue
      · exact .inr ⟨depth, Nat.lt_succ_of_le bound, .inl ⟨before, waits, seen⟩⟩
      · by_cases below : (depth : Int) < limit
        · -- The scene before the last step has had its turn, so its successors have been seen.
          obtain ⟨far, found, close⟩ := valid.closed before depth waits seen below id last
          exact .inl ⟨far, found, by omega⟩
        · exact .inr ⟨depth, Nat.lt_succ_of_le bound, .inr (Int.not_lt.1 below)⟩
    · exact .inr ⟨nearer, Nat.lt_succ_of_lt less, stops⟩

/-- No walk to a scene that has been seen is shorter than the recorded depth. -/
theorem Valid.depth_le (valid : Valid links limit start search) (limited : IsLimited limit search)
    {length depth : Nat} {id : String} (seen : search.depth? id = some depth)
    (walk : Walk links.LeadsTo start length id) : depth ≤ length := by
  rcases valid.seen_or_nearer walk with
    ⟨known, found, bound⟩ | ⟨nearer, less, ⟨waits, member, found⟩ | cut⟩
  · cases seen.symm.trans found
    exact bound
  · -- Nothing is recorded more than one step beyond a scene that waits.
    have close := valid.near waits member nearer found id depth seen
    omega
  · cases depth with
    | zero => exact Nat.zero_le length
    | succ depth =>
      have below := limited id depth seen
      omega

/-- Every recorded depth is the length of a shortest walk. -/
theorem Valid.isDistance (valid : Valid links limit start search)
    (limited : IsLimited limit search) {depth : Nat} {id : String}
    (seen : search.depth? id = some depth) : IsDistance links.LeadsTo start depth id :=
  ⟨valid.walked id depth seen, fun _ walk => valid.depth_le limited seen walk⟩

end Distances

section Queue

/-- What holds of the queue and the depths at every turn of a search from a start. -/
structure InOrder (links : Links) (start : String) (search : Search) : Prop where
  -- Each waiting scene has a recorded depth; along the queue the depths never decrease, and the
  -- last is at most one more than the first.
  levels : ∃ depths : List Nat, search.queue.map search.depth? = depths.map some ∧
    depths.Pairwise (· ≤ ·) ∧ ∀ first ∈ depths.head?, ∀ last ∈ depths.getLast?, last ≤ first + 1
  shortest : ∀ id depth, search.depth? id = some depth → IsDistance links.LeadsTo start depth id

/-- Waiting scenes have recorded depths. -/
theorem Valid.exists_depths (valid : Valid links limit start search) :
    ∃ depths : List Nat, search.queue.map search.depth? = depths.map some := by
  refine ⟨search.queue.map fun id => (search.depth? id).getD 0, ?_⟩
  rw [List.map_map]
  refine List.map_congr_left fun id waits => ?_
  -- Every scene that waits has a depth.
  obtain ⟨depth, seen⟩ := valid.queued id waits
  simp [seen]

/-- A valid search that no scene at the limit was followed in is in order. -/
theorem Valid.inOrder (valid : Valid links limit start search) (limited : IsLimited limit search) :
    InOrder links start search := by
  obtain ⟨depths, recorded⟩ := valid.exists_depths
  refine ⟨⟨depths, recorded, ?_, ?_⟩, fun id depth => valid.isDistance limited⟩
  · have ordered : (search.queue.map search.depth?).Pairwise fun a b =>
        ∀ depth later, a = some depth → b = some later → depth ≤ later :=
      List.pairwise_map.2 valid.ordered
    rw [recorded, List.pairwise_map] at ordered
    exact ordered.imp fun inOrder => inOrder _ _ rfl rfl
  · intro first isFirst last isLast
    -- A depth at either end of the list is that of a scene that waits.
    have waiting : ∀ depth ∈ depths, ∃ id ∈ search.queue, search.depth? id = some depth := by
      intro depth member
      have listed : some depth ∈ search.queue.map search.depth? := by
        rw [recorded]
        exact List.mem_map_of_mem member
      exact List.mem_map.1 listed
    obtain ⟨a, waitsA, seenA⟩ := waiting first (List.mem_of_mem_head? isFirst)
    obtain ⟨b, waitsB, seenB⟩ := waiting last (List.mem_of_mem_getLast? isLast)
    exact valid.near a waitsA first seenA b last seenB

/-- What a turn puts behind the scenes that wait on. -/
def added (before after : Search) : List String := after.queue.drop before.queue.tail.length

/-- The scenes put into the queue at the start of a search and in its first turns, in order. -/
def enqueued (links : Links) (limit : Int) (start : String) : Nat → List String
  | 0 => (Search.start start).queue
  | turns + 1 => enqueued links limit start turns ++
    added ((Search.start start).run links limit turns)
      ((Search.start start).run links limit (turns + 1))

/-- One turn more is a turn of what was reached before, if a scene waits. -/
theorem run_succ (search : Search) (turns : Nat) :
    search.run links limit (turns + 1) =
      ((search.run links limit turns).step links limit).getD (search.run links limit turns) := by
  -- A search without a next turn stays as it is.
  refine run_succ_of_step (fun _ => rfl) (fun turns search => ?_) turns search
  rw [run]
  cases search.step links limit <;> rfl

/-- What a turn does to the queue: it takes the first scene off and puts scenes behind the others
that have not been seen, each once, and that are recorded then. -/
structure Requeues (search next : Search) : Prop where
  queue : next.queue = search.queue.tail ++ added search next
  distinct : (added search next).Nodup
  unseen : ∀ id ∈ added search next, search.depth? id = none
  recorded : ∀ id, next.depth? id ≠ none ↔ search.depth? id ≠ none ∨ id ∈ added search next

/-- Every turn of a valid search takes one scene off the queue and adds what it discovers. -/
theorem Valid.requeues (valid : Valid links limit start search)
    (taken : search.step links limit = some next) : Requeues search next := by
  obtain ⟨current, waiting, queued, ⟨-, rfl⟩ | ⟨depth, fresh, -, turn⟩⟩ := valid.step_cases taken
  -- At the limit the scene only goes.
  · have nothing : added search { search with queue := waiting } = [] := by
      simp [added, queued]
    constructor <;> simp [nothing, queued, depth?]
  -- Else the fresh scenes are what comes to the end of the queue.
  · have found : added search next = fresh := by
      simp [added, queued, turn.queue]
    constructor
    case queue => rw [found, turn.queue, queued, List.tail_cons]
    case distinct => exact found ▸ turn.found.distinct
    case unseen =>
      rw [found]
      exact fun id isFresh => ((turn.mem_fresh id).1 isFresh).2
    case recorded =>
      intro id
      rw [found, turn.found.depths]
      by_cases isFresh : id ∈ fresh
      · simp [isFresh]
      · simp [isFresh, depth?]

end Queue

/-- In any number of turns a search follows no scene at the limit. -/
theorem Valid.isLimited_run (valid : Valid links limit start search)
    (limited : IsLimited limit search) (turns : Nat) :
    IsLimited limit (search.run links limit turns) := by
  induction turns with
  | zero => exact limited
  | succ turns ih =>
    rw [run_succ]
    -- A search without a step stays as it is.
    cases taken : (search.run links limit turns).step links limit with
    | none => exact ih
    | some next => exact ih.step (valid.run turns) taken

/-- What is known of the scenes that were put into the queue in a number of turns: each turn took
the first of them off, and they are the scenes that have been seen, each once. -/
structure Logged (turns : Nat) (log : List String) (search : Search) : Prop where
  queue : search.queue = log.drop turns
  distinct : log.Nodup
  seen : ∀ id, id ∈ log ↔ search.depth? id ≠ none

/-- One turn more logs what it adds. -/
theorem Logged.step {turns : Nat} {log : List String} (logged : Logged turns log search)
    (valid : Valid links limit start search) (taken : search.step links limit = some next) :
    Logged (turns + 1) (log ++ added search next) next := by
  have requeues := valid.requeues taken
  constructor
  case queue =>
    -- A scene waits, so not all of the log has been taken off.
    have waits : search.queue ≠ [] := fun spent =>
      Option.some_ne_none next (taken.symm.trans (step_eq_none_iff.2 spent))
    rw [logged.queue, ne_eq, List.drop_eq_nil_iff, Nat.not_le] at waits
    rw [requeues.queue, logged.queue, List.tail_drop, List.drop_append_of_le_length waits]
  case distinct =>
    refine List.nodup_append.2 ⟨logged.distinct, requeues.distinct, ?_⟩
    rintro id earlier _ now rfl
    exact (logged.seen id).1 earlier (requeues.unseen id now)
  case seen =>
    intro id
    rw [List.mem_append, requeues.recorded, logged.seen]

/-- Whatever the number of turns, what is logged is what was put into the queue. -/
theorem logged_enqueued (links : Links) (limit : Int) (start : String) (turns : Nat) :
    Logged turns (enqueued links limit start turns)
      ((Search.start start).run links limit turns) := by
  induction turns with
  | zero =>
    refine ⟨rfl, List.nodup_singleton start, fun id => ?_⟩
    simp [enqueued, run, Search.start, depth?, Table.get?, eq_comm]
  | succ turns ih =>
    have valid : Valid links limit start ((Search.start start).run links limit turns) :=
      valid_start.run turns
    rw [enqueued, run_succ]
    cases taken : ((Search.start start).run links limit turns).step links limit with
    | none =>
      -- Where no scene waits nothing is added any more.
      have spent := step_eq_none_iff.1 taken
      have nothing : added ((Search.start start).run links limit turns)
          ((Search.start start).run links limit turns) = [] := by
        simp [added, spent]
      rw [Option.getD_none, nothing, List.append_nil]
      refine ⟨?_, ih.distinct, ih.seen⟩
      rw [spent, eq_comm, List.drop_eq_nil_iff]
      exact Nat.le_succ_of_le (List.drop_eq_nil_iff.1 (ih.queue.symm.trans spent))
    | some next => exact ih.step valid taken

end Search

namespace Links

/-- A breadth-first search comes to an end, whatever the graph and the limit, and finds what is
reported then. At every turn each waiting scene has a recorded depth, the depths along the queue
never decrease and span at most one step, and every recorded depth is the length of a shortest walk.
No scene is put into the queue twice, where each turn takes the first of those that were put there.
-/
theorem search_keeps_order_and_ends (links : Links) (limit : Int) (start : String) :
    (∀ turns, Search.InOrder links start ((Search.start start).run links limit turns)) ∧
      (∀ turns, (Search.enqueued links limit start turns).Nodup ∧
        ((Search.start start).run links limit turns).queue =
          (Search.enqueued links limit start turns).drop turns) ∧
      ∃ turns ≤ links.edgeCount + 1,
        ((Search.start start).run links limit turns).step links limit = none ∧
          links.reachable (some start) limit =
            if start = "" then .empty
              else ((Search.start start).run links limit turns).reached := by
  have started : Search.Valid links limit start (.start start) := Search.valid_start
  refine ⟨?_, ?_, ?_⟩
  · intro turns
    exact (started.run turns).inOrder (started.isLimited_run Search.isLimited_start turns)
  · intro turns
    have logged := Search.logged_enqueued links limit start turns
    exact ⟨logged.distinct, logged.queue⟩
  -- There are turns enough for the start and for every link.
  · refine ⟨links.edgeCount + 1, Nat.le_refl _, ?_, rfl⟩
    exact Search.step_eq_none_iff.2 (started.queue_run (Search.turnsAhead_start links start))

/-- A scene that two others lead to is put into the queue once, and one at the limit is put there
although its successors are not. -/
example : Search.enqueued [("a", ["b", "c", "a"]), ("b", ["c", "d"]), ("d", ["e"])] 2 "a" 9 =
    ["a", "b", "c", "d"] := by decide +kernel

end Links

end Gamebook
