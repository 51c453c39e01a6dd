import Gamebook.Proofs.Links.Cycle

/-! The search for cycles with its path and the successors still to be read on two stacks of their
own, where leaving a scene and closing a cycle can fail. It never does, and goes as the search with
frames. -/

namespace Gamebook

/-- What stops a loop for cycles. -/
inductive LoopFault where
  -- There is no scene to be left.
  | pathEmpty
  -- A scene that was entered is not on the path.
  | notOnPath (id : String)
  -- A scene has no mark, or no list of successors.
  | notNode (id : String)
  deriving DecidableEq, Repr

/-- A loop for cycles under way. -/
structure CycleLoop where
  -- Scenes from which a search may still have to start.
  roots : List String
  marks : Table Mark
  -- The path from the root to the deepest scene.
  path : List String
  -- The successors still to be read, those of the deepest scene first.
  unread : List (List String)
  -- The cycles found so far, in order.
  cycles : List (List String)

namespace CycleLoop

/-- How far a loop is with a scene. -/
def mark? (id : String) (loop : CycleLoop) : Option Mark := Table.get? id loop.marks

/-- A loop that has seen nothing. -/
def start (links : Links) : CycleLoop :=
  ⟨sortIds (Table.keys links), links.map fun (id, _) => (id, .unseen), [], [], []⟩

/-- Puts a node on the path, and its successors among those to be read. -/
def push (links : Links) (id : String) (loop : CycleLoop) : Except LoopFault CycleLoop :=
  match Table.get? id links with
  | none => .error (.notNode id)
  | some targets => .ok { loop with
      marks := Table.put id .onPath loop.marks
      path := loop.path ++ [id]
      unread := targets :: loop.unread }

/-- Takes the last scene off the path, and its successors off those to be read. -/
def pop (loop : CycleLoop) : Except LoopFault CycleLoop :=
  match loop.path.getLast? with
  | none => .error .pathEmpty
  | some scene => .ok { loop with
      marks := Table.put scene .finished loop.marks
      path := loop.path.dropLast
      unread := loop.unread.tail }

/-- Reports the path from the place of a scene on. -/
def close (id : String) (loop : CycleLoop) : Except LoopFault CycleLoop :=
  match loop.path.idxOf? id with
  | none => .error (.notOnPath id)
  | some place => .ok { loop with cycles := loop.cycles ++ [loop.path.drop place] }

/-- One step: to the next root, back from a scene whose successors were read, or to the next
successor. There is none when every root is done. -/
def step (links : Links) (loop : CycleLoop) : Except LoopFault (Option CycleLoop) :=
  match loop.unread with
  | [] =>
    match loop.roots with
    | [] => .ok none
    | root :: roots =>
      match (Table.get? root loop.marks : Option Mark) with
      | none => .error (.notNode root)
      | some .unseen => ({ loop with roots, path := [] }.push links root).map some
      | some _ => .ok (some { loop with roots })
  | [] :: _ => loop.pop.map some
  | (successor :: pending) :: unread =>
    let loop := { loop with unread := pending :: unread }
    match (Table.get? successor loop.marks : Option Mark) with
    | some .onPath => (loop.close successor).map some
    | some .unseen => (loop.push links successor).map some
    | _ => .ok (some loop)

/-- Makes up to a number of steps. -/
def run (links : Links) : Nat → CycleLoop → Except LoopFault CycleLoop
  | 0, loop => .ok loop
  | steps + 1, loop =>
    match loop.step links with
    | .error fault => .error fault
    | .ok none => .ok loop
    | .ok (some next) => run links steps next

/-- The loop that is where a search with frames is. -/
def ofSearch (search : CycleSearch) : CycleLoop :=
  ⟨search.roots, search.marks, search.path.reverse, search.frames.map (·.pending),
    search.cycles.reverse⟩

/-- Both start alike. -/
theorem ofSearch_start (links : Links) : ofSearch (.start links) = start links := rfl

section Simulation

variable {links : Links} {search next : CycleSearch} {id scene : String} {pending : List String}
  {above : List Frame}

/-- A node has a list of successors. -/
theorem get?_of_mem_keys (node : id ∈ Table.keys links) :
    Table.get? id links = some (links.successors id) := by
  obtain ⟨targets, found⟩ := Table.mem_keys_iff.1 node
  rw [Links.successors, found, Option.getD_some]

/-- A node is pushed on the path as a search enters it. -/
theorem push_ofSearch (node : id ∈ Table.keys links) :
    (ofSearch search).push links id = .ok (ofSearch (search.enter links id)) := by
  rw [push, get?_of_mem_keys node]
  simp [ofSearch, CycleSearch.enter, CycleSearch.path]

/-- The deepest scene is taken off the path as a search leaves it. -/
theorem pop_ofSearch (top : search.frames = ⟨scene, pending⟩ :: above) :
    (ofSearch search).pop = .ok (ofSearch { search with
      marks := Table.put scene .finished search.marks, frames := above }) := by
  simp [pop, ofSearch, top, CycleSearch.path]

/-- A scene has its place on a path that goes through it once. -/
theorem drop_idxOf?_reverse {path : List String} (distinct : path.Nodup) (member : id ∈ path) :
    ∃ place, path.reverse.idxOf? id = some place ∧
      path.reverse.drop place = CycleSearch.closedBy id path := by
  obtain ⟨rest, split⟩ := CycleSearch.exists_eq_takeWhile_append member
  have turned : path.reverse = rest.reverse ++ CycleSearch.closedBy id path := by
    rw [CycleSearch.closedBy, ← List.reverse_append, ← split]
  -- The scene does not stand behind its first place, so it is not among what comes before.
  have apart : id ∉ rest.reverse := by
    rw [split, List.nodup_append] at distinct
    intro again
    exact distinct.2.2 id (by simp) id (List.mem_reverse.1 again) rfl
  refine ⟨rest.reverse.length, ?_, by rw [turned, List.drop_left]⟩
  rw [turned, List.idxOf?_eq_some_iff]
  refine ⟨by simp [CycleSearch.closedBy], by simp [CycleSearch.closedBy], ?_⟩
  intro place before same
  rw [List.getElem_append_left before] at same
  exact apart (same ▸ List.getElem_mem before)

/-- A scene of the path is found there, and the same cycle is reported. -/
theorem close_ofSearch (distinct : search.path.Nodup) (member : id ∈ search.path) :
    (ofSearch search).close id = .ok (ofSearch { search with
      cycles := CycleSearch.closedBy id search.path :: search.cycles }) := by
  -- The path of the loop is that of the search turned around, and what follows the scene there is
  -- what comes before it here.
  obtain ⟨place, found, rest⟩ := drop_idxOf?_reverse distinct member
  have path : (ofSearch search).path = search.path.reverse := rfl
  have cycles : (ofSearch search).cycles = search.cycles.reverse := rfl
  rw [close, path, found]
  simp only [rest, cycles, ← List.reverse_cons]
  rfl

/-- A loop makes the steps that a search makes, if that search only starts from nodes. -/
theorem step_ofSearch (valid : search.Valid links)
    (nodes : ∀ root ∈ search.roots, root ∈ Table.keys links) :
    (ofSearch search).step links = .ok ((search.step links).map ofSearch) := by
  have node : ∀ id, search.mark? id = some .unseen → id ∈ Table.keys links := by
    intro id unseen
    rw [valid.marked, unseen]
    simp
  obtain ⟨roots, marks, frames, cycles⟩ := search
  match frames, roots with
  | [], [] => rfl
  | [], root :: roots =>
    -- A root is a node, so it has a mark.
    have marked := (valid.marked root).1 (nodes root List.mem_cons_self)
    simp only [step, ofSearch, CycleSearch.step, List.map_nil]
    cases found : (Table.get? root marks : Option Mark) with
    | none => exact absurd found marked
    | some mark =>
      cases mark with
      | unseen =>
        have pushed := @push_ofSearch links ⟨roots, marks, [], cycles⟩ root (node root found)
        exact congrArg (Except.map some) pushed
      | onPath => rfl
      | finished => rfl
  | ⟨scene, []⟩ :: above, roots =>
    have popped := @pop_ofSearch ⟨roots, marks, ⟨scene, []⟩ :: above, cycles⟩ scene [] above rfl
    exact congrArg (Except.map some) popped
  | ⟨scene, successor :: pending⟩ :: above, roots =>
    simp only [step, ofSearch, CycleSearch.step, List.map_cons]
    cases found : (Table.get? successor marks : Option Mark) with
    | none => rfl
    | some mark =>
      cases mark with
      | unseen =>
        have pushed := @push_ofSearch links ⟨roots, marks, ⟨scene, pending⟩ :: above, cycles⟩
          successor (node successor found)
        exact congrArg (Except.map some) pushed
      | onPath =>
        have closed := @close_ofSearch ⟨roots, marks, ⟨scene, pending⟩ :: above, cycles⟩
          successor valid.distinct ((valid.entered successor).1 found)
        exact congrArg (Except.map some) closed
      | finished => rfl

/-- No step adds a root. -/
theorem roots_suffix_of_step (taken : search.step links = some next) :
    next.roots <:+ search.roots := by
  -- Roots only go, and they go from the front.
  cases CycleSearch.move_of_step taken with
  | begin root roots off waiting unseen same =>
    subst same
    exact ⟨[root], waiting.symm⟩
  | pass root roots off waiting seen same =>
    subst same
    exact ⟨[root], waiting.symm⟩
  | _ =>
    subst_vars
    exact List.suffix_rfl

/-- A loop makes as many steps as a search makes moves, and none of them fails. -/
theorem run_ofSearch (valid : search.Valid links)
    (nodes : ∀ root ∈ search.roots, root ∈ Table.keys links) (steps : Nat) :
    (ofSearch search).run links steps = .ok (ofSearch (search.run links steps)) := by
  induction steps generalizing search with
  | zero => rfl
  | succ steps ih =>
    rw [run, step_ofSearch valid nodes, CycleSearch.run]
    -- Both stop together, and else go on with roots that are still nodes.
    cases taken : search.step links with
    | none => rfl
    | some next =>
      exact ih (valid.step taken) fun root waits =>
        nodes root ((roots_suffix_of_step taken).subset waits)

end Simulation

end CycleLoop

end Gamebook
