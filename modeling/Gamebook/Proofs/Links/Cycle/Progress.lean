import Mathlib.Order.Monotone.Basic
import Mathlib.Data.Nat.Find
import Gamebook.Proofs.Links.Cycle.Loop

/-! Every step of the loop for cycles: the path holds the scenes that were entered and not left,
each node is entered once and left for good, and each of its links is read once. -/

namespace Gamebook

/-- A number that goes down by at most one at a time goes down once to each number on the way. -/
theorem existsUnique_descent {height : Nat → Nat}
    (descends : ∀ step, height (step + 1) = height step ∨ height (step + 1) + 1 = height step)
    {level : Nat} (last : Nat) (above : level < height 0) (below : height last ≤ level) :
    ∃! step, height step = level + 1 ∧ height (step + 1) = level := by
  have falls : Antitone height := by
    refine antitone_nat_of_succ_le fun step => ?_
    rcases descends step with same | less <;> omega
  -- The first step after which the level is reached.
  have reached : ∃ step, height step ≤ level := ⟨last, below⟩
  classical
  obtain ⟨step, isFirst⟩ : ∃ step, Nat.find reached = step + 1 := by
    refine Nat.exists_eq_succ_of_ne_zero fun zero => ?_
    have low := Nat.find_spec reached
    rw [zero] at low
    omega
  have low : height (step + 1) ≤ level := isFirst ▸ Nat.find_spec reached
  have high : level < height step := Nat.lt_of_not_le (Nat.find_min reached (by omega))
  refine ⟨step, ?_, ?_⟩
  · rcases descends step with same | less <;> constructor <;> omega
  · rintro other ⟨high', low'⟩
    -- An earlier step down leaves the level behind, and a later one comes too late.
    rcases Nat.lt_trichotomy other step with earlier | same | later
    · have bound : height step ≤ height (other + 1) := falls (Nat.succ_le_of_lt earlier)
      omega
    · exact same
    · have bound : height other ≤ height (step + 1) := falls (Nat.succ_le_of_lt later)
      omega

/-- How often a search will still mark a node: when it enters it, and when it leaves it. -/
def Mark.marksAhead : Option Mark → Nat
  | some .unseen => 2
  | some .onPath => 1
  | _ => 0

/-- Both marks are ahead of what is unseen. -/
theorem Mark.marksAhead_eq_two_iff {mark : Option Mark} :
    marksAhead mark = 2 ↔ mark = some .unseen := by
  rcases mark with _ | _ | _ | _ <;> simp [marksAhead]

/-- One mark is ahead of what is on the path. -/
theorem Mark.marksAhead_eq_one_iff {mark : Option Mark} :
    marksAhead mark = 1 ↔ mark = some .onPath := by
  rcases mark with _ | _ | _ | _ <;> simp [marksAhead]

namespace CycleSearch

variable {links : Links} {search next : CycleSearch} {id scene : String} {place : Nat}

section Moves

/-- What a move does to the mark of a scene: it stays, or the scene is entered, or it is left. -/
inductive MarkMove (search next : CycleSearch) (id : String) : Prop where
  | keep (same : next.mark? id = search.mark? id) (path : next.path ≠ id :: search.path)
  | enter (before : search.mark? id = some .unseen) (after : next.mark? id = some .onPath)
    (path : next.path = id :: search.path)
  | leave (before : search.mark? id = some .onPath) (after : next.mark? id = some .finished)
    (path : next.path ≠ id :: search.path)

/-- A scene that is entered is put on the path, and no other scene. -/
theorem markMove_enter {frames : List Frame} {roots : List String} {entered : String}
    (unseen : search.mark? entered = some .unseen) (scenes : frames.map (·.scene) = search.path)
    (id : String) :
    MarkMove search (({ search with roots, frames } : CycleSearch).enter links entered) id := by
  have path : (({ search with roots, frames } : CycleSearch).enter links entered).path =
      entered :: search.path := congrArg (entered :: ·) scenes
  -- Only the scene that is entered changes its mark.
  by_cases here : entered = id
  · subst here
    exact .enter unseen ((mark?_enter entered).trans (if_pos rfl)) path
  · refine .keep ((mark?_enter id).trans (if_neg here)) ?_
    rw [path]
    exact fun same => here (List.cons.inj same).1

/-- A path of the same length has no scene more. -/
theorem path_ne_cons (scenes : next.path = search.path) : next.path ≠ id :: search.path := by
  -- No list is its own tail.
  rw [scenes]
  exact (List.cons_ne_self id search.path).symm

/-- Every move keeps the mark of a scene, or enters it, or leaves it. -/
theorem Valid.markMove (valid : Valid links search) (taken : search.step links = some next)
    (id : String) : MarkMove search next id := by
  -- A move enters one scene, leaves one, or changes no mark.
  cases move_of_step taken with
  | begin root roots off waiting unseen same =>
    subst same
    exact markMove_enter unseen rfl id
  | pass root roots off waiting seen same =>
    subst same
    exact .keep rfl (path_ne_cons rfl)
  | leave scene above top same =>
    subst same
    have scenes : search.path = scene :: above.map (·.scene) := path_eq_cons top
    -- A path that gets shorter has no scene put before it.
    have shorter : above.map (·.scene) ≠ id :: search.path := by
      intro same
      have lengths := congrArg List.length same
      rw [scenes, List.length_cons, List.length_cons] at lengths
      omega
    have marks : ∀ other, Table.get? other (Table.put scene Mark.finished search.marks) = _ :=
      fun other => Table.get?_put scene other Mark.finished search.marks
    by_cases here : scene = id
    · subst here
      refine .leave ((valid.entered scene).2 ?_) ((marks scene).trans (if_pos rfl)) shorter
      rw [scenes]
      exact List.mem_cons_self
    · exact .keep ((marks id).trans (if_neg here)) shorter
  | close scene successor pending above top entered same =>
    subst same
    exact .keep rfl (path_ne_cons (path_eq_cons top).symm)
  | enter scene successor pending above top unseen same =>
    subst same
    refine markMove_enter unseen ?_ id
    exact (path_eq_cons top).symm
  | skip scene successor pending above top settled same =>
    subst same
    exact .keep rfl (path_ne_cons (path_eq_cons top).symm)

/-- The number of links of a scene that are still to be read: on the path those that its frame still
has, and before it is entered all of them. -/
def linksAhead (links : Links) (id : String) (mark : Option Mark) : List Frame → Nat
  | [] => if mark = some .unseen then (links.successors id).length else 0
  | frame :: above =>
    if frame.scene = id then frame.pending.length else linksAhead links id mark above

/-- A scene that is not on the path has all of its links ahead, or none. -/
theorem linksAhead_of_not_mem {mark : Option Mark} {frames : List Frame}
    (off : id ∉ frames.map (·.scene)) : linksAhead links id mark frames =
      if mark = some .unseen then (links.successors id).length else 0 := by
  -- No scene of the path is the one in question, so none of the links on the path are its own.
  induction frames with
  | nil => rfl
  | cons frame above ih =>
    obtain ⟨other, later⟩ := not_or.1 (mt List.mem_cons.2 off)
    rw [linksAhead, if_neg (Ne.symm other), ih later]

/-- The number of links of a scene that a search has still to read. -/
def toRead (links : Links) (id : String) (search : CycleSearch) : Nat :=
  linksAhead links id (search.mark? id) search.frames

/-- A search is about to read the link at a place of a scene. -/
def Reads (links : Links) (search : CycleSearch) (id : String) (place : Nat) : Prop :=
  place < (links.successors id).length ∧
    search.frames.head? = some ⟨id, (links.successors id).drop place⟩

/-- A search reads one link at a time. -/
theorem Reads.unique {other : Nat} (first : Reads links search id place)
    (second : Reads links search id other) : place = other := by
  have same : (links.successors id).drop place = (links.successors id).drop other :=
    congrArg Frame.pending (Option.some.inj (first.2.symm.trans second.2))
  -- What is left of a list tells the place from which it is left.
  have lengths := congrArg List.length same
  rw [List.length_drop, List.length_drop] at lengths
  have := first.1
  have := second.1
  omega

/-- Only the deepest scene has its links read. -/
theorem not_reads_of_ne {frame : Frame} {above : List Frame} (top : search.frames = frame :: above)
    (different : frame.scene ≠ id) : ¬ Reads links search id place := by
  -- Only the frame on top reads.
  rintro ⟨-, head⟩
  rw [top, List.head?_cons, Option.some.injEq] at head
  exact different (congrArg Frame.scene head)

/-- Without a path no link is read. -/
theorem not_reads_of_off (off : search.frames = []) : ¬ Reads links search id place := by
  -- Without frames there is none on top.
  rintro ⟨-, head⟩
  rw [off] at head
  cases head

/-- What a move does to the links of a scene that are to be read: they stay the same, or the first
of them is read. -/
inductive LinkMove (links : Links) (search next : CycleSearch) (id : String) : Prop where
  | keep (same : toRead links id next = toRead links id search)
    (none : ∀ place, ¬ Reads links search id place)
  | read (place : Nat) (reads : Reads links search id place)
    (before : toRead links id search = (links.successors id).length - place)
    (after : toRead links id next = (links.successors id).length - (place + 1))

/-- A scene that is entered has all of its links ahead, as it had before. -/
theorem Valid.toRead_enter {frames : List Frame} {roots : List String} {entered : String}
    (valid : Valid links search) (unseen : search.mark? entered = some .unseen)
    (scenes : frames.map (·.scene) = search.path) (id : String) :
    toRead links id (({ search with roots, frames } : CycleSearch).enter links entered) =
      linksAhead links id (search.mark? id) frames := by
  have frames_next : (({ search with roots, frames } : CycleSearch).enter links entered).frames =
      ⟨entered, links.successors entered⟩ :: frames := rfl
  have mark_next : (({ search with roots, frames } : CycleSearch).enter links entered).mark? id =
      if entered = id then some .onPath else search.mark? id := mark?_enter id
  rw [toRead, frames_next, mark_next, linksAhead]
  by_cases here : entered = id
  · subst here
    -- A scene that is entered was not on the path, so its links were all unread.
    have off : entered ∉ frames.map (·.scene) := by
      rw [scenes, ← valid.entered, unseen]
      simp
    rw [if_pos rfl, linksAhead_of_not_mem off, if_pos unseen]
  · rw [if_neg here, if_neg here]

/-- Going on to the next link of the deepest scene reads a link of that scene. -/
theorem Valid.linkMove_of_top {successor : String} {pending : List String} {above : List Frame}
    (valid : Valid links search) (top : search.frames = ⟨scene, successor :: pending⟩ :: above)
    (after : toRead links id next =
      linksAhead links id (search.mark? id) (⟨scene, pending⟩ :: above)) :
    LinkMove links search next id := by
  have before : toRead links id search =
      linksAhead links id (search.mark? id) (⟨scene, successor :: pending⟩ :: above) := by
    rw [toRead, top]
  by_cases here : scene = id
  · subst here
    -- The links that were read before come first in the list of the scene.
    obtain ⟨examined, split, -⟩ := valid.top ⟨scene, successor :: pending⟩ (by rw [top]; rfl)
    have split : links.successors scene = examined ++ successor :: pending := split
    rw [linksAhead, if_pos rfl] at before after
    refine .read examined.length ⟨?_, ?_⟩ ?_ ?_
    · simp [split]
    · rw [split, List.drop_left, top, List.head?_cons]
    · rw [before, split, List.length_append, Nat.add_sub_cancel_left]
    · have after : toRead links scene next = pending.length := after
      rw [after, split, List.length_append, List.length_cons]
      omega
  · rw [linksAhead, if_neg here] at before after
    exact .keep (after.trans before.symm) fun _ => not_reads_of_ne top here

/-- Every move keeps the links of a scene that are to be read, or reads one of them. -/
theorem Valid.linkMove (valid : Valid links search) (taken : search.step links = some next)
    (id : String) : LinkMove links search next id := by
  cases move_of_step taken with
  | begin root roots off waiting unseen same =>
    subst same
    exact .keep (valid.toRead_enter unseen rfl id) fun _ => not_reads_of_off off
  | pass root roots off waiting seen same =>
    subst same
    exact .keep rfl fun _ => not_reads_of_off off
  | leave scene above top same =>
    subst same
    have mark_next : Table.get? id (Table.put scene Mark.finished search.marks) = _ :=
      Table.get?_put scene id Mark.finished search.marks
    have before : toRead links id search =
        linksAhead links id (search.mark? id) (⟨scene, []⟩ :: above) := by
      rw [toRead, top]
    rw [linksAhead] at before
    by_cases here : scene = id
    · subst here
      have distinct := valid.distinct
      rw [path_eq_cons top] at distinct
      refine .keep ?_ ?_
      · -- The scene is not on the path twice, so nothing of it is left.
        rw [before, if_pos rfl, toRead, mark?, mark_next, if_pos rfl,
          linksAhead_of_not_mem (List.nodup_cons.1 distinct).1]
        rfl
      · rintro place ⟨within, head⟩
        rw [top, List.head?_cons, Option.some.injEq] at head
        have spent : (links.successors scene).drop place = [] := (congrArg Frame.pending head).symm
        exact Nat.not_le.2 within (List.drop_eq_nil_iff.1 spent)
    · refine .keep ?_ fun _ => not_reads_of_ne top here
      rw [before, if_neg here, toRead, mark?, mark_next, if_neg here]
      rfl
  | close scene successor pending above top entered same =>
    subst same
    exact valid.linkMove_of_top top rfl
  | enter scene successor pending above top unseen same =>
    subst same
    refine valid.linkMove_of_top top (valid.toRead_enter unseen ?_ id)
    exact (path_eq_cons top).symm
  | skip scene successor pending above top settled same =>
    subst same
    exact valid.linkMove_of_top top rfl

end Moves

section Runs

/-- One move more is a move of what was reached before, if there is one. -/
theorem run_succ (search : CycleSearch) (moves : Nat) :
    search.run links (moves + 1) =
      ((search.run links moves).step links).getD (search.run links moves) := by
  -- A search without a next move stays as it is.
  refine run_succ_of_step (fun _ => rfl) (fun moves search => ?_) moves search
  rw [run]
  cases search.step links <;> rfl

/-- What each move of a run does to the mark of a scene; after the last move nothing changes. -/
theorem Valid.markMove_run (valid : Valid links search) (moves : Nat) (id : String) :
    MarkMove (search.run links moves) (search.run links (moves + 1)) id := by
  rw [run_succ]
  -- A search that is at its end stays as it is.
  cases taken : (search.run links moves).step links with
  | none => exact .keep rfl (path_ne_cons rfl)
  | some next => exact (valid.run moves).markMove taken id

/-- What each move of a run does to the links of a scene that are to be read. -/
theorem Valid.linkMove_run (valid : Valid links search) (moves : Nat) (id : String) :
    LinkMove links (search.run links moves) (search.run links (moves + 1)) id := by
  rw [run_succ]
  -- A search that is at its end reads no link.
  cases taken : (search.run links moves).step links with
  | none => exact .keep rfl fun _ => not_reads_of_off (step_eq_none_iff.1 taken).1
  | some next => exact (valid.run moves).linkMove taken id

/-- Each move of a run marks a scene at most once. -/
theorem Valid.marksAhead_run (valid : Valid links search) (id : String) (moves : Nat) :
    Mark.marksAhead ((search.run links (moves + 1)).mark? id) =
        Mark.marksAhead ((search.run links moves).mark? id) ∨
      Mark.marksAhead ((search.run links (moves + 1)).mark? id) + 1 =
        Mark.marksAhead ((search.run links moves).mark? id) := by
  -- Each change of the mark is one step towards the last one.
  cases valid.markMove_run moves id with
  | keep same path => exact .inl (congrArg Mark.marksAhead same)
  | enter before after path =>
    rw [before, after]
    exact .inr rfl
  | leave before after path =>
    rw [before, after]
    exact .inr rfl

/-- A scene that is finished stays finished. -/
theorem Valid.finished_run (valid : Valid links search) {earlier later : Nat}
    (order : earlier ≤ later) (finished : (search.run links earlier).mark? id = some .finished) :
    (search.run links later).mark? id = some .finished := by
  -- No change of a mark starts from the last one.
  induction later, order using Nat.le_induction with
  | base => exact finished
  | succ moves _ ih =>
    cases valid.markMove_run moves id with
    | keep same path => exact same.trans ih
    | enter before after path => cases before.symm.trans ih
    | leave before after path => cases before.symm.trans ih

/-- The moves after which a search for cycles is over. -/
def lastMove (links : Links) : Nat := 2 * links.length + links.edgeCount + 1

/-- A search for cycles has no move after the last one. -/
theorem step_run_lastMove (links : Links) :
    ((start links).run links (lastMove links)).step links = none :=
  valid_start.step_run_eq_none (Nat.le_succ_of_le (movesAhead_start links))

/-- After the last move every node is finished. -/
theorem finished_run_lastMove (node : id ∈ Table.keys links) :
    ((start links).run links (lastMove links)).mark? id = some .finished :=
  (valid_start.run _).finished_of_step_eq_none (step_run_lastMove links) node

/-- At first every node is unseen. -/
theorem unseen_start (node : id ∈ Table.keys links) : (start links).mark? id = some .unseen := by
  -- Every node of the graph starts with this mark.
  obtain ⟨targets, found⟩ := Table.mem_keys_iff.1 node
  rw [mark?_start, found]
  rfl

/-- Exactly one move enters a node. -/
theorem existsUnique_enter (node : id ∈ Table.keys links) :
    ∃! moves, ((start links).run links moves).mark? id = some .unseen ∧
      ((start links).run links (moves + 1)).mark? id = some .onPath := by
  -- The marks ahead go down from two to none by one at a time, and so are one less than two once.
  have first : Mark.marksAhead (((start links).run links 0).mark? id) = 2 :=
    Mark.marksAhead_eq_two_iff.2 (unseen_start node)
  have last : Mark.marksAhead (((start links).run links (lastMove links)).mark? id) = 0 :=
    congrArg Mark.marksAhead (finished_run_lastMove node)
  have once : ∃! moves, Mark.marksAhead (((start links).run links moves).mark? id) = 1 + 1 ∧
      Mark.marksAhead (((start links).run links (moves + 1)).mark? id) = 1 :=
    existsUnique_descent (valid_start.marksAhead_run id) (lastMove links) (by omega) (by omega)
  simpa only [Nat.reduceAdd, Mark.marksAhead_eq_two_iff, Mark.marksAhead_eq_one_iff] using once

/-- A move puts a scene on the path where it enters it. -/
theorem Valid.path_run_eq_cons_iff (valid : Valid links search) (moves : Nat) :
    (search.run links (moves + 1)).path = id :: (search.run links moves).path ↔
      (search.run links moves).mark? id = some .unseen ∧
        (search.run links (moves + 1)).mark? id = some .onPath := by
  -- The path grows by a scene in the same move in which the scene is marked.
  cases valid.markMove_run moves id with
  | keep same path =>
    refine iff_of_false path ?_
    rintro ⟨unseen, entered⟩
    cases entered.symm.trans (same.trans unseen)
  | enter before after path => exact iff_of_true path ⟨before, after⟩
  | leave before after path =>
    refine iff_of_false path ?_
    rintro ⟨unseen, -⟩
    cases unseen.symm.trans before

/-- A scene that comes on the path was unseen before. -/
theorem Valid.comes_on_path_iff (valid : Valid links search) (moves : Nat) :
    ((search.run links moves).mark? id ≠ some .onPath ∧
        (search.run links (moves + 1)).mark? id = some .onPath) ↔
      (search.run links moves).mark? id = some .unseen ∧
        (search.run links (moves + 1)).mark? id = some .onPath := by
  refine and_congr_left fun entered => ?_
  -- A scene that is finished does not come on the path again.
  cases valid.markMove_run moves id with
  | keep same path =>
    rw [same] at entered
    simp [entered]
  | enter before after path => simp [before]
  | leave before after path => cases entered.symm.trans after

/-- At first every link of a node is to be read. -/
theorem toRead_start (node : id ∈ Table.keys links) :
    toRead links id (start links) = (links.successors id).length := by
  rw [toRead, unseen_start node]
  rfl

/-- After the last move no link of a node is to be read. -/
theorem toRead_run_lastMove (node : id ∈ Table.keys links) :
    toRead links id ((start links).run links (lastMove links)) = 0 := by
  -- At the end the stack is empty, and every node is finished.
  obtain ⟨off, -⟩ := step_eq_none_iff.1 (step_run_lastMove links)
  rw [toRead, off, finished_run_lastMove node]
  rfl

/-- A link is read where the number of links to be read goes down past its place. -/
theorem Valid.reads_run_iff (valid : Valid links search) (moves : Nat)
    (within : place < (links.successors id).length) :
    Reads links (search.run links moves) id place ↔
      toRead links id (search.run links moves) =
          (links.successors id).length - (place + 1) + 1 ∧
        toRead links id (search.run links (moves + 1)) =
          (links.successors id).length - (place + 1) := by
  -- Reading a link is the only move that makes the links that are to be read fewer.
  cases valid.linkMove_run moves id with
  | keep same none =>
    refine iff_of_false (none place) ?_
    rintro ⟨high, low⟩
    omega
  | read other reads before after =>
    have below := reads.1
    constructor
    · intro now
      cases now.unique reads
      constructor <;> omega
    · rintro ⟨high, low⟩
      have same : other = place := by omega
      exact same ▸ reads

/-- Exactly one move reads the link at a place of a node. -/
theorem existsUnique_reads (node : id ∈ Table.keys links)
    (within : place < (links.successors id).length) :
    ∃! moves, Reads links ((start links).run links moves) id place := by
  -- The links that are to be read go down by one at a time, so each place is passed once.
  have descends : ∀ moves, toRead links id ((start links).run links (moves + 1)) =
        toRead links id ((start links).run links moves) ∨
      toRead links id ((start links).run links (moves + 1)) + 1 =
        toRead links id ((start links).run links moves) := by
    intro moves
    cases valid_start.linkMove_run moves id with
    | keep same none => exact .inl same
    | read other reads before after =>
      have below := reads.1
      exact .inr (by omega)
  have first : toRead links id ((start links).run links 0) = (links.successors id).length :=
    toRead_start node
  have last := toRead_run_lastMove node
  simp only [valid_start.reads_run_iff _ within]
  exact existsUnique_descent descends (lastMove links) (by omega) (by omega)

end Runs

end CycleSearch

namespace CycleLoop

/-- What holds of a loop at every step: its path has no scene twice, comes with as many lists of
successors, and holds the scenes that were entered and not left. -/
structure Sound (loop : CycleLoop) : Prop where
  distinct : loop.path.Nodup
  paired : loop.path.length = loop.unread.length
  entered : ∀ id, id ∈ loop.path ↔ loop.mark? id = some .onPath

/-- A loop is about to read the successor at a place of the list of a scene: the scene is the last
of the path, and its successors from that place on are unread. -/
structure Reads (links : Links) (loop : CycleLoop) (id : String) (place : Nat) : Prop where
  within : place < (links.successors id).length
  deepest : loop.path.getLast? = some id
  unread : loop.unread.head? = some ((links.successors id).drop place)

/-- A valid search is where a sound loop is. -/
theorem sound_ofSearch {links : Links} {search : CycleSearch} (valid : search.Valid links) :
    (ofSearch search).Sound := by
  constructor
  case distinct => exact List.nodup_reverse.2 valid.distinct
  case paired => simp [ofSearch, CycleSearch.path]
  case entered =>
    -- On both paths are the same scenes.
    intro id
    rw [ofSearch, List.mem_reverse]
    exact (valid.entered id).symm

/-- A loop reads what the search reads. -/
theorem reads_ofSearch_iff {links : Links} {search : CycleSearch} {id : String} {place : Nat} :
    (ofSearch search).Reads links id place ↔ search.Reads links id place := by
  have deepest : (ofSearch search).path.getLast? = search.frames.head?.map (·.scene) := by
    rw [ofSearch, List.getLast?_reverse, CycleSearch.path, List.head?_map]
  have unread : (ofSearch search).unread.head? = search.frames.head?.map (·.pending) := by
    rw [ofSearch, List.head?_map]
  constructor
  · intro reads
    refine ⟨reads.within, ?_⟩
    -- Scene and successors are those of one frame.
    obtain ⟨frame, top, rfl⟩ := Option.map_eq_some_iff.1 (deepest.symm.trans reads.deepest)
    have pending := unread.symm.trans reads.unread
    rw [top, Option.map_some, Option.some.injEq] at pending
    rw [top, ← pending]
  · rintro ⟨within, top⟩
    exact ⟨within, by rw [deepest, top]; rfl, by rw [unread, top]; rfl⟩

end CycleLoop

namespace Links

/-- The loop for cycles comes to an end, whatever the graph, and reports its cycles then; no step of
it fails. At every step its path has no scene twice, comes with as many lists of successors, and
holds the scenes that were entered and not left. What is finished stays finished, every node comes
on the path once, each of its successors is read once, and in the end it is finished. -/
theorem cycle_loop_runs_through (links : Links) :
    ∃ loop : Nat → CycleLoop,
      (∀ steps, (CycleLoop.start links).run links steps = .ok (loop steps)) ∧
      (∀ steps, (loop steps).Sound) ∧
      (∀ id earlier later, earlier ≤ later → (loop earlier).mark? id = some .finished →
        (loop later).mark? id = some .finished) ∧
      (∀ id ∈ Table.keys links,
        (∃! steps, (loop (steps + 1)).path = (loop steps).path ++ [id]) ∧
        (∃! steps, (loop steps).mark? id ≠ some .onPath ∧
          (loop (steps + 1)).mark? id = some .onPath) ∧
        ∀ place < (links.successors id).length,
          ∃! steps, (loop steps).Reads links id place) ∧
      ∃ last ≤ 2 * links.length + links.edgeCount + 1, (loop last).step links = .ok none ∧
        (∀ id ∈ Table.keys links, (loop last).mark? id = some .finished) ∧
        (loop last).cycles = links.cycles := by
  have valid : CycleSearch.Valid links (.start links) := CycleSearch.valid_start
  have nodes : ∀ root ∈ (CycleSearch.start links).roots, root ∈ Table.keys links :=
    fun root waits => mem_sortIds.1 waits
  have runs (steps : Nat) : (CycleLoop.start links).run links steps =
      .ok (.ofSearch ((CycleSearch.start links).run links steps)) := by
    rw [← CycleLoop.ofSearch_start]
    exact CycleLoop.run_ofSearch valid nodes steps
  refine ⟨fun steps => .ofSearch ((CycleSearch.start links).run links steps),
      runs, fun steps => CycleLoop.sound_ofSearch (valid.run steps),
    fun _ _ _ order finished => valid.finished_run order finished, ?_, ?_⟩
  · intro id node
    have entered := CycleSearch.existsUnique_enter node
    refine ⟨?_, ?_, ?_⟩
    · -- The path of a loop is that of the search, read from the root on.
      have pushes (steps : Nat) :
          (CycleLoop.ofSearch ((CycleSearch.start links).run links (steps + 1))).path =
              (CycleLoop.ofSearch ((CycleSearch.start links).run links steps)).path ++ [id] ↔
            ((CycleSearch.start links).run links (steps + 1)).path =
              id :: ((CycleSearch.start links).run links steps).path := by
        rw [CycleLoop.ofSearch, CycleLoop.ofSearch, ← List.reverse_cons, List.reverse_inj]
      simpa only [pushes, valid.path_run_eq_cons_iff] using entered
    · have once : ∃! steps, ((CycleSearch.start links).run links steps).mark? id ≠ some .onPath ∧
          ((CycleSearch.start links).run links (steps + 1)).mark? id = some .onPath := by
        simpa only [valid.comes_on_path_iff] using entered
      exact once
    · intro place within
      simpa only [CycleLoop.reads_ofSearch_iff] using CycleSearch.existsUnique_reads node within
  · refine ⟨CycleSearch.lastMove links, Nat.le_refl _, ?_, ?_, rfl⟩
    · have ended := CycleSearch.step_run_lastMove links
      obtain ⟨-, done⟩ := CycleSearch.step_eq_none_iff.1 ended
      rw [CycleLoop.step_ofSearch (valid.run _) (by simp [done]), ended]
      rfl
    · exact fun id node => CycleSearch.finished_run_lastMove node

/-- A scene that leads to itself, twice to another scene, and to one that is no node: the repeated
link is read once at either place, so is the one that leads nowhere, and both cycles are reported.
-/
theorem cycle_loop_reads_repeated_links :
    let links : Links := [("cave", ["cave", "lake", "lake", "void"]), ("lake", ["cave"])]
    ∃ loop : Nat → CycleLoop, loop 0 = .start links ∧
      (∃! steps, (loop (steps + 1)).path = (loop steps).path ++ ["cave"]) ∧
      (∃! steps, (loop steps).Reads links "cave" 1) ∧
      (∃! steps, (loop steps).Reads links "cave" 2) ∧
      (∃! steps, (loop steps).Reads links "cave" 3) ∧
      ∃ last ≤ 10, (loop last).step links = .ok none ∧
        (loop last).mark? "cave" = some .finished ∧
        (loop last).cycles = [["cave"], ["cave", "lake"]] := by
  intro links
  obtain ⟨loop, runs, -, -, once, last, bound, ended, finished, cycles⟩ :=
    cycle_loop_runs_through links
  have node : "cave" ∈ Table.keys links := by decide
  -- Sorting recurs on a measure, so the roots are sorted before the search is run.
  have sorted : sortIds (Table.keys links) = ["cave", "lake"] := sortIds_eq_self (by decide)
  have found : links.cycles = [["cave"], ["cave", "lake"]] := by
    rw [Links.cycles, CycleSearch.start, sorted]
    decide +kernel
  obtain ⟨entered, -, reads⟩ := once "cave" node
  exact ⟨loop, (Except.ok.inj (runs 0)).symm, entered, reads 1 (by decide), reads 2 (by decide),
    reads 3 (by decide), last, bound, ended, finished "cave" node, cycles.trans found⟩

end Links

end Gamebook
