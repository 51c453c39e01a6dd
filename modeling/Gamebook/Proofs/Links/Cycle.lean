import Mathlib.Data.List.Chain
import Mathlib.Order.WellFounded
import Gamebook.Links.Cycle
import Gamebook.Proofs.Links.Search

/-! Depth-first search finds a cycle for every way around: without the links that close the cycles
which it reports, a graph has none. -/

namespace Gamebook

/-- A relation leads nowhere back to where it starts. -/
def Acyclic (leads : String → String → Prop) : Prop := ∀ id, ¬ Relation.TransGen leads id id

/-- The closing link of a cycle leads from its last scene to its first. -/
def Closes (cycle : List String) (a b : String) : Prop :=
  cycle.getLast? = some a ∧ cycle.head? = some b

namespace Links

/-- A graph has a link from one of its nodes to another. -/
def Joins (links : Links) (a b : String) : Prop :=
  a ∈ Table.keys links ∧ b ∈ Table.keys links ∧ links.LeadsTo a b

/-- A graph has a link between nodes that closes none of some cycles. -/
def JoinsWithout (links : Links) (cycles : List (List String)) (a b : String) : Prop :=
  links.Joins a b ∧ ∀ cycle ∈ cycles, ¬ Closes cycle a b

/-- Nodes of a graph, all different, of which each has a link to the next and the last to the
first. -/
structure IsCycle (links : Links) (cycle : List String) : Prop where
  nonempty : cycle ≠ []
  distinct : cycle.Nodup
  nodes : ∀ id ∈ cycle, id ∈ Table.keys links
  linked : cycle.IsChain links.LeadsTo
  closed : ∀ a b, Closes cycle a b → links.LeadsTo a b

/-- Every step of a cycle joins two nodes, so a graph with a cycle leads back to a node. -/
theorem IsCycle.exists_transGen {links : Links} {cycle : List String} (real : links.IsCycle cycle) :
    ∃ id, Relation.TransGen links.Joins id id := by
  cases cycle with
  | nil => exact absurd rfl real.nonempty
  | cons first rest =>
    have joined : (first :: rest).IsChain links.Joins := by
      refine real.linked.imp_of_mem_imp ?_
      intro a b memberA memberB leads
      exact ⟨real.nodes a memberA, real.nodes b memberB, leads⟩
    -- The chain goes from the first scene to the last, and the closing link goes back.
    have last_mem : (first :: rest).getLast (by simp) ∈ first :: rest := List.getLast_mem _
    have around : Relation.ReflTransGen links.Joins first ((first :: rest).getLast (by simp)) :=
      List.relationReflTransGen_of_exists_isChain_cons rest joined rfl
    have back : links.Joins ((first :: rest).getLast (by simp)) first :=
      ⟨real.nodes _ last_mem, real.nodes first List.mem_cons_self,
        real.closed _ _ ⟨List.getLast?_eq_getLast_of_ne_nil _, rfl⟩⟩
    exact ⟨first, Relation.TransGen.tail' around back⟩

end Links

namespace CycleSearch

variable {links : Links} {search next : CycleSearch} {id scene successor : String}

/-- How far a search is with a scene; one that is no node has no mark. -/
def mark? (id : String) (search : CycleSearch) : Option Mark := Table.get? id search.marks

/-- What one move of a search does. -/
inductive Move (links : Links) (search next : CycleSearch) : Prop where
  | begin (root : String) (roots : List String) (off : search.frames = [])
    (waiting : search.roots = root :: roots) (unseen : search.mark? root = some .unseen)
    (same : next = { search with roots }.enter links root)
  | pass (root : String) (roots : List String) (off : search.frames = [])
    (waiting : search.roots = root :: roots) (seen : search.mark? root ≠ some .unseen)
    (same : next = { search with roots })
  | leave (scene : String) (above : List Frame) (top : search.frames = ⟨scene, []⟩ :: above)
    (same : next = { search with
      marks := Table.put scene .finished search.marks, frames := above })
  | close (scene successor : String) (pending : List String) (above : List Frame)
    (top : search.frames = ⟨scene, successor :: pending⟩ :: above)
    (entered : search.mark? successor = some .onPath)
    (same : next = { search with
      frames := ⟨scene, pending⟩ :: above
      cycles := closedBy successor search.path :: search.cycles })
  | enter (scene successor : String) (pending : List String) (above : List Frame)
    (top : search.frames = ⟨scene, successor :: pending⟩ :: above)
    (unseen : search.mark? successor = some .unseen)
    (same : next = { search with frames := ⟨scene, pending⟩ :: above }.enter links successor)
  | skip (scene successor : String) (pending : List String) (above : List Frame)
    (top : search.frames = ⟨scene, successor :: pending⟩ :: above)
    (settled : search.mark? successor = none ∨ search.mark? successor = some .finished)
    (same : next = { search with frames := ⟨scene, pending⟩ :: above })

/-- A search that goes on makes one of the moves. -/
theorem move_of_step (taken : search.step links = some next) : Move links search next := by
  obtain ⟨roots, marks, frames, cycles⟩ := search
  -- Off the path a root is taken up, and on it the last scene decides.
  match frames, taken with
  | [], taken =>
    cases roots with
    | nil => cases taken
    | cons root roots =>
      simp only [step, Option.some.injEq] at taken
      by_cases unseen : Table.get? root marks = some .unseen
      · rw [if_pos unseen] at taken
        exact .begin root roots rfl rfl unseen taken.symm
      · rw [if_neg unseen] at taken
        exact .pass root roots rfl rfl unseen taken.symm
  | ⟨scene, []⟩ :: above, taken =>
    exact .leave scene above rfl (Option.some.inj taken).symm
  | ⟨scene, successor :: pending⟩ :: above, taken =>
    simp only [step] at taken
    split at taken
    · next entered =>
      exact .close scene successor pending above rfl entered (Option.some.inj taken).symm
    · next unseen =>
      exact .enter scene successor pending above rfl unseen (Option.some.inj taken).symm
    · next neither notOnPath notUnseen =>
      -- What is neither unseen nor on the path is finished, or no node at all.
      refine .skip scene successor pending above rfl ?_ (Option.some.inj taken).symm
      show Table.get? successor marks = none ∨ Table.get? successor marks = some .finished
      cases found : (Table.get? successor marks : Option Mark) with
      | none => exact .inl rfl
      | some mark =>
        cases mark with
        | unseen => exact absurd found notUnseen
        | onPath => exact absurd found notOnPath
        | finished => exact .inr rfl

/-- The path of a search begins with the scene of its deepest frame. -/
theorem path_eq_cons {frame : Frame} {above : List Frame} (top : search.frames = frame :: above) :
    search.path = frame.scene :: above.map (·.scene) := by
  rw [path, top, List.map_cons]

/-- A search is over when no root waits and the path is empty. -/
theorem step_eq_none_iff : search.step links = none ↔ search.frames = [] ∧ search.roots = [] := by
  obtain ⟨roots, marks, frames, cycles⟩ := search
  -- A scene on the path always has a move: its next link, or its end.
  match frames with
  | [] => cases roots <;> simp [step]
  | ⟨scene, []⟩ :: above => simp [step]
  | ⟨scene, successor :: pending⟩ :: above =>
    simp only [step, reduceCtorEq, false_and, iff_false]
    split <;> simp

/-- A link from one scene to another is settled: the other one is finished, or the link closes a
cycle that was found. -/
def Settles (search : CycleSearch) (a b : String) : Prop :=
  search.mark? b = some .finished ∨ ∃ cycle ∈ search.cycles, Closes cycle a b

/-- The links of a frame that were examined, and that lead to nodes, are settled, but for a link to
the scene that is deeper on the path. -/
def Examined (links : Links) (search : CycleSearch) (frame : Frame) (deeper : Option String) :
    Prop :=
  ∃ examined, links.successors frame.scene = examined ++ frame.pending ∧
    ∀ id ∈ examined, id ∈ Table.keys links → search.Settles frame.scene id ∨ deeper = some id

/-- A frame holds the search below one of its links. -/
def Holds (links : Links) (search : CycleSearch) (deeper above : Frame) : Prop :=
  links.LeadsTo above.scene deeper.scene ∧ Examined links search above (some deeper.scene)

/-- What holds of a search at every move. -/
structure Valid (links : Links) (search : CycleSearch) : Prop where
  -- The nodes are marked, and those on the path as being there.
  marked : ∀ id, id ∈ Table.keys links ↔ search.mark? id ≠ none
  entered : ∀ id, search.mark? id = some .onPath ↔ id ∈ search.path
  distinct : search.path.Nodup
  -- The search will still start from every scene that it has not seen.
  rooted : ∀ id, search.mark? id = some .unseen → id ∈ search.roots
  -- Each frame but the deepest one is where it was when it entered the next.
  top : ∀ frame ∈ search.frames.head?, Examined links search frame none
  held : search.frames.IsChain (Holds links search)
  -- No link of a finished scene is open, and no way around is left among finished scenes.
  settled : ∀ a b, search.mark? a = some .finished → links.Joins a b → search.Settles a b
  grounded : ∀ id, search.mark? id = some .finished →
    Acc (fun b a => links.JoinsWithout search.cycles a b) id
  real : ∀ cycle ∈ search.cycles, links.IsCycle cycle

/-- What a search has finished and found is kept in another one. -/
structure Grows (search next : CycleSearch) : Prop where
  finished : ∀ id, search.mark? id = some .finished → next.mark? id = some .finished
  cycles : ∀ cycle ∈ search.cycles, cycle ∈ next.cycles

namespace Grows

variable {a b : String} {frame : Frame} {deeper : Option String}

/-- A settled link stays settled. -/
theorem settles (grows : Grows search next) (settled : search.Settles a b) : next.Settles a b := by
  -- What is finished stays so, and a cycle that is found is kept.
  rcases settled with finished | ⟨cycle, found, closes⟩
  · exact .inl (grows.finished b finished)
  · exact .inr ⟨cycle, grows.cycles cycle found, closes⟩

/-- What a frame has examined stays examined. -/
theorem examined (grows : Grows search next) (before : Examined links search frame deeper) :
    Examined links next frame deeper := by
  obtain ⟨examined, split, each⟩ := before
  refine ⟨examined, split, ?_⟩
  intro id member node
  -- What is settled stays settled while the search grows.
  exact (each id member node).imp_left grows.settles

/-- Frames that hold each other still do. -/
theorem held (grows : Grows search next) {frames : List Frame}
    (before : frames.IsChain (Holds links search)) : frames.IsChain (Holds links next) :=
  before.imp fun _ _ holds => ⟨holds.1, grows.examined holds.2⟩

/-- With more cycles closed there are fewer ways on, so a grounded scene stays grounded. -/
theorem grounded (grows : Grows search next)
    (before : Acc (fun b a => links.JoinsWithout search.cycles a b) a) :
    Acc (fun b a => links.JoinsWithout next.cycles a b) a := by
  -- With more cycles there are fewer joins without one.
  refine Subrelation.accessible ?_ before
  rintro b a ⟨joins, unclosed⟩
  exact ⟨joins, fun cycle found => unclosed cycle (grows.cycles cycle found)⟩

end Grows

/-- Going on to the next link, a frame has examined one more. -/
theorem Examined.advance {pending : List String} {deeper : Option String}
    (before : Examined links search ⟨scene, successor :: pending⟩ none)
    (settled : successor ∈ Table.keys links → search.Settles scene successor ∨
      deeper = some successor) : Examined links search ⟨scene, pending⟩ deeper := by
  obtain ⟨examined, split, each⟩ := before
  refine ⟨examined ++ [successor], by simpa using split, ?_⟩
  intro id member node
  -- The link that was examined last joins those before it.
  rcases List.mem_append.1 member with earlier | last
  · rcases each id earlier node with settles | deeper
    · exact .inl settles
    · cases deeper
  · cases List.mem_singleton.1 last
    exact settled node

/-- A frame with no link to go on to has settled every link of its scene. -/
theorem Examined.settles {b : String} (examined : Examined links search ⟨scene, []⟩ none)
    (joins : links.Joins scene b) : search.Settles scene b := by
  obtain ⟨-, node, leads⟩ := joins
  obtain ⟨examined, split, each⟩ := examined
  -- Nothing is pending, so what was examined are all the links.
  rw [List.append_nil] at split
  rw [Links.LeadsTo, split] at leads
  rcases each b leads node with settles | deeper
  · exact settles
  · cases deeper

/-- At first every node of the graph is unseen, and nothing else has a mark. -/
theorem mark?_start (links : Links) (id : String) :
    (start links).mark? id = (Table.get? id links).map fun _ => .unseen :=
  Table.get?_map (fun _ => Mark.unseen) id links

/-- A search that has seen nothing is valid. -/
theorem valid_start : Valid links (.start links) := by
  constructor
  case marked =>
    intro id
    rw [mark?_start, Table.mem_keys_iff]
    cases Table.get? id links <;> simp
  case entered =>
    intro id
    rw [mark?_start]
    cases Table.get? id links <;> simp [path, start]
  case distinct => exact List.nodup_nil
  case rooted =>
    -- What is unseen at the start is a key, and all keys are roots.
    intro id unseen
    rw [mark?_start, Option.map_eq_some_iff] at unseen
    obtain ⟨targets, found, -⟩ := unseen
    exact mem_sortIds.2 (Table.mem_keys_iff.2 ⟨targets, found⟩)
  case top => simp [start]
  case held => exact List.isChain_nil
  case settled =>
    intro a b finished
    rw [mark?_start] at finished
    cases found : Table.get? a links <;> simp [found] at finished
  case grounded =>
    intro id finished
    rw [mark?_start] at finished
    cases found : Table.get? id links <;> simp [found] at finished
  case real => simp [start]

section Moves

variable {roots pending : List String} {frames above : List Frame}

/-- Entering a scene marks it as being on the path, and no other scene. -/
theorem mark?_enter (other : String) :
    (search.enter links id).mark? other =
      if id = other then some .onPath else search.mark? other :=
  Table.get?_put id other Mark.onPath search.marks

/-- Entering an unseen scene keeps a search valid, if the deepest frame holds it there and other
scenes still wait as roots. -/
theorem Valid.enter (valid : Valid links search) (unseen : search.mark? id = some .unseen)
    (scenes : frames.map (·.scene) = search.path)
    (waiting : ∀ other ∈ search.roots, other ≠ id → other ∈ roots)
    (top : ∀ frame ∈ frames.head?, Holds links search ⟨id, links.successors id⟩ frame)
    (held : frames.IsChain (Holds links search)) :
    Valid links (({ search with roots, frames } : CycleSearch).enter links id) := by
  have mark_next : ∀ other, (({ search with roots, frames } : CycleSearch).enter links id).mark?
      other = if id = other then some .onPath else search.mark? other := mark?_enter
  have path_next : (({ search with roots, frames } : CycleSearch).enter links id).path =
      id :: search.path := congrArg (id :: ·) scenes
  -- The entered scene was unseen, so nothing that was finished is lost.
  have grows : Grows search (({ search with roots, frames } : CycleSearch).enter links id) := by
    refine ⟨?_, fun cycle found => found⟩
    intro other finished
    have different : id ≠ other := by
      rintro rfl
      rw [unseen] at finished
      cases finished
    rw [mark_next, if_neg different]
    exact finished
  -- What is finished now was finished before.
  have before : ∀ other, (({ search with roots, frames } : CycleSearch).enter links id).mark?
      other = some .finished → search.mark? other = some .finished := by
    intro other finished
    rw [mark_next] at finished
    split at finished
    · cases finished
    · exact finished
  constructor
  case marked =>
    intro other
    rw [valid.marked, mark_next]
    split
    · next same => simp [← same, unseen]
    · exact Iff.rfl
  case entered =>
    intro other
    rw [mark_next, path_next, List.mem_cons, ← valid.entered]
    by_cases same : id = other
    · simp [same]
    · simp [same, Ne.symm same]
  case distinct =>
    rw [path_next, List.nodup_cons, ← valid.entered, unseen]
    exact ⟨by simp, valid.distinct⟩
  case rooted =>
    intro other still
    rw [mark_next] at still
    split at still
    · cases still
    · next different => exact waiting other (valid.rooted other still) (Ne.symm different)
  case top =>
    intro frame isTop
    cases Option.some.inj isTop
    exact ⟨[], rfl, fun other member => absurd member List.not_mem_nil⟩
  case held =>
    refine grows.held (List.isChain_cons.2 ⟨?_, held⟩)
    exact top
  case settled =>
    intro a b finished joins
    exact grows.settles (valid.settled a b (before a finished) joins)
  case grounded =>
    intro other finished
    exact grows.grounded (valid.grounded other (before other finished))
  case real => exact valid.real

/-- Passing over a root that has been seen keeps a search valid. -/
theorem Valid.pass {root : String} (valid : Valid links search)
    (waiting : search.roots = root :: roots) (seen : search.mark? root ≠ some .unseen) :
    Valid links { search with roots } := by
  refine { valid with rooted := ?_ }
  intro id unseen
  have member := valid.rooted id unseen
  rw [waiting] at member
  -- The root that is passed over is the only one that goes, and it was seen.
  rcases List.mem_cons.1 member with rfl | later
  · exact absurd unseen seen
  · exact later

/-- Examining a link that is settled then, and adding a cycle to those found if it closes one, keeps
a search valid. -/
theorem Valid.examine {cycles : List (List String)} (valid : Valid links search)
    (top : search.frames = ⟨scene, successor :: pending⟩ :: above)
    (more : ∀ cycle ∈ search.cycles, cycle ∈ cycles) (real : ∀ cycle ∈ cycles, links.IsCycle cycle)
    (settled : successor ∈ Table.keys links → search.mark? successor = some .finished ∨
      ∃ cycle ∈ cycles, Closes cycle scene successor) :
    Valid links { search with frames := ⟨scene, pending⟩ :: above, cycles } := by
  have grows : Grows search { search with frames := ⟨scene, pending⟩ :: above, cycles } :=
    ⟨fun _ finished => finished, more⟩
  have held := valid.held
  have examined := valid.top
  have scenes : search.path = scene :: above.map (·.scene) := path_eq_cons top
  rw [top] at held examined
  obtain ⟨holds, held⟩ := List.isChain_cons.1 held
  constructor
  case marked => exact valid.marked
  case entered =>
    intro id
    have entered := valid.entered id
    rw [scenes] at entered
    exact entered
  case distinct =>
    have distinct := valid.distinct
    rw [scenes] at distinct
    exact distinct
  case rooted => exact valid.rooted
  case top =>
    intro frame isTop
    cases Option.some.inj isTop
    exact (grows.examined (examined _ rfl)).advance fun node => .inl (settled node)
  case held =>
    -- What holds the deepest frame is said of its scene, which stays.
    exact grows.held (List.isChain_cons.2 ⟨holds, held⟩)
  case settled => exact fun a b finished joins => grows.settles (valid.settled a b finished joins)
  case grounded => exact fun id finished => grows.grounded (valid.grounded id finished)
  case real => exact real

/-- No way around is left from a scene whose links are all settled. -/
theorem Valid.acc_of_settles (valid : Valid links search)
    (settled : ∀ b, links.Joins scene b → search.Settles scene b) :
    Acc (fun b a => links.JoinsWithout search.cycles a b) scene := by
  refine Acc.intro _ ?_
  rintro b ⟨joins, unclosed⟩
  -- Every way on from the scene closes no cycle, so it leads to a finished scene.
  rcases settled b joins with finished | ⟨cycle, found, closes⟩
  · exact valid.grounded b finished
  · exact absurd closes (unclosed cycle found)

/-- Leaving a scene of which every link was examined keeps a search valid. -/
theorem Valid.leave (valid : Valid links search) (top : search.frames = ⟨scene, []⟩ :: above) :
    Valid links { search with
      marks := Table.put scene .finished search.marks, frames := above } := by
  have mark_next : ∀ id, ({ search with
      marks := Table.put scene .finished search.marks, frames := above } : CycleSearch).mark? id =
        if scene = id then some .finished else search.mark? id :=
    fun id => Table.get?_put scene id Mark.finished search.marks
  have scenes : search.path = scene :: above.map (·.scene) := path_eq_cons top
  have entered := valid.entered
  have distinct := valid.distinct
  have held := valid.held
  have examined := valid.top
  rw [scenes] at entered distinct
  rw [top] at held examined
  obtain ⟨fresh, distinct⟩ := List.nodup_cons.1 distinct
  obtain ⟨holds, held⟩ := List.isChain_cons.1 held
  have grows : Grows search { search with
      marks := Table.put scene .finished search.marks, frames := above } := by
    refine ⟨?_, fun cycle found => found⟩
    intro id finished
    rw [mark_next]
    split
    · rfl
    · exact finished
  -- The deepest scene has no link that is neither settled nor still to be examined.
  have done : ∀ b, links.Joins scene b → search.Settles scene b :=
    fun b joins => (examined _ rfl).settles joins
  constructor
  case marked =>
    intro id
    rw [valid.marked, mark_next]
    split
    · next same =>
      subst same
      simp [(entered scene).2 List.mem_cons_self]
    · exact Iff.rfl
  case entered =>
    intro id
    rw [mark_next]
    show _ ↔ id ∈ above.map (·.scene)
    split
    · next same =>
      subst same
      simp only [reduceCtorEq, false_iff, Option.some.injEq]
      exact fresh
    · next different =>
      rw [entered, List.mem_cons]
      simp [Ne.symm different]
  case distinct => exact distinct
  case rooted =>
    intro id unseen
    rw [mark_next] at unseen
    split at unseen
    · cases unseen
    · exact valid.rooted id unseen
  case top =>
    intro frame isTop
    obtain ⟨-, examined, split, each⟩ := holds frame isTop
    refine ⟨examined, split, ?_⟩
    intro id member node
    -- The frame waited for the scene that is finished now.
    rcases each id member node with settles | deeper
    · exact .inl (grows.settles settles)
    · cases deeper
      exact .inl (.inl ((mark_next scene).trans (if_pos rfl)))
  case held => exact grows.held held
  case settled =>
    intro a b finished joins
    rw [mark_next] at finished
    split at finished
    · next same =>
      subst same
      exact grows.settles (done b joins)
    · exact grows.settles (valid.settled a b finished joins)
  case grounded =>
    intro id finished
    rw [mark_next] at finished
    split at finished
    · next same =>
      subst same
      exact grows.grounded (valid.acc_of_settles done)
    · exact grows.grounded (valid.grounded id finished)
  case real => exact valid.real

end Moves

section Closing

variable {path : List String}

/-- A path goes on after the first place of a scene on it. -/
theorem exists_eq_takeWhile_append (member : id ∈ path) :
    ∃ rest, path = (path.takeWhile (· ≠ id) ++ [id]) ++ rest := by
  induction path with
  | nil => cases member
  | cons first others ih =>
    -- The path is cut behind the first place of the scene.
    by_cases same : first = id
    · exact ⟨others, by simp [same]⟩
    · rcases List.mem_cons.1 member with rfl | later
      · exact absurd rfl same
      · obtain ⟨rest, split⟩ := ih later
        refine ⟨rest, ?_⟩
        rw [List.takeWhile_cons_of_pos (by simpa using same), List.cons_append, List.cons_append,
          ← split]

/-- The cycle made by a link from the deepest scene back to the path is closed by that link. -/
theorem closes_closedBy (member : id ∈ path) (top : path.head? = some scene) :
    Closes (closedBy id path) scene id := by
  obtain ⟨rest, split⟩ := exists_eq_takeWhile_append member
  -- The part of the path that is taken begins like the path.
  have begins : (path.takeWhile (· ≠ id) ++ [id]).head? =
      ((path.takeWhile (· ≠ id) ++ [id]) ++ rest).head? := by
    cases path.takeWhile (· ≠ id) <;> rfl
  rw [← split, top] at begins
  constructor
  · rw [closedBy, List.getLast?_reverse, begins]
  · rw [closedBy, List.reverse_append]
    rfl

/-- A valid search has its deepest scene lead back to the path only along the path. -/
theorem Valid.isCycle_closedBy (valid : Valid links search) (member : id ∈ search.path)
    (top : search.path.head? = some scene) (leads : links.LeadsTo scene id) :
    links.IsCycle (closedBy id search.path) := by
  obtain ⟨rest, split⟩ := exists_eq_takeWhile_append member
  have taken : ∀ other ∈ search.path.takeWhile (· ≠ id) ++ [id], other ∈ search.path := by
    intro other among
    rw [split]
    exact List.mem_append_left rest among
  constructor
  case nonempty => simp [closedBy]
  case distinct =>
    have distinct := valid.distinct
    rw [split] at distinct
    rw [closedBy, List.nodup_reverse]
    exact (List.nodup_append.1 distinct).1
  case nodes =>
    intro other among
    rw [closedBy, List.mem_reverse] at among
    rw [valid.marked, (valid.entered other).2 (taken other among)]
    simp
  case linked =>
    -- The path is read from the deepest scene up, and the cycle the other way.
    have held : search.path.IsChain fun deeper above => links.LeadsTo above deeper := by
      rw [CycleSearch.path, List.isChain_map]
      exact valid.held.imp fun _ _ holds => holds.1
    rw [split] at held
    rw [closedBy, List.isChain_reverse]
    exact held.left_of_append
  case closed =>
    rintro a b ⟨last, first⟩
    obtain ⟨ends, begins⟩ := closes_closedBy member top
    cases ends.symm.trans last
    cases begins.symm.trans first
    exact leads

end Closing

/-- Every move keeps a search valid. -/
theorem Valid.step (valid : Valid links search) (taken : search.step links = some next) :
    Valid links next := by
  cases move_of_step taken with
  | begin root roots off waiting unseen same =>
    subst same
    refine valid.enter unseen rfl ?_ (by simp [off]) valid.held
    -- The root that is entered no longer waits.
    intro other listed different
    rw [waiting] at listed
    exact (List.mem_cons.1 listed).resolve_left different
  | pass root roots off waiting seen same =>
    subst same
    exact valid.pass waiting seen
  | leave scene above top same =>
    subst same
    exact valid.leave top
  | close scene successor pending above top entered same =>
    subst same
    have member : successor ∈ search.path := (valid.entered successor).1 entered
    have deepest : search.path.head? = some scene := by rw [path_eq_cons top]; rfl
    obtain ⟨examined, split, -⟩ := valid.top _ (by rw [top]; rfl)
    have leads : links.LeadsTo scene successor := by
      rw [Links.LeadsTo, split]
      exact List.mem_append_right examined List.mem_cons_self
    refine valid.examine top (fun cycle found => List.mem_cons_of_mem _ found) ?_ ?_
    · exact List.forall_mem_cons.2 ⟨valid.isCycle_closedBy member deepest leads, valid.real⟩
    · intro _
      exact .inr ⟨_, List.mem_cons_self, closes_closedBy member deepest⟩
  | enter scene successor pending above top unseen same =>
    subst same
    have held := valid.held
    have examined := valid.top ⟨scene, successor :: pending⟩ (by rw [top]; rfl)
    rw [top] at held
    obtain ⟨holds, held⟩ := List.isChain_cons.1 held
    refine valid.enter unseen (path_eq_cons top).symm (fun other listed _ => listed) ?_
      (List.isChain_cons.2 ⟨holds, held⟩)
    -- The frame has examined one link more, and holds the search below that link.
    intro frame isTop
    cases Option.some.inj isTop
    refine ⟨?_, examined.advance fun _ => .inr rfl⟩
    obtain ⟨before, split, -⟩ := examined
    rw [Links.LeadsTo, split]
    exact List.mem_append_right before List.mem_cons_self
  | skip scene successor pending above top settled same =>
    subst same
    refine valid.examine top (fun cycle found => found) valid.real ?_
    intro node
    rcases settled with unmarked | finished
    · exact absurd unmarked ((valid.marked successor).1 node)
    · exact .inl finished

/-- Any number of moves keeps a search valid. -/
theorem Valid.run (valid : Valid links search) (fuel : Nat) :
    Valid links (search.run links fuel) := by
  induction fuel generalizing search with
  | zero => exact valid
  | succ fuel ih =>
    rw [CycleSearch.run]
    -- A run stops where there is no step, and else goes on from a valid search.
    split
    · exact valid
    · next next taken => exact ih (valid.step taken)

/-- Whether a scene has not been seen. -/
def isUnseen (search : CycleSearch) (id : String) : Bool := search.mark? id == some .unseen

/-- The nodes of a graph that a search has not seen. -/
def unseenNodes (links : Links) (search : CycleSearch) : Links :=
  links.filter fun node => search.isUnseen node.1

/-- The links of the path that are still to be examined. -/
def pendingCount (frames : List Frame) : Nat := (frames.flatMap Frame.pending).length

/-- No path has links to be examined if it has no scenes. -/
@[simp] theorem pendingCount_nil : pendingCount [] = 0 := rfl

/-- The links of a path are those of its last scene and those of the path before it. -/
@[simp] theorem pendingCount_cons (frame : Frame) (frames : List Frame) :
    pendingCount (frame :: frames) = frame.pending.length + pendingCount frames := by
  rw [pendingCount, List.flatMap_cons, List.length_append, pendingCount]

/-- A bound on the moves ahead: one for each root, one for each scene to be left, and one for each
link to be examined. -/
def movesAhead (links : Links) (search : CycleSearch) : Nat :=
  search.roots.length + (search.frames.length + pendingCount search.frames) +
    ((unseenNodes links search).length + (unseenNodes links search).edgeCount)

/-- Whatever a search keeps unseen, fewer unseen nodes are no more moves ahead. -/
theorem unseenNodes_le (links : Links)
    (fewer : ∀ id, next.isUnseen id = true → search.isUnseen id = true) :
    (unseenNodes links next).length + (unseenNodes links next).edgeCount ≤
      (unseenNodes links search).length + (unseenNodes links search).edgeCount := by
  -- Fewer unseen scenes are fewer nodes, and have fewer links.
  have nodes : (unseenNodes links next).length ≤ (unseenNodes links search).length :=
    (List.monotone_filter_right links fun node => fewer node.1).length_le
  have edges := Search.edgeCount_filter_le links fewer
  exact Nat.add_le_add nodes edges

/-- A node that is seen now takes its links and itself out of what is unseen. -/
theorem successors_add_unseenNodes_lt
    (fewer : ∀ other, next.isUnseen other = true → search.isUnseen other = true)
    (seen : next.isUnseen id = false) (unseen : search.isUnseen id = true)
    (node : id ∈ Table.keys links) :
    (links.successors id).length +
        ((unseenNodes links next).length + (unseenNodes links next).edgeCount) <
      (unseenNodes links search).length + (unseenNodes links search).edgeCount := by
  have edges : (links.successors id).length + (unseenNodes links next).edgeCount ≤
      (unseenNodes links search).edgeCount :=
    Search.successors_add_edgeCount_filter_le links fewer seen unseen
  have again : unseenNodes links next =
      (unseenNodes links search).filter fun node => next.isUnseen node.1 := by
    rw [unseenNodes, unseenNodes, List.filter_filter]
    refine List.filter_congr fun node _ => ?_
    by_cases still : next.isUnseen node.1 = true
    · rw [still, fewer _ still]
      rfl
    · rw [Bool.not_eq_true] at still
      rw [still, Bool.false_and]
  -- The entry of the node is unseen before, and not any more.
  have nodes : (unseenNodes links next).length < (unseenNodes links search).length := by
    obtain ⟨entry, listed, rfl⟩ := List.mem_map.1 node
    rw [again, List.length_filter_lt_length_iff_exists]
    exact ⟨entry, List.mem_filter.2 ⟨listed, unseen⟩, by simp [seen]⟩
  omega

/-- Entering an unseen node makes no more moves ahead than there were. -/
theorem movesAhead_enter_le (unseen : search.mark? id = some .unseen)
    (node : id ∈ Table.keys links) :
    movesAhead links (search.enter links id) ≤ movesAhead links search := by
  -- Entering a scene makes it seen, so that its links move from the unseen ones to the path.
  have fewer : ∀ other, (search.enter links id).isUnseen other = true →
      search.isUnseen other = true := by
    intro other still
    simp only [isUnseen, mark?_enter, beq_iff_eq] at still ⊢
    split at still
    · cases still
    · exact still
  have seen : (search.enter links id).isUnseen id = false := by
    simp [isUnseen, mark?_enter]
  have less := successors_add_unseenNodes_lt fewer seen (by simp [isUnseen, unseen]) node
  have frames : (search.enter links id).frames = ⟨id, links.successors id⟩ :: search.frames := rfl
  have roots : (search.enter links id).roots = search.roots := rfl
  simp only [movesAhead, frames, roots, List.length_cons, pendingCount_cons]
  omega

/-- Every move leaves fewer moves ahead. -/
theorem Valid.movesAhead_lt (valid : Valid links search) (taken : search.step links = some next) :
    movesAhead links next < movesAhead links search := by
  have node : ∀ other, search.mark? other = some .unseen → other ∈ Table.keys links := by
    intro other unseen
    rw [valid.marked, unseen]
    simp
  cases move_of_step taken with
  | begin root roots off waiting unseen same =>
    have entering : movesAhead links (({ search with roots } : CycleSearch).enter links root) ≤ _ :=
      movesAhead_enter_le unseen (node root unseen)
    have one : movesAhead links { search with roots } + 1 = movesAhead links search := by
      simp only [movesAhead, waiting, List.length_cons, unseenNodes, isUnseen, mark?]
      omega
    subst same
    omega
  | pass root roots off waiting seen same =>
    subst same
    simp only [movesAhead, waiting, List.length_cons, unseenNodes, isUnseen, mark?]
    omega
  | leave scene above top same =>
    -- No scene is unseen again when one is finished.
    have fewer : ∀ id, next.isUnseen id = true → search.isUnseen id = true := by
      intro id still
      subst same
      simp only [isUnseen, mark?, Table.get?_put, beq_iff_eq] at still ⊢
      split at still
      · cases still
      · exact still
    have less := unseenNodes_le links fewer
    have frames : next.frames = above := by rw [same]
    have roots : next.roots = search.roots := by rw [same]
    simp only [movesAhead, frames, roots, top, pendingCount_cons, List.length_cons]
    omega
  | close scene successor pending above top entered same =>
    subst same
    simp only [movesAhead, top, pendingCount_cons, List.length_cons, unseenNodes, isUnseen,
      mark?]
    omega
  | enter scene successor pending above top unseen same =>
    have entering : movesAhead links (({ search with
        frames := ⟨scene, pending⟩ :: above } : CycleSearch).enter links successor) ≤ _ :=
      movesAhead_enter_le unseen (node successor unseen)
    have one : movesAhead links { search with frames := ⟨scene, pending⟩ :: above } + 1 =
        movesAhead links search := by
      simp only [movesAhead, top, pendingCount_cons, List.length_cons, unseenNodes, isUnseen,
        mark?]
      omega
    subst same
    omega
  | skip scene successor pending above top settled same =>
    subst same
    simp only [movesAhead, top, pendingCount_cons, List.length_cons, unseenNodes, isUnseen,
      mark?]
    omega

/-- At first there are at most two moves for each node and one for each link. -/
theorem movesAhead_start (links : Links) :
    movesAhead links (.start links) ≤ 2 * links.length + links.edgeCount := by
  -- At the start all nodes are roots, and none of them is seen.
  have nodes : (unseenNodes links (.start links)).length ≤ links.length :=
    List.length_filter_le _ links
  have edges : (unseenNodes links (.start links)).edgeCount ≤
      Links.edgeCount (links.filter fun _ => true) :=
    Search.edgeCount_filter_le links fun _ _ => rfl
  rw [List.filter_true] at edges
  have roots : (CycleSearch.start links).roots.length = links.length := by
    simp [start, sortIds, Table.keys]
  have frames : (CycleSearch.start links).frames = [] := rfl
  rw [movesAhead, roots, frames, List.length_nil, pendingCount_nil]
  omega

/-- A search with enough fuel goes on until no move is left. -/
theorem Valid.step_run_eq_none (valid : Valid links search) {fuel : Nat}
    (enough : movesAhead links search ≤ fuel) : (search.run links fuel).step links = none := by
  induction fuel generalizing search with
  | zero =>
    -- Without a move ahead no root waits and the path is empty.
    rw [movesAhead] at enough
    have off : search.frames.length = 0 := by omega
    have done : search.roots.length = 0 := by omega
    exact step_eq_none_iff.2 ⟨List.length_eq_zero_iff.1 off, List.length_eq_zero_iff.1 done⟩
  | succ fuel ih =>
    rw [CycleSearch.run]
    split
    · next spent => exact spent
    · next next taken =>
      have fewer := valid.movesAhead_lt taken
      exact ih (valid.step taken) (by omega)

/-- When no move is left, every node is finished. -/
theorem Valid.finished_of_step_eq_none (valid : Valid links search)
    (spent : search.step links = none) (node : id ∈ Table.keys links) :
    search.mark? id = some .finished := by
  obtain ⟨off, done⟩ := step_eq_none_iff.1 spent
  have marked := (valid.marked id).1 node
  -- Neither a root is left nor a path, so that no mark but the last one is possible.
  cases found : search.mark? id with
  | none => exact absurd found marked
  | some mark =>
    cases mark with
    | finished => rfl
    | unseen =>
      have waits := valid.rooted id found
      rw [done] at waits
      cases waits
    | onPath =>
      have among := (valid.entered id).1 found
      rw [path, off] at among
      cases among

end CycleSearch

namespace Links

/-- A search for cycles that is over. -/
theorem exists_search (links : Links) :
    ∃ search : CycleSearch, search.Valid links ∧ search.step links = none ∧
      ∀ cycle, cycle ∈ links.cycles ↔ cycle ∈ search.cycles := by
  refine ⟨_, CycleSearch.valid_start.run (2 * links.length + links.edgeCount + 1),
    CycleSearch.valid_start.step_run_eq_none
      (Nat.le_succ_of_le (CycleSearch.movesAhead_start links)), ?_⟩
  -- The cycles are reported in the order in which they were closed.
  intro cycle
  rw [cycles, List.mem_reverse]

/-- Every reported cycle is a cycle of the graph. -/
theorem isCycle_of_mem_cycles {links : Links} {cycle : List String}
    (reported : cycle ∈ links.cycles) : links.IsCycle cycle := by
  -- What the finished search has found is real by its invariant.
  obtain ⟨search, valid, -, same⟩ := exists_search links
  exact valid.real cycle ((same cycle).1 reported)

/-- Without the closing links of the reported cycles the nodes of a graph lead nowhere back. -/
theorem acyclic_joinsWithout_cycles (links : Links) :
    Acyclic (links.JoinsWithout links.cycles) := by
  obtain ⟨search, valid, spent, same⟩ := exists_search links
  -- Every node was finished, so there is no endless way on from it.
  have grounded : WellFounded fun b a => links.JoinsWithout links.cycles a b := by
    refine ⟨fun id => Acc.intro id ?_⟩
    rintro b ⟨⟨-, node, -⟩, -⟩
    refine Subrelation.accessible ?_
      (valid.grounded b (valid.finished_of_step_eq_none spent node))
    rintro c d ⟨joins, unclosed⟩
    exact ⟨joins, fun cycle found => unclosed cycle ((same cycle).2 found)⟩
  intro id around
  exact grounded.transGen.irrefl.irrefl id (Relation.transGen_swap.2 around)

/-- The reported cycles break every way around: without their closing links a graph is acyclic, and
none is reported exactly when it is acyclic as it stands. -/
theorem acyclic_without_closing_links (links : Links) :
    Acyclic (links.JoinsWithout links.cycles) ∧ (links.cycles = [] ↔ Acyclic links.Joins) := by
  refine ⟨acyclic_joinsWithout_cycles links, ?_, ?_⟩
  · intro none id around
    have broken := acyclic_joinsWithout_cycles links id
    rw [none] at broken
    -- Without a reported cycle nothing is taken away.
    refine broken (Relation.TransGen.mono ?_ _ _ around)
    intro a b joins
    exact ⟨joins, fun cycle found => absurd found List.not_mem_nil⟩
  · intro acyclic
    by_contra some
    obtain ⟨cycle, reported⟩ := List.exists_mem_of_ne_nil _ some
    obtain ⟨id, around⟩ := (isCycle_of_mem_cycles reported).exists_transGen
    exact acyclic id around

end Links

end Gamebook
