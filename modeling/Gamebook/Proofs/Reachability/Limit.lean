import Gamebook.Proofs.Links.Route
import Gamebook.Proofs.Reachability

/-! Which reached scenes lead to an unreachable one: those at which the limit ends the search. -/

namespace Gamebook

/-- The shortest chain of transitions from a named start to a scene has a number of them. -/
def LeadsFirst (scenes : Table Json) (following : Following) (start : Option String)
    (distance : Nat) (id : String) : Prop :=
  ∃ first, start = some first ∧ first ≠ "" ∧ IsDistance (Refers scenes following) first distance id

variable {index : SceneIndex} {start : Option String} {scenes : Table Json} {limit : Int}
  {following : Following} {id next source : String} {distance : Nat}

/-- A short enough chain leads to a scene exactly when the shortest one is short enough. -/
theorem leadsWithin_iff_leadsFirst :
    LeadsWithin scenes following start limit id ↔
      ∃ distance : Nat, (distance : Int) < limit ∧
        LeadsFirst scenes following start distance id := by
  constructor
  · rintro ⟨first, named, nonempty, length, short, walk⟩
    -- The shortest walk is within the limit if any walk is.
    obtain ⟨distance, bound, away⟩ := walk.exists_isDistance
    exact ⟨distance, by omega, first, named, nonempty, away⟩
  · rintro ⟨distance, short, first, named, nonempty, away⟩
    exact ⟨first, named, nonempty, distance, short, away.walk⟩

/-- One transition more leads one scene on. -/
theorem LeadsWithin.step (leads : LeadsWithin scenes following start limit id)
    (last : Refers scenes following id next) :
    LeadsWithin scenes following start (limit + 1) next := by
  -- The walk is one step longer, and so is the limit.
  obtain ⟨first, named, nonempty, length, short, walk⟩ := leads
  exact ⟨first, named, nonempty, length + 1, by omega, walk.step last⟩

/-- A shortest chain to a scene that leads on has fewer transitions than there are loaded scenes. -/
theorem LeadsFirst.lt_length (leads : LeadsFirst scenes following start distance id)
    (on : Refers scenes following id next) : distance < scenes.length := by
  obtain ⟨first, -, -, away⟩ := leads
  -- Only a loaded scene refers to any, the scene itself included.
  have loaded : ∀ source next, Refers scenes following source next →
      source ∈ Table.keys scenes := by
    rintro source next ⟨document, found, -⟩
    exact Table.mem_keys_iff.2 ⟨document, found⟩
  have bound := away.lt_length loaded (loaded id next on)
  rwa [Table.keys, List.length_map] at bound

namespace Reachability

variable {scene : UnreachableScene}

/-- No short enough chain leads to an unreachable scene. -/
theorem not_leadsWithin_of_mem_unreachable (loadedOnce : (Table.keys scenes).Nodup)
    (listed : scene ∈ (ofCorpus index start scenes limit following).unreachable) :
    ¬ LeadsWithin scenes following start limit scene.id := by
  -- Reached is what some short enough walk leads to.
  have missed := (mem_unreachable_ofCorpus.1 (List.mem_map_of_mem listed)).2.1
  rwa [mem_reachable_ofCorpus loadedOnce] at missed

/-- A source of an unreachable scene is reached exactly when the next transition is the first that
the limit excludes. -/
theorem mem_reachable_source_iff (loadedOnce : (Table.keys scenes).Nodup)
    (listed : scene ∈ (ofCorpus index start scenes limit following).unreachable)
    (member : source ∈ scene.sources) :
    source ∈ (ofCorpus index start scenes limit following).reachable ↔
      ∃ distance : Nat, (distance : Int) + 1 = limit ∧
        LeadsFirst scenes following start distance source := by
  have missed := not_leadsWithin_of_mem_unreachable loadedOnce listed
  obtain ⟨-, refers⟩ := ((tellsLinks_of_mem_unreachable loadedOnce listed).sources source).1 member
  rw [mem_reachable_ofCorpus loadedOnce, leadsWithin_iff_leadsFirst]
  constructor
  · rintro ⟨distance, short, leads⟩
    refine ⟨distance, ?_, leads⟩
    -- With a transition to spare, the scene that the source leads to would be reached as well.
    by_contra spare
    have within : LeadsWithin scenes following start (limit - 1) source :=
      leadsWithin_iff_leadsFirst.2 ⟨distance, by omega, leads⟩
    have reached := within.step refers
    rw [Int.sub_add_cancel] at reached
    exact missed reached
  · rintro ⟨distance, last, leads⟩
    exact ⟨distance, by omega, leads⟩

/-- An unreachable scene has a reached source exactly when a limit that is one higher would reach
it. -/
theorem exists_reachable_source_iff (loadedOnce : (Table.keys scenes).Nodup) (positive : 1 ≤ limit)
    (listed : scene ∈ (ofCorpus index start scenes limit following).unreachable) :
    (∃ source ∈ scene.sources, source ∈ (ofCorpus index start scenes limit following).reachable) ↔
      LeadsWithin scenes following start (limit + 1) scene.id := by
  have missed := not_leadsWithin_of_mem_unreachable loadedOnce listed
  have sources := (tellsLinks_of_mem_unreachable loadedOnce listed).sources
  constructor
  · rintro ⟨source, member, reached⟩
    rw [mem_reachable_ofCorpus loadedOnce] at reached
    exact reached.step ((sources source).1 member).2
  · rintro ⟨first, named, nonempty, length, short, walk⟩
    cases walk with
    | rest =>
      -- The start itself is reached within any limit that is not zero.
      exact absurd ⟨scene.id, named, nonempty, 0, by omega, .rest⟩ missed
    | @step length source _ before last =>
      have within : LeadsWithin scenes following start limit source :=
        ⟨first, named, nonempty, length, by omega, before⟩
      refine ⟨source, (sources source).2 ⟨?_, last⟩, (mem_reachable_ofCorpus loadedOnce).2 within⟩
      rintro rfl
      exact missed within

/-- The sources of an unreachable scene that are reached are those at which the limit ends the
search: the shortest chain to them has one transition less than the limit. There is such a source
exactly when a limit that is one higher would reach the scene, and none where the limit is greater
than the number of loaded scenes. -/
theorem reached_sources_at_limit (loadedOnce : (Table.keys scenes).Nodup) (positive : 1 ≤ limit)
    (listed : scene ∈ (ofCorpus index start scenes limit following).unreachable) :
    (∀ source ∈ scene.sources,
      (source ∈ (ofCorpus index start scenes limit following).reachable ↔
        ∃ distance : Nat, (distance : Int) + 1 = limit ∧
          LeadsFirst scenes following start distance source)) ∧
    ((∃ source ∈ scene.sources,
        source ∈ (ofCorpus index start scenes limit following).reachable) ↔
      LeadsWithin scenes following start (limit + 1) scene.id) ∧
    ((scenes.length : Int) < limit → ∀ source ∈ scene.sources,
      source ∉ (ofCorpus index start scenes limit following).reachable) := by
  refine ⟨fun _ => mem_reachable_source_iff loadedOnce listed,
    exists_reachable_source_iff loadedOnce positive listed, ?_⟩
  intro ample source member reached
  -- A reached source would be as far away as the limit, which is more than there are scenes.
  obtain ⟨distance, last, leads⟩ := (mem_reachable_source_iff loadedOnce listed member).1 reached
  obtain ⟨-, refers⟩ := ((tellsLinks_of_mem_unreachable loadedOnce listed).sources source).1 member
  have bound := leads.lt_length refers
  omega

/-- The scenes that the fork declares, in order. -/
theorem sortIds_fork : sortIds (Table.keys forkIndex.entries) =
    ["hidden", "lost", "next", "orphan", "start"] :=
  (sortIds_eq_of_perm (by decide)).trans (sortIds_eq_self (by decide))

/-- In the fork a limit of one transition leaves out what the start leads to, and a limit that is
greater than the number of scenes leaves out only what no reached scene leads to. -/
theorem reached_sources_at_limit_fork :
    let short := ofCorpus forkIndex (some "start") forkScenes 1 .everything
    let ample := ofCorpus forkIndex (some "start") forkScenes 4 .everything
    (Table.keys forkScenes).Nodup ∧ (1 : Int) ≤ 4 ∧ (forkScenes.length : Int) < 4 ∧
      short.unreachable = [⟨"lost", .noIncomingLinks, []⟩, ⟨"next", .disconnected, ["start"]⟩,
        ⟨"orphan", .disconnected, ["lost"]⟩] ∧
      "start" ∈ short.reachable ∧
      (∃ distance : Nat, (distance : Int) + 1 = 1 ∧
        LeadsFirst forkScenes .everything (some "start") distance "start") ∧
      LeadsWithin forkScenes .everything (some "start") (1 + 1) "next" ∧
      ample.unreachable = [⟨"lost", .noIncomingLinks, []⟩, ⟨"orphan", .disconnected, ["lost"]⟩] ∧
      "lost" ∉ ample.reachable := by
  intro short ample
  have loadedOnce : (Table.keys forkScenes).Nodup := by decide
  -- With a limit of one the next scene is missed, although the start leads to it.
  have missedByShort : short.unreachable = [⟨"lost", .noIncomingLinks, []⟩,
      ⟨"next", .disconnected, ["start"]⟩, ⟨"orphan", .disconnected, ["lost"]⟩] := by
    simp only [short, ofCorpus, sortIds_fork]
    decide +kernel
  have missedByAmple : ample.unreachable =
      [⟨"lost", .noIncomingLinks, []⟩, ⟨"orphan", .disconnected, ["lost"]⟩] := by
    simp only [ample, ofCorpus, sortIds_fork]
    decide +kernel
  have start : "start" ∈ short.reachable := by
    rw [← IdSet.contains_iff]
    decide +kernel
  have next : ⟨"next", .disconnected, ["start"]⟩ ∈ short.unreachable := by simp [missedByShort]
  have orphan : ⟨"orphan", .disconnected, ["lost"]⟩ ∈ ample.unreachable := by simp [missedByAmple]
  obtain ⟨atLimit, beyond, -⟩ := reached_sources_at_limit loadedOnce (by decide) next
  obtain ⟨-, -, none⟩ := reached_sources_at_limit loadedOnce (by decide) orphan
  exact ⟨loadedOnce, by decide, by decide, missedByShort, start,
    (atLimit "start" List.mem_cons_self).1 start, beyond.1 ⟨"start", List.mem_cons_self, start⟩,
    missedByAmple, none (by decide) "lost" List.mem_cons_self⟩

/-- An index of a gate and of the hall behind it. -/
def gateIndex : SceneIndex :=
  ⟨[("gate", .object []), ("hall", .object [])], .empty, []⟩

/-- A gate that leads to a hall. -/
def gateScenes : Table Json :=
  [("gate", .object [("choices", .list [.object [("to", .text "hall")]])])]

/-- With a limit of one transition the hall is called disconnected, though the gate that leads to it
is reached. -/
theorem hall_disconnected_behind_reached_gate :
    let report := ofCorpus gateIndex (some "gate") gateScenes 1 .everything
    report.unreachable = [⟨"hall", .disconnected, ["gate"]⟩] ∧ "gate" ∈ report.reachable := by
  intro report
  -- The declared scenes are already in order.
  have sorted : sortIds (Table.keys gateIndex.entries) = ["gate", "hall"] :=
    sortIds_eq_self (by decide)
  constructor
  · simp only [report, ofCorpus, sorted]
    decide +kernel
  · rw [← IdSet.contains_iff]
    decide +kernel

end Reachability

end Gamebook
