import Mathlib.Data.Nat.Find
import Mathlib.Data.List.Chain
import Gamebook.Proofs.Links.Search

/-! Walks as lists of scenes, shortest walks, and the scenes found within a limit. -/

namespace Gamebook

section Walks

variable {leads : String → String → Prop} {start id : String} {length distance other : Nat}

/-- The shortest walk from a start to a scene has a number of steps. -/
structure IsDistance (leads : String → String → Prop) (start : String) (distance : Nat)
    (id : String) : Prop where
  walk : Walk leads start distance id
  least : ∀ length, Walk leads start length id → distance ≤ length

/-- A scene has one distance from a start. -/
theorem IsDistance.unique (first : IsDistance leads start distance id)
    (second : IsDistance leads start other id) : distance = other :=
  Nat.le_antisymm (first.least other second.walk) (second.least distance first.walk)

/-- Where there is a walk, there is a shortest one. -/
theorem Walk.exists_isDistance (walk : Walk leads start length id) :
    ∃ distance, distance ≤ length ∧ IsDistance leads start distance id := by
  classical
  -- The distance is the least of the lengths of walks.
  have found : ∃ length, Walk leads start length id := ⟨length, walk⟩
  exact ⟨Nat.find found, Nat.find_min' found walk, Nat.find_spec found,
    fun _ other => Nat.find_min' found other⟩

/-- A shortest walk comes by a scene that is one step nearer to the start. -/
theorem IsDistance.exists_before (away : IsDistance leads start (distance + 1) id) :
    ∃ before, IsDistance leads start distance before ∧ leads before id := by
  cases away.walk with
  | step walk last =>
    refine ⟨_, ⟨walk, ?_⟩, last⟩
    -- A shorter walk to the scene before would give a shorter one to the scene itself.
    intro length shorter
    have least := away.least (length + 1) (shorter.step last)
    omega

/-- A shortest walk comes by as many scenes as it has steps; they are all different, and each of
them leads on. -/
theorem IsDistance.exists_sources (away : IsDistance leads start distance id) :
    ∃ sources : List String, sources.length = distance ∧ sources.Nodup ∧
      ∀ source ∈ sources, (∃ next, leads source next) ∧
        ∃ nearer, nearer < distance ∧ IsDistance leads start nearer source := by
  induction distance generalizing id with
  | zero => exact ⟨[], rfl, List.nodup_nil, by simp⟩
  | succ distance ih =>
    obtain ⟨before, near, leads⟩ := away.exists_before
    obtain ⟨sources, count, distinct, each⟩ := ih near
    refine ⟨before :: sources, by rw [List.length_cons, count], List.nodup_cons.2 ⟨?_, distinct⟩,
      List.forall_mem_cons.2 ⟨⟨⟨id, leads⟩, distance, Nat.lt_succ_self distance, near⟩, ?_⟩⟩
    · -- The earlier scenes of the walk are nearer to the start than the last one before its end.
      intro member
      obtain ⟨-, nearer, less, again⟩ := each before member
      exact absurd (again.unique near) (Nat.ne_of_lt less)
    · intro source member
      obtain ⟨on, nearer, less, found⟩ := each source member
      exact ⟨on, nearer, Nat.lt_succ_of_lt less, found⟩

/-- Where only some scenes lead on, a shortest walk to one of them has fewer steps than there are.
-/
theorem IsDistance.lt_length {nodes : List String} (away : IsDistance leads start distance id)
    (within : ∀ a b, leads a b → a ∈ nodes) (member : id ∈ nodes) : distance < nodes.length := by
  obtain ⟨sources, count, distinct, each⟩ := away.exists_sources
  -- The scene itself is farther away than the scenes on the way, and all of them lead on.
  have apart : (id :: sources).Nodup := by
    refine List.nodup_cons.2 ⟨?_, distinct⟩
    intro again
    obtain ⟨-, nearer, less, same⟩ := each id again
    exact absurd (same.unique away) (Nat.ne_of_lt less)
  have listed : id :: sources ⊆ nodes := by
    refine List.forall_mem_cons.2 ⟨member, ?_⟩
    intro source among
    obtain ⟨⟨next, leads⟩, -⟩ := each source among
    exact within source next leads
  have bound := (List.subperm_of_subset apart listed).length_le
  rwa [List.length_cons, count] at bound

/-- Where only some scenes lead on, a shortest walk has no more steps than there are such scenes. -/
theorem IsDistance.le_length {nodes : List String} (away : IsDistance leads start distance id)
    (within : ∀ a b, leads a b → a ∈ nodes) : distance ≤ nodes.length := by
  -- Its end need not lead on, so it is one scene more at most.
  have bound : distance < (id :: nodes).length :=
    away.lt_length (fun a b on => List.mem_cons_of_mem id (within a b on)) List.mem_cons_self
  exact Nat.lt_succ_iff.1 bound

/-- Scenes in order, of which each leads to the next, from a start to a scene. -/
structure IsRoute (leads : String → String → Prop) (start : String) (route : List String)
    (id : String) : Prop where
  begins : route.head? = some start
  ends : route.getLast? = some id
  linked : route.IsChain leads

/-- A walk gives a route with one scene more than it has steps. -/
theorem Walk.exists_route (walk : Walk leads start length id) :
    ∃ route, IsRoute leads start route id ∧ route.length = length + 1 := by
  induction walk with
  | rest => exact ⟨[start], ⟨rfl, rfl, List.isChain_singleton start⟩, rfl⟩
  | @step length a b before last ih =>
    obtain ⟨route, goes, count⟩ := ih
    refine ⟨route ++ [b], ⟨?_, ?_, ?_⟩, by rw [List.length_append, count]; rfl⟩
    · rw [List.head?_append, goes.begins]
      rfl
    · exact List.getLast?_concat
    · refine List.isChain_append.2 ⟨goes.linked, List.isChain_singleton b, ?_⟩
      -- The route so far ends where the last step begins.
      intro x isLast y isFirst
      rw [goes.ends] at isLast
      cases isLast
      cases isFirst
      exact last

/-- A route has at least the scene where it begins. -/
theorem IsRoute.length_pos {route : List String} (goes : IsRoute leads start route id) :
    0 < route.length := by
  refine List.length_pos_iff.2 ?_
  -- An empty route has no first scene to begin with.
  rintro rfl
  cases goes.begins

/-- A route is a walk with one step less than it has scenes. -/
theorem IsRoute.walk {route : List String} (goes : IsRoute leads start route id)
    (count : route.length = length + 1) : Walk leads start length id := by
  induction length generalizing route id with
  | zero =>
    obtain ⟨only, rfl⟩ := List.length_eq_one_iff.1 count
    cases goes.begins
    cases goes.ends
    exact .rest
  | succ length ih =>
    -- The last scene is taken off, and what is left ends with the scene that leads to it.
    obtain ⟨before, split⟩ : ∃ before, route = before ++ [id] :=
      ⟨route.dropLast, (List.dropLast_append_getLast? id goes.ends).symm⟩
    subst split
    rw [List.length_append, List.length_singleton, Nat.add_right_cancel_iff] at count
    obtain ⟨linked, -, last⟩ := List.isChain_append.1 goes.linked
    obtain ⟨a, ends⟩ := Option.isSome_iff_exists.1
      (List.getLast?_isSome.2 (List.ne_nil_of_length_eq_add_one count))
    have begins := goes.begins
    rw [List.head?_append_of_ne_nil _ (List.ne_nil_of_length_eq_add_one count)] at begins
    exact (ih ⟨begins, ends, linked⟩ count).step (last a ends id rfl)

end Walks

namespace Links

/-- A search within a limit finds exactly the scenes to which a route leads from a named start that
has no more scenes than the limit, whatever the graph: a scene that is no node leads nowhere. -/
theorem mem_reachable_iff_exists_route {links : Links} {start : Option String} {limit : Int}
    {id : String} :
    id ∈ links.reachable start limit ↔
      ∃ first, start = some first ∧ first ≠ "" ∧
        ∃ route, IsRoute links.LeadsTo first route id ∧ (route.length : Int) ≤ limit := by
  rw [mem_reachable]
  constructor
  · rintro ⟨first, named, nonempty, length, short, walk⟩
    obtain ⟨route, goes, count⟩ := walk.exists_route
    exact ⟨first, named, nonempty, route, goes, by omega⟩
  · rintro ⟨first, named, nonempty, route, goes, short⟩
    -- A route has at least its first scene, so it is a walk.
    obtain ⟨length, count⟩ : ∃ length, route.length = length + 1 :=
      Nat.exists_eq_add_one.2 goes.length_pos
    exact ⟨first, named, nonempty, length, by omega, goes.walk count⟩

/-- What is behind a shortcut is found within the limit, though a longer route leads there too. -/
example : (reachable [("a", ["b", "d"]), ("b", ["c"]), ("c", ["d"]), ("d", ["e", "a"])]
    (some "a") 3).ids = ["a", "b", "c", "d", "e"] := by decide +kernel

end Links

end Gamebook
