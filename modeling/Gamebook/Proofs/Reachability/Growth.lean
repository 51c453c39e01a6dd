import Gamebook.Proofs.Reachability

/-! A report on a corpus with more references, or with a greater limit, reaches no fewer scenes. -/

namespace Gamebook

/-- Whatever is loaded under an identifier refers, in a larger corpus, to no fewer scenes. -/
def RefersNoLess (scenes : Table Json) (following : Following) (larger : Table Json)
    (wider : Following) : Prop :=
  ∀ id target, Refers scenes following id target → Refers larger wider id target

/-- A document keeps the choices and effects of another one, and may have more of them. -/
structure Extends (scene larger : Json) : Prop where
  choices : nodesAt "choices" scene ⊆ nodesAt "choices" larger
  effects : nodesAt "effects" scene ⊆ nodesAt "effects" larger

/-- A corpus keeps the documents of another one, each of them perhaps extended, and may have more of
them. -/
def ScenesExtended (scenes larger : Table Json) : Prop :=
  ∀ id scene, Table.get? id scenes = some scene →
    ∃ other, Table.get? id larger = some other ∧ Extends scene other

/-- A way of following transitions follows those that another one follows. -/
def Following.Covers (wider following : Following) : Prop :=
  wider = following ∨ wider = .everything

section References

variable {scene larger : Json} {following wider : Following} {id : String}

/-- A document extends itself. -/
theorem Extends.refl (scene : Json) : Extends scene scene :=
  ⟨fun _ kept => kept, fun _ kept => kept⟩

/-- A document with more effects leads to no fewer scenes by its effects. -/
theorem Extends.mem_effectTargetsOf (extended : Extends scene larger)
    (member : id ∈ following.effectTargetsOf scene) : id ∈ following.effectTargetsOf larger := by
  cases following with
  | choicesOnly => simp at member
  | everything =>
    obtain ⟨effect, stands, goes, named⟩ := mem_effectTargetsOf_iff.1 member
    -- A transition is an object, so it stands wherever it is one of the nodes.
    have object := isObject_of_isTransition goes
    have kept := extended.effects ((mem_nodesAt_iff object).2 stands)
    exact mem_effectTargetsOf_iff.2 ⟨effect, (mem_nodesAt_iff object).1 kept, goes, named⟩

/-- An extended document refers to no fewer scenes. -/
theorem Extends.mem_sceneReferences (extended : Extends scene larger)
    (member : id ∈ sceneReferences following scene) : id ∈ sceneReferences following larger := by
  rw [mem_sceneReferences_iff] at member ⊢
  -- The scene keeps its effects and its choices, whatever else it gets.
  rcases member with effect | ⟨choice, object, stands, refers⟩
  · exact .inl (extended.mem_effectTargetsOf effect)
  · have kept := extended.choices ((mem_nodesAt_iff object).2 stands)
    exact .inr ⟨choice, object, (mem_nodesAt_iff object).1 kept, refers⟩

/-- Following more transitions finds no fewer references. -/
theorem Following.Covers.mem_sceneReferences (covers : wider.Covers following)
    (member : id ∈ sceneReferences following scene) : id ∈ sceneReferences wider scene := by
  -- Either the following is the same, or it now takes everything.
  rcases covers with rfl | rfl
  · exact member
  · exact mem_sceneReferences_everything member

/-- Further documents, choices and effects take no reference away, and neither does following
effects as well as choices. -/
theorem ScenesExtended.refersNoLess {scenes larger : Table Json}
    (extended : ScenesExtended scenes larger) (covers : wider.Covers following) :
    RefersNoLess scenes following larger wider := by
  -- The scene is still there, and what it refers to has only grown.
  rintro id target ⟨scene, found, refers⟩
  obtain ⟨other, kept, extension⟩ := extended id scene found
  exact ⟨other, kept, covers.mem_sceneReferences (extension.mem_sceneReferences refers)⟩

end References

section Reports

variable {scenes larger : Table Json} {following wider : Following} {limit higher : Int}
  {start : Option String} {id : String}

/-- What a chain leads to within a limit, a chain in a larger corpus leads to within a higher
one. -/
theorem LeadsWithin.mono (grows : RefersNoLess scenes following larger wider)
    (lifted : limit ≤ higher) (leads : LeadsWithin scenes following start limit id) :
    LeadsWithin larger wider start higher id := by
  -- The walk takes the same steps in the larger corpus, and as many of them.
  obtain ⟨first, named, nonempty, length, short, walk⟩ := leads
  exact ⟨first, named, nonempty, length, lt_of_lt_of_le short lifted, walk.mono grows⟩

namespace Reachability

/-- A report finds at least what another one finds to be reached, and fault with no more. -/
structure IsNoWorse (better report : Reachability) : Prop where
  reachable : ∀ id ∈ report.reachable, id ∈ better.reachable
  unreachable : ∀ id ∈ better.unreachable.map (·.id), id ∈ report.unreachable.map (·.id)
  exempt : ∀ id ∈ better.exempt, id ∈ report.exempt
  valid : report.isValid = true → better.isValid = true

variable {index : SceneIndex}

/-- Reports on the same declarations compare as the scenes compare that they reach. -/
theorem isNoWorse_of_reachable
    (reached : ∀ id ∈ (ofCorpus index start scenes limit following).reachable,
      id ∈ (ofCorpus index start larger higher wider).reachable) :
    IsNoWorse (ofCorpus index start larger higher wider)
      (ofCorpus index start scenes limit following) := by
  have unreachable : ∀ id ∈ (ofCorpus index start larger higher wider).unreachable.map (·.id),
      id ∈ (ofCorpus index start scenes limit following).unreachable.map (·.id) := by
    intro id missed
    -- Both reports declare and exempt the same scenes, and one of them reaches more.
    rw [mem_unreachable_ofCorpus] at missed ⊢
    obtain ⟨declared, beyond, obliged⟩ := missed
    exact ⟨declared, fun within => beyond (reached id within), obliged⟩
  constructor
  case reachable => exact reached
  case unreachable => exact unreachable
  case exempt =>
    intro id listed
    rw [mem_exempt_ofCorpus] at listed ⊢
    obtain ⟨declared, beyond, exempt⟩ := listed
    exact ⟨declared, fun within => beyond (reached id within), exempt⟩
  case valid =>
    intro valid
    rw [isValid, Bool.and_eq_true, List.isEmpty_iff] at valid ⊢
    obtain ⟨named, complete⟩ := valid
    -- Both reports have the same start, and where one has no unreachable scene the other has none.
    refine ⟨named, ?_⟩
    rw [complete, List.map_nil] at unreachable
    rw [← List.map_eq_nil_iff, List.eq_nil_iff_forall_not_mem]
    intro id missed
    exact absurd (unreachable id missed) List.not_mem_nil

/-- Reachability is monotone: with references that are no fewer and a limit that is no lower, a
report reaches no fewer scenes and finds fault with no more. In particular this is so when
documents, choices or effects are added, and when effects are followed as well as choices. -/
theorem ofCorpus_isNoWorse (loadedOnce : (Table.keys scenes).Nodup)
    (largerOnce : (Table.keys larger).Nodup) (lifted : limit ≤ higher) :
    (RefersNoLess scenes following larger wider →
      IsNoWorse (ofCorpus index start larger higher wider)
        (ofCorpus index start scenes limit following)) ∧
    (ScenesExtended scenes larger → wider.Covers following →
      IsNoWorse (ofCorpus index start larger higher wider)
        (ofCorpus index start scenes limit following)) := by
  have general : RefersNoLess scenes following larger wider →
      IsNoWorse (ofCorpus index start larger higher wider)
        (ofCorpus index start scenes limit following) := by
    intro grows
    apply isNoWorse_of_reachable
    intro id reached
    -- Whatever the order of discovery, a scene is reached exactly when a short chain leads to it.
    rw [mem_reachable_ofCorpus loadedOnce] at reached
    rw [mem_reachable_ofCorpus largerOnce]
    exact reached.mono grows lifted
  exact ⟨general, fun extended covers => general (extended.refersNoLess covers)⟩

/-- The scenes of the fork with a further choice and an effect at the start, and with one more
scene. -/
def crossingScenes : Table Json :=
  [("hidden", .object [("choices", .list [.object [("to", .text "start")]])]),
    ("start", .object [("effects", .object [("type", .text "goto"), ("sceneId", .text "hidden")]),
      ("choices", .list [.object [("to", .text "lost")], .object [("to", .text "next")]])]),
    ("next", .object [("effects", .object [("type", .text "goto"), ("sceneId", .text "start")]),
      ("choices", .list [.object [("to", .text "nowhere")]])]),
    ("lost", .object [("choices", .list [.object [("to", .text "lost")],
      .object [("to", .text "orphan")]])])]

/-- Every scene of the fork is kept at the crossing. -/
theorem scenesExtended_crossing : ScenesExtended forkScenes crossingScenes := by
  intro id scene found
  simp only [forkScenes, Table.get?] at found
  split at found
  · next start =>
    -- The start has gained a choice and an effect.
    cases found
    subst start
    refine ⟨_, rfl, ?_, ?_⟩
    · simp [nodesAt, Json.get?, Json.members, Table.get?, nodes]
    · simp [nodesAt, Json.get?, Json.members, Table.get?]
  · split at found
    · next next =>
      cases found
      subst next
      exact ⟨_, rfl, .refl _⟩
    · split at found
      · next lost =>
        cases found
        subst lost
        exact ⟨_, rfl, .refl _⟩
      · cases found

/-- The report on the crossing is no worse than the one on the fork, and reaches more. -/
theorem ofCorpus_isNoWorse_crossing :
    let fork := ofCorpus forkIndex (some "start") forkScenes 1 .choicesOnly
    let crossing := ofCorpus forkIndex (some "start") crossingScenes 3 .everything
    (Table.keys forkScenes).Nodup ∧ (Table.keys crossingScenes).Nodup ∧ (1 : Int) ≤ 3 ∧
      RefersNoLess forkScenes .choicesOnly crossingScenes .everything ∧
      ScenesExtended forkScenes crossingScenes ∧ Following.everything.Covers .choicesOnly ∧
      IsNoWorse crossing fork ∧
      fork.reachable.ids = ["start"] ∧
      crossing.reachable.ids = ["hidden", "lost", "next", "nowhere", "orphan", "start"] := by
  -- The other documents hold at least what the first ones do.
  have grows : RefersNoLess forkScenes .choicesOnly crossingScenes .everything :=
    scenesExtended_crossing.refersNoLess (.inr rfl)
  exact ⟨by decide, by decide, by decide, grows, scenesExtended_crossing, .inr rfl,
    (ofCorpus_isNoWorse (by decide) (by decide) (by decide)).1 grows,
    by decide +kernel, by decide +kernel⟩

end Reachability

end Reports

end Gamebook
