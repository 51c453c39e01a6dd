import Gamebook.Proofs.SceneIndex.Declaration
import Gamebook.Proofs.Validation.ManifestReview

/-! The review of a manifest and its index agree on which starts and endings lead nowhere, wherever
the index declares every scene under its key. -/

namespace Gamebook

namespace Story

/-- Whether a finding is a broken link of the start or of an ending. -/
def Finding.isAboutSeed : Finding → Bool
  | brokenLink .start _ => true
  | brokenLink (.ending _) _ => true
  | _ => false

/-- The scenes of the broken links of the start and of endings. -/
def Review.brokenSeeds (review : Review) : IdSet :=
  .ofList ((review.errors.filter Finding.isAboutSeed).filterMap (Finding.scene? review.subject))

/-- A finding about a seed is the broken link of a start or of an ending to it. -/
theorem Finding.isAboutSeed_and_scene?_iff {finding : Finding} {subject : Option String}
    {id : String} :
    finding.isAboutSeed = true ∧ finding.scene? subject = some id ↔
      ∃ link, (∀ hub, link ≠ .convergence hub) ∧ link ≠ .reference ∧
        finding = .brokenLink link id := by
  -- Only a broken link names a scene, and only starts and endings are seeds.
  cases finding with
  | brokenLink link target => cases link <;> simp [isAboutSeed, scene?, eq_comm]
  | shape issue => simp [isAboutSeed]
  | deadEnd => simp [isAboutSeed]

end Story

namespace Validation

variable {manifest : Json} {id : String}

/-- What seeds an index is named as its start or in an ending. -/
theorem exists_names_of_seeds (seeds : Seeds manifest id) :
    ∃ link, (∀ hub, link ≠ .convergence hub) ∧ link ≠ .reference ∧
      Story.Names manifest link id := by
  -- A seed is the start, or the scene of an ending at some place of the list.
  obtain ⟨nonempty, start | ⟨endings, ending, listed, member, named⟩⟩ := seeds
  · exact ⟨.start, nofun, nofun, .start start nonempty⟩
  · obtain ⟨place, placed⟩ := List.mem_iff_getElem?.1 member
    exact ⟨.ending place, nofun, nofun, .ending listed placed named nonempty⟩

/-- The seeds whose links are broken for the review of a manifest are those without a key. -/
theorem mem_brokenSeeds_ofManifest_iff :
    id ∈ (Story.Review.ofManifest manifest).brokenSeeds ↔
      Seeds manifest id ∧ ¬ Story.HasKey manifest id := by
  -- The review reports the links of hubs as well, and only the others are about seeds.
  simp only [Story.Review.brokenSeeds, IdSet.mem_ofList, List.mem_filterMap, List.mem_filter,
    and_assoc, Story.Finding.isAboutSeed_and_scene?_iff]
  constructor
  · rintro ⟨_, reported, link, outside, -, rfl⟩
    obtain ⟨names, keyless⟩ := Story.Review.brokenLink_mem_errors_ofManifest_iff.1 reported
    exact ⟨seeds_of_names names outside, keyless⟩
  · rintro ⟨seeds, keyless⟩
    obtain ⟨link, outside, inner, names⟩ := exists_names_of_seeds seeds
    exact ⟨_, Story.Review.brokenLink_mem_errors_ofManifest_iff.2 ⟨names, keyless⟩, link, outside,
      inner, rfl⟩

/-- Where every member of an index is an object that stands under its identifier, the keys of the
index are the declared scenes. -/
theorem hasKey_iff_declares (fitting : (SceneIndex.ofManifest manifest).keyMismatches = [])
    (objects : ∀ members, manifest.get? "sceneIndex" = some (.object members) →
      ∀ member ∈ members, member.2.isObject = true) :
    Story.HasKey manifest id ↔ (SceneIndex.ofManifest manifest).declares id = true := by
  rw [SceneIndex.declares, Table.has_iff, SceneIndex.mem_keys_ofManifest_iff]
  -- A member under a key is a declaration because it is an object, and is found under the same
  -- identifier because no key is mismatched.
  constructor
  · rintro ⟨index, entry, indexed, found⟩
    obtain ⟨members, rfl, found⟩ := Json.exists_members_of_get? found
    have member := Table.mem_of_get? found
    have declared : (id, entry) ∈ SceneIndex.declarations manifest :=
      SceneIndex.mem_declarations_iff.2 ⟨members, indexed, member, objects members indexed _ member⟩
    exact ⟨id, entry, declared, SceneIndex.effectiveId_eq_key fitting declared⟩
  · rintro ⟨key, entry, declared, rfl⟩
    obtain ⟨members, indexed, member, -⟩ := SceneIndex.mem_declarations_iff.1 declared
    have listed : key ∈ Table.keys members := List.mem_map_of_mem (f := (·.1)) member
    obtain ⟨value, found⟩ := Table.mem_keys_iff.1 listed
    rw [SceneIndex.effectiveId_eq_key fitting declared]
    exact ⟨_, value, indexed, found⟩

/-- Where no key of an index is mismatched and every member of it is an object, the broken starts
and endings for the review of the manifest are the seeds of the index that it does not declare. -/
theorem brokenSeeds_eq_undeclared_seeds
    (fitting : (SceneIndex.ofManifest manifest).keyMismatches = [])
    (objects : ∀ members, manifest.get? "sceneIndex" = some (.object members) →
      ∀ member ∈ members, member.2.isObject = true) :
    (Story.Review.ofManifest manifest).brokenSeeds =
      (SceneIndex.ofManifest manifest).seeded.filter
        fun id => !(SceneIndex.ofManifest manifest).declares id := by
  -- Both sides are sets of seeds, so they are compared seed by seed.
  refine IdSet.eq_of_mem_iff fun id => ?_
  rw [mem_brokenSeeds_ofManifest_iff, IdSet.mem_filter, SceneIndex.mem_seeded_iff,
    hasKey_iff_declares fitting objects, Bool.not_eq_true']
  simp

/-- A manifest with a declared start, and with endings that are no object, have no target, an empty
one, one of another type, an unknown one and a declared one. -/
def raggedManifest : Json := .object [("startingScene", .text "a"),
  ("sceneIndex", .object [("a", .object [("id", .text "a")]), ("b", .object [("id", .int 1)])]),
  ("endings", .list [.text "c", .object [], .object [("sceneId", .text "")],
    .object [("sceneId", .int 2)], .object [("sceneId", .text "d")],
    .object [("sceneId", .text "b")]]),
  ("acts", .list [.object [("hubs", .list [.object [("convergenceScene", .text "e")]])]])]

/-- Of the ragged manifest one ending leads nowhere, for the review and for the index. -/
theorem brokenSeeds_eq_undeclared_seeds_ragged :
    (SceneIndex.ofManifest raggedManifest).keyMismatches = [] ∧
      (Story.Review.ofManifest raggedManifest).brokenSeeds =
        (SceneIndex.ofManifest raggedManifest).seeded.filter
          (fun id => !(SceneIndex.ofManifest raggedManifest).declares id) ∧
      (Story.Review.ofManifest raggedManifest).brokenSeeds.ids = ["d"] := by
  -- The manifest is malformed elsewhere, and its index is in order.
  have fitting : (SceneIndex.ofManifest raggedManifest).keyMismatches = [] := by decide
  have agree := brokenSeeds_eq_undeclared_seeds fitting (by
    intro members indexed
    cases indexed
    decide)
  exact ⟨fitting, agree, by rw [agree]; decide⟩

end Validation

end Gamebook
