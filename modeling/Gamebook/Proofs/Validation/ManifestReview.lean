import Gamebook.Proofs.Schema.Registry
import Gamebook.Proofs.Story.ManifestReview
import Gamebook.Proofs.Validation

/-! The review of the manifest of a corpus that passes: which of its links are broken for it,
although the verdict finds every scene. -/

namespace Gamebook

/-- A manifest declares a scene under another key than its identifier. -/
def DeclaresAside (manifest : Json) (id : String) : Prop :=
  ∃ members key entry, manifest.get? "sceneIndex" = some (.object members) ∧
    (key, entry) ∈ members ∧ entry.get? "id" = some (.text id) ∧ id ≠ "" ∧ key ≠ id

namespace SceneIndex

/-- A declared scene has a key of its own, or it is declared under another key. -/
theorem hasKey_or_declaresAside {manifest : Json} {id : String}
    (declared : id ∈ Table.keys (ofManifest manifest).entries) :
    Story.HasKey manifest id ∨ DeclaresAside manifest id := by
  obtain ⟨key, entry, member, effective⟩ := mem_keys_ofManifest_iff.1 declared
  obtain ⟨members, index, among, -⟩ := mem_declarations_iff.1 member
  by_cases same : key = id
  · -- The key under which the scene is declared is its identifier.
    subst same
    have listed : key ∈ Table.keys members := List.mem_map_of_mem (f := (·.1)) among
    obtain ⟨value, found⟩ := Table.mem_keys_iff.1 listed
    exact .inl ⟨_, value, index, found⟩
  · -- An identifier that is not the key can only be the entry's own.
    rw [effectiveId] at effective
    cases own : (entry.get? "id").bind Json.nonemptyText? with
    | none =>
      rw [own] at effective
      exact absurd effective same
    | some named =>
      rw [own] at effective
      have equal : named = id := effective
      subst equal
      obtain ⟨written, nonempty⟩ := Json.bind_nonemptyText?_eq_some_iff.1 own
      exact .inr ⟨members, key, entry, index, among, written, nonempty, same⟩

end SceneIndex

namespace Validation

variable {disk : Disk} {settings : Settings} {verdict : Verdict} {manifest : Json}

/-- Every scene that a manifest names as its start or in an ending is seeded by it. -/
theorem seeds_of_names {link : Story.Link} {target : String}
    (names : Story.Names manifest link target) (outside : ∀ hub, link ≠ .convergence hub) :
    Seeds manifest target := by
  -- A start and an ending are seeds, and hubs are set aside.
  cases names with
  | start named nonempty => exact ⟨nonempty, .inl named⟩
  | ending listed placed named nonempty =>
    exact ⟨nonempty, .inr ⟨_, _, listed, List.mem_of_getElem? placed, named⟩⟩
  | convergence => exact absurd rfl (outside _)

/-- Where a corpus passes, the review of its manifest reports exactly these links as broken: the
convergence of a hub without a key, and a start or an ending without one whose scene is declared
under another key or is the identifier of a scene file. -/
theorem brokenLink_iff_of_passed (ended : Validation.verdict disk settings = .ok verdict)
    (passed : verdict.passed = true) :
    ∃ manifest, settings.corpus.readManifest disk = .ok manifest ∧ ∀ link target,
      .brokenLink link target ∈ (Story.Review.ofManifest manifest).errors ↔
        Story.Names manifest link target ∧ ¬ Story.HasKey manifest target ∧
          ((∃ hub, link = .convergence hub) ∨ DeclaresAside manifest target ∨
            settings.corpus.Defines disk target) := by
  obtain ⟨loaded, manifest, messages, survey, -, draws⟩ := exists_draws ended
  refine ⟨manifest, draws.manifest_read, ?_⟩
  intro link target
  rw [Story.Review.brokenLink_mem_errors_ofManifest_iff]
  constructor
  · rintro ⟨names, keyless⟩
    refine ⟨names, keyless, ?_⟩
    by_cases hub : ∃ hub, link = .convergence hub
    · exact .inl hub
    · -- A start or an ending is seeded, so the verdict has found its scene somewhere.
      have seeded : Seeds manifest target :=
        seeds_of_names names fun name same => hub ⟨name, same⟩
      have referenced : target ∈ verdict.referenced := draws.mem_referenced_iff.2 (.inl seeded)
      rcases draws.known_of_mem_referenced passed referenced with declared | defined
      · rcases SceneIndex.hasKey_or_declaresAside declared with key | aside
        · exact absurd key keyless
        · exact .inr (.inl aside)
      · exact .inr (.inr defined)
  · rintro ⟨names, keyless, -⟩
    exact ⟨names, keyless⟩

/-- Content without schemas of its own whose manifest starts at a scene declared under another key,
ends at a scene that has a file and no entry, and has a hub that leads nowhere. -/
def strayDisk : Disk :=
  ⟨[(["content"], .directory), (["content", "scenes"], .directory),
    jsonFile ["manifest.json"] (.object [("startingScene", .text "a"),
      ("sceneIndex", .object [("k", .object [("id", .text "a")])]),
      ("endings", .list [.object [("sceneId", .text "b")]]),
      ("acts", .list [.object [("hubs", .list [.object [("convergenceScene", .text "c")]])]])]),
    jsonFile ["scenes", "b.json"] (.object [("id", .text "b")])]⟩

/-- The stray content passes. -/
theorem exists_verdict_strayDisk :
    ∃ verdict, Validation.verdict strayDisk openSettings = .ok verdict ∧ verdict.passed = true :=
  exists_verdict (by decide +kernel)

/-- The links of the stray content are broken for the review of its manifest as they have to be. -/
theorem brokenLink_iff_of_passed_stray :
    ∃ verdict, Validation.verdict strayDisk openSettings = .ok verdict ∧ verdict.passed = true ∧
      ∃ manifest, openSettings.corpus.readManifest strayDisk = .ok manifest ∧ ∀ link target,
        .brokenLink link target ∈ (Story.Review.ofManifest manifest).errors ↔
          Story.Names manifest link target ∧ ¬ Story.HasKey manifest target ∧
            ((∃ hub, link = .convergence hub) ∨ DeclaresAside manifest target ∨
              openSettings.corpus.Defines strayDisk target) := by
  obtain ⟨verdict, ended, passed⟩ := exists_verdict_strayDisk
  exact ⟨verdict, ended, passed, brokenLink_iff_of_passed ended passed⟩

/-- The stray content passes by the standard schemas, and the review of its manifest reports a
broken link of each kind all the same. -/
theorem stray_manifest_has_brokenLinks :
    ∃ verdict, Validation.verdict strayDisk openSettings = .ok verdict ∧ verdict.passed = true ∧
      Schema.Registry.IsStandard strayDisk openSettings.content openSettings.schemas ∧
      ∃ manifest, openSettings.corpus.readManifest strayDisk = .ok manifest ∧
        (Story.Review.ofManifest manifest).errors =
          [.brokenLink .start "a", .brokenLink (.ending 0) "b",
            .brokenLink (.convergence "?") "c"] := by
  obtain ⟨verdict, ended, passed⟩ := exists_verdict_strayDisk
  have standard : Schema.Registry.IsStandard strayDisk openSettings.content openSettings.schemas :=
    ⟨rfl, by decide +kernel⟩
  refine ⟨verdict, ended, passed, standard, ?_⟩
  -- The manifest is read and reviewed in one evaluation.
  have reviewed : (openSettings.corpus.readManifest strayDisk).toOption.map
      (fun manifest => (Story.Review.ofManifest manifest).errors) =
        some [.brokenLink .start "a", .brokenLink (.ending 0) "b",
          .brokenLink (.convergence "?") "c"] := by
    decide +kernel
  cases read : openSettings.corpus.readManifest strayDisk with
  | error failure =>
    rw [read] at reviewed
    cases reviewed
  | ok manifest =>
    rw [read] at reviewed
    exact ⟨manifest, rfl, Option.some.inj reviewed⟩

end Validation

end Gamebook
