import Gamebook.CommandLine.Reachability
import Gamebook.Proofs.Corpus.Load
import Gamebook.Proofs.Reachability
import Gamebook.Proofs.Validation

/-! The reachability report on a corpus is never laxer than the verdict on the same corpus. -/

namespace Gamebook.Validation

variable {disk : Disk} {settings : Settings} {verdict : Verdict} {registry : Schema.Registry}
  {manifest : Json} {messages : List String} {survey : Survey} {loaded : LoadedScenes} {id : String}
  {following : Following}

/-- A reachability report reaches nothing that a verdict on the corpus does not account for. -/
structure Accounts (disk : Disk) (corpus : Corpus) (manifest : Json) (loaded : LoadedScenes)
    (verdict : Verdict) (report : Reachability) : Prop where
  referenced : ∀ id ∈ report.reachable, id ∈ verdict.referenced
  unreachable : ∀ id ∈ verdict.unreachable, id ∈ report.unreachable.map (·.id)
  -- What a passing corpus reaches is declared, or is the identifier of a scene that is loaded.
  resolved : verdict.passed = true → ∀ id ∈ report.reachable,
    id ∈ Table.keys (SceneIndex.ofManifest manifest).entries ∨
      id ∈ Table.keys loaded.scenes ∧ corpus.Defines disk id

/-- A surveyed corpus has no scene file that would end a run. -/
theorem Covers.readJson_ne_integerTooLong {corpus : Corpus}
    (covers : Covers disk corpus registry survey) :
    ∀ path ∈ corpus.scenePaths disk, ∀ digits,
      disk.readJson path ≠ .error (.integerTooLong digits) := by
  refine (forall_mem_iff_of_forall₂ covers.scenes ?_).1 fun _ _ => trivial
  intro path file checked
  refine iff_of_true trivial ?_
  intro digits ends
  -- A file that was checked gave a document, or a reason of another kind.
  rcases checkScene_cases checked with ⟨document, messages, read, -⟩ | ⟨reason, unread, -⟩
  · cases ends.symm.trans read
  · rcases unread with unread | unread
    · cases ends.symm.trans unread
    · cases ends.symm.trans unread

/-- A scene that a loaded document refers to is mentioned by a scene file of the corpus. -/
theorem mentions_of_refers {corpus : Corpus} (loading : corpus.loadScenes disk = .ok loaded)
    {before : String} (refers : Refers loaded.scenes following before id) :
    corpus.Mentions disk id := by
  obtain ⟨document, found, member⟩ := refers
  -- The loaded document is that of a readable scene file.
  obtain ⟨path, readable⟩ := Corpus.exists_readable_of_loadScenes loading found
  exact ⟨(path, document), readable, mem_sceneReferences_everything member⟩

/-- Every scene on a walk from the named start is seeded or mentioned. -/
theorem seeds_or_mentions_of_leadsWithin {corpus : Corpus} {limit : Int}
    (loading : corpus.loadScenes disk = .ok loaded)
    (leads : LeadsWithin loaded.scenes following (CommandLine.namedStart? manifest) limit id) :
    Seeds manifest id ∨ corpus.Mentions disk id := by
  obtain ⟨first, named, nonempty, length, -, walk⟩ := leads
  -- The walk rests at its start, or its last step is a reference.
  cases walk with
  | rest => exact .inl ⟨nonempty, .inl (Json.bind_text?_eq_some_iff.1 named)⟩
  | step _ last => exact .inr (mentions_of_refers loading last)

/-- What is reached in the graph of the loaded scenes is referenced by the verdict. -/
theorem Draws.mem_referenced_of_mem_reachable {limit : Int}
    (draws : Draws disk settings registry manifest messages survey verdict)
    (loading : settings.corpus.loadScenes disk = .ok loaded)
    (reached : id ∈ (Reachability.ofCorpus (.ofManifest manifest)
      (CommandLine.namedStart? manifest) loaded.scenes limit following).reachable) :
    id ∈ verdict.referenced := by
  -- What is reached is a seed or is mentioned by a loaded scene.
  rw [Reachability.mem_reachable_ofCorpus (Corpus.nodup_keys_loadScenes loading)] at reached
  exact draws.mem_referenced_iff.2 (seeds_or_mentions_of_leadsWithin loading reached)

/-- Whatever a corpus holds, its verdict accounts for every reachability report on it. -/
theorem verdict_accounts (ended : Validation.verdict disk settings = .ok verdict) :
    ∃ manifest loaded, settings.corpus.readManifest disk = .ok manifest ∧
      settings.corpus.loadScenes disk = .ok loaded ∧
      ∀ limit following, Accounts disk settings.corpus manifest loaded verdict
        (.ofCorpus (.ofManifest manifest) (CommandLine.namedStart? manifest) loaded.scenes limit
          following) := by
  -- What was surveyed for the verdict can be loaded for the report.
  obtain ⟨schemas, manifest, messages, survey, -, draws⟩ := exists_draws ended
  obtain ⟨loaded, loading⟩ := Corpus.exists_loadFiles draws.covers.readJson_ne_integerTooLong
  refine ⟨manifest, loaded, draws.manifest_read, loading, ?_⟩
  intro limit following
  constructor
  case referenced =>
    intro id reached
    exact draws.mem_referenced_of_mem_reachable loading reached
  case unreachable =>
    intro id missed
    obtain ⟨unreferenced, entry, found, obliged⟩ := draws.mem_unreachable_iff.1 missed
    rw [Reachability.mem_unreachable_ofCorpus, SceneIndex.isExempt_iff]
    refine ⟨Table.mem_keys_iff.2 ⟨entry, found⟩, ?_, ?_⟩
    · intro reached
      exact unreferenced (draws.mem_referenced_of_mem_reachable loading reached)
    · -- An index has one entry for an identifier, and this one does not exempt it.
      rintro ⟨other, again, exempts⟩
      rw [found] at again
      exact obliged (Option.some.inj again ▸ exempts)
  case resolved =>
    intro passed id reached
    have referenced := draws.mem_referenced_of_mem_reachable loading reached
    refine (draws.known_of_mem_referenced passed referenced).imp_right fun defines => ?_
    exact ⟨Corpus.mem_keys_loadScenes_of_defines loading defines, defines⟩

/-- Content that passes: a scene with two links, and a declared scene that nothing links to. -/
def soundDisk : Disk := openDisk [
  jsonFile ["manifest.json"] (.object [("startingScene", .text "a"),
    ("sceneIndex", .object [("b", .object []), ("c", .object []), ("d", .object [])])]),
  jsonFile ["scenes", "a.json"] (.object [("id", .text "a"),
    ("choices", .object [("to", .text "b")]),
    ("effects", .object [("type", .text "goto"), ("sceneId", .text "c")])])]

/-- The verdict on the sound content passes, and accounts for every reachability report. -/
theorem verdict_accounts_sound :
    ∃ verdict, Validation.verdict soundDisk openSettings = .ok verdict ∧
      (verdict.passed, verdict.referenced.ids, verdict.unreachable.ids) =
        (true, ["a", "b", "c"], ["d"]) ∧
      ∃ manifest loaded, openSettings.corpus.readManifest soundDisk = .ok manifest ∧
        openSettings.corpus.loadScenes soundDisk = .ok loaded ∧
        ∀ limit following, Accounts soundDisk openSettings.corpus manifest loaded verdict
          (.ofCorpus (.ofManifest manifest) (CommandLine.namedStart? manifest) loaded.scenes limit
            following) := by
  -- The run is computed once, and the theorem is applied to what came out.
  obtain ⟨verdict, ended, told⟩ : ∃ verdict,
      Validation.verdict soundDisk openSettings = .ok verdict ∧
        (verdict.passed, verdict.referenced.ids, verdict.unreachable.ids) =
          (true, ["a", "b", "c"], ["d"]) :=
    exists_verdict (by decide +kernel)
  exact ⟨verdict, ended, told, verdict_accounts ended⟩

end Gamebook.Validation
