import Gamebook.Proofs.Json.Reader
import Gamebook.Proofs.SceneIndex.Declaration
import Gamebook.Proofs.Validation.Comparison

/-! Declarations that other ones overwrite leave a mismatch behind, so a strict verdict without such
a warning holds every declaration. -/

namespace Gamebook

namespace SceneIndex

/-- Where declarations are overwritten in an index, it keeps pairs of a key and another
identifier. -/
structure Traces (manifest : Json) (index : SceneIndex) : Prop where
  -- There are as many pairs as declarations without an entry, or more.
  counted : (declarations manifest).length ≤ index.entries.length + index.keyMismatches.length
  -- Of two declarations with one identifier, one does not stand under it.
  told {key key' id : String} {entry entry' : Json}
    (declared : (key, entry) ∈ declarations manifest)
    (declared' : (key', entry') ∈ declarations manifest) (apart : key ≠ key')
    (identifies : Identifies (key, entry) id) (identifies' : Identifies (key', entry') id) :
    (key, id) ∈ index.keyMismatches ∨ (key', id) ∈ index.keyMismatches

variable {declared : List (String × Json)} {pairs : List (String × String)} {manifest : Json}

/-- The declarations that are no mismatch stand under their identifier, and the mismatches are as
many as the others. -/
theorem Mismatched.exists_fitting (mismatched : Mismatched declared pairs) :
    ∃ fitting : List (String × Json), fitting.Sublist declared ∧
      declared.length = fitting.length + pairs.length ∧
        ∀ declaration ∈ fitting, Identifies declaration declaration.1 := by
  -- A foreign declaration is dropped, and a fitting one is kept.
  induction mismatched with
  | nil => exact ⟨[], .slnil, rfl, List.forall_mem_nil _⟩
  | foreign _ _ _ _ ih =>
    obtain ⟨fitting, kept, lengths, each⟩ := ih
    refine ⟨fitting, kept.cons _, ?_, each⟩
    rw [List.length_cons, List.length_cons, lengths, Nat.add_assoc]
  | @fitting key entry declared pairs fits _ ih =>
    obtain ⟨fitting, kept, lengths, each⟩ := ih
    refine ⟨(key, entry) :: fitting, kept.cons_cons _, ?_, List.forall_mem_cons.2 ⟨?_, each⟩⟩
    · rw [List.length_cons, List.length_cons, lengths]
      omega
    · exact effectiveId_eq_iff.1 (effectiveId_eq_key_iff.2 fits)

/-- The index of a manifest without repeated keys leaves a trace of each declaration that is
overwritten. -/
theorem traces_ofManifest (distinct : (Table.keys (declarations manifest)).Nodup) :
    Traces manifest (ofManifest manifest) := by
  have mismatched := mismatched_ofManifest manifest
  constructor
  case counted =>
    obtain ⟨fitting, kept, lengths, each⟩ := mismatched.exists_fitting
    -- Declarations that stand under their identifiers all have different ones.
    have apart : (Table.keys fitting).Nodup := distinct.sublist (kept.map _)
    have listed : Table.keys fitting ⊆ Table.keys (ofManifest manifest).entries := by
      intro key stands
      obtain ⟨declaration, member, rfl⟩ := List.mem_map.1 stands
      exact mem_keys_ofManifest_iff.2 ⟨declaration.1, declaration.2, kept.subset member,
        effectiveId_eq_iff.2 (each declaration member)⟩
    have bound := apart.length_le_of_subset listed
    rw [Table.keys, Table.keys, List.length_map, List.length_map] at bound
    omega
  case told =>
    intro key key' id entry entry' declared declared' apart identifies identifies'
    by_cases other : id = key
    · subst other
      exact .inr (mismatched.mem declared' identifies' apart)
    · exact .inl (mismatched.mem declared identifies other)

/-- Where no key is mismatched, the entries of the index are the declarations as they stand. -/
theorem entries_ofManifest_eq (distinct : (Table.keys (declarations manifest)).Nodup)
    (fitting : (ofManifest manifest).keyMismatches = []) :
    (ofManifest manifest).entries = declarations manifest := by
  -- Without mismatches every declaration goes under its own key.
  have stands : ∀ declaration ∈ declarations manifest,
      (effectiveId declaration.1 declaration.2, declaration.2) = declaration :=
    fun declaration member => Prod.ext (effectiveId_eq_key fitting member) rfl
  have same : (ofManifest manifest).entries = Table.ofEntries ((declarations manifest).map id) :=
    congrArg Table.ofEntries (List.map_congr_left stands)
  rw [same, List.map_id, Table.ofEntries_eq_self distinct]

end SceneIndex

namespace Validation

open SceneIndex

variable {disk : Disk} {settings : Settings} {registry : Schema.Registry} {manifest : Json}
  {messages : List String} {survey : Survey} {verdict : Verdict} {path : Path}

/-- A document that a file holds has no repeated keys. -/
theorem hasDistinctKeys_of_readJson {document : Json} (read : disk.readJson path = .ok document) :
    document.HasDistinctKeys := by
  rw [Disk.readJson_eq_readingOf] at read
  -- Only a file whose bytes can be read gives a document.
  match found : disk.contents? path with
  | none =>
    rw [found] at read
    cases read
  | some (.refused report) =>
    rw [found] at read
    cases read
  | some (.bytes bytes) =>
    rw [found, Disk.readingOf, FileContents.document, mapError_eq_ok_iff] at read
    exact Document.hasDistinctKeys_of_ofBytes read

/-- The declarations of a manifest that a file holds have different keys. -/
theorem nodup_keys_declarations (read : disk.readJson path = .ok manifest) :
    (Table.keys (declarations manifest)).Nodup := by
  -- A document that was read has no object with a key twice.
  have distinct := hasDistinctKeys_of_readJson read
  refine List.Nodup.sublist (List.filter_sublist.map _) (Json.HasDistinctKeys.nodup_keys ?_)
  cases listed : manifest.get? "sceneIndex" with
  | none => exact .null
  | some index => exact distinct.get? listed

/-- A strict verdict that warns of no mismatch is drawn from an index without one. -/
theorem Draws.keyMismatches_eq_nil
    (draws : Draws disk settings registry manifest messages survey verdict)
    (strict : settings.strict = true)
    (silent : ∀ key id, mismatchMessage key id ∉ verdict.warnings) :
    (ofManifest manifest).keyMismatches = [] := by
  rw [List.eq_nil_iff_forall_not_mem]
  -- Under the strict setting each mismatch would be a warning.
  rintro ⟨key, id⟩ member
  apply silent key id
  rw [draws.warnings_eq, if_pos strict]
  exact List.mem_append_right _ (List.mem_map.2 ⟨(key, id), member, rfl⟩)

/-- No declaration is overwritten without a trace: the index of a manifest without repeated keys
keeps a mismatch for each one. Every manifest that is read is one, and a strict verdict that warns
of no mismatch holds all of its declarations as they stand. -/
theorem overwritten_declarations_leave_traces :
    (∀ manifest, (Table.keys (declarations manifest)).Nodup →
      Traces manifest (ofManifest manifest)) ∧
    ∀ disk settings verdict, Validation.verdict disk settings = .ok verdict →
      ∃ manifest, settings.corpus.readManifest disk = .ok manifest ∧
        Traces manifest (ofManifest manifest) ∧
        (settings.strict = true → (∀ key id, mismatchMessage key id ∉ verdict.warnings) →
          verdict.sceneIndex = declarations manifest) := by
  refine ⟨fun manifest => traces_ofManifest, ?_⟩
  intro disk settings verdict ended
  -- A verdict draws on the manifest that was read, whose keys are distinct.
  obtain ⟨loaded, manifest, messages, survey, _, draws⟩ := exists_draws ended
  have distinct := nodup_keys_declarations (readManifest_eq_ok_iff.1 draws.manifest_read)
  refine ⟨manifest, draws.manifest_read, traces_ofManifest distinct, fun strict silent => ?_⟩
  rw [draws.sceneIndex_eq]
  exact entries_ofManifest_eq distinct (draws.keyMismatches_eq_nil strict silent)

/-- A manifest in which two declarations name a scene that is the key of a third one. -/
def collidingManifest : Json := .object [("sceneIndex", .object [
  ("a", .object [("id", .text "c")]), ("b", .object [("id", .text "c")]), ("c", .object [])])]

/-- Content with a manifest in which every declaration stands under its key. -/
def fittingDisk : Disk := openDisk [
  jsonFile ["manifest.json"] (.object [("startingScene", .text "a"), ("sceneIndex", .object [
    ("a", .object [("id", .text "a")]), ("b", .int 1),
    ("c", .object [("unreachable", .bool true)])])])]

/-- Settings that ask for a strict verdict. -/
def strictSettings : Settings := { openSettings with strict := true }

/-- Two of three colliding declarations are lost and both are told, while a strict verdict without
a warning holds every declaration. -/
theorem overwritten_declarations_leave_traces_colliding :
    (Table.keys (declarations collidingManifest)).Nodup ∧
      Table.keys (ofManifest collidingManifest).entries = ["c"] ∧
      (ofManifest collidingManifest).keyMismatches = [("a", "c"), ("b", "c")] ∧
      Traces collidingManifest (ofManifest collidingManifest) ∧
      ∃ verdict, Validation.verdict fittingDisk strictSettings = .ok verdict ∧
        verdict.warnings = [] ∧ Table.keys verdict.sceneIndex = ["a", "c"] ∧
        ∃ manifest, strictSettings.corpus.readManifest fittingDisk = .ok manifest ∧
          Traces manifest (ofManifest manifest) ∧ verdict.sceneIndex = declarations manifest := by
  -- Both keys of the manifest claim one id.
  have distinct : (Table.keys (declarations collidingManifest)).Nodup := by decide
  obtain ⟨verdict, ended, told⟩ : ∃ verdict,
      Validation.verdict fittingDisk strictSettings = .ok verdict ∧
        (verdict.warnings, Table.keys verdict.sceneIndex) = ([], ["a", "c"]) :=
    exists_verdict (by decide +kernel)
  obtain ⟨warnings, keys⟩ := Prod.mk.inj told
  -- The run has no warnings, so its index holds the declarations as they stand.
  obtain ⟨manifest, read, traces, kept⟩ :=
    overwritten_declarations_leave_traces.2 fittingDisk strictSettings verdict ended
  refine ⟨distinct, by decide, by decide,
    overwritten_declarations_leave_traces.1 collidingManifest distinct,
    verdict, ended, warnings, keys, manifest, read, traces, kept rfl fun key id => ?_⟩
  rw [warnings]
  exact List.not_mem_nil

end Validation

end Gamebook
