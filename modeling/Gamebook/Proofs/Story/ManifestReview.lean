import Gamebook.Proofs.Reference
import Gamebook.Proofs.Table
import Gamebook.Story.Review

/-! What the review of a manifest reports: the scenes that it names and that are no keys of its
index. -/

namespace Gamebook.Story

/-- The name of a hub in reports. -/
def hubName (hub : Json) : String := ((hub.get? "title").map Json.plain).getD "?"

/-- A manifest names a scene outside its index: as its start, as the target of the ending at a
place, or as the scene in which a hub comes together. -/
inductive Names (manifest : Json) : Link → String → Prop where
  | start {id : String} (named : manifest.get? "startingScene" = some (.text id))
      (nonempty : id ≠ "") : Names manifest .start id
  | ending {endings : List Json} {ending : Json} {place : Nat} {id : String}
      (listed : manifest.get? "endings" = some (.list endings))
      (placed : endings[place]? = some ending) (named : ending.get? "sceneId" = some (.text id))
      (nonempty : id ≠ "") : Names manifest (.ending place) id
  | convergence {acts hubs : List Json} {act hub : Json} {id : String}
      (acted : manifest.get? "acts" = some (.list acts)) (among : act ∈ acts)
      (listed : act.get? "hubs" = some (.list hubs)) (held : hub ∈ hubs)
      (named : hub.get? "convergenceScene" = some (.text id)) (nonempty : id ≠ "") :
      Names manifest (.convergence (hubName hub)) id

/-- A manifest declares something under a key of its index. -/
def HasKey (manifest : Json) (key : String) : Prop :=
  ∃ index entry, manifest.get? "sceneIndex" = some index ∧ index.get? key = some entry

namespace Review

variable {manifest : Json} {link : Link} {target : String}

/-- The items of a member are those of the list that stands there. -/
theorem mem_itemsAt_iff {key : String} {value item : Json} :
    item ∈ itemsAt key value ↔ ∃ items, value.get? key = some (.list items) ∧ item ∈ items := by
  -- Only a list has items.
  rw [itemsAt]
  cases value.get? key with
  | none => simp
  | some found => cases found <;> simp

/-- A manifest has a start exactly when it names one. -/
theorem mem_startLinks_iff :
    (link, target) ∈ startLinks manifest ↔ link = .start ∧
      manifest.get? "startingScene" = some (.text target) ∧ target ≠ "" := by
  rw [← targetAt?_eq_some_iff, startLinks]
  -- A manifest has at most one start to link.
  cases targetAt? "startingScene" manifest with
  | none => simp
  | some id => simp [eq_comm]

/-- The links of endings are their targets, each with the place of its ending. -/
theorem mem_endingLinks_iff :
    (link, target) ∈ endingLinks manifest ↔ ∃ endings ending place, link = .ending place ∧
      manifest.get? "endings" = some (.list endings) ∧ endings[place]? = some ending ∧
        ending.get? "sceneId" = some (.text target) ∧ target ≠ "" := by
  -- An ending stands at its place in the list of those that are numbered.
  simp only [endingLinks, itemsAt, List.mem_filterMap, Prod.exists, List.mem_zipIdx_iff_getElem?,
    Option.map_eq_some_iff, targetAt?_eq_some_iff, Prod.mk.injEq]
  constructor
  · rintro ⟨ending, place, placed, id, named, rfl, rfl⟩
    -- Where something is placed there is a list.
    split at placed
    · next endings listed => exact ⟨endings, ending, place, rfl, listed, placed, named⟩
    · simp at placed
  · rintro ⟨endings, ending, place, rfl, listed, placed, named⟩
    refine ⟨ending, place, ?_, target, named, rfl, rfl⟩
    rw [listed]
    exact placed

/-- The hubs of a manifest are the objects among the hubs of its acts. -/
theorem mem_hubs_iff {hub : Json} :
    hub ∈ hubs manifest ↔ hub.isObject = true ∧ ∃ acts act among,
      manifest.get? "acts" = some (.list acts) ∧ act ∈ acts ∧
        act.get? "hubs" = some (.list among) ∧ hub ∈ among := by
  -- Hubs stand two lists deep, in the acts of the manifest.
  simp only [hubs, List.mem_filter, List.mem_flatMap, mem_itemsAt_iff]
  constructor
  · rintro ⟨⟨act, ⟨acts, acted, member⟩, among, listed, held⟩, object⟩
    exact ⟨object, acts, act, among, acted, member, listed, held⟩
  · rintro ⟨object, acts, act, among, acted, member, listed, held⟩
    exact ⟨⟨act, ⟨acts, acted, member⟩, among, listed, held⟩, object⟩

/-- The links of hubs are the scenes in which they come together, each with the name of its hub. -/
theorem mem_convergenceLinks_iff :
    (link, target) ∈ convergenceLinks manifest ↔ ∃ hub ∈ hubs manifest,
      link = .convergence (hubName hub) ∧ hub.get? "convergenceScene" = some (.text target) ∧
        target ≠ "" := by
  -- A hub gives at most one link, to the scene it names.
  simp only [convergenceLinks, List.mem_filterMap, Option.map_eq_some_iff, targetAt?_eq_some_iff,
    Prod.mk.injEq]
  constructor
  · rintro ⟨hub, member, id, named, rfl, rfl⟩
    exact ⟨hub, member, rfl, named⟩
  · rintro ⟨hub, member, rfl, named⟩
    exact ⟨hub, member, target, named, rfl, rfl⟩

/-- The links of a manifest are what it names outside its index. -/
theorem mem_manifestLinks_iff :
    (link, target) ∈ manifestLinks manifest ↔ Names manifest link target := by
  rw [manifestLinks, List.mem_append, List.mem_append, mem_startLinks_iff, mem_endingLinks_iff,
    mem_convergenceLinks_iff]
  constructor
  · rintro ((⟨rfl, named, nonempty⟩ |
          ⟨endings, ending, place, rfl, listed, placed, named, nonempty⟩) |
      ⟨hub, member, rfl, named, nonempty⟩)
    · exact .start named nonempty
    · exact .ending listed placed named nonempty
    · obtain ⟨-, acts, act, among, acted, inside, listed, held⟩ := mem_hubs_iff.1 member
      exact .convergence acted inside listed held named nonempty
  · intro names
    cases names with
    | start named nonempty => exact .inl (.inl ⟨rfl, named, nonempty⟩)
    | ending listed placed named nonempty =>
      exact .inl (.inr ⟨_, _, _, rfl, listed, placed, named, nonempty⟩)
    | convergence acted among listed held named nonempty =>
      -- A hub that names a scene has a member, so it is an object.
      have object := Json.isObject_of_get? named
      exact .inr ⟨_, mem_hubs_iff.2 ⟨object, _, _, _, acted, among, listed, held⟩, rfl, named,
        nonempty⟩

/-- The declared keys are those under which the index holds something. -/
theorem mem_declaredKeys_iff : target ∈ declaredKeys manifest ↔ HasKey manifest target := by
  rw [declaredKeys, Table.mem_keys_iff, HasKey]
  -- Without an index there is no key at all.
  cases manifest.get? "sceneIndex" with
  | none => simp [Json.members, Table.get?]
  | some index => simp [Json.get?]

/-- A review reports a broken link exactly for what the manifest names and does not have as a key.
-/
theorem brokenLink_mem_errors_ofManifest_iff :
    .brokenLink link target ∈ (ofManifest manifest).errors ↔
      Names manifest link target ∧ ¬ HasKey manifest target := by
  rw [← mem_manifestLinks_iff, ← mem_declaredKeys_iff]
  -- Issues of the shape are no broken links.
  simp [ofManifest]

end Review

end Gamebook.Story
