import Gamebook.Proofs.Json
import Gamebook.Proofs.Schema.Findings
import Gamebook.Proofs.Table

/-! When a check by a schema finds nothing about a value, keyword by keyword. -/

namespace Gamebook.Schema

variable {root value argument : Json} {draft : Draft}

/-- However it is come upon, an object that keeps the draft is opened with its members that count.
-/
theorem openSchema_eq_ok {access : Access} {members active : List (String × Json)}
    (drafted : draftWithin draft (.object members) = .ok draft)
    (counted : activeMembers draft (.object members) = .ok active) :
    openSchema access draft (.object members) = .ok (draft, active) := by
  -- An object can always be asked for an address.
  rw [openSchema, drafted]
  cases access <;> simp [askAddress, counted, Bind.bind, Except.bind, pure, Except.pure]

/-- The keywords that a schema of the seventh draft writes, with their arguments; a reference stands
alone. -/
def constraints? : Json → Option (List (Keyword × Json))
  | .object members =>
    match draftWithin .draft7 (.object members), activeMembers .draft7 (.object members) with
    | .ok .draft7, .ok active => some (active.filterMap fun member =>
        (Draft.draft7.keyword? member.1).map (·, member.2))
    | _, _ => none
  | _ => none

/-- A check by a schema finds nothing exactly when the check by each of its keywords does. -/
theorem checkFuel_eq_none_iff {fuel : Nat} {access : Access} {schema : Json}
    {constraints : List (Keyword × Json)} (written : constraints? schema = some constraints) :
    checkFuel root (fuel + 1) .draft7 access schema value = .none ↔
      ∀ constraint ∈ constraints, checkKeyword (checkFuel root fuel .draft7) root .draft7
        schema.members value constraint.1 constraint.2 = .none := by
  unfold constraints? at written
  split at written
  · next members =>
    split at written
    · next active drafted counted =>
      cases written
      have opened : openSchema access .draft7 (.object members) = .ok (.draft7, active) :=
        openSchema_eq_ok drafted counted
      unfold checkFuel
      simp only [opened, Bind.bind, Except.bind, pure, Except.pure, Json.members,
        Findings.unlessMisfit_eq_none_iff, Except.ok.injEq, Findings.concat_eq_none_iff,
        List.forall_mem_map, List.mem_filterMap, Option.map_eq_some_iff]
      constructor
      · rintro clean constraint ⟨member, listed, keyword, known, rfl⟩
        have found := clean member listed
        rwa [known] at found
      · intro clean member listed
        -- A member that is no keyword is passed over.
        split
        · rfl
        · next keyword known =>
            exact clean (keyword, member.2) ⟨member, listed, keyword, known, rfl⟩
    · cases written
  · cases written

/-- Nothing is found on a part exactly when its check finds nothing. -/
theorem checkPart_eq_none_iff {check : Checker} {schema : Json} {step : LocPart} {part : Json} :
    checkPart check schema step part = .none ↔ check .part schema part = .none := by
  unfold checkPart
  -- Where a violation is reported makes no difference to whether there is one.
  split
  · exact Iff.rfl
  · exact Findings.under_eq_none_iff

section Keywords

variable {check : Checker} {schema : List (String × Json)}

/-- Of types that there are it can be told whether a value is of one of them. -/
theorem hasAnyType_eq_ok {names : List String} (existing : ∀ name ∈ names, name ∈ knownTypes) :
    hasAnyType draft schema value (names.map Json.text) =
      .ok (names.any (hasType draft value)) := by
  induction names with
  | nil => rfl
  | cons name rest ih =>
    rw [List.forall_mem_cons] at existing
    rw [List.map_cons, hasAnyType, ih existing.2]
    -- The first type settles it, or the others are looked at.
    by_cases here : hasType draft value name = true <;> simp [existing.1, here]

/-- A value is of one of the types that are wanted. -/
theorem type_eq_none_iff {names : List String}
    (wanted : typesOf argument = .ok (names.map Json.text))
    (existing : ∀ name ∈ names, name ∈ knownTypes) :
    checkKeyword check root draft schema value .type argument = .none ↔
      ∃ name ∈ names, hasType draft value name = true := by
  unfold checkKeyword
  -- No obstacle is met, since all names are those of types.
  simp only [wanted, hasAnyType_eq_ok existing, Bind.bind, Except.bind, pure,
    Except.pure, Findings.ofExcept, Findings.unlessMisfit_eq_none_iff, Except.ok.injEq,
    Findings.require_eq_none_iff, List.any_eq_true]

/-- Only a text is the same as a text. -/
theorem same_text_iff {word : String} : value.same (.text word) = true ↔ value = .text word := by
  cases value <;> simp [Json.same, Json.compare?, Json.magnitude?]

/-- A value is one of the words that are listed. -/
theorem enum_eq_none_iff {words : List String} :
    checkKeyword check root draft schema value .enum (.list (words.map Json.text)) = .none ↔
      ∃ word ∈ words, value = .text word := by
  unfold checkKeyword
  simp [partsOf, Bind.bind, Except.bind, pure, Except.pure, same_text_iff]

/-- A length is at least one. -/
theorem checkLeast_one_eq_none_iff {length : Nat} :
    checkLeast value length (.int 1) = .none ↔ length ≠ 0 := by
  -- Integers are compared as they are, without a detour over reals.
  have order : Json.compare? (.int length) (.int 1) = some (compare (length : Int) 1) := by
    simp [Json.compare?, Json.magnitude?, Magnitude.compare?]
  simp only [checkLeast, compareTo, numberOf?, order, Bind.bind, Except.bind, pure, Except.pure,
    Findings.unlessMisfit_eq_none_iff, Except.ok.injEq, Findings.require_eq_none_iff]
  rw [decide_eq_true_iff, ne_eq, Option.some.injEq, Int.compare_eq_lt]
  omega

/-- A text has some character, if the value is a text. -/
theorem minLength_eq_none_iff :
    checkKeyword check root draft schema value .minLength (.int 1) = .none ↔ value ≠ .text "" := by
  cases value with
  | text text =>
    unfold checkKeyword
    -- The empty text is the only one of length zero.
    simp [checkLeast_one_eq_none_iff]
  | _ => exact iff_of_true rfl (by simp)

/-- A list has some item, if the value is a list. -/
theorem minItems_eq_none_iff :
    checkKeyword check root draft schema value .minItems (.int 1) = .none ↔ value ≠ .list [] := by
  cases value with
  | list items =>
    unfold checkKeyword
    -- The empty list is the only one of length zero.
    simp [checkLeast_one_eq_none_iff]
  | _ => exact iff_of_true rfl (by simp)

/-- An object has the members that are required, if the value is an object. -/
theorem required_eq_none_iff {names : List String} :
    checkKeyword check root draft schema value .required (.list (names.map Json.text)) = .none ↔
      (value.isObject = true → ∀ name ∈ names, ∃ member, value.get? name = some member) := by
  cases value with
  | object members =>
    unfold checkKeyword
    -- Names are looked up as keys, and a text can always be.
    simp [partsOf, checkPresent, hasMember, Bind.bind, Except.bind, pure, Except.pure,
      Findings.concat_eq_none_iff, Json.isObject, Json.get?, Json.members, Table.has,
      Option.isSome_iff_exists]
  | _ => exact iff_of_true rfl (by simp [Json.isObject])

/-- Each member that is listed passes the schema for it. -/
theorem properties_eq_none_iff {parts : List (String × Json)} :
    checkKeyword check root draft schema value .properties (.object parts) = .none ↔
      ∀ part ∈ parts, ∀ member, value.get? part.1 = some member →
        check .part part.2 member = .none := by
  cases value with
  | object members =>
    unfold checkKeyword
    simp only [membersOf, Bind.bind, Except.bind, pure, Except.pure,
      Findings.unlessMisfit_eq_none_iff, Except.ok.injEq, Findings.concat_eq_none_iff,
      List.forall_mem_map]
    refine forall₂_congr fun part _ => ?_
    -- A property that the value lacks is not checked.
    cases found : Table.get? part.1 members with
    | none => simp [Json.get?, Json.members, found]
    | some member => simp [Json.get?, Json.members, found, checkPart_eq_none_iff]
  | _ => exact iff_of_true rfl (by simp [Json.get?, Json.members, Table.get?])

/-- Each item of a list passes the schema for all items. -/
theorem items_eq_none_iff {part : Json} (object : part.isObject = true) :
    checkKeyword check root draft schema value .items part = .none ↔
      ∀ items, value = .list items → ∀ item ∈ items, check .part part item = .none := by
  cases value with
  | list items =>
    -- In every draft an object is the schema for all items.
    have all : checkAllItems check draft part items = checkItems check part 0 items := by
      cases part with
      | object members => cases draft <;> rfl
      | _ => cases object
    unfold checkKeyword
    simp only [all, checkItems, Findings.concat_eq_none_iff, List.forall_mem_map,
      checkPart_eq_none_iff, Json.list.injEq, forall_eq']
    constructor
    · intro clean item member
      -- The item is checked at its place in the list.
      obtain ⟨place, placed⟩ := List.mem_iff_getElem?.1 member
      have listed : (item, place) ∈ items.zipIdx := by
        simpa [List.mem_zipIdx_iff_getElem?] using placed
      exact clean (item, place) listed
    · intro clean placed listed
      exact clean placed.1 (List.fst_mem_of_mem_zipIdx listed)
  | _ => exact iff_of_true rfl (by simp)

/-- The value passes the schema to which a reference leads. -/
theorem reference_eq_none_iff {reference : String} {target : Json}
    (resolved : Pointer.resolve root reference = .ok (some target)) :
    checkKeyword check root draft schema value .reference (.text reference) = .none ↔
      check .reference target value = .none := by
  unfold checkKeyword
  simp [checkReference, resolved, Bind.bind, Except.bind, pure, Except.pure]

/-- A value passes one of two alternatives, where it cannot pass both and both checks are carried to
their end. -/
theorem oneOf_eq_none_iff {first second : Json} {firstFits secondFits : Prop}
    (complete : ∀ access, ∀ part ∈ [first, second], (check access part value).IsComplete)
    (firstPasses : ∀ access, check access first value = .none ↔ firstFits)
    (secondPasses : ∀ access, check access second value = .none ↔ secondFits)
    (apart : ¬ (firstFits ∧ secondFits)) :
    checkKeyword check root draft schema value .oneOf (.list [first, second]) = .none ↔
      firstFits ∨ secondFits := by
  have firstComplete (access : Access) : (check access first value).IsComplete :=
    complete access first (by simp)
  have secondComplete (access : Access) : (check access second value).IsComplete :=
    complete access second (by simp)
  unfold checkKeyword
  simp only [partsOf, checkOne, firstFit?, Bind.bind, Except.bind, pure, Except.pure,
    Findings.unlessMisfit_eq_none_iff, Except.ok.injEq, Findings.ofExcept_eq_none_iff]
  by_cases fits : firstFits
  · -- The second alternative is tried by itself, and is not passed as well.
    have different : ¬ secondFits := fun other => apart ⟨fits, other⟩
    have clean := Findings.isCleanThroughout_eq_true_iff.2 ((firstPasses .part).2 fits)
    have found := (secondComplete .trial).isClean_eq_false
      (fun none => different ((secondPasses .trial).1 none))
    simp [clean, found, fits, Schema.fits, Bind.bind, Except.bind, pure, Except.pure]
  · have found := (firstComplete .part).isCleanThroughout_eq_false
      (fun none => fits ((firstPasses .part).1 none))
    by_cases other : secondFits
    · have clean := Findings.isCleanThroughout_eq_true_iff.2 ((secondPasses .part).2 other)
      simp [found, clean, other, Schema.fits]
    · have none := (secondComplete .part).isCleanThroughout_eq_false
        (fun none => other ((secondPasses .part).1 none))
      simp [found, none, fits, other]

end Keywords

end Gamebook.Schema
