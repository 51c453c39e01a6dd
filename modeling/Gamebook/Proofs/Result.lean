import Mathlib.Data.List.Forall2

/-! Laws of results: values, or faults in their place, and lists of them beside the items that they
are got from. -/

namespace Gamebook

variable {α β ε φ : Type} {result : Except ε α} {next : α → Except ε β} {value : β} {fault : ε}

/-- Two steps succeed exactly when the first one does, and the second one after it. -/
theorem bind_eq_ok_iff :
    result >>= next = .ok value ↔ ∃ first, result = .ok first ∧ next first = .ok value := by
  cases result <;> simp [Bind.bind, Except.bind]

/-- Two steps fail exactly when the first one does, or else the second one after it. -/
theorem bind_eq_error_iff :
    result >>= next = .error fault ↔
      result = .error fault ∨ ∃ first, result = .ok first ∧ next first = .error fault := by
  cases result <;> simp [Bind.bind, Except.bind]

/-- A step fails with another fault in its place exactly when it fails. -/
theorem mapError_eq_error_iff {change : ε → φ} {changed : φ} :
    result.mapError change = .error changed ↔
      ∃ fault, result = .error fault ∧ change fault = changed := by
  constructor
  · intro failed
    -- A value is not changed into a fault.
    cases result with
    | error fault => exact ⟨fault, rfl, Except.error.inj failed⟩
    | ok given => cases failed
  · rintro ⟨fault, rfl, rfl⟩
    rfl

/-- A step with its fault changed succeeds exactly when it does. -/
theorem mapError_eq_ok_iff {change : ε → φ} {value : α} :
    result.mapError change = .ok value ↔ result = .ok value := by
  constructor
  · intro given
    -- A fault is not changed into a value.
    cases result with
    | error fault => cases given
    | ok found => exact congrArg Except.ok (Except.ok.inj given)
  · rintro rfl
    rfl

/-- A step with its value changed fails exactly when it does. -/
theorem map_eq_error_iff {change : α → β} :
    result.map change = .error fault ↔ result = .error fault := by
  cases result <;> simp [Except.map]

/-- What is computed of a result is so of a value that there is. -/
theorem exists_ok_of_map {told : α → β} (found : result.toOption.map told = some value) :
    ∃ given, result = .ok given ∧ told given = value := by
  cases result with
  | error fault => cases found
  | ok given => exact ⟨given, rfl, Option.some.inj found⟩

section Lists

variable {matches? : α → β → Prop} {ofItem : α → Prop} {ofResult : β → Prop} {items : List α}
  {results : List β}

/-- Where results match the items of a list, one of the results has a property if and only if one of
the items has what it amounts to. -/
theorem exists_mem_iff_of_forall₂ (matched : List.Forall₂ matches? items results)
    (agree : ∀ item result, matches? item result → (ofResult result ↔ ofItem item)) :
    (∃ result ∈ results, ofResult result) ↔ ∃ item ∈ items, ofItem item := by
  -- The two lists run side by side.
  induction matched with
  | nil => simp
  | cons head tail ih => simp [ih, agree _ _ head]

/-- Where results match the items of a list, all results have a property if and only if all items
have what it amounts to. -/
theorem forall_mem_iff_of_forall₂ (matched : List.Forall₂ matches? items results)
    (agree : ∀ item result, matches? item result → (ofResult result ↔ ofItem item)) :
    (∀ result ∈ results, ofResult result) ↔ ∀ item ∈ items, ofItem item := by
  -- The two lists run side by side.
  induction matched with
  | nil => simp
  | cons head _ ih => rw [List.forall_mem_cons, List.forall_mem_cons, ih, agree _ _ head]

end Lists

end Gamebook
