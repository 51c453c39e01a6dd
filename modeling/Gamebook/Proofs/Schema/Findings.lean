import Gamebook.Schema.Registry

/-! When a check finds nothing, and when it is carried to its end: what that says about the checks
that it is put together from. -/

namespace Gamebook.Schema.Findings

variable {first second findings : Findings}

/-- Two checks find nothing exactly when each of them finds nothing. -/
theorem append_eq_none_iff : append first second = none ↔ first = none ∧ second = none := by
  obtain ⟨violations, obstacle⟩ := first
  obtain ⟨others, other⟩ := second
  -- An obstacle hides what comes after it, and is a finding itself.
  cases obstacle <;> simp [append, none, and_assoc]

/-- Several checks find nothing exactly when each of them finds nothing. -/
theorem concat_eq_none_iff {all : List Findings} : concat all = none ↔ ∀ one ∈ all, one = none := by
  induction all with
  | nil => simp [concat]
  | cons one rest ih =>
    -- What several checks find is what the first one finds and then the others.
    rw [List.forall_mem_cons, ← ih]
    exact append_eq_none_iff

/-- Nothing is found on a part exactly when nothing is seen of it from the whole. -/
@[simp] theorem under_eq_none_iff {part : LocPart} :
    findings.under part = none ↔ findings = none := by
  obtain ⟨violations, obstacle⟩ := findings
  simp [under, none]

/-- A condition that is required finds nothing exactly when it holds. -/
@[simp] theorem require_eq_none_iff {condition : Bool} {failure : Failure} :
    require condition failure = none ↔ condition = true := by
  cases condition <;> simp [require, one, none]

/-- A check that cannot go on does not count as finding nothing. -/
@[simp] theorem blocked_ne_none {obstacle : Obstacle} : blocked obstacle ≠ none := by
  simp [blocked, none]

/-- A failure is found. -/
@[simp] theorem one_ne_none {failure : Failure} : one failure ≠ none := by simp [one, none]

/-- A check that may meet a misfit finds nothing exactly when it meets none and finds nothing. -/
@[simp] theorem unlessMisfit_eq_none_iff {result : Except Misfit Findings} :
    unlessMisfit result = none ↔ result = .ok none := by
  cases result <;> simp [unlessMisfit]

/-- A check that may meet an obstacle finds nothing exactly when it meets none and finds nothing. -/
@[simp] theorem ofExcept_eq_none_iff {result : Except Obstacle Findings} :
    ofExcept result = none ↔ result = .ok none := by
  cases result <;> simp [ofExcept]

/-- A check is clean throughout exactly when it finds nothing. -/
@[simp] theorem isCleanThroughout_eq_true_iff :
    findings.isCleanThroughout = .ok true ↔ findings = none := by
  obtain ⟨violations, obstacle⟩ := findings
  cases obstacle <;> simp [isCleanThroughout, none]

/-- There are no messages exactly when nothing is found. -/
theorem messages_eq_nil_iff {label : String} :
    findings.messages label = .ok [] ↔ findings = none := by
  obtain ⟨violations, obstacle⟩ := findings
  cases obstacle with
  | some obstacle => simp [messages, none]
  | none =>
    -- There are as many messages as violations.
    have empty : Schema.messages label violations = [] ↔ violations = [] := by
      rw [← List.length_eq_zero_iff, Schema.length_messages, List.length_eq_zero_iff]
    simp [messages, none, empty]

/-- A check is carried to its end: it meets no obstacle. -/
def IsComplete (findings : Findings) : Prop := findings.obstacle = .none

/-- What a check that is carried to its end finds is told. -/
theorem IsComplete.messages_eq {label : String} (complete : findings.IsComplete) :
    findings.messages label = .ok (Schema.messages label findings.violations) := by
  rw [messages, complete]

/-- A check that finds nothing is carried to its end. -/
@[simp] theorem isComplete_none : none.IsComplete := rfl

/-- A check of a condition is carried to its end. -/
@[simp] theorem isComplete_require {condition : Bool} {failure : Failure} :
    (require condition failure).IsComplete := by
  cases condition <;> rfl

/-- Two checks are carried to their end exactly when each of them is. -/
theorem isComplete_append_iff :
    (append first second).IsComplete ↔ first.IsComplete ∧ second.IsComplete := by
  obtain ⟨violations, obstacle⟩ := first
  cases obstacle <;> simp [append, IsComplete]

/-- Several checks are carried to their end exactly when each of them is. -/
theorem isComplete_concat_iff {all : List Findings} :
    (concat all).IsComplete ↔ ∀ one ∈ all, one.IsComplete := by
  induction all with
  | nil => simp [concat]
  | cons one rest ih =>
    -- Several checks go on only as long as none of them meets an obstacle.
    rw [List.forall_mem_cons, ← ih]
    exact isComplete_append_iff

/-- Of a check that is carried to its end it can be told whether it finds nothing. -/
theorem IsComplete.exists_isClean (complete : findings.IsComplete) :
    ∃ clean, findings.isClean = .ok clean := by
  obtain ⟨violations, obstacle⟩ := findings
  cases complete
  -- Without an obstacle the violations decide.
  cases violations with
  | nil => exact ⟨true, rfl⟩
  | cons violation rest => exact ⟨false, rfl⟩

/-- A check that is carried to its end and finds something is not clean. -/
theorem IsComplete.isClean_eq_false (complete : findings.IsComplete) (found : findings ≠ none) :
    findings.isClean = .ok false := by
  obtain ⟨violations, obstacle⟩ := findings
  cases complete
  -- Something found without an obstacle is a violation.
  cases violations with
  | nil => exact absurd rfl found
  | cons violation rest => rfl

/-- A check that is carried to its end and finds something is not clean throughout. -/
theorem IsComplete.isCleanThroughout_eq_false (complete : findings.IsComplete)
    (found : findings ≠ none) : findings.isCleanThroughout = .ok false := by
  obtain ⟨violations, obstacle⟩ := findings
  cases complete
  -- Something found without an obstacle is a violation.
  cases violations with
  | nil => exact absurd rfl found
  | cons violation rest => rfl

/-- Of a check that is carried to its end it can be told whether it is clean throughout. -/
theorem IsComplete.exists_isCleanThroughout (complete : findings.IsComplete) :
    ∃ clean, findings.isCleanThroughout = .ok clean := by
  obtain ⟨violations, obstacle⟩ := findings
  -- Without an obstacle the question has an answer.
  cases complete
  exact ⟨_, rfl⟩

end Gamebook.Schema.Findings
