import Gamebook.Kind

/-! A word marks the kind that has it as its name, and no other one. -/

namespace Gamebook

/-- A word marks a kind of conditions exactly when it is the name of that kind. -/
theorem ConditionKind.ofName?_eq_some_iff {word : String} {kind : ConditionKind} :
    ofName? word = some kind ↔ word = kind.name := by
  constructor
  · intro found
    simpa [eq_comm] using List.find?_some found
  · rintro rfl
    -- Each kind is the first one with its name.
    rcases kind with _ | _ | _ | _ | logical
    case logical => cases logical <;> rfl
    all_goals rfl

/-- Kinds of conditions with the same name are the same. -/
theorem ConditionKind.eq_of_name_eq {kind other : ConditionKind} (same : kind.name = other.name) :
    kind = other :=
  Option.some.inj ((ofName?_eq_some_iff.2 rfl).symm.trans (ofName?_eq_some_iff.2 same))

/-- A kind with the name of a logical kind is logical. -/
theorem ConditionKind.isLogical_of_name_eq {kind : ConditionKind} {logical : LogicalKind}
    (same : kind.name = logical.name) : kind.isLogical = true := by
  have kinds : kind = .logical logical := eq_of_name_eq same
  rw [kinds]
  rfl

/-- Every kind of conditions is listed. -/
theorem ConditionKind.mem_all (kind : ConditionKind) : kind ∈ all := by
  -- The list is finite, and so are the kinds.
  rcases kind with _ | _ | _ | _ | logical
  case logical => cases logical <;> decide
  all_goals decide

/-- A word marks a kind of effects exactly when it is the name of that kind. -/
theorem EffectKind.ofName?_eq_some_iff {word : String} {kind : EffectKind} :
    ofName? word = some kind ↔ word = kind.name := by
  constructor
  · intro found
    simpa [eq_comm] using List.find?_some found
  · rintro rfl
    -- Each kind is the first one with its name.
    cases kind <;> rfl

/-- Every kind of effects is listed. -/
theorem EffectKind.mem_all (kind : EffectKind) : kind ∈ all := by
  cases kind <;> decide

/-- A word marks a comparison operator exactly when it is the name of that operator. -/
theorem StatOperator.ofName?_eq_some_iff {word : String} {operator : StatOperator} :
    ofName? word = some operator ↔ word = operator.name := by
  constructor
  · intro found
    simpa [eq_comm] using List.find?_some found
  · rintro rfl
    -- Each operator is the first one with its mark.
    cases operator <;> rfl

end Gamebook
