import Gamebook.Json

/-! Laws of JSON values: which values have members, and which are texts. -/

namespace Gamebook.Json

/-- Only a text that is not empty has a text that is not empty. -/
theorem nonemptyText?_eq_some_iff {value : Json} {id : String} :
    value.nonemptyText? = some id ↔ value = .text id ∧ id ≠ "" := by
  cases value with
  | text written =>
    -- The empty text is the one that does not count.
    by_cases empty : written = ""
    · subst empty
      simp [nonemptyText?, eq_comm]
    · simp only [nonemptyText?, if_neg empty, Option.some.injEq, Json.text.injEq]
      constructor
      · rintro rfl
        exact ⟨rfl, empty⟩
      · exact And.left
  | _ => simp [nonemptyText?]

/-- Only a text has a text. -/
theorem text?_eq_some_iff {value : Json} {written : String} :
    value.text? = some written ↔ value = .text written := by
  cases value <;> simp [text?]

/-- Only the truth value `true` counts as exactly true. -/
theorem isTrue_iff {value : Json} : value.isTrue = true ↔ value = .bool true := by
  cases value with
  | bool truth => cases truth <;> simp [isTrue]
  | _ => simp [isTrue]

/-- Only an object has a member. -/
theorem exists_members_of_get? {key : String} {value member : Json}
    (found : value.get? key = some member) :
    ∃ members, value = .object members ∧ Table.get? key members = some member := by
  -- Only an object has members.
  cases value with
  | object members => exact ⟨members, rfl, found⟩
  | _ => simp [get?, members, Table.get?] at found

/-- A value with a member is an object. -/
theorem isObject_of_get? {key : String} {value member : Json}
    (found : value.get? key = some member) : value.isObject = true := by
  obtain ⟨members, rfl, _⟩ := exists_members_of_get? found
  rfl

/-- A member that is a text which is not empty. -/
theorem bind_nonemptyText?_eq_some_iff {found : Option Json} {id : String} :
    found.bind nonemptyText? = some id ↔ found = some (.text id) ∧ id ≠ "" := by
  cases found with
  | none => simp
  | some value => simp [nonemptyText?_eq_some_iff]

/-- A member that is a text. -/
theorem bind_text?_eq_some_iff {found : Option Json} {written : String} :
    found.bind text? = some written ↔ found = some (.text written) := by
  cases found with
  | none => simp
  | some value => simp [text?_eq_some_iff]

/-- An item of a list is smaller than the list. -/
theorem size_lt_of_mem {item : Json} {items : List Json} (member : item ∈ items) :
    item.size < (list items).size := by
  rw [size, Nat.lt_succ_iff]
  induction items with
  | nil => cases member
  | cons first rest ih =>
    rw [sizeItems]
    -- Each item is one of those whose sizes are added up.
    rcases List.mem_cons.1 member with rfl | later
    · omega
    · have := ih later
      omega

/-- A member of an object is smaller than the object. -/
theorem size_lt_of_mem_members {member : String × Json} {members : List (String × Json)}
    (listed : member ∈ members) : member.2.size < (object members).size := by
  rw [size, Nat.lt_succ_iff]
  induction members with
  | nil => cases listed
  | cons first rest ih =>
    rw [sizeMembers]
    -- Each member is one of those whose sizes are added up.
    rcases List.mem_cons.1 listed with rfl | later
    · omega
    · have := ih later
      omega

end Gamebook.Json
