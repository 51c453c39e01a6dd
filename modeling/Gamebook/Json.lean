import Gamebook.Binary64
import Gamebook.Table

/-! JSON values that keep the order of members and tell integers from reals. -/

namespace Gamebook

/-- A JSON value. -/
inductive Json where
  | null
  | bool (value : Bool)
  | int (value : Int)
  | real (value : Binary64)
  | text (value : String)
  | list (items : List Json)
  | object (members : List (String × Json))
  deriving Repr, Inhabited

namespace Json

/-- The members of an object; every other value has none. -/
def members : Json → List (String × Json)
  | .object members => members
  | _ => []

/-- A member of an object. -/
def get? (key : String) (value : Json) : Option Json := Table.get? key value.members

/-- Whether a value is an object. -/
def isObject : Json → Bool
  | .object _ => true
  | _ => false

/-- The text of a text value. -/
def text? : Json → Option String
  | .text value => some value
  | _ => none

/-- The text of a text value that is not empty. -/
def nonemptyText? : Json → Option String
  | .text value => if value = "" then none else some value
  | _ => none

/-- Whether a value is exactly `true`. -/
def isTrue : Json → Bool
  | .bool true => true
  | _ => false

/-- Whether a value counts as present: not null, false, zero or empty. -/
def isTruthy : Json → Bool
  | .null => false
  | .bool value => value
  | .int value => value != 0
  | .real value => !value.isZero
  | .text value => value != ""
  | .list items => !items.isEmpty
  | .object members => !members.isEmpty

mutual

/-- The number of values inside a value, itself included. -/
def size : Json → Nat
  | .list items => sizeItems items + 1
  | .object members => sizeMembers members + 1
  | _ => 1

/-- The number of values inside a list of values. -/
def sizeItems : List Json → Nat
  | [] => 0
  | item :: rest => size item + sizeItems rest

/-- The number of values inside the members of an object. -/
def sizeMembers : List (String × Json) → Nat
  | [] => 0
  | (_, value) :: rest => size value + sizeMembers rest

end

/-- A value is no smaller than the values in a member of it. -/
theorem size_le_sizeMembers {key : String} {value : Json} {members : List (String × Json)}
    (found : Table.get? key members = some value) : value.size ≤ sizeMembers members := by
  induction members with
  | nil => simp [Table.get?] at found
  | cons entry rest step =>
    obtain ⟨other, held⟩ := entry
    rw [Table.get?] at found
    rw [sizeMembers]
    -- The first member under the key is the one that is found.
    split at found
    · cases found
      omega
    · have := step found
      omega

/-- Sizes of lists add up. -/
theorem sizeItems_append (left right : List Json) :
    sizeItems (left ++ right) = sizeItems left + sizeItems right := by
  -- Sizes add up along the first list.
  induction left with
  | nil => simp [sizeItems]
  | cons item rest step =>
    simp only [List.cons_append, sizeItems, step]
    omega

/-- The order of a list does not matter for its size. -/
theorem sizeItems_reverse (items : List Json) :
    sizeItems items.reverse = sizeItems items := by
  induction items with
  | nil => rfl
  | cons item rest step =>
    -- The first item comes last, which the sum does not notice.
    simp only [List.reverse_cons, sizeItems_append, step, sizeItems]
    omega

/-- Every value counts itself. -/
theorem size_pos (value : Json) : 0 < value.size := by
  cases value <;> simp [size]

end Json

end Gamebook
