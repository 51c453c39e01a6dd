import Gamebook.Json

/-! The order of JSON numbers, exact between integers and reals. -/

namespace Gamebook

/-- A finite number as `mantissa · 2 ^ exponent`, or one of the values beyond them. -/
inductive Magnitude where
  | exact (mantissa : Int) (exponent : Int)
  | infinite (negative : Bool)
  | unordered

namespace Magnitude

/-- The magnitude of a binary64 number. -/
def ofBinary64 : Binary64 → Magnitude
  | .nan => .unordered
  | .infinite negative => .infinite negative
  | .finite negative mantissa exponent =>
    .exact (if negative then -(mantissa : Int) else mantissa) exponent

/-- The order of two magnitudes; not-a-number has none. -/
def compare? : Magnitude → Magnitude → Option Ordering
  | .unordered, _ => none
  | _, .unordered => none
  | .infinite a, .infinite b =>
    some (if a = b then .eq else if a then .lt else .gt)
  | .infinite a, .exact _ _ => some (if a then .lt else .gt)
  | .exact _ _, .infinite b => some (if b then .gt else .lt)
  | .exact m e, .exact n f =>
    -- Both numbers are written in the smaller of the two steps.
    let step := min e f
    some (compare (m * (Nat.pow 2 (e - step).toNat : Nat)) (n * (Nat.pow 2 (f - step).toNat : Nat)))

end Magnitude

namespace Json

/-- The magnitude of a number; booleans are not numbers. -/
def magnitude? : Json → Option Magnitude
  | .int value => some (.exact value 0)
  | .real value => some (.ofBinary64 value)
  | _ => none

/-- The order of two numbers. -/
def compare? (a b : Json) : Option Ordering := do
  let a ← a.magnitude?
  let b ← b.magnitude?
  a.compare? b

mutual

/-- Equality of values, where a whole real equals the integer of its value. -/
def same : Json → Json → Bool
  | .null, .null => true
  | .bool a, .bool b => a == b
  | .text a, .text b => a == b
  | .list as, .list bs => sameItems as bs
  | .object as, .object bs => as.length == bs.length && sameMembers as bs
  | .int a, b => Json.compare? (.int a) b == some .eq
  | .real a, b => Json.compare? (.real a) b == some .eq
  | _, _ => false

/-- Equality of lists, place by place. -/
def sameItems : List Json → List Json → Bool
  | [], [] => true
  | a :: as, b :: bs => same a b && sameItems as bs
  | _, _ => false

/-- Whether every member has an equal one under its key, in any order. -/
def sameMembers : List (String × Json) → List (String × Json) → Bool
  | [], _ => true
  | (key, a) :: as, bs =>
    (match Table.get? key bs with
      | some b => same a b
      | none => false) && sameMembers as bs

end

end Json

end Gamebook
