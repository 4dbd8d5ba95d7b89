import OpenApiDoc.Entries

/-!
# Visits

How often each definition has been entered on the way to a place in an example. A count is a
byte: it stays at 255 once it is there. A definition may be entered up to a limit.
-/

namespace OpenApiDoc.Example

/-- How often a definition may be entered: from 1 to 255 times. -/
structure Limit where
  val : Nat
  pos : 0 < val := by decide
  le : val ≤ 255 := by decide
deriving DecidableEq

namespace Limit

/-- The limit unless another one is set. -/
def standard : Limit := { val := 2 }

/-- The limit of this value, where it is one. -/
def ofNat? (n : Nat) : Option Limit :=
  if h : 0 < n ∧ n ≤ 255 then some ⟨n, h.1, h.2⟩ else none

end Limit

/-- How often definitions have been entered. -/
structure Visits where
  counts : List (String × Nat) := []
deriving DecidableEq

namespace Visits

/-- How often a definition has been entered. -/
def count (v : Visits) (name : String) : Nat := (Entries.get? name v.counts).getD 0

/-- The visits after entering a definition; none once that goes beyond the limit. -/
def enter (v : Visits) (name : String) (limit : Limit) : Option Visits :=
  let count := min (v.count name + 1) 255
  if limit.val < count then none else some ⟨Entries.insert name count v.counts⟩

/-- Enter a definition up to so many times: how often that worked, whether it was
refused, and the visits then. -/
def enterTimes (v : Visits) (name : String) (limit : Limit) : Nat → Nat × Bool × Visits
  | 0 => (0, false, v)
  | times + 1 =>
    match v.enter name limit with
    | none => (0, true, v)
    | some next =>
      let (entered, refused, last) := next.enterTimes name limit times
      (entered + 1, refused, last)

end Visits

end OpenApiDoc.Example
