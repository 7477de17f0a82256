import Mathlib

/-!
# The common beginning of two numerals
-/

namespace Numerals

/-- The longest common beginning of two lists. -/
def commonPrefix {α : Type*} [DecidableEq α] : List α → List α → List α
  | a :: as, b :: bs => if a = b then a :: commonPrefix as bs else []
  | _, _ => []

end Numerals
