import LabelPress.Fault

/-!
# Bounds on the size of images

The sides of an image are stored in half a machine word. A side that does not fit there is refused,
and one that does not fit into a whole machine word is refused for that reason.

## Main definitions

* `checkSide`: refuses the side of an image if it is too long.

## Main results

* `checkSide_eq_ok_iff`, `exists_checkSide_error`: which sides are refused, and as what.
-/

namespace LabelPress.Image

/-- The longest side of an image. -/
def maxSide : Int := 0x7FFFFFFF

/-- The greatest number in a machine word. -/
def maxWord : Int := 0x7FFFFFFFFFFFFFFF

/-- Refuses the side of an image if it is too long. -/
def checkSide (side : Int) : Except Fault Unit :=
  if maxWord < side then .error .wordOverflow
  else if maxSide < side then .error .sideOverflow
  else .ok ()

/-- A side is accepted iff it fits into half a machine word. -/
theorem checkSide_eq_ok_iff {side : Int} : checkSide side = .ok () ↔ side ≤ maxSide := by
  have hbounds : maxSide ≤ maxWord := by decide
  rw [checkSide]
  split
  · have : ¬ side ≤ maxSide := by omega
    simpa
  · split <;> simpa using by omega

/-- A side that does not fit is refused as too large a number. -/
theorem exists_checkSide_error {side : Int} (h : maxSide < side) :
    ∃ f, checkSide side = .error f ∧ f.kind = .overflow := by
  by_cases hword : maxWord < side
  · exact ⟨_, if_pos hword, rfl⟩
  · exact ⟨.sideOverflow, by rw [checkSide, if_neg hword, if_pos h], rfl⟩

end LabelPress.Image
