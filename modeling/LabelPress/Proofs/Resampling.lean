import LabelPress.Qr.Symbol
import Mathlib.Algebra.BigOperators.Intervals
import Mathlib.Tactic.Ring

/-!
# Modules and the pixels that show them

A pixel of the image of a QR symbol shows the module that its centre falls on. Read the other way
round, the pixels that show a module are those from the first one whose centre is not left of the
module to the first one whose centre is not left of the next module. Everything about the share of
the pixels that a module gets follows from this: the two first pixels are the ends of an interval,
the width of the interval is a difference of two quotients, and adding up all widths leaves the
last end less the first one.

## Main definitions

* `firstPixel` — the first pixel that shows a module or one after it
* `Shared` — how a row of pixels is shared between modules

## Main results

* `le_moduleShown_iff` — a pixel shows a module or a later one iff it is not before its first pixel
* `pixelsShowing_eq` — the pixels that show some neighbouring modules
* `shared` — every module gets nearly the same share, and none is left out iff there are enough
  pixels
-/

namespace LabelPress.Qr

open Finset

variable {modules size : Nat}

/-! ### The first pixel of a module -/

/-- The first pixel, of `size` across, that shows module `j`, of `modules` across, or one after it:
the left edge of the module, measured in pixels from the centre of the first one and rounded up. -/
def firstPixel (modules size j : Nat) : Nat :=
  (2 * size * j + modules - 1) / (2 * modules)

/-- **Pixels and modules in step:** a pixel shows a module or a later one iff it is not before the
first pixel of the module. -/
theorem le_moduleShown_iff (hm : 0 < modules) (hs : 0 < size) {x j : Nat} :
    j ≤ moduleShown modules size x ↔ firstPixel modules size j ≤ x := by
  -- Both say that the centre of the pixel is not left of the edge of the module. Rounding up on the
  -- right makes up for the half pixel by which centres are off.
  have hcentre : (2 * x + 1) * modules = 2 * modules * x + modules := by ring
  have hedge : j * (2 * size) = 2 * size * j := by ring
  rw [moduleShown, firstPixel, Nat.le_div_iff_mul_le (by omega),
    Nat.div_le_iff_le_mul_add_pred (by omega), hcentre, hedge]
  omega

theorem moduleShown_lt_iff (hm : 0 < modules) (hs : 0 < size) {x j : Nat} :
    moduleShown modules size x < j ↔ x < firstPixel modules size j := by
  rw [← Nat.not_le, ← Nat.not_le, le_moduleShown_iff hm hs]

/-- A pixel shows a module iff it lies between the first pixels of this module and the next. -/
theorem moduleShown_eq_iff (hm : 0 < modules) (hs : 0 < size) {x j : Nat} :
    moduleShown modules size x = j ↔
      firstPixel modules size j ≤ x ∧ x < firstPixel modules size (j + 1) := by
  rw [← le_moduleShown_iff hm hs, ← moduleShown_lt_iff hm hs]
  omega

theorem firstPixel_mono {i j : Nat} (h : i ≤ j) :
    firstPixel modules size i ≤ firstPixel modules size j := by
  have hedge : 2 * size * i ≤ 2 * size * j := Nat.mul_le_mul_left _ h
  exact Nat.div_le_div_right (by omega)

theorem firstPixel_zero (hm : 0 < modules) : firstPixel modules size 0 = 0 := by
  rw [firstPixel, Nat.mul_zero, Nat.zero_add]
  exact Nat.div_eq_of_lt (by omega)

theorem firstPixel_modules (hm : 0 < modules) : firstPixel modules size modules = size := by
  have hlast : 2 * size * modules + modules - 1 = (modules - 1) + 2 * modules * size := by
    have : 2 * size * modules = 2 * modules * size := by ring
    omega
  rw [firstPixel, hlast, Nat.add_mul_div_left _ _ (by omega), Nat.div_eq_of_lt (by omega),
    Nat.zero_add]

theorem firstPixel_le (hm : 0 < modules) {j : Nat} (h : j ≤ modules) :
    firstPixel modules size j ≤ size :=
  Nat.le_trans (firstPixel_mono h) (Nat.le_of_eq (firstPixel_modules hm))

/-- What is left over by a division adds one to the quotient when it is rounded up. -/
theorem add_pred_div_of_mod_pos (hm : 0 < modules) (h : 0 < size % modules) :
    (size + modules - 1) / modules = size / modules + 1 := by
  have hlt : size % modules < modules := Nat.mod_lt _ hm
  have hdiv : size = modules * (size / modules) + size % modules := (Nat.div_add_mod _ _).symm
  have hup : size + modules - 1 = (size % modules - 1) + modules * (size / modules + 1) := by
    rw [Nat.mul_succ]
    omega
  rw [hup, Nat.add_mul_div_left _ _ hm, Nat.div_eq_of_lt (by omega), Nat.zero_add]

/-- From one first pixel to the next it is the width of a module in pixels, rounded down or up: up
if the remainders carry, which they only can if the width leaves one. -/
theorem firstPixel_succ (hm : 0 < modules) (size j : Nat) :
    firstPixel modules size (j + 1) = firstPixel modules size j + size / modules ∨
      firstPixel modules size (j + 1) =
        firstPixel modules size j + (size + modules - 1) / modules := by
  have hnext : 2 * size * (j + 1) + modules - 1 = (2 * size * j + modules - 1) + 2 * size := by
    rw [Nat.mul_succ]
    omega
  rw [firstPixel, firstPixel, hnext, Nat.add_div (by omega),
    Nat.mul_div_mul_left _ _ Nat.two_pos, Nat.mul_mod_mul_left]
  split_ifs with hcarry
  -- Only a remainder can carry, and with a remainder rounding up adds one.
  · have hlt := Nat.mod_lt (2 * size * j + modules - 1) (by omega : 0 < 2 * modules)
    right
    rw [add_pred_div_of_mod_pos hm (by omega), Nat.add_assoc]
  · exact Or.inl rfl

/-! ### How many pixels show a module -/

/-- The numbers of an interval are as many as it is long. The induction is on the range. -/
theorem countP_range_interval (a b n : Nat) :
    (List.range n).countP (fun x => a ≤ x && x < b) = min b n - a := by
  induction n with
  | zero => simp
  | succ n ih =>
    rw [List.range_succ, List.countP_append, ih, List.countP_singleton]
    by_cases h : a ≤ n ∧ n < b
    · rw [if_pos (by simpa using h)]
      omega
    · rw [if_neg (by simpa using h)]
      omega

/-- **The pixels that show neighbouring modules** are those between two first pixels. -/
theorem pixelsShowing_eq (hm : 0 < modules) (hs : 0 < size) {first last : Nat}
    (h : last ≤ modules) :
    pixelsShowing modules size first last =
      firstPixel modules size last - firstPixel modules size first := by
  have hle : firstPixel modules size last ≤ size := firstPixel_le hm h
  simp only [pixelsShowing, le_moduleShown_iff hm hs, moduleShown_lt_iff hm hs,
    countP_range_interval, Nat.min_eq_left hle]

/-! ### The shares of all modules -/

/-- How a row of `size` pixels is shared between `modules` modules. -/
structure Shared (modules size : Nat) : Prop where
  /-- Pixels further on do not show modules further back. -/
  mono : ∀ x y, x ≤ y → moduleShown modules size x ≤ moduleShown modules size y
  /-- There is a module for every pixel. -/
  lt : ∀ x, x < size → moduleShown modules size x < modules
  /-- The pixels that show a module are as many as its width, rounded down or up. -/
  share : ∀ j, j < modules → pixelsShowing modules size j (j + 1) = size / modules ∨
    pixelsShowing modules size j (j + 1) = (size + modules - 1) / modules
  /-- The shares make up the row. -/
  sum : ∑ j ∈ range modules, pixelsShowing modules size j (j + 1) = size
  /-- No module is left out iff there are at least as many pixels. -/
  complete : (∀ j, j < modules → ∃ x, x < size ∧ moduleShown modules size x = j) ↔ modules ≤ size

theorem sum_pixelsShowing (hm : 0 < modules) (hs : 0 < size) :
    ∑ j ∈ range modules, pixelsShowing modules size j (j + 1) = size := by
  have hshares : ∀ j ∈ range modules, pixelsShowing modules size j (j + 1) =
      firstPixel modules size (j + 1) - firstPixel modules size j := by
    intro j hj
    exact pixelsShowing_eq hm hs (mem_range.mp hj)
  rw [sum_congr rfl hshares, sum_range_tsub (fun _ _ => firstPixel_mono), firstPixel_modules hm,
    firstPixel_zero hm, Nat.sub_zero]

theorem pixelsShowing_succ (hm : 0 < modules) (hs : 0 < size) {j : Nat} (hj : j < modules) :
    pixelsShowing modules size j (j + 1) = size / modules ∨
      pixelsShowing modules size j (j + 1) = (size + modules - 1) / modules := by
  rw [pixelsShowing_eq hm hs hj]
  rcases firstPixel_succ hm size j with h | h <;> rw [h, Nat.add_sub_cancel_left]
  · exact Or.inl rfl
  · exact Or.inr rfl

theorem firstPixel_lt_succ (hm : 0 < modules) (h : modules ≤ size) (j : Nat) :
    firstPixel modules size j < firstPixel modules size (j + 1) := by
  have hdown : 0 < size / modules := Nat.div_pos h hm
  have hup : size / modules ≤ (size + modules - 1) / modules := Nat.div_le_div_right (by omega)
  rcases firstPixel_succ hm size j with hj | hj <;> omega

theorem firstPixel_strictMono (hm : 0 < modules) (h : modules ≤ size) :
    StrictMono (firstPixel modules size) :=
  strictMono_nat_of_lt_succ (firstPixel_lt_succ hm h)

/-- **How a row of pixels is shared between modules.** For the last part, a row in which no module
is left out has a pixel for each of them, and these differ. -/
theorem shared (hm : 0 < modules) (hs : 0 < size) : Shared modules size where
  mono x y h := (le_moduleShown_iff hm hs).mpr
    (Nat.le_trans ((le_moduleShown_iff hm hs).mp (Nat.le_refl _)) h)
  lt x h := (moduleShown_lt_iff hm hs).mpr (by rwa [firstPixel_modules hm])
  share j h := pixelsShowing_succ hm hs h
  sum := sum_pixelsShowing hm hs
  complete := by
    constructor
    -- The modules that are shown are at most as many as the pixels.
    · intro h
      have hsub : range modules ⊆ (range size).image (moduleShown modules size) := by
        intro j hj
        obtain ⟨x, hx, hshown⟩ := h j (mem_range.mp hj)
        exact mem_image.mpr ⟨x, mem_range.mpr hx, hshown⟩
      simpa using Nat.le_trans (card_le_card hsub) card_image_le
    · intro h j hj
      have hlt := firstPixel_lt_succ hm h j
      have hle : firstPixel modules size (j + 1) ≤ size := firstPixel_le hm hj
      exact ⟨firstPixel modules size j, by omega,
        (moduleShown_eq_iff hm hs).mpr ⟨Nat.le_refl _, hlt⟩⟩

end LabelPress.Qr
