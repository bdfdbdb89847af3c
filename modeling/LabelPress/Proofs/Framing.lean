import LabelPress.Image.Padding
import Mathlib.Tactic.Common

/-!
# Images inside borders

What the cells of a changed grid, of an enlarged one and of a framed one are, whether or not there
is a cell in the place asked for, and what padding an image comes to.

Padding of zero or less leaves an image as it is, and so does an empty frame. So one equation serves
for every padding that leaves the sides short enough.

## Main results

* `Grid.cell?_map`, `Grid.cell?_enlarge`, `Grid.cell?_frame` — the cells of derived grids
* `Grid.cell?_frame_inside`, `Grid.cell?_frame_outside` — a frame is the grid inside a border
* `Grid.frame_zero`, `Grid.frame_frame` — no border, and two of one colour
* `padded_of_nonpos`, `padded_of_rejected` — no padding, and a background that is no colour
* `padded_of_colour` — a padded image is a framed one
* `padded_of_wide` — a side that gets too long is refused
-/

namespace LabelPress.Image

open LabelPress.Json

namespace Grid

variable {α : Type} {g : Grid α} {x y k : Nat}

theorem cell?_of_lt (hx : x < g.width) (hy : y < g.height) :
    g.cell? x y = some (g.cell x y hx hy) :=
  dif_pos ⟨hx, hy⟩

theorem cell?_eq_none (h : ¬ (x < g.width ∧ y < g.height)) : g.cell? x y = none :=
  dif_neg h

theorem cell?_ofFn (w h : Nat) (f : Fin w → Fin h → α) (x y : Nat) :
    (ofFn w h f).cell? x y =
      if hxy : x < w ∧ y < h then some (f ⟨x, hxy.1⟩ ⟨y, hxy.2⟩) else none := by
  by_cases hxy : x < w ∧ y < h
  · have hx : x < (ofFn w h f).width := hxy.1
    have hy : y < (ofFn w h f).height := hxy.2
    rw [cell?_of_lt hx hy, cell_ofFn, dif_pos hxy]
  · rw [dif_neg hxy]
    exact cell?_eq_none (g := ofFn w h f) hxy

/-- Grids of the same size are equal if they agree wherever one asks for a cell. -/
theorem ext_cell? {g h : Grid α} (hw : g.width = h.width) (hh : g.height = h.height)
    (hc : ∀ x y, g.cell? x y = h.cell? x y) : g = h := by
  refine ext_cell hw hh fun x y hx hy => Option.some.inj ?_
  rw [← cell?_of_lt hx hy, ← cell?_of_lt, hc]

theorem cell?_map {β : Type} (f : α → β) (g : Grid α) (x y : Nat) :
    (g.map f).cell? x y = (g.cell? x y).map f := by
  by_cases h : x < g.width ∧ y < g.height
  · have hx : x < (g.map f).width := h.1
    have hy : y < (g.map f).height := h.2
    rw [cell?_of_lt hx hy, cell_map, cell?_of_lt h.1 h.2, Option.map_some]
  · have hmap : ¬ (x < (g.map f).width ∧ y < (g.map f).height) := h
    rw [cell?_eq_none hmap, cell?_eq_none h, Option.map_none]

/-- A cell of a framed grid is a cell of the grid, or one of the border if the grid has none
there. -/
theorem cell?_frame (p : Nat) (c : α) (g : Grid α) (x y : Nat) :
    (g.frame p c).cell? x y =
      if x < g.width + 2 * p ∧ y < g.height + 2 * p then
        if p ≤ x ∧ p ≤ y then some ((g.cell? (x - p) (y - p)).getD c) else some c
      else none := by
  rw [frame, cell?_ofFn]
  split_ifs with houter hinner hcorner hcorner
  · rw [cell?_of_lt hinner.1.2 hinner.2.2, Option.getD_some]
  · exact absurd ⟨hinner.1.1, hinner.2.1⟩ hcorner
  · rw [cell?_eq_none fun h => hinner ⟨⟨hcorner.1, h.1⟩, hcorner.2, h.2⟩, Option.getD_none]
  · rfl
  · rfl

theorem cell?_frame_inside {p : Nat} {c : α} (hx : x < g.width) (hy : y < g.height) :
    (g.frame p c).cell? (x + p) (y + p) = g.cell? x y := by
  have hframe : x + p < g.width + 2 * p ∧ y + p < g.height + 2 * p := by omega
  have hcorner : p ≤ x + p ∧ p ≤ y + p := by omega
  rw [cell?_frame, if_pos hframe, if_pos hcorner, Nat.add_sub_cancel, Nat.add_sub_cancel,
    cell?_of_lt hx hy, Option.getD_some]

theorem cell?_frame_outside {p : Nat} {c : α} (hx : x < g.width + 2 * p)
    (hy : y < g.height + 2 * p)
    (hout : ¬ ((p ≤ x ∧ x < p + g.width) ∧ p ≤ y ∧ y < p + g.height)) :
    (g.frame p c).cell? x y = some c := by
  rw [cell?_frame, if_pos ⟨hx, hy⟩]
  split_ifs with hcorner
  · rw [cell?_eq_none (by omega), Option.getD_none]
  · rfl

theorem frame_zero (c : α) (g : Grid α) : g.frame 0 c = g := by
  refine ext_cell rfl rfl fun x y hx hy => ?_
  rw [cell_frame, dif_pos ⟨⟨Nat.zero_le x, hx⟩, Nat.zero_le y, hy⟩]
  rfl

/-- **Two borders of one colour** are one border, as wide as both. -/
theorem frame_frame (p q : Nat) (c : α) (g : Grid α) :
    (g.frame p c).frame q c = g.frame (p + q) c := by
  have hwidth : g.width + 2 * p + 2 * q = g.width + 2 * (p + q) := by omega
  have hheight : g.height + 2 * p + 2 * q = g.height + 2 * (p + q) := by omega
  refine ext_cell? hwidth hheight fun x y => ?_
  by_cases hframe : x < g.width + 2 * (p + q) ∧ y < g.height + 2 * (p + q)
  · by_cases hgrid : (p + q ≤ x ∧ x < p + q + g.width) ∧ p + q ≤ y ∧ y < p + q + g.height
    · -- In the grid: both frames are taken off, one after the other or at once.
      obtain ⟨i, rfl⟩ := Nat.exists_eq_add_of_le' hgrid.1.1
      obtain ⟨j, rfl⟩ := Nat.exists_eq_add_of_le' hgrid.2.1
      have hi : i < g.width := by omega
      have hj : j < g.height := by omega
      have hi' : i + p < (g.frame p c).width := by rw [width_frame]; omega
      have hj' : j + p < (g.frame p c).height := by rw [height_frame]; omega
      rw [cell?_frame_inside hi hj, ← Nat.add_assoc, ← Nat.add_assoc,
        cell?_frame_inside hi' hj', cell?_frame_inside hi hj]
    · rw [cell?_frame_outside hframe.1 hframe.2 hgrid]
      by_cases hinner : (q ≤ x ∧ x < q + (g.width + 2 * p)) ∧ q ≤ y ∧ y < q + (g.height + 2 * p)
      · -- On the inner border: outside the grid, but within the inner frame.
        obtain ⟨i, rfl⟩ := Nat.exists_eq_add_of_le' hinner.1.1
        obtain ⟨j, rfl⟩ := Nat.exists_eq_add_of_le' hinner.2.1
        have hi : i < g.width + 2 * p := by omega
        have hj : j < g.height + 2 * p := by omega
        rw [cell?_frame_inside hi hj, cell?_frame_outside hi hj (by omega)]
      · have hx : x < (g.frame p c).width + 2 * q := by rw [width_frame]; omega
        have hy : y < (g.frame p c).height + 2 * q := by rw [height_frame]; omega
        exact cell?_frame_outside hx hy hinner
  · have hframes : ¬ (x < g.width + 2 * p + 2 * q ∧ y < g.height + 2 * p + 2 * q) := by
      rwa [hwidth, hheight]
    rw [cell?_eq_none (g := (g.frame p c).frame q c) hframes,
      cell?_eq_none (g := g.frame (p + q) c) hframe]

end Grid

/-! ### Padding -/

variable {background : Value} {c : Colour} {f : Fault} {n : Int}

/-- **Without padding** an image is converted, whatever is given for the background. -/
theorem padded_of_nonpos (image : Picture) (background : Value) (h : n ≤ 0) :
    image.padded (.int n) background = .ok image.toRgb := by
  rw [Picture.padded, Value.isAtMost_int, decide_eq_true h]

/-- **A background that is no colour** is refused as soon as there is a border to paint. -/
theorem padded_of_rejected (image : Picture) (h : 0 < n)
    (hcolour : Colour.ofValue background = .error f) :
    image.padded (.int n) background = .error f := by
  rw [Picture.padded, Value.isAtMost_int, decide_eq_false (by omega), hcolour]

/-- A border that there is always room for is painted, and so is any other if the sides of the
result are not too long. -/
theorem bordered_of_room {g : Grid Rgb}
    (h : n ≤ sureBorder ∨ g.width + 2 * n ≤ maxSide ∧ g.height + 2 * n ≤ maxSide) :
    bordered g (.int n) c = .ok (g.frame n.toNat c.toRgb) := by
  rw [bordered, Value.toCount]
  by_cases hsure : n ≤ sureBorder
  · simp only [hsure, if_true]
  · obtain ⟨hwidth, hheight⟩ := h.resolve_left hsure
    simp only [hsure, if_false, checkSide_eq_ok_iff.mpr hwidth, checkSide_eq_ok_iff.mpr hheight]

theorem exists_bordered_error {g : Grid Rgb} (hsure : sureBorder < n)
    (h : maxSide < g.width + 2 * n ∨ maxSide < g.height + 2 * n) :
    ∃ f, bordered g (.int n) c = .error f ∧ f.kind = .overflow := by
  have hborder : ¬ n ≤ sureBorder := Int.not_le.mpr hsure
  rw [bordered, Value.toCount]
  by_cases hwidth : g.width + 2 * n ≤ maxSide
  · obtain ⟨f, hf, hkind⟩ := exists_checkSide_error (h.resolve_left (Int.not_lt.mpr hwidth))
    refine ⟨f, ?_, hkind⟩
    simp only [hborder, if_false, checkSide_eq_ok_iff.mpr hwidth, hf]
  · obtain ⟨f, hf, hkind⟩ := exists_checkSide_error (Int.not_le.mp hwidth)
    refine ⟨f, ?_, hkind⟩
    simp only [hborder, if_false, hf]

/-- **A padded image is a framed one,** unless a side gets too long. Without padding the frame is
empty. -/
theorem padded_of_colour (image : Picture) (hcolour : Colour.ofValue background = .ok c)
    (h : n ≤ sureBorder ∨
      image.toRgb.width + 2 * n ≤ maxSide ∧ image.toRgb.height + 2 * n ≤ maxSide) :
    image.padded (.int n) background = .ok (image.toRgb.frame n.toNat c.toRgb) := by
  rw [Picture.padded, Value.isAtMost_int]
  by_cases hpos : n ≤ 0
  · rw [decide_eq_true hpos, Int.toNat_of_nonpos hpos, Grid.frame_zero]
  · rw [decide_eq_false hpos, hcolour]
    exact bordered_of_room h

/-- **A side that gets too long** is refused. -/
theorem padded_of_wide (image : Picture) (hcolour : Colour.ofValue background = .ok c)
    (hsure : sureBorder < n)
    (h : maxSide < image.toRgb.width + 2 * n ∨ maxSide < image.toRgb.height + 2 * n) :
    ∃ f, image.padded (.int n) background = .error f ∧ f.kind = .overflow := by
  have hpos : ¬ n ≤ 0 := by
    simp only [sureBorder] at hsure
    omega
  rw [Picture.padded, Value.isAtMost_int, decide_eq_false hpos, hcolour]
  exact exists_bordered_error hsure h

end LabelPress.Image
