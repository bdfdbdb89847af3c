import LabelPress.Proofs.Version
import LabelPress.Qr.Renderer

/-!
# Laying out and drawing QR symbols

What a renderer does whose margin and size are whole numbers. A payload is laid out in the version
that holds it. A layout is drawn unless the image that is drawn first, or the one that it is brought
to afterwards, is too large; nothing else can go wrong then.

## Main results

* `Renderer.layOut_of_version`, `Renderer.layOut_of_no_version` — what becomes of a payload
* `Renderer.draw_of_fits`, `Renderer.draw_of_large` — what becomes of a layout
-/

namespace LabelPress.Qr.Renderer

open LabelPress.Image LabelPress.Json LabelPress.Text

variable {r : Renderer} {l : Layout} {margin size : Int} {data : String}

/-- **A payload with a version** is laid out in it. -/
theorem layOut_of_version (hmargin : r.margin = .int margin) (hdata : data ≠ "") {v : Nat}
    (hversion : versionFor? r.level (utf8Bytes data) = some v) :
    r.layOut (.string data) = .ok ⟨utf8Bytes data, v, margin.toNat⟩ := by
  simp [layOut, Value.isTruthy, hdata, hmargin, Value.toInteger, hversion]

/-- **A payload without a version** is refused. -/
theorem layOut_of_no_version (hmargin : r.margin = .int margin) (hdata : data ≠ "")
    (hversion : versionFor? r.level (utf8Bytes data) = none) :
    r.layOut (.string data) = .error .versionOverflow := by
  simp [layOut, Value.isTruthy, hdata, hmargin, Value.toInteger, hversion]

theorem side_of_int (hsize : r.size = .int size) (l : Layout) :
    r.side l = (checkSide size).map fun () => size.toNat := by
  simp only [side, hsize, Value.toCount]

/-- **A layout is drawn** if neither image is too large. -/
theorem draw_of_fits (hsize : r.size = .int size) (hside : size ≤ maxSide)
    (hnative : (l.nativeSize : Int) ≤ maxSide) :
    r.draw l = .ok ⟨r.level, l.payload, l.version, size.toNat, l.margin, r.foreground.toRgb,
      r.background.toRgb⟩ := by
  rw [draw, checkSide_eq_ok_iff.mpr hnative, side_of_int hsize, checkSide_eq_ok_iff.mpr hside]
  rfl

/-- **An image that is too large** is refused. -/
theorem draw_of_large (hsize : r.size = .int size)
    (h : maxSide < size ∨ maxSide < (l.nativeSize : Int)) :
    ∃ f, r.draw l = .error f ∧ f.kind = .overflow := by
  by_cases hnative : (l.nativeSize : Int) ≤ maxSide
  · obtain ⟨f, hf, hkind⟩ := exists_checkSide_error (h.resolve_right (Int.not_lt.mpr hnative))
    refine ⟨f, ?_, hkind⟩
    rw [draw, checkSide_eq_ok_iff.mpr hnative, side_of_int hsize, hf]
    rfl
  · obtain ⟨f, hf, hkind⟩ := exists_checkSide_error (Int.not_le.mp hnative)
    exact ⟨f, by rw [draw, hf], hkind⟩

end LabelPress.Qr.Renderer
