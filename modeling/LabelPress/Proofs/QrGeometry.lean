import LabelPress.Proofs.FinderPattern
import LabelPress.Proofs.Layout
import LabelPress.Settings.Basic

/-!
# The geometry of QR images

The image of a QR symbol has the size of its renderer, whatever the version of the symbol and the
margin around it. A pixel shows a module, and the columns of pixels are shared between the columns
of modules as evenly as whole pixels can be; the rows are shared in the same way. So no module is
lost if there are at least as many pixels as modules on a side, as there are in every image made
with the standard size and margin: the largest version and the margin have fewer modules than that.

The one thing that can get in the way is an image whose side cannot be stored.

## Main definitions

* `Symbol.DrawnWith` — an image of a certain size, with a certain margin and in two colours

## Main results

* `draw_geometry` — which image a payload comes to, and how much of it each module gets
-/

namespace LabelPress.Qr

open LabelPress.Image LabelPress.Json LabelPress.Text

/-- The image of a symbol with `modules` modules on a side, among them `margin` light ones before
the first dark one: `size` pixels on a side, each in one of two colours. -/
structure Symbol.DrawnWith (modules size margin : Nat) (dark light : Rgb) (s : Symbol) : Prop where
  /-- The image is as wide as it should be. -/
  width : s.image.width = size
  /-- The image is as high as it is wide. -/
  height : s.image.height = size
  /-- A pixel has the colour of the module that its column and its row show. -/
  pixels : ∀ x y, x < size → y < size → s.image.cell? x y =
    some (if s.isDark (moduleShown modules size x) (moduleShown modules size y) then dark
      else light)
  /-- The rows are the rows of the image. -/
  rows : ∀ x y, x < size → y < size → (s.row y)[x]? = s.image.cell? x y
  /-- With enough pixels and two different colours there is a row through the middle of the finder
  pattern, and each begins with the margin, one dark, one light, three dark, one light and one dark
  module. -/
  finder : modules ≤ size → dark ≠ light →
    (∃ y, y < size ∧ moduleShown modules size y = margin + 3) ∧
    ∀ y, moduleShown modules size y = margin + 3 → BeginsWith (s.row y)
      ((if margin = 0 then [] else [(light, pixelsShowing modules size 0 margin)]) ++
        [(dark, pixelsShowing modules size margin (margin + 1)),
         (light, pixelsShowing modules size (margin + 1) (margin + 2)),
         (dark, pixelsShowing modules size (margin + 2) (margin + 5)),
         (light, pixelsShowing modules size (margin + 5) (margin + 6)),
         (dark, pixelsShowing modules size (margin + 6) (margin + 7))])

/-- Every symbol with pixels is drawn with its own numbers and colours. -/
theorem Symbol.drawnWith (s : Symbol) (hs : 0 < s.size) :
    s.DrawnWith s.modulesAcross s.size s.margin s.dark s.light where
  width := rfl
  height := rfl
  pixels x y hx hy := s.cell?_image hx hy
  rows x y hx hy := by
    rw [s.cell?_image hx hy, Symbol.row, List.getElem?_map, List.getElem?_range hx]
    rfl
  finder hfits hne := by
    have hinside : s.margin + 3 < s.modulesAcross := by
      rw [Symbol.modulesAcross, symbolSide]
      omega
    refine ⟨(shared s.modulesAcross_pos hs).complete.mpr hfits _ hinside, fun y hy => ?_⟩
    have hruns := s.beginsWith_finderBands hs hfits hne hy
    rw [Symbol.finderBands, List.map_append] at hruns
    split_ifs at hruns ⊢
    · exact hruns
    · exact hruns

variable {r : Renderer} {size margin v : Nat} {data : String}

theorem modulesAcross_le_standard (hv : v ≤ maxVersion)
    (hsize : (size : Int) = Settings.standard.qrSize)
    (hmargin : (margin : Int) = Settings.standard.qrMargin) :
    symbolSide v + 2 * margin ≤ size := by
  simp only [Settings.standard, maxVersion, symbolSide] at *
  omega

/-- **The geometry of QR images.** Let a renderer have a positive size and a margin, and let a
payload that is not empty fit in a version. The payload is laid out in this version.

* The layout is drawn as an image of the size of the renderer, as long as this size, and the one
  with ten pixels for each module, fit into half a machine word. It is refused as too large
  otherwise.
* The pixels on a side are shared between the modules on a side: none shows a module before one
  that an earlier pixel shows, every module gets its width in pixels rounded down or up, these
  shares make up the side, and no module is left out iff there are as many pixels as modules.
* Then the finder pattern is seen in full.
* With the standard size and margin no module is left out, whatever the version. -/
theorem draw_geometry (hsize : r.size = .int size) (hpos : 0 < size)
    (hmargin : r.margin = .int margin) (hdata : data ≠ "")
    (hversion : versionFor? r.level (utf8Bytes data) = some v) :
    ∃ l, r.layOut (.string data) = .ok l ∧ l.version = v ∧
      l.modulesAcross = 17 + 4 * v + 2 * margin ∧
      (size ≤ maxSide → l.nativeSize ≤ maxSide → ∃ symbol, r.draw l = .ok symbol ∧
        symbol.DrawnWith l.modulesAcross size margin r.foreground.toRgb r.background.toRgb) ∧
      (maxSide < size ∨ maxSide < l.nativeSize → ∃ f, r.draw l = .error f ∧ f.kind = .overflow) ∧
      Shared l.modulesAcross size ∧
      ((size : Int) = Settings.standard.qrSize → (margin : Int) = Settings.standard.qrMargin →
        ∀ j, j < l.modulesAcross → ∃ x, x < size ∧ moduleShown l.modulesAcross size x = j) := by
  have hshared : Shared (symbolSide v + 2 * margin) size :=
    shared (by rw [symbolSide]; omega) hpos
  refine ⟨_, Renderer.layOut_of_version hmargin hdata hversion, rfl, rfl, fun hside hnative => ?_,
    fun hlarge => Renderer.draw_of_large hsize hlarge, hshared, fun hstandard hquiet => ?_⟩
  · refine ⟨_, Renderer.draw_of_fits hsize hside hnative, ?_⟩
    exact Symbol.drawnWith ⟨r.level, utf8Bytes data, v, size, margin, _, _⟩ hpos
  · have hfits := modulesAcross_le_standard (version_bounds hversion).2 hstandard hquiet
    exact hshared.complete.mpr hfits

/-- A renderer of black symbols on white with the least correction. -/
def blackOnWhite (size margin : Nat) : Renderer :=
  ⟨.int size, .int margin, .low, ⟨0, 0, 0⟩, ⟨255, 255, 255⟩⟩

/-- With the standard size and margin, a payload of one letter: there are 25 modules on a side, and
none of them is left out. -/
theorem draw_geometry_letter :
    versionFor? (blackOnWhite 200 2).level (utf8Bytes "x") = some 1 ∧
      ∀ j, j < 25 → ∃ x, x < 200 ∧ moduleShown 25 200 x = j := by
  have hversion : versionFor? (blackOnWhite 200 2).level (utf8Bytes "x") = some 1 := by decide
  obtain ⟨l, -, -, hacross, -, -, -, hstandard⟩ :=
    draw_geometry (r := blackOnWhite 200 2) rfl (by decide) rfl (by decide) hversion
  refine ⟨hversion, ?_⟩
  rw [hacross] at hstandard
  exact hstandard rfl rfl

/-- A payload may have a version and still not be drawn: if the size of the renderer cannot be
stored, and if it is the empty payload. -/
theorem draw_geometry_refused :
    (versionFor? (blackOnWhite 2147483648 2).level (utf8Bytes "x") = some 1 ∧
      ∃ l, (blackOnWhite 2147483648 2).layOut (.string "x") = .ok l ∧
        (blackOnWhite 2147483648 2).draw l = .error .sideOverflow) ∧
    versionFor? (blackOnWhite 200 2).level (utf8Bytes "") = some 1 ∧
      (blackOnWhite 200 2).layOut (.string "") = .error (.emptyPayload "QR") := by
  have hversion : versionFor? (blackOnWhite 2147483648 2).level (utf8Bytes "x") = some 1 := by
    decide
  have hlayOut :=
    Renderer.layOut_of_version (r := blackOnWhite 2147483648 2) rfl (by decide) hversion
  exact ⟨⟨hversion, _, hlayOut, rfl⟩, by decide, rfl⟩

end LabelPress.Qr
