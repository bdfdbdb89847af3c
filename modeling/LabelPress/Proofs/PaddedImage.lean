import LabelPress.Proofs.ColourText
import LabelPress.Proofs.Framing

/-!
# What padding does to an image

Padding puts a border around an image and changes nothing inside it. Every pixel of the image is
found again as far from the edge as it was, plus the width of the border, and it has the colour that
its mode gives it; every other pixel has the colour of the background. The padding can only fail if
there is a border to paint: the background may be no colour, or the border may be too wide to be
stored.

What a pixel shows is said here mode by mode and pixel by pixel, without the conversion of whole
images that the padding uses.

## Main definitions

* `Picture.Shows` — the colour of a pixel, in each of the modes
* `Picture.ConvertedTo`, `Picture.FramedBy` — an image without a border, and with one
* `Picture.Fits` — both sides of the padded image can be stored

## Main results

* `Picture.converted_toRgb`, `Picture.ConvertedTo.framed` — what conversion and frame do
* `exists_padded_error` — what does not fit is refused
* `padded_padded` — padding twice is padding once
* `padded_framed` — what padding comes to, for every width and background
-/

namespace LabelPress.Image

open LabelPress.Json

/-! ### Pixels in plain colours -/

namespace Picture

/-- The number of columns of an image. -/
def width : Picture → Nat
  | bilevel g => g.width
  | grey g => g.width
  | rgb g => g.width
  | rgba g => g.width

/-- The number of rows of an image. -/
def height : Picture → Nat
  | bilevel g => g.height
  | grey g => g.height
  | rgb g => g.height
  | rgba g => g.height

/-- A pixel of an image shows a colour. -/
inductive Shows : Picture → Nat → Nat → Rgb → Prop where
  /-- The higher of two levels is white. -/
  | white {g : Grid Bool} {x y : Nat} (h : g.cell? x y = some true) :
    Shows (.bilevel g) x y ⟨255, 255, 255⟩
  /-- The lower of two levels is black. -/
  | black {g : Grid Bool} {x y : Nat} (h : g.cell? x y = some false) :
    Shows (.bilevel g) x y ⟨0, 0, 0⟩
  /-- A shade of grey is repeated in every part. -/
  | grey {g : Grid UInt8} {x y : Nat} {v : UInt8} (h : g.cell? x y = some v) :
    Shows (.grey g) x y ⟨v, v, v⟩
  /-- A colour is shown as it is. -/
  | rgb {g : Grid Rgb} {x y : Nat} {c : Rgb} (h : g.cell? x y = some c) : Shows (.rgb g) x y c
  /-- The opacity of a colour is dropped. -/
  | rgba {g : Grid Rgba} {x y : Nat} {c : Rgb} {a : UInt8} (h : g.cell? x y = some ⟨c, a⟩) :
    Shows (.rgba g) x y c

/-- A grid is an image in plain colours: it has its size and shows the same in every place. -/
structure ConvertedTo (image : Picture) (g : Grid Rgb) : Prop where
  /-- No column is added. -/
  width : g.width = image.width
  /-- No row is added. -/
  height : g.height = image.height
  /-- Every pixel has the colour that it shows in the image. -/
  pixel : ∀ x y, x < image.width → y < image.height →
    ∃ c, image.Shows x y c ∧ g.cell? x y = some c

/-- A grid is an image in plain colours with a border of `p` pixels around it. -/
structure FramedBy (image : Picture) (p : Nat) (border : Rgb) (g : Grid Rgb) : Prop where
  /-- The border is on the left and on the right. -/
  width : g.width = image.width + 2 * p
  /-- It is above and below. -/
  height : g.height = image.height + 2 * p
  /-- Every pixel of the image is found inside, with the colour that it shows. -/
  inside : ∀ x y, x < image.width → y < image.height →
    ∃ c, image.Shows x y c ∧ g.cell? (x + p) (y + p) = some c
  /-- All others have the colour of the border. -/
  outside : ∀ x y, x < g.width → y < g.height →
    ¬ ((p ≤ x ∧ x < p + image.width) ∧ p ≤ y ∧ y < p + image.height) → g.cell? x y = some border

/-! ### Conversion -/

variable (image : Picture)

@[simp]
theorem width_toRgb : image.toRgb.width = image.width := by
  cases image <;> rfl

@[simp]
theorem height_toRgb : image.toRgb.height = image.height := by
  cases image <;> rfl

theorem shows_toRgb {x y : Nat} {c : Rgb} (h : image.toRgb.cell? x y = some c) :
    image.Shows x y c := by
  cases image with
  | bilevel g =>
    rw [toRgb, Grid.cell?_map] at h
    obtain ⟨white, hcell, rfl⟩ := Option.map_eq_some_iff.mp h
    cases white with
    | true => exact .white hcell
    | false => exact .black hcell
  | grey g =>
    rw [toRgb, Grid.cell?_map] at h
    obtain ⟨v, hcell, rfl⟩ := Option.map_eq_some_iff.mp h
    exact .grey hcell
  | rgb g => exact .rgb h
  | rgba g =>
    rw [toRgb, Grid.cell?_map] at h
    obtain ⟨⟨c, a⟩, hcell, rfl⟩ := Option.map_eq_some_iff.mp h
    exact .rgba hcell

/-- **The conversion** keeps the size and what every pixel shows. -/
theorem converted_toRgb : image.ConvertedTo image.toRgb where
  width := image.width_toRgb
  height := image.height_toRgb
  pixel x y hx hy := by
    have hcell := Grid.cell?_of_lt (g := image.toRgb) (x := x) (y := y) (by simpa) (by simpa)
    exact ⟨_, image.shows_toRgb hcell, hcell⟩

variable {image}

/-- **A frame around a converted image** keeps all of it inside. -/
theorem ConvertedTo.framed {g : Grid Rgb} (h : image.ConvertedTo g) (p : Nat) (border : Rgb) :
    image.FramedBy p border (g.frame p border) where
  width := by rw [Grid.width_frame, h.width]
  height := by rw [Grid.height_frame, h.height]
  inside x y hx hy := by
    obtain ⟨c, hshows, hcell⟩ := h.pixel x y hx hy
    refine ⟨c, hshows, ?_⟩
    rw [Grid.cell?_frame_inside (by rwa [h.width]) (by rwa [h.height]), hcell]
  outside x y hx hy hout := by
    rw [← h.width, ← h.height] at hout
    exact Grid.cell?_frame_outside hx hy hout

end Picture

/-! ### Padding -/

variable {background : Value} {c : Colour} {n p q : Int}

/-- A colour whose parts are bytes is painted as it was written. -/
theorem Colour.ofRgb_toRgb (h : c.inRange) : Colour.ofRgb c.toRgb = c := by
  have hbyte : ∀ n : Int, 0 ≤ n → n ≤ 255 → ((Colour.clampByte n).toNat : Int) = n := by
    intro n hlow hhigh
    have hlt : min n.toNat 255 < UInt8.size := Nat.lt_of_le_of_lt (Nat.min_le_right _ _) (by decide)
    rw [Colour.clampByte, UInt8.toNat_ofNat_of_lt' hlt]
    omega
  obtain ⟨hred, hgreen, hblue⟩ := h
  simp only [Colour.ofRgb, Colour.toRgb, hbyte _ hred.1 hred.2, hbyte _ hgreen.1 hgreen.2,
    hbyte _ hblue.1 hblue.2]

/-- Both sides of an image can be stored when it is padded. -/
structure Picture.Fits (image : Picture) (n : Int) : Prop where
  /-- The columns of the image and of the border are not too many. -/
  width : image.width + 2 * n ≤ maxSide
  /-- Neither are the rows. -/
  height : image.height + 2 * n ≤ maxSide

variable {image : Picture}

theorem Picture.Fits.mono (h : image.Fits n) (hp : p ≤ n) : image.Fits p := by
  obtain ⟨hwidth, hheight⟩ := h
  constructor <;> omega

theorem Picture.Fits.padded (h : image.Fits n) (hcolour : Colour.ofValue background = .ok c) :
    image.padded (.int n) background = .ok (image.toRgb.frame n.toNat c.toRgb) :=
  padded_of_colour image hcolour (.inr (by simpa using ⟨h.width, h.height⟩))

/-- **What does not fit** is refused, unless there is always room for the border. -/
theorem exists_padded_error (hcolour : Colour.ofValue background = .ok c) (h : ¬ image.Fits n)
    (hroom : sureBorder < n ∨ image.Fits sureBorder) :
    ∃ f, image.padded (.int n) background = .error f ∧ f.kind = .overflow := by
  have hsure : sureBorder < n := by
    rcases hroom with hsure | hfits
    · exact hsure
    · by_contra hle
      exact h (hfits.mono (Int.not_lt.mp hle))
  have hside : maxSide < image.width + 2 * n ∨ maxSide < image.height + 2 * n := by
    by_contra hshort
    rw [not_or, Int.not_lt, Int.not_lt] at hshort
    exact h ⟨hshort.1, hshort.2⟩
  exact padded_of_wide image hcolour hsure (by simpa using hside)

/-- A border that alone is too wide fits around no image. -/
theorem exists_padded_error_of_wide (hcolour : Colour.ofValue background = .ok c)
    (h : maxSide < 2 * n) :
    ∃ f, image.padded (.int n) background = .error f ∧ f.kind = .overflow := by
  have hsure : sureBorder < n := by
    simp only [maxSide] at h
    simp only [sureBorder]
    omega
  refine exists_padded_error hcolour (fun hfits => ?_) (.inl hsure)
  have hwidth := hfits.width
  omega

theorem exists_padded_error_iff (hfits : image.Fits n) :
    (∃ f, image.padded (.int n) background = .error f) ↔
      0 < n ∧ ∃ f, Colour.ofValue background = .error f := by
  constructor
  · rintro ⟨f, hf⟩
    have hpos : 0 < n := by
      by_contra hnonpos
      rw [padded_of_nonpos image background (by omega)] at hf
      cases hf
    cases hcolour : Colour.ofValue background with
    | error e => exact ⟨hpos, e, rfl⟩
    | ok c =>
      rw [hfits.padded hcolour] at hf
      cases hf
  · rintro ⟨hpos, f, hf⟩
    exact ⟨f, padded_of_rejected image hpos hf⟩

/-- **Padding twice** with one background is padding once with both widths, if that fits or if the
background is no colour. -/
theorem padded_padded (hp : 0 ≤ p) (hq : 0 ≤ q)
    (h : image.Fits (p + q) ∨ ∃ f, Colour.ofValue background = .error f) :
    (image.padded (.int p) background >>= fun g => (Picture.rgb g).padded (.int q) background) =
      image.padded (.int (p + q)) background := by
  cases hcolour : Colour.ofValue background with
  | ok c =>
    have hfits : image.Fits (p + q) := by
      rcases h with hfits | ⟨f, hf⟩
      · exact hfits
      · rw [hcolour] at hf
        cases hf
    have hframed : (Picture.rgb (image.toRgb.frame p.toNat c.toRgb)).Fits q := by
      obtain ⟨hwidth, hheight⟩ := hfits
      constructor
      · show ((image.toRgb.frame p.toNat c.toRgb).width : Int) + 2 * q ≤ maxSide
        rw [Grid.width_frame, Picture.width_toRgb]
        omega
      · show ((image.toRgb.frame p.toNat c.toRgb).height : Int) + 2 * q ≤ maxSide
        rw [Grid.height_frame, Picture.height_toRgb]
        omega
    have hsum : (p + q).toNat = p.toNat + q.toNat := Int.toNat_add hp hq
    rw [(hfits.mono (by omega)).padded hcolour, hfits.padded hcolour, hsum, ← Grid.frame_frame]
    exact hframed.padded hcolour
  | error f =>
    -- The first border that is not empty is refused.
    rcases Int.lt_or_eq_of_le hp with hpos | rfl
    · rw [padded_of_rejected image hpos hcolour, padded_of_rejected image (by omega) hcolour]
      rfl
    · rw [padded_of_nonpos image background (Int.le_refl 0), Int.zero_add]
      rcases Int.lt_or_eq_of_le hq with hqpos | rfl
      · rw [padded_of_rejected image hqpos hcolour]
        exact padded_of_rejected (.rgb _) hqpos hcolour
      · rw [padded_of_nonpos image background (Int.le_refl 0)]
        exact padded_of_nonpos (.rgb _) background (Int.le_refl 0)

/-- **Padding frames an image and changes nothing inside it,** for every image, every whole number
as the width and everything that may be given for the background.

* For widths of zero or less the image is converted to plain colours, and the background is not
  looked at.
* Otherwise a background that is no colour is refused for the reason that it is none.
* A background that is a colour gives a frame around the converted image, as wide as the padding
  says, if both sides of the result can be stored. It has the colour that was written if its parts
  are bytes. A border that alone is too wide to be stored is refused as too large, and so is every
  other that makes a side of the result too long; only of an image with a side next to the longest,
  which no image in plain colours has, this is not said for the narrowest borders.
* Where the result fits, it is the background alone that can be refused, and only if there is a
  border to paint.
* Padding twice with the same background is padding once with both widths. -/
theorem padded_framed (image : Picture) (background : Value) :
    (∃ g, image.ConvertedTo g ∧ ∀ n : Int, n ≤ 0 → ∀ b, image.padded (.int n) b = .ok g) ∧
    (∀ (n : Int) f, 0 < n → Colour.ofValue background = .error f →
      image.padded (.int n) background = .error f) ∧
    (∀ (n : Int) c, 0 < n → Colour.ofValue background = .ok c →
      (image.Fits n → ∃ g, image.padded (.int n) background = .ok g ∧
        image.FramedBy n.toNat c.toRgb g ∧ (c.inRange → Colour.ofRgb c.toRgb = c)) ∧
      (maxSide < 2 * n → ∃ f, image.padded (.int n) background = .error f ∧ f.kind = .overflow) ∧
      (¬ image.Fits n → sureBorder < n ∨ image.Fits sureBorder →
        ∃ f, image.padded (.int n) background = .error f ∧ f.kind = .overflow)) ∧
    (∀ n : Int, image.Fits n → ((∃ f, image.padded (.int n) background = .error f) ↔
      0 < n ∧ ∃ f, Colour.ofValue background = .error f)) ∧
    ∀ p q : Int, 0 ≤ p → 0 ≤ q →
      image.Fits (p + q) ∨ (∃ f, Colour.ofValue background = .error f) →
      (image.padded (.int p) background >>= fun g => (Picture.rgb g).padded (.int q) background) =
        image.padded (.int (p + q)) background := by
  refine ⟨⟨image.toRgb, image.converted_toRgb, fun n hn b => padded_of_nonpos image b hn⟩,
    fun n f hpos hf => padded_of_rejected image hpos hf, fun n c hpos hcolour => ?_,
    fun n hfits => exists_padded_error_iff hfits, fun p q hp hq h => padded_padded hp hq h⟩
  refine ⟨fun hfits => ?_, exists_padded_error_of_wide hcolour, exists_padded_error hcolour⟩
  exact ⟨_, hfits.padded hcolour, image.converted_toRgb.framed n.toNat c.toRgb,
    Colour.ofRgb_toRgb⟩

/-- Two pixels side by side, of which the first is transparent. -/
def twoPixels : Picture :=
  .rgba (Grid.ofFn 2 1 fun x _ => if x.val = 0 then ⟨⟨1, 2, 3⟩, 0⟩ else ⟨⟨4, 5, 6⟩, 255⟩)

/-- Two pixels without a border, with one, with two, with one that is too wide, and with one of a
colour that is none. -/
theorem padded_framed_twoPixels :
    (∃ g, twoPixels.padded (.int 0) (.string "teal") = .ok g ∧ twoPixels.ConvertedTo g) ∧
    (∃ g, twoPixels.padded (.int 1) (.string "#0a0b0c") = .ok g ∧
      twoPixels.FramedBy 1 ⟨10, 11, 12⟩ g) ∧
    (twoPixels.padded (.int 1) (.string "#0a0b0c") >>= fun g =>
      (Picture.rgb g).padded (.int 2) (.string "#0a0b0c")) =
      twoPixels.padded (.int 3) (.string "#0a0b0c") ∧
    (∃ f, twoPixels.padded (.int 1073741824) (.string "#0a0b0c") = .error f ∧
      f.kind = .overflow) ∧
    twoPixels.padded (.int 1) (.string "teal") = .error (.colourLength 4) := by
  have hcolour : Colour.ofValue (.string "#0a0b0c") = .ok ⟨10, 11, 12⟩ := by decide
  have hnone : Colour.ofValue (.string "teal") = .error (.colourLength 4) := by decide
  have hone : twoPixels.Fits 1 := ⟨by decide, by decide⟩
  have hthree : twoPixels.Fits (1 + 2) := ⟨by decide, by decide⟩
  obtain ⟨-, -, hpadded, -, htwice⟩ := padded_framed twoPixels (.string "#0a0b0c")
  obtain ⟨⟨g, hconverted, hzero⟩, hrejected, -⟩ := padded_framed twoPixels (.string "teal")
  obtain ⟨framed, hframed, hborder, -⟩ := (hpadded 1 _ (by decide) hcolour).1 hone
  exact ⟨⟨g, hzero 0 (Int.le_refl 0) _, hconverted⟩, ⟨framed, hframed, hborder⟩,
    htwice 1 2 (by decide) (by decide) (.inl hthree),
    (hpadded 1073741824 _ (by decide) hcolour).2.1 (by decide), hrejected 1 _ (by decide) hnone⟩

/-- One grey pixel. -/
def onePixel : Picture :=
  .grey (Grid.ofFn 1 1 fun _ _ => 0)

/-- A border that is too wide to be stored is refused, although there is a pixel to put it around
and its colour is one. -/
theorem padded_framed_tooWide :
    (onePixel.width = 1 ∧ onePixel.height = 1) ∧
      Colour.ofValue (.string "ffffff") = .ok ⟨255, 255, 255⟩ ∧
      Colour.inRange ⟨255, 255, 255⟩ ∧
      ¬ ∃ g, onePixel.padded (.int 1073741824) (.string "ffffff") = .ok g := by
  have hcolour : Colour.ofValue (.string "ffffff") = .ok ⟨255, 255, 255⟩ := by decide
  have hrange : Colour.inRange ⟨255, 255, 255⟩ := by unfold Colour.inRange; decide
  refine ⟨⟨rfl, rfl⟩, hcolour, hrange, ?_⟩
  rintro ⟨g, hg⟩
  have hrefused : ∃ f, onePixel.padded (.int 1073741824) (.string "ffffff") = .error f ∧
      f.kind = .overflow := exists_padded_error_of_wide hcolour (by decide)
  obtain ⟨f, hf, -⟩ := hrefused
  rw [hf] at hg
  cases hg

end LabelPress.Image
