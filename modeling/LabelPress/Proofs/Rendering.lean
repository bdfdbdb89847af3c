import LabelPress.Barcode.Generate
import LabelPress.Proofs.Framing
import Mathlib.Tactic.Common

/-!
# Options that cannot fail

The renderers take options of any kind and refuse what they cannot use. The options of a request are
not of any kind: its presets and the bounds on its height leave nothing that a renderer could
refuse, except an empty text. So a renderer can only fail over the payload or because its engine
does.

## Main results

* `Binary64.exists_ofInt?` — integers that are not too long have a floating point number
* `rasterQuery_of_isTruthy`, `rasterQuery_empty` — the query for a request, and when there is none
* `drawRaster_of_query` — what drawing a text comes to, given the answer of the engine
* `matrixImage_dataMatrixOptions` — what an encoded matrix becomes
-/

namespace LabelPress

open LabelPress.Json LabelPress.Image LabelPress.Number LabelPress.Render LabelPress.Barcode

/-! ### Heights as floating point numbers -/

namespace Number.Binary64

theorem exponentFor_le (num den : Nat) :
    exponentFor num den ≤
      max minExponent ((Nat.log2 num : Int) - Nat.log2 den - precision + 1) := by
  unfold exponentFor
  dsimp only
  split_ifs <;> omega

theorem exists_pack {negative : Bool} {m : Nat} {e : Int} (h : e < maxExponent) :
    ∃ m' e', pack negative m e = .finite negative m' e' := by
  unfold pack
  split_ifs with hfull
  · exact ⟨_, _, if_neg (by omega)⟩
  · exact ⟨_, _, if_neg (by omega)⟩

/-- **An integer that is not too long** has a nearest floating point number. -/
theorem exists_ofInt? {n : Int} (h : n.natAbs.log2 ≤ 1000) : ∃ x, ofInt? n = some x := by
  have hfinite : ∃ m e, ofQuotient (n < 0) n.natAbs 1 = .finite (n < 0) m e := by
    rw [ofQuotient]
    split_ifs
    · exact ⟨_, _, rfl⟩
    · refine exists_pack ?_
      have hle := exponentFor_le n.natAbs 1
      have hone : Nat.log2 1 = 0 := by decide
      rw [hone] at hle
      simp only [minExponent, maxExponent, precision] at *
      omega
  obtain ⟨m, e, hfinite⟩ := hfinite
  rw [ofInt?, hfinite]
  exact ⟨_, rfl⟩

end Number.Binary64

theorem Render.exists_inches_iff {height : Int} :
    (∃ t, inches (.int height) = .ok t) ↔ ∃ x, Binary64.ofInt? height = some x := by
  simp only [inches, heightNumber, Value.toCount]
  cases Binary64.ofInt? height <;> simp [Except.map]

/-! ### Borders -/

/-- The colour that is painted for the background. -/
def white : Rgb := ⟨255, 255, 255⟩

/-- An image is framed by a border that there is always room for. -/
theorem padded_background (image : Picture) {n : Int} (hsure : n ≤ sureBorder) :
    image.padded (.int n) (.string backgroundColour) = .ok (image.toRgb.frame n.toNat white) :=
  padded_of_colour (c := ⟨255, 255, 255⟩) image (by decide) (.inl hsure)

/-! ### Options of requests -/

namespace Barcode.Request

/-- Of the type of a request only the symbology decides what is set, and under which identifier the
request is drawn. -/
theorem preset_eq (r : Request) :
    r.preset = (r.symbology?.map Preset.ofSymbology).getD Preset.free :=
  rfl

theorem rendererId_eq (r : Request) :
    r.designator.rendererId =
      (r.symbology?.bind Symbology.rendererId?).getD Designator.defaultRendererId :=
  rfl

/-- A preset is one of four, of which only three set anything. -/
theorem preset_cases (r : Request) :
    r.preset = Preset.free ∨ r.preset = Preset.ofSymbology .dataMatrix ∨
      r.preset = Preset.ofSymbology .pdf417 ∨ r.preset = Preset.ofSymbology .code128 := by
  rw [preset_eq]
  cases r.symbology? with
  | none => exact Or.inl rfl
  | some s => cases s <;> simp [Preset.ofSymbology, Symbology.isLinear]

theorem effectiveHeight_bounds (r : Request) :
    0 < r.effectiveHeight ∧ r.effectiveHeight ≤ 1000 := by
  have hrequest : ∀ h : Int, h = (r.height.map (·.val)).getD defaultHeight → 0 < h ∧ h ≤ 1000 := by
    rintro h rfl
    cases r.height with
    | none => decide
    | some b => exact b.property
  rw [effectiveHeight]
  rcases r.preset_cases with h | h | h | h <;> rw [h]
  · exact hrequest _ rfl
  · exact (by decide : (0 : Int) < 80 ∧ (80 : Int) ≤ 1000)
  · exact hrequest _ rfl
  · exact (by decide : (0 : Int) < 10 ∧ (10 : Int) ≤ 1000)

variable (r : Request) {text : String}

theorem scale_rasterOptions (text : String) : (r.rasterOptions text).scale = .int 2 := by
  rw [rasterOptions]
  rcases r.preset_cases with h | h | h | h <;> rw [h] <;> rfl

/-- Whether the preset says so or not, the engine is given the same scale factor. -/
theorem engineScale_rasterOptions (text : String) :
    (r.rasterOptions text).engineScale = .ok 2 := by
  rw [Options.engineScale, Options.rasterScale, scale_rasterOptions, rasterOptions]
  rcases r.preset_cases with h | h | h | h <;> rw [h] <;> rfl

theorem exists_inches_effectiveHeight : ∃ t, inches (.int r.effectiveHeight) = .ok t := by
  obtain ⟨hpos, hmost⟩ := r.effectiveHeight_bounds
  have hlog : r.effectiveHeight.natAbs.log2 ≤ 1000 :=
    Nat.le_trans (Nat.log2_le_self _) (by omega)
  exact exists_inches_iff.mpr (Binary64.exists_ofInt? hlog)

/-- The engine is told the height of linear symbologies, and of no others. -/
theorem engineHeight_rasterOptions (text : String) :
    (r.rasterOptions text).engineHeight =
      if linearIds.contains r.designator.rendererId then
        (inches (.int r.effectiveHeight)).map some
      else .ok none := by
  have habove : (Value.int r.effectiveHeight).isAbove 0 = .ok true := by
    rw [Value.isAbove_int, decide_eq_true r.effectiveHeight_bounds.1]
  rw [Options.engineHeight, rasterOptions]
  cases hlinear : linearIds.contains r.designator.rendererId with
  | false =>
    simp only [isLinearId, hlinear]
    rfl
  | true =>
    simp only [isLinearId, hlinear, habove]
    rfl

theorem exists_engineHeight (text : String) :
    ∃ height, (r.rasterOptions text).engineHeight = .ok height := by
  obtain ⟨t, ht⟩ := r.exists_inches_effectiveHeight
  rw [engineHeight_rasterOptions, ht]
  split_ifs
  · exact ⟨_, rfl⟩
  · exact ⟨_, rfl⟩

/-- The extra settings of a preset are small numbers. -/
theorem isWritable_of_mem_extras {m : String × Value} (h : m ∈ r.preset.extras) :
    ∃ n : Int, m.2 = .int n ∧ m.2.isWritable = true := by
  rcases r.preset_cases with hpreset | hpreset | hpreset | hpreset <;> rw [hpreset] at h
  · cases h
  · obtain rfl := List.mem_singleton.mp h
    exact ⟨1, rfl, by decide⟩
  · rcases List.mem_cons.mp h with rfl | h
    · exact ⟨2, rfl, by decide⟩
    · obtain rfl := List.mem_singleton.mp h
      exact ⟨10, rfl, by decide⟩
  · obtain rfl := List.mem_singleton.mp h
    exact ⟨2, rfl, by decide⟩

theorem exists_extraText (text name : String) :
    ∃ t, extraText? (r.rasterOptions text).extras name = .ok t := by
  simp only [rasterOptions, extraText?]
  cases hget : Members.get? r.preset.extras name with
  | none => exact ⟨_, rfl⟩
  | some v =>
    obtain ⟨before, after, hextras, -⟩ := List.lookup_eq_some_iff.mp hget
    have hmem : (name, v) ∈ r.preset.extras := by
      rw [hextras]
      exact List.mem_append_cons_self
    obtain ⟨n, rfl, hwritable⟩ := r.isWritable_of_mem_extras hmem
    simp only [Value.written, hwritable]
    exact ⟨_, rfl⟩

theorem checkRaster_of_isTruthy (text : String) {payload : Value} (h : payload.isTruthy = true) :
    Options.checkRaster { r.rasterOptions text with text := payload } = .ok () := by
  rw [Options.checkRaster]
  simp only [h, scale_rasterOptions]
  rfl

theorem checkRaster_rasterOptions (h : text ≠ "") :
    (r.rasterOptions text).checkRaster = .ok () :=
  r.checkRaster_of_isTruthy text (by simpa [Value.isTruthy] using h)

theorem exists_engineSettings (text : String) :
    ∃ settings, (r.rasterOptions text).engineSettings = .ok settings := by
  obtain ⟨height, hheight⟩ := r.exists_engineHeight text
  obtain ⟨columns, hcolumns⟩ := r.exists_extraText text "columns"
  obtain ⟨rows, hrows⟩ := r.exists_extraText text "rows"
  simp only [Options.engineSettings, hheight, hcolumns, hrows]
  exact ⟨_, rfl⟩

/-- **There is a query for every payload that is not empty,** be it a text or not. -/
theorem rasterQuery_of_isTruthy (text : String) {payload : Value}
    (h : payload.isTruthy = true) :
    ∃ settings, Options.rasterQuery { r.rasterOptions text with text := payload } =
      .ok ⟨.string r.designator.rendererId, payload, settings, 2⟩ := by
  obtain ⟨settings, hsettings⟩ := r.exists_engineSettings text
  -- The other parts of the query do not depend on the payload.
  have hscale : Options.engineScale { r.rasterOptions text with text := payload } = .ok 2 :=
    r.engineScale_rasterOptions text
  have hsettings' : Options.engineSettings { r.rasterOptions text with text := payload } =
    .ok settings := hsettings
  refine ⟨settings, ?_⟩
  rw [Options.rasterQuery, r.checkRaster_of_isTruthy text h, hscale, hsettings']
  rfl

theorem rasterQuery_of_ne_empty (h : text ≠ "") :
    ∃ settings, (r.rasterOptions text).rasterQuery =
      .ok ⟨.string r.designator.rendererId, .string text, settings, 2⟩ :=
  r.rasterQuery_of_isTruthy text (by simpa [Value.isTruthy] using h)

/-- **Without a text there is none.** -/
theorem rasterQuery_empty :
    (r.rasterOptions "").rasterQuery = .error (.emptyPayload r.designator.rendererId) := by
  have hid : (r.rasterOptions "").rendererId.written = .ok (.ofText r.designator.rendererId) := rfl
  have hempty : (r.rasterOptions "").text.isTruthy = false := rfl
  rw [Options.rasterQuery, Options.checkRaster, hempty, hid]
  simp

end Barcode.Request

/-! ### Drawing with the raster engine -/

namespace Barcode

variable (engines : Engines) (r : Request) {text : String}

/-- The picture of an engine as it is shown. -/
def framed (image : Picture) : Grid Rgb := image.toRgb.frame 8 white

theorem drawRaster_empty :
    (drawRaster r "").result engines = .failure (.emptyPayload r.designator.rendererId) ∧
      (drawRaster r "").queries engines = [] := by
  simp [drawRaster, drawOptions, renderRaster, r.rasterQuery_empty, outcomeOf]

/-- A job asks the raster engine once and shows what it answers. -/
structure ShowsAnswer (engines : Engines) (j : Job Outcome) (q : RasterQuery) : Prop where
  /-- The outcome is the picture that is answered, framed, or the failure of the engine. -/
  result : j.result engines = outcomeOf (Except.map framed (engines (.raster q)))
  /-- Nothing else is asked. -/
  queries : j.queries engines = [.raster q]

/-- **Options with a query** ask it and show what is answered. -/
theorem drawOptions_of_query (d : Designator) {o : Options} {q : RasterQuery}
    (hpadding : o.padding = .int defaultPadding)
    (hbackground : o.background = .string backgroundColour) (h : o.rasterQuery = .ok q) :
    ShowsAnswer engines (drawOptions d o) q := by
  have hpadded : ∀ image : Picture, image.padded o.padding o.background = .ok (framed image) := by
    intro image
    rw [hpadding, hbackground]
    exact padded_background image (by decide)
  rw [drawOptions, renderRaster, h]
  cases hanswer : engines (.raster q) with
  | error e => constructor <;> simp [hanswer, Except.map]
  | ok image => constructor <;> simp [hanswer, Except.map, hpadded, stopOnFault]

/-- **Drawing any other text** asks the raster engine once and shows what it answers. -/
theorem drawRaster_of_query {q : RasterQuery} (h : (r.rasterOptions text).rasterQuery = .ok q) :
    ShowsAnswer engines (drawRaster r text) q :=
  drawOptions_of_query engines r.designator rfl rfl h

/-! ### Drawing a Data Matrix -/

/-- What an encoded matrix becomes: its modules one pixel wide, framed. -/
def matrixFramed (e : Encoded) : Grid Rgb :=
  (Grid.ofFn e.width e.height fun x y => e.module x y).frame 3 white

/-- **An encoded matrix is shown as it is,** unless bytes are missing from it. -/
theorem matrixImage_dataMatrixOptions (e : Encoded) :
    r.dataMatrixOptions.matrixImage e =
      if e.bytes.size < 3 * e.width * e.height then .error .incompleteImage
      else .ok (matrixFramed e) := by
  rw [Options.matrixImage, Options.enlargedMatrix, Encoded.image]
  split_ifs
  · rfl
  · have hscale : r.dataMatrixOptions.scale.toInteger = .ok 1 := rfl
    rw [hscale]
    simp only [enlarged, Int.le_refl, decide_true, Bool.true_or, if_true]
    exact padded_background _ (by decide)

theorem matrixPayload_dataMatrixOptions :
    r.dataMatrixOptions.matrixPayload = (checkDataMatrix r.data).map fun () => r.data :=
  rfl

end Barcode

end LabelPress
