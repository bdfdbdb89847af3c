import LabelPress.Proofs.Fallback
import LabelPress.Proofs.Silence

/-!
# Where the height of a request goes

A request may set the height of the bars. For a symbology that is recognised this has no effect: the
preset of a linear symbology sets its own height, and the height of any other symbology is dropped
before the engine is asked, or never looked at. Only for a type that is not recognised, which is
drawn as a Code 128 without the preset of that symbology, does the engine hear of the height.

The statements compare two requests. What makes them short is that the symbology of a request
decides everything that its type does decide, so requests for the same symbology and the same
payload have the same options up to the height.

## Main definitions

* `SameSymbol` — requests for the same symbology and the same payload
* `Request.requestedHeight` — the height of a request, or the general one
* `plainQuery` — the query for a type that is not recognised

## Main results

* `silent_generate_congr` — generations are the same up to reports if their options are
* `silent_generate_of_recognised` — the height does not matter for a symbology
* `generate_height` — where the height of a request matters, and how
-/

namespace LabelPress.Barcode

open LabelPress.Json LabelPress.Render LabelPress.CheckDigit

/-- Two requests for the same symbology, if any, and the same payload. -/
structure SameSymbol (r r' : Request) : Prop where
  /-- The types name the same symbology, or neither names one. -/
  symbology : r.symbology? = r'.symbology?
  /-- The payloads are the same. -/
  data : r.data = r'.data

theorem SameSymbol.withSymbology {r r' : Request} (h : SameSymbol r r') (s : Symbology) :
    SameSymbol (r.withSymbology s) (r'.withSymbology s) where
  symbology := rfl
  data := h.data

variable {r r' : Request}

/-! ### What the symbology decides -/

theorem preset_congr (h : SameSymbol r r') : r.preset = r'.preset := by
  rw [r.preset_eq, r'.preset_eq, h.symbology]

theorem rendererId_congr (h : SameSymbol r r') :
    r.designator.rendererId = r'.designator.rendererId := by
  rw [r.rendererId_eq, r'.rendererId_eq, h.symbology]

theorem normalise_congr (h : SameSymbol r r') : normalise r = normalise r' := by
  rw [normalise, normalise, h.symbology, h.data]

theorem dataMatrixOptions_congr (h : SameSymbol r r') :
    r.dataMatrixOptions = r'.dataMatrixOptions := by
  rw [Request.dataMatrixOptions, Request.dataMatrixOptions, h.data]

/-- The options of two requests for the same symbology differ in the height at most. -/
theorem rasterOptions_congr (h : SameSymbol r r') (text : String) :
    r'.rasterOptions text = { r.rasterOptions text with height := .int r'.effectiveHeight } := by
  rw [Request.rasterOptions, Request.rasterOptions, preset_congr h, rendererId_congr h]

/-- A query depends on the height only through the height that the engine is told. -/
theorem rasterQuery_withHeight {o : Options} {height : Value}
    (h : ({ o with height := height } : Options).engineHeight = o.engineHeight) :
    ({ o with height := height } : Options).rasterQuery = o.rasterQuery := by
  have hsettings : ({ o with height := height } : Options).engineSettings = o.engineSettings := by
    rw [Options.engineSettings, Options.engineSettings, h]
  rw [Options.rasterQuery, Options.rasterQuery, hsettings]
  rfl

/-- Requests for the same symbology that tell the engine the same height ask the same query. -/
theorem rasterQuery_congr (h : SameSymbol r r') {text : String}
    (hheight : (r'.rasterOptions text).engineHeight = (r.rasterOptions text).engineHeight) :
    (r.rasterOptions text).rasterQuery = (r'.rasterOptions text).rasterQuery := by
  rw [rasterOptions_congr h] at hheight ⊢
  exact (rasterQuery_withHeight hheight).symm

/-! ### The height of a symbology -/

theorem effectiveHeight_of_isLinear {s : Symbology} (hs : r.symbology? = some s)
    (hlinear : s.isLinear = true) : r.effectiveHeight = 10 := by
  have hheight : (Preset.ofSymbology s).height = some 10 := by
    cases s <;> first | rfl | cases hlinear
  rw [Request.effectiveHeight, r.preset_eq, hs, Option.map_some, Option.getD_some, hheight]
  rfl

/-- No other symbology that the raster engine draws is one whose height it is told. -/
theorem linearIds_of_not_isLinear {s : Symbology} (hs : r.symbology? = some s) (hqr : s ≠ .qr)
    (hlinear : s.isLinear = false) : linearIds.contains r.designator.rendererId = false := by
  rw [r.rendererId_eq, hs]
  cases s with
  | dataMatrix => decide
  | pdf417 => decide
  | qr => exact absurd rfl hqr
  | code128 | code39 | ean13 | upcA | ean8 | code93 | itf14 => cases hlinear

/-- **For a symbology that the raster engine draws,** the query does not depend on the height of the
request. -/
theorem rasterQuery_of_recognised (h : SameSymbol r r') {s : Symbology}
    (hs : r.symbology? = some s) (hqr : s ≠ .qr) (text : String) :
    (r.rasterOptions text).rasterQuery = (r'.rasterOptions text).rasterQuery := by
  refine rasterQuery_congr h ?_
  have hs' : r'.symbology? = some s := h.symbology ▸ hs
  rw [Request.engineHeight_rasterOptions, Request.engineHeight_rasterOptions]
  cases hlinear : s.isLinear with
  | true =>
    rw [rendererId_congr h, effectiveHeight_of_isLinear hs hlinear,
      effectiveHeight_of_isLinear hs' hlinear]
  | false =>
    rw [linearIds_of_not_isLinear hs hqr hlinear, linearIds_of_not_isLinear hs' hqr hlinear,
      if_neg Bool.false_ne_true, if_neg Bool.false_ne_true]

/-! ### Two generations -/

theorem silent_generateRaster_congr (h : SameSymbol r r')
    (hquery : ∀ text, (r.rasterOptions text).rasterQuery = (r'.rasterOptions text).rasterQuery) :
    (generateRaster r).silent = (generateRaster r').silent := by
  rw [generateRaster, generateRaster, normalise_congr h]
  cases normalise r' with
  | error f => rfl
  | ok n =>
    simp only [Job.silent_logAll]
    cases n.payload with
    | error w => rfl
    | ok text => exact silent_drawRaster_congr (hquery text)

/-- What follows a failed attempt at a Data Matrix is a request for Code 128, whose height is its
own. -/
theorem silent_fallback (h : SameSymbol r r') :
    (generateRaster (r.withSymbology .code128)).silent =
      (generateRaster (r'.withSymbology .code128)).silent := by
  have hcode := h.withSymbology .code128
  exact silent_generateRaster_congr hcode fun text =>
    rasterQuery_of_recognised hcode (r.symbology?_withSymbology _) (by decide) text

theorem silent_generateDataMatrix_congr (c : Context) (h : SameSymbol r r') :
    (generateDataMatrix c r).silent = (generateDataMatrix c r').silent := by
  rw [generateDataMatrix, generateDataMatrix, drawMatrixOr, drawMatrixOr, Job.silent_bind,
    Job.silent_bind, dataMatrixOptions_congr h]
  refine congrArg _ (funext fun drawn => ?_)
  rcases drawn with (f | m) | image
  · simp only [Job.silent_log]
    exact silent_fallback h
  · rfl
  · rfl

/-- **Generations with the same options** are the same up to reports. The options matter only where
the raster engine is asked at once: a QR symbol has none, and what a Data Matrix falls back to has
a height of its own. -/
theorem silent_generate_congr (c : Context) (h : SameSymbol r r')
    (hquery : r.symbology? ≠ some .qr → ∀ text,
      (r.rasterOptions text).rasterQuery = (r'.rasterOptions text).rasterQuery) :
    (generate c r).silent = (generate c r').silent := by
  rw [silent_generate, silent_generate, dispatch, dispatch, ← h.symbology, ← h.data]
  split
  next => rfl
  next => exact silent_generateDataMatrix_congr c h
  next hqr _ => exact silent_generateRaster_congr h (hquery hqr)

/-- **The height does not matter for a symbology.** -/
theorem silent_generate_of_recognised (c : Context) (h : SameSymbol r r') {s : Symbology}
    (hs : r.symbology? = some s) : (generate c r).silent = (generate c r').silent := by
  refine silent_generate_congr c h fun hqr => ?_
  exact rasterQuery_of_recognised h hs fun heq => hqr (heq ▸ hs)

/-! ### Types that are not recognised -/

/-- The height that a request asks for, or the general one. -/
def Request.requestedHeight (r : Request) : Int :=
  (r.height.map (·.val)).getD defaultHeight

/-- The query for a type that is not recognised, given the height in inches. -/
def plainQuery (data height : String) : RasterQuery where
  rendererId := .string "code128"
  data := .string data
  settings :=
    { background := .string backgroundColour, textAlign := some (.string "center")
      height := some height, columns := none, rows := none }
  scale := 2

theorem rendererId_of_unrecognised (hs : r.symbology? = none) :
    r.designator.rendererId = "code128" := by
  rw [r.rendererId_eq, hs]
  rfl

/-- A type that is not recognised goes to the raster engine with its payload as it is. -/
theorem dispatch_of_unrecognised (c : Context) (hs : r.symbology? = none) :
    dispatch c r = drawRaster r r.data := by
  have hnone : r.symbology?.bind Scheme.ofSymbology? = none := by
    rw [hs]
    rfl
  rw [dispatch, hs, generateRaster_eq_drawRaster hnone]

theorem rasterQuery_of_unrecognised (hs : r.symbology? = none) {text : String} (htext : text ≠ "") :
    ∃ t, inches (.int r.requestedHeight) = .ok t ∧
      (r.rasterOptions text).rasterQuery = .ok (plainQuery text t) := by
  have hpreset : r.preset = Preset.free := by
    rw [r.preset_eq, hs]
    rfl
  have hrenderer := rendererId_of_unrecognised hs
  have hrequested : r.effectiveHeight = r.requestedHeight := by
    rw [Request.effectiveHeight, hpreset]
    rfl
  obtain ⟨t, ht⟩ := r.exists_inches_effectiveHeight
  have hheight : (r.rasterOptions text).engineHeight = .ok (some t) := by
    rw [Request.engineHeight_rasterOptions, ht, hrenderer]
    rfl
  refine ⟨t, hrequested ▸ ht, ?_⟩
  rw [Options.rasterQuery, r.checkRaster_rasterOptions htext, r.engineScale_rasterOptions,
    Options.engineSettings, hheight, Request.rasterOptions, hpreset, hrenderer]
  rfl

/-- **A type that is not recognised** is one query in which the requested height is found, unless
there is nothing to draw. -/
theorem generate_of_unrecognised (c : Context) (engines : Engines) (hs : r.symbology? = none)
    (hdata : r.data ≠ "") :
    ∃ t, inches (.int r.requestedHeight) = .ok t ∧
      (generate c r).queries engines = [.raster (plainQuery r.data t)] ∧
      (generate c r).result engines =
        outcomeOf (Except.map framed (engines (.raster (plainQuery r.data t)))) := by
  obtain ⟨t, ht, hquery⟩ := rasterQuery_of_unrecognised hs hdata
  obtain ⟨hresult, hqueries⟩ := drawRaster_of_query engines r hquery
  refine ⟨t, ht, ?_, ?_⟩
  · rw [queries_generate, dispatch_of_unrecognised c hs, hqueries]
  · rw [result_generate, dispatch_of_unrecognised c hs, hresult]

theorem generate_of_unrecognised_empty (c : Context) (engines : Engines) (hs : r.symbology? = none)
    (hdata : r.data = "") :
    (generate c r).queries engines = [] ∧
      (generate c r).result engines = .failure (.emptyPayload "code128") := by
  obtain ⟨hresult, hqueries⟩ := drawRaster_empty engines r
  rw [queries_generate, result_generate, dispatch_of_unrecognised c hs, hdata, hresult, hqueries,
    rendererId_of_unrecognised hs]
  exact ⟨rfl, rfl⟩

/-- **Where the height of a request matters.** Of two requests for the same symbology and the same
payload, with any heights or none:

* If the symbology is recognised, the generations have the same outcome and ask the same queries,
  one after the other; they are the same but for their reports.
* If the type is not recognised, they ask nothing and fail for the same reason, when there is no
  payload; or each of them asks one query, and the two are the same but for the height, which is
  that of the request, or the general one, in inches. -/
theorem generate_height (c : Context) (engines : Engines) (h : SameSymbol r r') :
    (∀ s, r.symbology? = some s →
      (generate c r).silent = (generate c r').silent ∧
        (generate c r).result engines = (generate c r').result engines ∧
        (generate c r).queries engines = (generate c r').queries engines) ∧
    (r.symbology? = none →
      ((generate c r).queries engines = [] ∧ (generate c r').queries engines = [] ∧
          (generate c r).result engines = (generate c r').result engines) ∨
        ∃ t t', inches (.int r.requestedHeight) = .ok t ∧
          inches (.int r'.requestedHeight) = .ok t' ∧
          (generate c r).queries engines = [.raster (plainQuery r.data t)] ∧
          (generate c r').queries engines = [.raster (plainQuery r.data t')]) := by
  constructor
  · intro s hs
    have hsilent := silent_generate_of_recognised c h hs
    obtain ⟨hresult, hqueries⟩ := Job.same_of_silent hsilent engines
    exact ⟨hsilent, hresult, hqueries⟩
  · intro hs
    have hs' : r'.symbology? = none := h.symbology ▸ hs
    by_cases hdata : r.data = ""
    · obtain ⟨hqueries, hresult⟩ := generate_of_unrecognised_empty c engines hs hdata
      obtain ⟨hqueries', hresult'⟩ :=
        generate_of_unrecognised_empty c engines hs' (h.data ▸ hdata)
      exact Or.inl ⟨hqueries, hqueries', hresult.trans hresult'.symm⟩
    · obtain ⟨t, ht, hqueries, -⟩ := generate_of_unrecognised c engines hs hdata
      obtain ⟨t', ht', hqueries', -⟩ :=
        generate_of_unrecognised c engines hs' (h.data ▸ hdata)
      rw [← h.data] at hqueries'
      exact Or.inr ⟨t, t', ht, ht', hqueries, hqueries'⟩

/-- A PDF417 is drawn alike with a height of forty and without one; so is a Data Matrix whose
encoder fails. A type that is not recognised is drawn with the height that is asked for. -/
theorem generate_height_forty :
    (generate ⟨⟨.int 200, .int 2, .low, ⟨0, 0, 0⟩, ⟨255, 255, 255⟩⟩, true⟩
        ⟨typeOfSymbology .pdf417, "x", some ⟨40, by decide⟩⟩).queries failingEncoder =
      (generate ⟨⟨.int 200, .int 2, .low, ⟨0, 0, 0⟩, ⟨255, 255, 255⟩⟩, true⟩
        ⟨typeOfSymbology .pdf417, "x", none⟩).queries failingEncoder ∧
    (generate ⟨⟨.int 200, .int 2, .low, ⟨0, 0, 0⟩, ⟨255, 255, 255⟩⟩, true⟩
        ⟨typeOfSymbology .dataMatrix, "x", some ⟨40, by decide⟩⟩).result failingEncoder =
      (generate ⟨⟨.int 200, .int 2, .low, ⟨0, 0, 0⟩, ⟨255, 255, 255⟩⟩, true⟩
        ⟨typeOfSymbology .dataMatrix, "x", none⟩).result failingEncoder ∧
    ∃ t t', inches (.int 40) = .ok t ∧ inches (.int 60) = .ok t' ∧
      (generate ⟨⟨.int 200, .int 2, .low, ⟨0, 0, 0⟩, ⟨255, 255, 255⟩⟩, true⟩
        ⟨⟨"?", by decide⟩, "x", some ⟨40, by decide⟩⟩).queries failingEncoder =
          [.raster (plainQuery "x" t)] ∧
      (generate ⟨⟨.int 200, .int 2, .low, ⟨0, 0, 0⟩, ⟨255, 255, 255⟩⟩, true⟩
        ⟨⟨"?", by decide⟩, "x", none⟩).queries failingEncoder = [.raster (plainQuery "x" t')] := by
  have hsame : ∀ type, SameSymbol ⟨type, "x", some ⟨40, by decide⟩⟩ ⟨type, "x", none⟩ :=
    fun _ => ⟨rfl, rfl⟩
  refine ⟨?_, ?_, ?_⟩
  · exact ((generate_height _ failingEncoder (hsame (typeOfSymbology .pdf417))).1 .pdf417
      (Symbology.parse?_name .pdf417)).2.2
  · exact ((generate_height _ failingEncoder (hsame (typeOfSymbology .dataMatrix))).1 .dataMatrix
      (Symbology.parse?_name .dataMatrix)).2.1
  · rcases (generate_height ⟨⟨.int 200, .int 2, .low, ⟨0, 0, 0⟩, ⟨255, 255, 255⟩⟩, true⟩
      failingEncoder (hsame ⟨"?", by decide⟩)).2 (by decide) with ⟨hnone, -, -⟩ | hone
    · cases hnone
    · exact hone

end LabelPress.Barcode
