import LabelPress.Proofs.Fallback
import LabelPress.Proofs.Layout
import LabelPress.Proofs.Normalising
import LabelPress.Proofs.Settings

/-!
# How a generation ends

Every generation ends with a warning, with a failure or with a drawing, unless an engine aborts; and
which of these it is can be read off the request and the answers of the engines. The failures are
listed by their causes. That nothing else can fail is where the settings come in: their bounds leave
the renderers nothing to refuse.

The three endings exclude each other since a generation has one result. So it is enough to show that
each condition leads to its ending and that one of them holds.

## Main definitions

* `RasterRoute` — the requests that go to the raster engine, and with which text
* `Way` — all the ways that a request can go
* `UnfitLength` — the condition for a warning
* `InputFault`, `EngineFault` — the causes of a failure
* `Query.abort?` — an answer with which an engine aborts

## Main results

* `generate_total` — one of the conditions holds, or an engine aborts
* `generate_outcome` — the endings are decided by their conditions
* `events_of_failure` — a failure is reported once
-/

namespace LabelPress

open LabelPress.Image LabelPress.Json LabelPress.Render LabelPress.Text LabelPress.CheckDigit

namespace Render

/-- The message with which an answer aborts, if it does. -/
def Query.abort? : (q : Query) → q.Answer → Option String
  | .raster _, answer =>
    match answer with
    | .error (.abort m) => some m
    | _ => none
  | .dataMatrix _, answer =>
    match answer with
    | .error (.abort m) => some m
    | _ => none

end Render

namespace Barcode

/-! ### The conditions -/

/-- The symbology of a request has check digits. -/
def HasScheme (r : Request) (s : Scheme) : Prop :=
  r.symbology?.bind Scheme.ofSymbology? = some s

/-- The payload has a length that its symbology cannot encode. -/
def UnfitLength (r : Request) : Prop :=
  (r.symbology? = some .ean13 ∧ r.data.length ≠ 12 ∧ r.data.length ≠ 13) ∨
    (r.symbology? = some .upcA ∧ r.data.length ≠ 11 ∧ r.data.length ≠ 12)

/-- **The raster route.** The raster engine is to draw a text for a request: as the payload of a
request without check digits, as a full code made from digits, or as the payload of a request for a
Data Matrix that could not be drawn. In the last case it is drawn as a Code 128. -/
inductive RasterRoute (c : Context) (engines : Engines) (r : Request) :
    Request → String → Prop where
  /-- A payload that is taken as it is. -/
  | plain (hqr : r.symbology? ≠ some .qr) (hmatrix : r.symbology? ≠ some .dataMatrix)
    (hscheme : ∀ s, ¬ HasScheme r s) : RasterRoute c engines r r r.data
  /-- Digits with their check digit. -/
  | checked {s : Scheme} {n : Normalised} {text : String} (hscheme : HasScheme r s)
    (hlength : s.FitsLength r.data.length)
    (hdigits : ∀ ch ∈ r.data.toList, isDecimalDigit ch = true) (hnormal : normalise r = .ok n)
    (htext : n.payload = .ok text) : RasterRoute c engines r r text
  /-- A Data Matrix that could not be drawn. -/
  | fallback {f : Fault} (hmatrix : r.symbology? = some .dataMatrix)
    (hfault : (attempt c r).result engines = .error (.fault f)) :
    RasterRoute c engines r (r.withSymbology .code128) r.data

/-- **The ways that a request can go.** A request on the raster route is drawn there; a QR symbol is
drawn without an engine, and a Data Matrix by its encoder, unless that fails. A payload with check
digits may have an unfit length or a character that is not a digit. -/
inductive Way (c : Context) (engines : Engines) (r : Request) : Prop where
  /-- A QR symbol. -/
  | qr (h : r.symbology? = some .qr)
  /-- A Data Matrix whose attempt does not fail. -/
  | dataMatrix (h : r.symbology? = some .dataMatrix)
    (hno : ∀ f, (attempt c r).result engines ≠ .error (.fault f))
  /-- A text for the raster engine. -/
  | raster {drawn : Request} {text : String} (h : RasterRoute c engines r drawn text)
  /-- A payload whose length does not fit. -/
  | unfit (h : UnfitLength r)
  /-- A payload of a length that fits with a character that is not a digit. -/
  | nonDigit {s : Scheme} {ch : Char} (hscheme : HasScheme r s)
    (hlength : s.FitsLength r.data.length) (hch : FirstNonDigit r.data.toList ch)

/-- The failures that a request brings about by itself. -/
inductive InputFault (c : Context) (engines : Engines) (r : Request) : Fault → Prop where
  /-- A QR symbol without a payload. -/
  | emptyQr (hqr : r.symbology? = some .qr) (hdata : r.data = "") :
    InputFault c engines r (.emptyPayload "QR")
  /-- A payload that no version of a QR symbol holds. -/
  | oversizedQr (hqr : r.symbology? = some .qr) (hdata : r.data ≠ "")
    (hversion : ∀ v, 1 ≤ v → v ≤ 40 → ¬ Qr.Holds c.qr.level (Qr.segments (utf8Bytes r.data)) v) :
    InputFault c engines r .versionOverflow
  /-- A payload of a length that fits with a character that is not a digit; the first one counts. -/
  | nonDigit {s : Scheme} {ch : Char} (hscheme : HasScheme r s)
    (hlength : s.FitsLength r.data.length) (hch : FirstNonDigit r.data.toList ch) :
    InputFault c engines r (.notAnInteger (String.singleton ch))
  /-- A raster image without a text. -/
  | emptyText {drawn : Request} (hroute : RasterRoute c engines r drawn "") :
    InputFault c engines r (.emptyPayload drawn.designator.rendererId)

/-- The failures of the raster engine over the text that it is to draw. -/
inductive EngineFault (c : Context) (engines : Engines) (r : Request) : Fault → Prop where
  /-- The engine fails. -/
  | raised {drawn : Request} {text : String} {q : RasterQuery} {f : Fault}
    (hroute : RasterRoute c engines r drawn text) (htext : text ≠ "")
    (hquery : (drawn.rasterOptions text).rasterQuery = .ok q)
    (hanswer : engines (.raster q) = .error (.fault f)) : EngineFault c engines r f

variable {c : Context} {engines : Engines} {r : Request}

/-- These failures are the caller's: they are about a value that was passed in. -/
theorem InputFault.kind {f : Fault} (h : InputFault c engines r f) : f.kind = .value := by
  cases h <;> rfl

theorem hasScheme_iff {s : Scheme} :
    HasScheme r s ↔
      (r.symbology? = some .ean13 ∧ s = .ean13) ∨ (r.symbology? = some .upcA ∧ s = .upcA) := by
  rw [HasScheme, Option.bind_eq_some_iff]
  constructor
  · rintro ⟨y, hy, hs⟩
    cases y <;> simp_all [Scheme.ofSymbology?]
  · rintro (⟨h, rfl⟩ | ⟨h, rfl⟩)
    · exact ⟨_, h, rfl⟩
    · exact ⟨_, h, rfl⟩

theorem unfitLength_iff :
    UnfitLength r ↔ ∃ s, HasScheme r s ∧ ¬ s.FitsLength r.data.length := by
  simp only [hasScheme_iff, UnfitLength, Scheme.FitsLength, not_or]
  constructor
  · rintro (⟨h, hlength⟩ | ⟨h, hlength⟩)
    · exact ⟨_, Or.inl ⟨h, rfl⟩, hlength⟩
    · exact ⟨_, Or.inr ⟨h, rfl⟩, hlength⟩
  · rintro ⟨s, ⟨h, rfl⟩ | ⟨h, rfl⟩, hlength⟩
    · exact Or.inl ⟨h, hlength⟩
    · exact Or.inr ⟨h, hlength⟩

theorem normalise_of_hasScheme {s : Scheme} (h : HasScheme r s) :
    normalise r = normaliseFor s r.data := by
  rw [normalise, show r.symbology?.bind Scheme.ofSymbology? = some s from h]

/-- **There is no further way.** -/
theorem exists_way (c : Context) (engines : Engines) (r : Request) : Way c engines r := by
  by_cases hqr : r.symbology? = some .qr
  · exact .qr hqr
  by_cases hmatrix : r.symbology? = some .dataMatrix
  · by_cases hfault : ∃ f, (attempt c r).result engines = .error (.fault f)
    · obtain ⟨f, hf⟩ := hfault
      exact .raster (.fallback hmatrix hf)
    · exact .dataMatrix hmatrix (not_exists.mp hfault)
  by_cases hscheme : ∃ s, HasScheme r s
  · obtain ⟨s, hs⟩ := hscheme
    by_cases hlength : s.FitsLength r.data.length
    · rcases digits_or_firstNonDigit r.data.toList with hdigits | ⟨ch, hch⟩
      · obtain ⟨n, code, hnormal, hcode, -⟩ := normaliseFor_of_digits hlength hdigits
        rw [← normalise_of_hasScheme hs] at hnormal
        exact .raster (.checked hs hlength hdigits hnormal hcode)
      · exact .nonDigit hs hlength hch
    · exact .unfit (unfitLength_iff.mpr ⟨s, hs, hlength⟩)
  · exact .raster (.plain hqr hmatrix (not_exists.mp hscheme))

/-! ### QR symbols -/

/-- The QR renderer of a context has a whole size that an image can have, and a whole margin with
which a symbol of any version can be drawn. -/
structure Usable (c : Context) : Prop where
  /-- The size is a whole number, and not too large. -/
  size : ∃ n : Int, c.qr.size = .int n ∧ n ≤ maxSide
  /-- The margin is a whole number, and not too large. -/
  margin : ∃ n : Int, c.qr.margin = .int n ∧ n ≤ 16

theorem usable_of_load {explicit : Members} {environment : Variables} {file : Option String}
    {s : Settings} {available : Bool} (hs : Settings.load explicit environment file = .ok s)
    (hc : s.context available = .ok c) : Usable c := by
  obtain ⟨hsize, hmargin, -⟩ := Settings.qr_of_context hc
  have hvalid := Settings.valid_of_load hs
  exact ⟨⟨s.qrSize, hsize, Int.le_trans hvalid.qrSize.2 (by decide)⟩,
    ⟨s.qrMargin, hmargin, hvalid.qrMargin.2⟩⟩

theorem generateQr_of_version_none (hc : Usable c) {data : String} (hdata : data ≠ "")
    (hversion : Qr.versionFor? c.qr.level (utf8Bytes data) = none) :
    generateQr c data = .done (.failure .versionOverflow) := by
  obtain ⟨margin, hmargin, -⟩ := hc.margin
  rw [generateQr, drawQr, Qr.Renderer.layOut_of_no_version hmargin hdata hversion]

/-- A payload with a version is drawn, since the renderer has nothing else to refuse. -/
theorem generateQr_of_version_some (engines : Engines) (hc : Usable c) {data : String}
    (hdata : data ≠ "") {v : Nat}
    (hversion : Qr.versionFor? c.qr.level (utf8Bytes data) = some v) :
    ∃ symbol, (generateQr c data).result engines = .success (.qr symbol) := by
  obtain ⟨margin, hmargin, hmarginMost⟩ := hc.margin
  obtain ⟨size, hsize, hmost⟩ := hc.size
  have hnative : (Qr.Layout.nativeSize ⟨utf8Bytes data, v, margin.toNat⟩ : Int) ≤ maxSide := by
    have hlast := (Qr.version_bounds hversion).2
    simp only [Qr.Layout.nativeSize, Qr.Layout.modulePixels, Qr.Layout.modulesAcross,
      Qr.symbolSide, Qr.maxVersion, maxSide] at *
    omega
  rw [generateQr, drawQr, Qr.Renderer.layOut_of_version hmargin hdata hversion]
  simp only [Job.result_log, Job.result_done, Qr.Renderer.draw_of_fits hsize hmost hnative]
  exact ⟨_, rfl⟩

/-! ### Each condition leads to its ending -/

theorem dispatch_of_hasScheme {s : Scheme} (h : HasScheme r s) :
    dispatch c r = generateRaster r := by
  rcases hasScheme_iff.mp h with ⟨hs, -⟩ | ⟨hs, -⟩ <;> rw [dispatch, hs]

/-- **A length that does not fit** leads to a warning, and no engine is asked. -/
theorem generate_of_unfitLength (c : Context) (engines : Engines) (h : UnfitLength r) :
    ∃ s, (generate c r).result engines = .warning ⟨s, r.data⟩ ∧
      (generate c r).queries engines = [] := by
  obtain ⟨s, hscheme, hlength⟩ := unfitLength_iff.mp h
  have hnormal := normaliseFor_of_not_fitsLength hlength
  refine ⟨s, ?_⟩
  rw [result_generate, queries_generate, dispatch_of_hasScheme hscheme, generateRaster,
    normalise_of_hasScheme hscheme, hnormal]
  exact ⟨rfl, rfl⟩

/-- **A request on the raster route** ends as the drawing of its text does. -/
theorem generate_of_rasterRoute {drawn : Request} {text : String}
    (h : RasterRoute c engines r drawn text) :
    (generate c r).result engines = (drawRaster drawn text).result engines ∧
      ∀ q ∈ (drawRaster drawn text).queries engines, q ∈ (generate c r).queries engines := by
  cases h with
  | plain hqr hmatrix hscheme =>
    have hdispatch : dispatch c r = generateRaster r := by
      rw [dispatch]
      split
      next h => exact absurd h hqr
      next h => exact absurd h hmatrix
      next => rfl
    have hnone : r.symbology?.bind Scheme.ofSymbology? = none :=
      Option.eq_none_iff_forall_ne_some.mpr hscheme
    rw [result_generate, queries_generate, hdispatch, generateRaster_eq_drawRaster hnone]
    exact ⟨rfl, fun _ hq => hq⟩
  | checked hscheme hlength hdigits hnormal htext =>
    rw [result_generate, queries_generate, dispatch_of_hasScheme hscheme, generateRaster, hnormal]
    simp only [Job.result_logAll, Job.queries_logAll, htext, imp_self, implies_true, and_self]
  | fallback hmatrix hfault =>
    obtain ⟨hresult, hqueries⟩ := (generate_of_attempt c engines hmatrix).2 _ hfault
    rw [hresult, hqueries, result_generate, queries_generate, dispatch_code128,
      generateRaster_code128]
    exact ⟨rfl, fun _ hq => List.mem_append_right _ hq⟩

/-- **A character that is not a digit** leads to a failure, and the first one counts. -/
theorem generate_of_nonDigit {s : Scheme} {ch : Char} (hscheme : HasScheme r s)
    (hlength : s.FitsLength r.data.length) (hch : FirstNonDigit r.data.toList ch) :
    (generate c r).result engines = .failure (.notAnInteger (String.singleton ch)) := by
  rw [result_generate, dispatch_of_hasScheme hscheme, generateRaster,
    normalise_of_hasScheme hscheme, normaliseFor_of_firstNonDigit hlength hch]
  rfl

/-- **A failure that a request brings about** is its result. -/
theorem generate_of_inputFault (hc : Usable c) {f : Fault} (h : InputFault c engines r f) :
    (generate c r).result engines = .failure f := by
  cases h with
  | emptyQr hqr hdata =>
    rw [result_generate, dispatch, hqr, hdata]
    rfl
  | oversizedQr hqr hdata hversion =>
    rw [result_generate, dispatch, hqr]
    simp only [generateQr_of_version_none hc hdata (Qr.versionFor?_eq_none_iff.mpr hversion),
      Job.result_done]
  | nonDigit hscheme hlength hch => exact generate_of_nonDigit hscheme hlength hch
  | emptyText hroute =>
    rw [(generate_of_rasterRoute hroute).1, (drawRaster_empty engines _).1]

/-- **A failure of the raster engine** is the result of the request. -/
theorem generate_of_engineFault {f : Fault} (h : EngineFault c engines r f) :
    (generate c r).result engines = .failure f := by
  cases h with
  | raised hroute htext hquery hanswer =>
    rw [(generate_of_rasterRoute hroute).1, (drawRaster_of_query engines _ hquery).1, hanswer]
    rfl

/-! ### One of the conditions holds -/

/-- An engine that was asked has aborted. -/
def EngineAborted (c : Context) (engines : Engines) (r : Request) : Prop :=
  ∃ q ∈ (generate c r).queries engines, ∃ m, q.abort? (engines q) = some m

/-- On the raster route the answer of the engine decides. -/
theorem RasterRoute.total {drawn : Request} {text : String}
    (h : RasterRoute c engines r drawn text) :
    (∃ f, InputFault c engines r f ∨ EngineFault c engines r f) ∨
      (∃ d, (generate c r).result engines = .success d) ∨ EngineAborted c engines r := by
  by_cases htext : text = ""
  · subst htext
    exact Or.inl ⟨_, Or.inl (.emptyText h)⟩
  obtain ⟨settings, hquery⟩ := drawn.rasterQuery_of_ne_empty htext
  obtain ⟨hresult, hqueries⟩ := generate_of_rasterRoute h
  obtain ⟨hdrawn, hasked⟩ := drawRaster_of_query engines drawn hquery
  rw [hdrawn] at hresult
  rw [hasked] at hqueries
  cases hanswer : engines (.raster _) with
  | ok image =>
    rw [hanswer] at hresult
    exact Or.inr (Or.inl ⟨_, hresult⟩)
  | error e =>
    cases e with
    | fault f => exact Or.inl ⟨f, Or.inr (.raised h htext hquery hanswer)⟩
    | abort m =>
      refine Or.inr (Or.inr ⟨_, hqueries _ List.mem_cons_self, m, ?_⟩)
      rw [hanswer]
      rfl

/-- **One of the conditions holds,** or the request is drawn, or an engine aborts. -/
theorem generate_total (hc : Usable c) (engines : Engines) (r : Request) :
    UnfitLength r ∨ (∃ f, InputFault c engines r f ∨ EngineFault c engines r f) ∨
      (∃ d, (generate c r).result engines = .success d) ∨ EngineAborted c engines r := by
  cases exists_way c engines r with
  | qr hqr =>
    by_cases hdata : r.data = ""
    · exact Or.inr (Or.inl ⟨_, Or.inl (.emptyQr hqr hdata)⟩)
    cases hversion : Qr.versionFor? c.qr.level (utf8Bytes r.data) with
    | none =>
      have hholds := Qr.versionFor?_eq_none_iff.mp hversion
      exact Or.inr (Or.inl ⟨_, Or.inl (.oversizedQr hqr hdata hholds)⟩)
    | some v =>
      obtain ⟨symbol, hsymbol⟩ := generateQr_of_version_some engines hc hdata hversion
      refine Or.inr (Or.inr (Or.inl ⟨.qr symbol, ?_⟩))
      rw [result_generate, dispatch, hqr]
      exact hsymbol
  | dataMatrix hmatrix hno =>
    obtain ⟨hresult, hqueries⟩ := (generate_of_attempt c engines hmatrix).1 hno
    cases hattempt : (attempt c r).result engines with
    | ok image =>
      rw [hattempt] at hresult
      exact Or.inr (Or.inr (Or.inl ⟨_, hresult⟩))
    | error e =>
      cases e with
      | fault f => exact absurd hattempt (hno f)
      | abort m =>
        have hasked : encoderQuery r ∈ (generate c r).queries engines := by
          rw [hqueries]
          exact List.mem_cons_self
        refine Or.inr (Or.inr (Or.inr ⟨_, hasked, m, ?_⟩))
        rw [encoder_of_attempt_aborted hattempt]
        rfl
  | raster hroute => exact Or.inr hroute.total
  | unfit hunfit => exact Or.inl hunfit
  | nonDigit hscheme hlength hch =>
    exact Or.inr (Or.inl ⟨_, Or.inl (.nonDigit hscheme hlength hch)⟩)

/-! ### Reports -/

/-- Whether an event reports that a generation failed. -/
def isFailureReport : Event → Bool
  | .generationFailed _ _ => true
  | _ => false

theorem events_drawRaster (text : String) :
    ∀ e ∈ (drawRaster r text).events engines, isFailureReport e = false := by
  have hdefaulted : ∀ e ∈ rendererIdEvents r.designator, isFailureReport e = false := by
    rw [rendererIdEvents]
    split_ifs <;> simp [isFailureReport]
  have hrender : ∀ e ∈ (renderRaster (r.rasterOptions text)).events engines,
      isFailureReport e = false := by
    rw [renderRaster]
    split
    · simp
    · simp only [Job.events_log, Job.events_ask, List.forall_mem_cons]
      refine ⟨rfl, ?_⟩
      split <;> simp
  simp only [drawRaster, drawOptions, Job.events_logAll, Job.events_log, Job.events_map,
    List.forall_mem_append, List.forall_mem_cons]
  exact ⟨hdefaulted, rfl, hrender⟩

theorem events_generateRaster (r : Request) :
    ∀ e ∈ (generateRaster r).events engines, isFailureReport e = false := by
  rw [generateRaster]
  split
  · simp
  next n _ =>
    have hnormalised : ∀ e ∈ Event.ofNormalised n, isFailureReport e = false := by
      cases n <;> simp [Event.ofNormalised, isFailureReport]
    rw [Job.events_logAll, List.forall_mem_append]
    refine ⟨hnormalised, ?_⟩
    split
    · simp
    · exact events_drawRaster _

theorem events_attempt (c : Context) (engines : Engines) (r : Request) :
    (attempt c r).events engines = [] := by
  rw [attempt, renderDataMatrix]
  split
  · rfl
  · split_ifs
    · rw [Job.events_ask]
      split <;> rfl
    · rfl

theorem events_dispatch (c : Context) (engines : Engines) (r : Request) :
    ∀ e ∈ (dispatch c r).events engines, isFailureReport e = false := by
  rw [dispatch]
  split
  · rw [generateQr, drawQr]
    split <;> simp [isFailureReport]
  · rw [generateDataMatrix, drawMatrixOr, Job.events_bind, ← attempt, events_attempt,
      List.nil_append]
    split
    · rw [Job.events_log, List.forall_mem_cons]
      exact ⟨rfl, events_generateRaster _⟩
    · simp
  · exact events_generateRaster r

/-- **A failure is reported once,** at the end and with its cause. -/
theorem events_of_failure {f : Fault} (h : (generate c r).result engines = .failure f) :
    ∃ before, (generate c r).events engines =
        before ++ [.generationFailed r.type.val f.message] ∧
      ∀ e ∈ before, isFailureReport e = false := by
  rw [result_generate] at h
  refine ⟨(dispatch c r).events engines, ?_, events_dispatch c engines r⟩
  rw [generate, Job.events_bind, h]
  rfl

/-! ### The classification -/

/-- A request has exactly one of the three endings, and its condition is the one that holds. -/
theorem generate_cases (hc : Usable c) (hno : ¬ EngineAborted c engines r) :
    ((UnfitLength r ∧ ∀ f, ¬ (InputFault c engines r f ∨ EngineFault c engines r f)) ∧
        ∃ s, (generate c r).result engines = .warning ⟨s, r.data⟩ ∧
          (generate c r).queries engines = []) ∨
      (∃ f, (InputFault c engines r f ∨ EngineFault c engines r f) ∧
        (¬ UnfitLength r ∧
          ∀ g, InputFault c engines r g ∨ EngineFault c engines r g → g = f) ∧
        (generate c r).result engines = .failure f) ∨
      ((¬ UnfitLength r ∧ ∀ f, ¬ (InputFault c engines r f ∨ EngineFault c engines r f)) ∧
        ∃ d, (generate c r).result engines = .success d) := by
  have hfails : ∀ f, InputFault c engines r f ∨ EngineFault c engines r f →
      (generate c r).result engines = .failure f := by
    rintro f (h | h)
    · exact generate_of_inputFault hc h
    · exact generate_of_engineFault h
  have hwarns : UnfitLength r → ∃ s, (generate c r).result engines = .warning ⟨s, r.data⟩ :=
    fun h => (generate_of_unfitLength c engines h).imp fun _ hs => hs.1
  rcases generate_total hc engines r with hunfit | ⟨f, hf⟩ | ⟨d, hd⟩ | haborted
  · obtain ⟨s, hresult, hqueries⟩ := generate_of_unfitLength c engines hunfit
    refine Or.inl ⟨⟨hunfit, fun f hf => ?_⟩, s, hresult, hqueries⟩
    rw [hfails f hf] at hresult
    cases hresult
  · have hresult := hfails f hf
    refine Or.inr (Or.inl ⟨f, hf, ⟨fun hunfit => ?_, fun g hg => ?_⟩, hresult⟩)
    · obtain ⟨s, hs⟩ := hwarns hunfit
      rw [hs] at hresult
      cases hresult
    · rw [hfails g hg] at hresult
      exact Outcome.failure.inj hresult
  · refine Or.inr (Or.inr ⟨⟨fun hunfit => ?_, fun f hf => ?_⟩, d, hd⟩)
    · obtain ⟨s, hs⟩ := hwarns hunfit
      rw [hs] at hd
      cases hd
    · rw [hfails f hf] at hd
      cases hd
  · exact absurd haborted hno

/-- **How a generation ends,** with a context made from settings that were loaded and unless an
engine that is asked aborts. It ends with a warning iff the length of the payload does not fit its
symbology, with a failure iff the request brings one about or the raster engine fails over the text
it is given, and the cause is that one; and with a drawing otherwise. A warning suggests Code 128
and no engine is asked before it. A failure that is not the engine's is about a value, and a failure
is worded and reported once. -/
theorem generate_outcome {explicit : Members} {environment : Variables} {file : Option String}
    {s : Settings} {available : Bool} (hs : Settings.load explicit environment file = .ok s)
    (hc : s.context available = .ok c) (engines : Engines) (r : Request)
    (hengines : ∀ q ∈ (generate c r).queries engines, q.abort? (engines q) = none) :
    ((∃ w, (generate c r).result engines = .warning w) ↔ UnfitLength r) ∧
    (∀ f, (generate c r).result engines = .failure f ↔
      InputFault c engines r f ∨ EngineFault c engines r f) ∧
    ((∃ d, (generate c r).result engines = .success d) ↔
      ¬ UnfitLength r ∧ ∀ f, ¬ (InputFault c engines r f ∨ EngineFault c engines r f)) ∧
    (∀ w, (generate c r).result engines = .warning w →
      w.data = r.data ∧ w.fallback = .code128 ∧ (generate c r).queries engines = []) ∧
    (∀ f, InputFault c engines r f → f.kind = .value) ∧
    ∀ f, (generate c r).result engines = .failure f →
      failureMessage f = "Barcode generation failed: " ++ f.message ∧
      ∃ before, (generate c r).events engines =
          before ++ [.generationFailed r.type.val f.message] ∧
        ∀ e ∈ before, isFailureReport e = false := by
  have hno : ¬ EngineAborted c engines r := by
    rintro ⟨q, hq, m, hm⟩
    rw [hengines q hq] at hm
    cases hm
  refine ⟨?_, ?_, ?_, ?_, fun f h => h.kind, fun f h => ⟨rfl, events_of_failure h⟩⟩ <;>
    rcases generate_cases (usable_of_load hs hc) hno with
      ⟨⟨hunfit, hnofault⟩, s, hresult, hqueries⟩ | ⟨f, hf, ⟨hfit, honly⟩, hresult⟩ |
        ⟨⟨hfit, hnofault⟩, d, hresult⟩ <;>
    rw [hresult]
  -- A warning iff the length does not fit.
  · exact iff_of_true ⟨_, rfl⟩ hunfit
  · exact iff_of_false (fun ⟨w, hw⟩ => nomatch hw) hfit
  · exact iff_of_false (fun ⟨w, hw⟩ => nomatch hw) hfit
  -- A failure iff there is a cause, and with that cause.
  · exact fun f => iff_of_false (fun hf => nomatch hf) (hnofault f)
  · refine fun g => ⟨fun hg => ?_, fun hg => ?_⟩
    · rwa [← Outcome.failure.inj hg]
    · rw [honly g hg]
  · exact fun f => iff_of_false (fun hf => nomatch hf) (hnofault f)
  -- A drawing otherwise.
  · exact iff_of_false (fun ⟨d, hd⟩ => nomatch hd) fun h => h.1 hunfit
  · exact iff_of_false (fun ⟨d, hd⟩ => nomatch hd) fun h => h.2 f hf
  · exact iff_of_true ⟨d, rfl⟩ ⟨hfit, hnofault⟩
  -- What comes with a warning.
  · rintro w hw
    obtain rfl := Outcome.warning.inj hw
    exact ⟨rfl, rfl, hqueries⟩
  · exact fun w hw => nomatch hw
  · exact fun w hw => nomatch hw

/-- With the standard settings, twelve characters the last of which is a letter. -/
theorem generate_outcome_letter :
    Settings.load [] [] none = .ok Settings.standard ∧
      Settings.standard.context true =
        .ok ⟨⟨.int 200, .int 2, .low, ⟨0, 0, 0⟩, ⟨255, 255, 255⟩⟩, true⟩ ∧
      (generate ⟨⟨.int 200, .int 2, .low, ⟨0, 0, 0⟩, ⟨255, 255, 255⟩⟩, true⟩
        ⟨typeOfSymbology .ean13, "12345678901x", none⟩).result failingEncoder =
          .failure (.notAnInteger "x") := by
  have hload : Settings.load [] [] none = .ok Settings.standard := rfl
  have hcontext : Settings.standard.context true =
      .ok ⟨⟨.int 200, .int 2, .low, ⟨0, 0, 0⟩, ⟨255, 255, 255⟩⟩, true⟩ := rfl
  have hqueries : (generate ⟨⟨.int 200, .int 2, .low, ⟨0, 0, 0⟩, ⟨255, 255, 255⟩⟩, true⟩
      ⟨typeOfSymbology .ean13, "12345678901x", none⟩).queries failingEncoder = [] := rfl
  have hletter : FirstNonDigit "12345678901x".toList 'x' :=
    ⟨"12345678901".toList, [], by decide, List.all_eq_true.mp (by decide), by decide⟩
  have hscheme : HasScheme ⟨typeOfSymbology .ean13, "12345678901x", none⟩ .ean13 :=
    hasScheme_iff.mpr (Or.inl ⟨by decide, rfl⟩)
  refine ⟨hload, hcontext, ?_⟩
  refine ((generate_outcome hload hcontext failingEncoder _ ?_).2.1 _).mpr (Or.inl ?_)
  · rw [hqueries]
    exact fun q hq => nomatch hq
  · exact .nonDigit hscheme (Or.inl (by decide)) hletter

end Barcode

end LabelPress
