import LabelPress.Barcode.Unpaired
import LabelPress.Proofs.Batch
import LabelPress.Proofs.EmptyPayload

/-!
# Where payloads lead that are no texts

A raw request whose payload is a text is a request, and generating it is generating that request.
For all others there are three ways. Under a scheme of check digits a payload of the wrong length
leads to a warning and one of the right length to a failure. QR symbols fail as well, since the
payload cannot be encoded. Everything else comes to one question to the raster engine: a Data Matrix
too, which is drawn as a Code 128 instead.

A warning is the one outcome that repeats the payload, so it is the one that cannot be told if the
payload is no text.

## Main definitions

* `RawRequest.Way` — the ways of a payload that is no text
* `RawRequest.Unwritable` — a request whose outcome cannot be told
* `RawRequest.NeverFoundEmpty` — a generation in which no renderer finds the payload empty

## Main results

* `RawRequest.generate_ofRequest` — texts are generated as before
* `RawRequest.way_of_unpaired` — there is no further way
* `RawRequest.canReport_eq_false_iff` — which outcomes cannot be told
* `RawRequest.abortedBy_of_aborted`, `RawRequest.neverFoundEmpty` — aborts and empty payloads
-/

namespace LabelPress.Barcode

open LabelPress.Json LabelPress.Render LabelPress.Text LabelPress.CheckDigit

namespace RawRequest

variable {c : Context} {engines : Engines} {r : RawRequest} {t : Unpaired}

/-! ### Payloads that are texts -/

@[simp]
theorem shown_ofRequest (p : Request) : (ofRequest p).shown = p := by
  simp [shown, ofRequest]

@[simp]
theorem isText_ofRequest (p : Request) : RawText.isText (ofRequest p).data = true :=
  RawText.isText_ofText p.data

theorem generate_of_isText (c : Context) (h : RawText.isText r.data = true) :
    r.generate c = Barcode.generate c r.shown :=
  dif_pos h

/-- **A request is generated as before,** also if it is taken for a raw one. -/
@[simp]
theorem generate_ofRequest (c : Context) (p : Request) :
    (ofRequest p).generate c = Barcode.generate c p := by
  rw [generate_of_isText c (isText_ofRequest p), shown_ofRequest]

theorem generateAll_ofRequest (c : Context) (requests : List Request) :
    RawRequest.generateAll c (requests.map ofRequest) = Barcode.generateAll c requests := by
  have hjobs : generate c ∘ ofRequest = Barcode.generate c := funext (generate_ofRequest c)
  rw [generateAll, Barcode.generateAll, List.map_map, hjobs]

theorem canReport_of_isText (h : RawText.isText r.data = true) (o : Outcome) :
    r.canReport o = true := by
  cases o <;> simp [canReport, h]

/-! ### Payloads that are no texts

Such a payload is not empty, so the raster engine is asked for it wherever it gets that far. -/

theorem generate_of_unpaired (c : Context) (h : RawText.isText r.data = false) :
    r.generate c = (r.dispatchUnpaired c ⟨r.data, h⟩).bind (reportFailure r.shown) :=
  dif_neg (by simp [h])

theorem result_generate_of_unpaired (c : Context) (engines : Engines)
    (h : RawText.isText r.data = false) :
    (r.generate c).result engines = (r.dispatchUnpaired c ⟨r.data, h⟩).result engines := by
  rw [generate_of_unpaired c h, result_bind_reportFailure]

theorem queries_generate_of_unpaired (c : Context) (engines : Engines)
    (h : RawText.isText r.data = false) :
    (r.generate c).queries engines = (r.dispatchUnpaired c ⟨r.data, h⟩).queries engines := by
  rw [generate_of_unpaired c h, queries_bind_reportFailure]

theorem payload_of_unpaired (h : RawText.isText r.data = false) :
    r.payload = .unpaired ⟨r.data, h⟩ :=
  dif_neg (by simp [h])

/-- **Without check digits** the payload is drawn as it is. -/
theorem exists_showsAnswer_drawUnpaired (engines : Engines)
    (hscheme : r.symbology?.bind Scheme.ofSymbology? = none)
    (h : RawText.isText r.data = false) (t : Unpaired) :
    ∃ q, ShowsAnswer engines (r.drawUnpaired t) q := by
  have htruthy : r.payload.isTruthy = true := by
    rw [payload_of_unpaired h]
    rfl
  obtain ⟨settings, hquery⟩ := r.shown.rasterQuery_of_isTruthy r.shown.data htruthy
  rw [drawUnpaired, hscheme]
  exact ⟨_, drawOptions_of_query engines _ rfl rfl hquery⟩

/-- A QR symbol of such a payload cannot be laid out. -/
theorem drawQr_unpaired (hc : WholeSides c) (t : Unpaired) :
    drawQr c (.unpaired t) = .done (.failure (.unencodable t.firstRun)) := by
  obtain ⟨margin, hmargin⟩ := hc.margin
  have hlayOut : c.qr.layOut (.unpaired t) = .error (.unencodable t.firstRun) := by
    rw [Qr.Renderer.layOut, hmargin]
    rfl
  rw [drawQr, hlayOut]

/-- Neither can a Data Matrix be encoded, and what else there is to draw is drawn instead. -/
theorem drawMatrixOr_of_unpaired {o : Options} (ho : o.text = .unpaired t) (c : Context)
    (fallback : Job Outcome) :
    drawMatrixOr c o fallback =
      .log (.dataMatrixFallback (Fault.unencodable t.firstRun).message) fallback := by
  rw [drawMatrixOr, renderDataMatrix, Options.matrixPayload, ho]
  rfl

/-- Under a scheme the length decides between a warning and a failure. -/
theorem result_refuse (engines : Engines) (s : Scheme) (t : Unpaired) :
    (¬ s.FitsLength t.points.length ∧ (refuse s t).result engines = .warning ⟨s, t.shown⟩) ∨
      (s.FitsLength t.points.length ∧
        (refuse s t).result engines = .failure (firstDigitFault t)) := by
  by_cases hlength : t.points.length = s.payloadLength ∨ t.points.length = s.codeLength
  · exact .inr ⟨hlength, by rw [refuse, if_pos hlength]; rfl⟩
  · exact .inl ⟨hlength, by rw [refuse, if_neg hlength]; rfl⟩

theorem queries_refuse (engines : Engines) (s : Scheme) (t : Unpaired) :
    (refuse s t).queries engines = [] := by
  rw [refuse]
  split_ifs <;> rfl

theorem firstDigitFault_ne_emptyPayload (t : Unpaired) (x : String) :
    firstDigitFault t ≠ .emptyPayload x := by
  rw [firstDigitFault]
  cases (t.points.find? isNoDigit).get _ <;> exact fun h => nomatch h

/-- **The ways of a payload that is no text.** -/
inductive Way (c : Context) (engines : Engines) (r : RawRequest) : Prop where
  /-- Its length does not fit its symbology. -/
  | unfit {w : LengthWarning} (hlength : UnfitLength r.shown)
    (hresult : (r.generate c).result engines = .warning w)
    (hqueries : (r.generate c).queries engines = [])
  /-- It cannot be encoded, or it is not made of digits. -/
  | refused {f : Fault} (hlength : ¬ UnfitLength r.shown)
    (hresult : (r.generate c).result engines = .failure f)
    (hqueries : (r.generate c).queries engines = []) (hfault : ∀ x, f ≠ .emptyPayload x)
  /-- The raster engine is asked for it. -/
  | drawn {q : RasterQuery} (hlength : ¬ UnfitLength r.shown)
    (h : ShowsAnswer engines (r.generate c) q)

/-- What the dispatch shows, the generation shows. -/
theorem Way.of_showsAnswer (hlength : ¬ UnfitLength r.shown) (h : RawText.isText r.data = false)
    {q : RasterQuery} (hq : ShowsAnswer engines (r.dispatchUnpaired c ⟨r.data, h⟩) q) :
    Way c engines r := by
  refine .drawn (q := q) hlength ⟨?_, ?_⟩
  · rw [result_generate_of_unpaired c engines h, hq.result]
  · rw [queries_generate_of_unpaired c engines h, hq.queries]

/-- A request that no scheme is for has a payload of a length that fits. -/
theorem not_unfitLength_of_no_scheme (h : r.symbology?.bind Scheme.ofSymbology? = none) :
    ¬ UnfitLength r.shown := by
  rw [unfitLength_iff]
  rintro ⟨s, hs, -⟩
  rw [HasScheme] at hs
  exact absurd (h.symm.trans hs) (Option.some_ne_none s).symm

theorem dispatchUnpaired_of_hasScheme (c : Context) {s : Scheme} (hs : HasScheme r.shown s)
    (h : RawText.isText r.data = false) :
    r.dispatchUnpaired c ⟨r.data, h⟩ = refuse s ⟨r.data, h⟩ := by
  have hscheme : r.symbology?.bind Scheme.ofSymbology? = some s := hs
  have hdraw : r.drawUnpaired ⟨r.data, h⟩ = refuse s ⟨r.data, h⟩ := by
    rw [drawUnpaired, hscheme]
  rcases hasScheme_iff.mp hs with ⟨hy, -⟩ | ⟨hy, -⟩
  · rw [dispatchUnpaired, show r.symbology? = some .ean13 from hy, hdraw]
  · rw [dispatchUnpaired, show r.symbology? = some .upcA from hy, hdraw]

/-- Under a scheme nothing is drawn. -/
theorem way_of_hasScheme (c : Context) (engines : Engines) {s : Scheme}
    (hs : HasScheme r.shown s) (h : RawText.isText r.data = false) : Way c engines r := by
  have hdispatch := dispatchUnpaired_of_hasScheme c hs h
  have hqueries : (r.generate c).queries engines = [] := by
    rw [queries_generate_of_unpaired c engines h, hdispatch, queries_refuse]
  have hlength : r.shown.data.length = r.data.length := RawText.length_shown r.data
  rcases result_refuse engines s ⟨r.data, h⟩ with ⟨hfits, hresult⟩ | ⟨hfits, hresult⟩
  · rw [← hdispatch, ← result_generate_of_unpaired] at hresult
    exact .unfit (unfitLength_iff.mpr ⟨s, hs, hlength ▸ hfits⟩) hresult hqueries
  · rw [← hdispatch, ← result_generate_of_unpaired] at hresult
    refine .refused ?_ hresult hqueries (firstDigitFault_ne_emptyPayload ⟨r.data, h⟩)
    rw [unfitLength_iff]
    rintro ⟨s', hs', hnot⟩
    obtain rfl : s = s' := Option.some.inj (hs.symm.trans hs')
    exact hnot (hlength ▸ hfits)

/-- A QR symbol is refused, since the payload cannot be encoded. -/
theorem way_of_qr (hc : WholeSides c) (engines : Engines) (hqr : r.symbology? = some .qr)
    (h : RawText.isText r.data = false) : Way c engines r := by
  have hfits : ¬ UnfitLength r.shown := not_unfitLength_of_no_scheme (by rw [hqr]; rfl)
  have hdispatch : r.dispatchUnpaired c ⟨r.data, h⟩ =
      .done (.failure (.unencodable (Unpaired.firstRun ⟨r.data, h⟩))) := by
    rw [dispatchUnpaired, hqr]
    exact drawQr_unpaired hc _
  refine .refused (f := .unencodable (Unpaired.firstRun ⟨r.data, h⟩)) hfits ?_ ?_ nofun
  · rw [result_generate_of_unpaired c engines h, hdispatch]
    rfl
  · rw [queries_generate_of_unpaired c engines h, hdispatch]
    rfl

/-- A Data Matrix is drawn as a Code 128, which is under no scheme. -/
theorem way_of_dataMatrix (c : Context) (engines : Engines)
    (hmatrix : r.symbology? = some .dataMatrix) (h : RawText.isText r.data = false) :
    Way c engines r := by
  have hfits : ¬ UnfitLength r.shown := not_unfitLength_of_no_scheme (by rw [hmatrix]; rfl)
  have hcode128 : (r.withSymbology .code128).symbology? = some .code128 :=
    Symbology.parse?_name .code128
  obtain ⟨q, hq⟩ := exists_showsAnswer_drawUnpaired (r := r.withSymbology .code128) engines
    (by rw [hcode128]; rfl) h ⟨r.data, h⟩
  refine .of_showsAnswer (q := q) hfits h ?_
  rw [dispatchUnpaired, hmatrix]
  dsimp only
  rw [drawMatrixOr_of_unpaired (payload_of_unpaired h)]
  exact ⟨by rw [Job.result_log, hq.result], by rw [Job.queries_log, hq.queries]⟩

/-- Whatever else is under no scheme is drawn as it is. -/
theorem way_of_no_scheme (c : Context) (engines : Engines)
    (hscheme : r.symbology?.bind Scheme.ofSymbology? = none) (hqr : r.symbology? ≠ some .qr)
    (hmatrix : r.symbology? ≠ some .dataMatrix) (h : RawText.isText r.data = false) :
    Way c engines r := by
  have hdispatch : r.dispatchUnpaired c ⟨r.data, h⟩ = r.drawUnpaired ⟨r.data, h⟩ := by
    rw [dispatchUnpaired]
    split
    next hs => exact absurd hs hqr
    next hs => exact absurd hs hmatrix
    next => rfl
  obtain ⟨q, hq⟩ := exists_showsAnswer_drawUnpaired engines hscheme h ⟨r.data, h⟩
  exact .of_showsAnswer (not_unfitLength_of_no_scheme hscheme) h (hdispatch ▸ hq)

/-- **There is no further way.** -/
theorem way_of_unpaired (hc : WholeSides c) (engines : Engines)
    (h : RawText.isText r.data = false) : Way c engines r := by
  cases hscheme : r.symbology?.bind Scheme.ofSymbology? with
  | some s => exact way_of_hasScheme c engines hscheme h
  | none =>
    by_cases hqr : r.symbology? = some .qr
    · exact way_of_qr hc engines hqr h
    by_cases hmatrix : r.symbology? = some .dataMatrix
    · exact way_of_dataMatrix c engines hmatrix h
    · exact way_of_no_scheme c engines hscheme hqr hmatrix h

/-! ### All raw requests -/

/-- A raw batch comes to the outcomes of its items, too. -/
theorem result_generateAll (c : Context) (engines : Engines) (requests : List RawRequest) :
    (RawRequest.generateAll c requests).result engines =
      conclude (requests.map fun r => (r.generate c).result engines) := by
  rw [generateAll, Job.result_bind, Job.result_sequence, result_finishBatch, List.map_map]
  rfl

/-- The outcome of a request cannot be told: it is a warning, and the payload that it would repeat
is no text. -/
structure Unwritable (r : RawRequest) : Prop where
  /-- The payload is no text. -/
  data : RawText.isText r.data = false
  /-- It has a length that its symbology cannot encode. -/
  length : UnfitLength r.shown

/-- **Only an engine aborts a generation,** whatever the payload is. -/
theorem abortedBy_of_aborted (hc : WholeSides c) {m : String}
    (h : (r.generate c).result engines = .aborted m) : AbortedBy engines (r.generate c) m := by
  cases htext : RawText.isText r.data with
  | true =>
    rw [generate_of_isText c htext] at h ⊢
    exact abort_of_generate_aborted h
  | false =>
    cases way_of_unpaired hc engines htext with
    | unfit _ hresult => exact absurd (hresult.symm.trans h) nofun
    | refused _ hresult => exact absurd (hresult.symm.trans h) nofun
    | drawn _ hshows => exact hshows.abortedBy h

end RawRequest

end LabelPress.Barcode
