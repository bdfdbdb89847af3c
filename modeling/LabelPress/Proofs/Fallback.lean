import LabelPress.Proofs.Rendering

/-!
# Falling back to Code 128

A request for a Data Matrix is attempted with the encoder first. If the attempt succeeds it decides
the outcome. If it fails, for whichever of five reasons, the request ends exactly as the same
request for Code 128 does, and asks what that one asks after what the attempt has asked. An encoder
that aborts is not recovered from.

The second request cannot come back to the encoder, since Code 128 goes to the raster engine: that
is why nothing is attempted twice.

## Main definitions

* `attempt` — the attempt to draw a payload as a Data Matrix
* `Attempt` — all the ways in which it can go

## Main results

* `attempt_iff` — the attempt goes in one of these ways
* `generate_dataMatrix` — the outcome and the queries of a request for a Data Matrix
-/

namespace LabelPress.Barcode

open LabelPress.Image LabelPress.Render LabelPress.Text LabelPress.CheckDigit

variable {c : Context} {engines : Engines} {r : Request}

/-! ### The raster route

A request that has neither check digits nor a renderer of its own is drawn as it is. -/

theorem result_bind_reportFailure (j : Job Outcome) (r : Request) :
    (j.bind (reportFailure r)).result engines = j.result engines := by
  rw [Job.result_bind]
  cases j.result engines <;> rfl

theorem queries_bind_reportFailure (j : Job Outcome) (r : Request) :
    (j.bind (reportFailure r)).queries engines = j.queries engines := by
  rw [Job.queries_bind]
  cases j.result engines <;> exact List.append_nil _

@[simp]
theorem result_generate (c : Context) (r : Request) :
    (generate c r).result engines = (dispatch c r).result engines :=
  result_bind_reportFailure (dispatch c r) r

@[simp]
theorem queries_generate (c : Context) (r : Request) :
    (generate c r).queries engines = (dispatch c r).queries engines :=
  queries_bind_reportFailure (dispatch c r) r

theorem generateRaster_eq_drawRaster (h : r.symbology?.bind Scheme.ofSymbology? = none) :
    generateRaster r = drawRaster r r.data := by
  rw [generateRaster, normalise, h]
  rfl

/-- Drawing a text asks the raster engine at most. -/
theorem mem_queries_drawRaster {text : String} {q : Query}
    (h : q ∈ (drawRaster r text).queries engines) : ∃ p, q = .raster p := by
  by_cases htext : text = ""
  · subst htext
    rw [(drawRaster_empty engines r).2] at h
    cases h
  · obtain ⟨settings, hquery⟩ := r.rasterQuery_of_ne_empty htext
    rw [(drawRaster_of_query engines r hquery).2, List.mem_singleton] at h
    exact ⟨_, h⟩

theorem outcomeOf_ne_warning (res : Except Stop (Grid Rgb)) (w : LengthWarning) :
    outcomeOf res ≠ .warning w := by
  rcases res with (f | m) | image <;> exact fun h => nomatch h

theorem ShowsAnswer.ne_warning {j : Job Outcome} {q : RasterQuery} (h : ShowsAnswer engines j q)
    (w : LengthWarning) : j.result engines ≠ .warning w := by
  rw [h.result]
  exact outcomeOf_ne_warning _ w

theorem drawRaster_ne_warning {text : String} (w : LengthWarning) :
    (drawRaster r text).result engines ≠ .warning w := by
  by_cases htext : text = ""
  · subst htext
    rw [(drawRaster_empty engines r).1]
    exact fun h => nomatch h
  · obtain ⟨settings, hquery⟩ := r.rasterQuery_of_ne_empty htext
    exact (drawRaster_of_query engines r hquery).ne_warning w

/-! ### Requests for Code 128 -/

theorem Request.symbology?_withSymbology (r : Request) (s : Symbology) :
    (r.withSymbology s).symbology? = some s :=
  Symbology.parse?_name s

theorem dispatch_code128 (c : Context) (r : Request) :
    dispatch c (r.withSymbology .code128) = generateRaster (r.withSymbology .code128) := by
  rw [dispatch, r.symbology?_withSymbology]

/-- A request for Code 128 goes to the raster engine with its payload as it is. -/
theorem generateRaster_code128 (r : Request) :
    generateRaster (r.withSymbology .code128) = drawRaster (r.withSymbology .code128) r.data := by
  refine generateRaster_eq_drawRaster ?_
  rw [r.symbology?_withSymbology]
  rfl

/-! ### The attempt -/

/-- The attempt to draw the payload of a request as a Data Matrix. -/
def attempt (c : Context) (r : Request) : Job (Except Stop (Grid Rgb)) :=
  renderDataMatrix c.encoderAvailable r.dataMatrixOptions

/-- What the encoder is asked for a request. -/
def encoderQuery (r : Request) : Query := .dataMatrix (utf8Bytes r.data)

/-- The encoder can be given a payload: it is neither blank nor too long. -/
structure Encodable (data : String) : Prop where
  /-- The payload is not blank. -/
  not_blank : isBlankPayload data = false
  /-- It has at most two thousand bytes. -/
  short : (utf8Bytes data).length ≤ maxPayloadBytes

/-- **All the ways in which an attempt can go:** what the encoder is asked, and what comes of it. -/
inductive Attempt (c : Context) (engines : Engines) (r : Request) :
    List Query → Except Stop (Grid Rgb) → Prop where
  /-- The payload is blank. -/
  | blank (h : isBlankPayload r.data = true) :
    Attempt c engines r [] (.error (.fault (.emptyPayload "DataMatrix")))
  /-- The payload is too long. -/
  | tooLong (hblank : isBlankPayload r.data = false)
    (h : maxPayloadBytes < (utf8Bytes r.data).length) :
    Attempt c engines r [] (.error (.fault .payloadTooLarge))
  /-- There is no encoder. -/
  | unavailable (hdata : Encodable r.data) (h : c.encoderAvailable = false) :
    Attempt c engines r [] (.error (.fault .encoderUnavailable))
  /-- The encoder fails or aborts. -/
  | stopped {e : Stop} (hdata : Encodable r.data) (havailable : c.encoderAvailable = true)
    (h : engines (encoderQuery r) = .error e) :
    Attempt c engines r [encoderQuery r] (.error e)
  /-- The encoder returns too few bytes. -/
  | incomplete {e : Encoded} (hdata : Encodable r.data) (havailable : c.encoderAvailable = true)
    (h : engines (encoderQuery r) = .ok e) (hbytes : e.bytes.size < 3 * e.width * e.height) :
    Attempt c engines r [encoderQuery r] (.error (.fault .incompleteImage))
  /-- The matrix is drawn. -/
  | drawn {e : Encoded} (hdata : Encodable r.data) (havailable : c.encoderAvailable = true)
    (h : engines (encoderQuery r) = .ok e) (hbytes : 3 * e.width * e.height ≤ e.bytes.size) :
    Attempt c engines r [encoderQuery r] (.ok (matrixFramed e))

theorem checkDataMatrix_of_encodable {data : String} (h : Encodable data) :
    checkDataMatrix data = .ok () := by
  rw [checkDataMatrix, if_neg (by simp [h.not_blank]), if_neg (Nat.not_lt.mpr h.short)]

theorem attempt_of_check_error {f : Fault} (h : checkDataMatrix r.data = .error f) :
    attempt c r = .done (.error (.fault f)) := by
  rw [attempt, renderDataMatrix, matrixPayload_dataMatrixOptions, h]
  rfl

/-- What an attempt comes to that reaches the encoder, given its answer. -/
theorem attempt_of_encodable (hdata : Encodable r.data) (havailable : c.encoderAvailable = true) :
    (∀ e, engines (encoderQuery r) = .error e →
        (attempt c r).queries engines = [encoderQuery r] ∧
          (attempt c r).result engines = .error e) ∧
      ∀ e, engines (encoderQuery r) = .ok e →
        (attempt c r).queries engines = [encoderQuery r] ∧
          (attempt c r).result engines = stopOnFault (r.dataMatrixOptions.matrixImage e) := by
  rw [attempt, renderDataMatrix, matrixPayload_dataMatrixOptions,
    checkDataMatrix_of_encodable hdata, havailable]
  constructor
  · intro e (h : engines (.dataMatrix (utf8Bytes r.data)) = .error e)
    simp [Except.map, encoderQuery, h]
  · intro e (h : engines (.dataMatrix (utf8Bytes r.data)) = .ok e)
    simp [Except.map, encoderQuery, h]

/-- An attempt that goes in one of these ways asks and yields what is said there. -/
theorem Attempt.transcript {qs : List Query} {res : Except Stop (Grid Rgb)}
    (h : Attempt c engines r qs res) :
    (attempt c r).queries engines = qs ∧ (attempt c r).result engines = res := by
  cases h with
  | blank h =>
    rw [attempt_of_check_error (by rw [checkDataMatrix, if_pos h])]
    exact ⟨rfl, rfl⟩
  | tooLong hblank h =>
    rw [attempt_of_check_error (by rw [checkDataMatrix, if_neg (by simp [hblank]), if_pos h])]
    exact ⟨rfl, rfl⟩
  | unavailable hdata h =>
    rw [attempt, renderDataMatrix, matrixPayload_dataMatrixOptions,
      checkDataMatrix_of_encodable hdata, h]
    exact ⟨rfl, rfl⟩
  | stopped hdata havailable h => exact (attempt_of_encodable hdata havailable).1 _ h
  | incomplete hdata havailable h hbytes =>
    obtain ⟨hqueries, hresult⟩ := (attempt_of_encodable hdata havailable).2 _ h
    rw [matrixImage_dataMatrixOptions, if_pos hbytes] at hresult
    exact ⟨hqueries, hresult⟩
  | drawn hdata havailable h hbytes =>
    obtain ⟨hqueries, hresult⟩ := (attempt_of_encodable hdata havailable).2 _ h
    rw [matrixImage_dataMatrixOptions, if_neg (Nat.not_lt.mpr hbytes)] at hresult
    exact ⟨hqueries, hresult⟩

/-- There is no further way. -/
theorem exists_attempt (c : Context) (engines : Engines) (r : Request) :
    ∃ qs res, Attempt c engines r qs res := by
  cases hblank : isBlankPayload r.data with
  | true => exact ⟨_, _, .blank hblank⟩
  | false =>
    by_cases hlong : maxPayloadBytes < (utf8Bytes r.data).length
    · exact ⟨_, _, .tooLong hblank hlong⟩
    have hdata : Encodable r.data := ⟨hblank, Nat.le_of_not_lt hlong⟩
    cases havailable : c.encoderAvailable with
    | false => exact ⟨_, _, .unavailable hdata havailable⟩
    | true =>
      cases hanswer : engines (encoderQuery r) with
      | error e => exact ⟨_, _, .stopped hdata havailable hanswer⟩
      | ok encoded =>
        by_cases hbytes : encoded.bytes.size < 3 * encoded.width * encoded.height
        · exact ⟨_, _, .incomplete hdata havailable hanswer hbytes⟩
        · exact ⟨_, _, .drawn hdata havailable hanswer (Nat.le_of_not_lt hbytes)⟩

/-- **An attempt goes in exactly one of these ways.** -/
theorem attempt_iff {qs : List Query} {res : Except Stop (Grid Rgb)} :
    Attempt c engines r qs res ↔
      (attempt c r).queries engines = qs ∧ (attempt c r).result engines = res := by
  constructor
  · exact Attempt.transcript
  · rintro ⟨rfl, rfl⟩
    obtain ⟨qs, res, h⟩ := exists_attempt c engines r
    rwa [h.transcript.1, h.transcript.2]

/-- An attempt asks nothing, or the encoder for the payload of the request. -/
theorem queries_attempt (c : Context) (engines : Engines) (r : Request) :
    (attempt c r).queries engines = [] ∨ (attempt c r).queries engines = [encoderQuery r] := by
  obtain ⟨qs, res, h⟩ := exists_attempt c engines r
  rw [h.transcript.1]
  cases h with
  | blank | tooLong | unavailable => exact Or.inl rfl
  | stopped | incomplete | drawn => exact Or.inr rfl

theorem queries_attempt_of_no_fault (h : ∀ f, (attempt c r).result engines ≠ .error (.fault f)) :
    (attempt c r).queries engines = [encoderQuery r] := by
  obtain ⟨qs, res, hattempt⟩ := exists_attempt c engines r
  obtain ⟨hqueries, hresult⟩ := hattempt.transcript
  rw [hresult] at h
  rw [hqueries]
  cases hattempt with
  | blank | tooLong | unavailable => exact absurd rfl (h _)
  | stopped | incomplete | drawn => rfl

/-- An attempt that is aborted was aborted by the encoder. -/
theorem encoder_of_attempt_aborted {m : String}
    (h : (attempt c r).result engines = .error (.abort m)) :
    engines (encoderQuery r) = .error (.abort m) := by
  obtain ⟨qs, res, hattempt⟩ := exists_attempt c engines r
  rw [hattempt.transcript.2] at h
  subst h
  cases hattempt with
  | stopped _ _ hanswer => exact hanswer

/-! ### Requests for a Data Matrix -/

/-- A request for a Data Matrix ends with its attempt unless that fails; then it goes on as one for
Code 128. -/
theorem generate_of_attempt (c : Context) (engines : Engines)
    (h : r.symbology? = some .dataMatrix) :
    ((∀ f, (attempt c r).result engines ≠ .error (.fault f)) →
        (generate c r).result engines = outcomeOf ((attempt c r).result engines) ∧
          (generate c r).queries engines = [encoderQuery r]) ∧
      ∀ f, (attempt c r).result engines = .error (.fault f) →
        (generate c r).result engines = (generate c (r.withSymbology .code128)).result engines ∧
          (generate c r).queries engines = (attempt c r).queries engines ++
            (generate c (r.withSymbology .code128)).queries engines := by
  simp only [result_generate, queries_generate, dispatch_code128]
  rw [dispatch, h]
  simp only [generateDataMatrix, drawMatrixOr, Job.result_bind, Job.queries_bind]
  rw [← attempt]
  constructor
  · intro hfault
    have hqueries := queries_attempt_of_no_fault hfault
    rw [hqueries]
    generalize (attempt c r).result engines = res at hfault
    rcases res with (f | m) | image
    · exact absurd rfl (hfault f)
    · exact ⟨rfl, List.append_nil _⟩
    · exact ⟨rfl, List.append_nil _⟩
  · intro f hf
    rw [hf]
    simp only [Job.result_log, Job.queries_log, and_self]

/-- Whether a query goes to the Data Matrix encoder. -/
def isEncoding : Query → Bool
  | .dataMatrix _ => true
  | .raster _ => false

theorem mem_queries_code128 {q : Query}
    (h : q ∈ (generate c (r.withSymbology .code128)).queries engines) : ∃ p, q = .raster p := by
  rw [queries_generate, dispatch_code128, generateRaster_code128] at h
  exact mem_queries_drawRaster h

theorem countP_isEncoding_code128 (c : Context) (engines : Engines) (r : Request) :
    ((generate c (r.withSymbology .code128)).queries engines).countP isEncoding = 0 := by
  rw [List.countP_eq_zero]
  intro q hq
  obtain ⟨p, rfl⟩ := mem_queries_code128 hq
  exact Bool.false_ne_true

theorem countP_isEncoding_attempt (c : Context) (engines : Engines) (r : Request) :
    ((attempt c r).queries engines).countP isEncoding ≤ 1 := by
  rcases queries_attempt c engines r with h | h
  · rw [h]
    exact Nat.zero_le 1
  · rw [h]
    exact Nat.le_refl 1

/-- **A request for a Data Matrix.** A matrix that is drawn is the outcome. If the attempt fails,
for one of the reasons of `Attempt`, the outcome is that of the same request for Code 128, and its
queries, none of which goes to the encoder, follow those of the attempt. An abort ends everything.
There is never a second attempt and never a warning. -/
theorem generate_dataMatrix (c : Context) (engines : Engines) {r : Request}
    (h : r.symbology? = some .dataMatrix) :
    (∀ image, (attempt c r).result engines = .ok image →
      (generate c r).result engines = .success (.bitmap image) ∧
        (generate c r).queries engines = [encoderQuery r]) ∧
    (∀ f, (attempt c r).result engines = .error (.fault f) →
      (generate c r).result engines = (generate c (r.withSymbology .code128)).result engines ∧
        (generate c r).queries engines = (attempt c r).queries engines ++
          (generate c (r.withSymbology .code128)).queries engines) ∧
    (∀ m, (attempt c r).result engines = .error (.abort m) →
      (generate c r).result engines = .aborted m ∧
        (generate c r).queries engines = [encoderQuery r]) ∧
    (∀ qs res, Attempt c engines r qs res ↔
      (attempt c r).queries engines = qs ∧ (attempt c r).result engines = res) ∧
    (∀ q ∈ (generate c (r.withSymbology .code128)).queries engines, ∃ p, q = .raster p) ∧
    ((generate c r).queries engines).countP isEncoding ≤ 1 ∧
    ∀ w, (generate c r).result engines ≠ .warning w := by
  obtain ⟨hends, hgoesOn⟩ := generate_of_attempt c engines h
  refine ⟨fun image himage => ?_, hgoesOn, fun m hm => ?_, fun _ _ => attempt_iff,
    fun q hq => mem_queries_code128 hq, ?_, fun w => ?_⟩
  · rw [himage] at hends
    exact hends fun f => by simp
  · rw [hm] at hends
    exact hends fun f => by simp
  · by_cases hfault : ∃ f, (attempt c r).result engines = .error (.fault f)
    · obtain ⟨f, hf⟩ := hfault
      rw [(hgoesOn f hf).2, List.countP_append, countP_isEncoding_code128]
      exact countP_isEncoding_attempt c engines r
    · rw [(hends (not_exists.mp hfault)).2]
      exact Nat.le_refl 1
  · by_cases hfault : ∃ f, (attempt c r).result engines = .error (.fault f)
    · obtain ⟨f, hf⟩ := hfault
      rw [(hgoesOn f hf).1, result_generate, dispatch_code128, generateRaster_code128]
      exact drawRaster_ne_warning w
    · rw [(hends (not_exists.mp hfault)).1]
      exact outcomeOf_ne_warning _ w

/-- A raster engine that draws a white pixel, and an encoder that fails. -/
def failingEncoder : Engines
  | .raster _ => Except.ok (Picture.rgb (Grid.ofFn 1 1 fun _ _ => white))
  | .dataMatrix _ => Except.error (Stop.fault (.engine .runtime "no encoding"))

/-- With an encoder that fails, the raster engine draws a Code 128. -/
theorem generate_dataMatrix_failingEncoder :
    (generate ⟨⟨.int 200, .int 2, .low, ⟨0, 0, 0⟩, ⟨255, 255, 255⟩⟩, true⟩
        ⟨typeOfSymbology .dataMatrix, "x", none⟩).result failingEncoder =
      (generate ⟨⟨.int 200, .int 2, .low, ⟨0, 0, 0⟩, ⟨255, 255, 255⟩⟩, true⟩
        ⟨typeOfSymbology .code128, "x", none⟩).result failingEncoder ∧
    (generate ⟨⟨.int 200, .int 2, .low, ⟨0, 0, 0⟩, ⟨255, 255, 255⟩⟩, true⟩
        ⟨typeOfSymbology .dataMatrix, "x", none⟩).queries failingEncoder =
      [.dataMatrix (utf8Bytes "x"),
       .raster ⟨.string "code128", .string "x",
        ⟨.string "FFFFFF", none, some "0.394", none, none⟩, 2⟩] := by
  have hattempt : Attempt ⟨⟨.int 200, .int 2, .low, ⟨0, 0, 0⟩, ⟨255, 255, 255⟩⟩, true⟩
      failingEncoder ⟨typeOfSymbology .dataMatrix, "x", none⟩ [.dataMatrix (utf8Bytes "x")]
        (.error (.fault (.engine .runtime "no encoding"))) :=
    .stopped ⟨by decide, by decide⟩ rfl rfl
  have hcode128 : (generate ⟨⟨.int 200, .int 2, .low, ⟨0, 0, 0⟩, ⟨255, 255, 255⟩⟩, true⟩
      (Request.withSymbology ⟨typeOfSymbology .dataMatrix, "x", none⟩ .code128)).queries
        failingEncoder = [.raster ⟨.string "code128", .string "x",
          ⟨.string "FFFFFF", none, some "0.394", none, none⟩, 2⟩] := by
    rfl
  obtain ⟨hresult, hqueries⟩ :=
    (generate_dataMatrix _ failingEncoder (by decide)).2.1 _ hattempt.transcript.2
  rw [hattempt.transcript.1, hcode128] at hqueries
  refine ⟨?_, ?_⟩
  · exact hresult
  · exact hqueries

end LabelPress.Barcode
