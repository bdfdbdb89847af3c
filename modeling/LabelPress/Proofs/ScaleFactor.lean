import LabelPress.Proofs.Fallback
import Mathlib.Tactic.Common

/-!
# The scale factor that is checked and the one that is used

Before the raster engine is asked, the options are checked: there must be a payload, and the scale
factor must be at least one. But a scale factor can be set in two places. The check looks at the
general one; the engine is told the extra setting `scaleX` if there is one. So an extra factor below
one gets through to the engine, and a general factor below one is refused although nothing would
have come of it.

The options here are of the kinds that they are meant to be, as far as the query depends on them.
The border and the text below the bars may be anything.

## Main definitions

* `WellKinded` — options of the kinds that they are meant to be
* `factor` — the scale factor that is used
* `Drawable` — the options that get through to the engine

## Main results

* `rasterQuery_of_drawable`, `rasterQuery_of_not_drawable` — when there is a query, and which
* `renderRaster_asks` — what the engine is asked, and where the two factors make a difference
-/

namespace LabelPress.Render

open LabelPress.Json LabelPress.Number LabelPress.Barcode

/-- Options whose identifier, payload, scale factor and height are of the kinds that they are meant
to be, with extra settings by name. -/
structure WellKinded (o : Options) (id text : String) (scale height : Int) (extras : Members) :
    Prop where
  /-- The identifier is a string. -/
  rendererId : o.rendererId = .string id
  /-- The payload is a string; if it is not a text, this is what is shown for it. -/
  text : o.text = .string text ∨ ∃ t : Text.Unpaired, o.text = .unpaired t ∧ t.shown = text
  /-- The general scale factor is an integer. -/
  scale : o.scale = .int scale
  /-- The height is an integer. -/
  height : o.height = .int height
  /-- The extra settings have names. -/
  extras : o.extras = .object extras

/-- The scale factor that is used: the extra one if there is one, and the general one otherwise. -/
def factor (scale : Int) (extras : Members) : Value :=
  (extras.get? "scaleX").getD (.int scale)

/-- A height can be told to the engine, if it has to be told at all: it has a floating point
number. -/
def HeightFits (id : String) (height : Int) : Prop :=
  id ∈ linearIds → 0 < height → ∃ x, Binary64.ofInt? height = some x

/-- An extra setting can be told to the engine, if there is one: no integer in it is too long to be
written. -/
def SettingFits (extras : Members) (name : String) : Prop :=
  ∀ v, extras.get? name = some v → v.isWritable = true

/-- The options that get through to the engine. -/
structure Drawable (id text : String) (scale height : Int) (extras : Members) : Prop where
  /-- There is a payload. -/
  payload : text ≠ ""
  /-- The general scale factor is at least one, whether it is used or not. -/
  checked : 1 ≤ scale
  /-- The scale factor that is used can be turned into an integer. -/
  used : ∃ k, (factor scale extras).toInteger = .ok k
  /-- The height can be told to the engine. -/
  height : HeightFits id height
  /-- The number of columns can be told to the engine. -/
  columns : SettingFits extras "columns"
  /-- So can the number of rows. -/
  rows : SettingFits extras "rows"

variable {o : Options} {id text : String} {scale height : Int} {extras : Members}

/-! ### The checks -/

theorem checkRaster_eq (h : WellKinded o id text scale height extras) :
    o.checkRaster =
      if text = "" then .error (.emptyPayload id)
      else if scale < 1 then .error .scaleTooSmall
      else .ok () := by
  have htruthy : o.text.isTruthy = !text.isEmpty := by
    rcases h.text with htext | ⟨t, htext, rfl⟩
    · rw [htext]
      rfl
    · have hnonempty : t.shown ≠ "" := t.shown_ne_empty
      rw [htext]
      simpa [Value.isTruthy] using hnonempty
  rw [Options.checkRaster, htruthy, h.scale, h.rendererId, Value.isBelow_int]
  by_cases htext : text = ""
  · subst htext
    simp
  · have hempty : text.isEmpty = false := by simpa using htext
    rw [if_neg htext, hempty]
    by_cases hscale : scale < 1 <;> simp [hscale]

theorem engineScale_eq (h : WellKinded o id text scale height extras) :
    o.engineScale = (factor scale extras).toInteger := by
  rw [Options.engineScale, Options.rasterScale, h.extras, h.scale]
  rfl

/-- An extra setting that is not there is not told, and any other one is written. -/
theorem exists_extraText_iff (extras : Members) (name : String) :
    (∃ t, extraText? (.object extras) name = .ok t) ↔ SettingFits extras name := by
  rw [extraText?, SettingFits]
  cases extras.get? name with
  | none => simp
  | some v =>
    simp only [Option.some.injEq, forall_eq', ← v.exists_written_iff]
    cases v.written <;> simp [Except.map]

theorem exists_engineHeight_iff (h : WellKinded o id text scale height extras) :
    (∃ t, o.engineHeight = .ok t) ↔ HeightFits id height := by
  have hlinear : isLinearId o.rendererId = .ok (decide (id ∈ linearIds)) := by
    rw [h.rendererId, isLinearId, List.contains_eq_mem]
  rw [HeightFits, Options.engineHeight, hlinear, h.height, Value.isAbove_int,
    ← exists_inches_iff]
  by_cases hid : id ∈ linearIds <;> by_cases hpos : 0 < height <;> simp [hid, hpos]
  cases inches (.int height) <;> simp [Except.map]

/-- The height, the columns and the rows are the settings that may be impossible to tell. -/
theorem exists_engineSettings_iff (h : WellKinded o id text scale height extras) :
    (∃ settings, o.engineSettings = .ok settings) ↔
      HeightFits id height ∧ SettingFits extras "columns" ∧ SettingFits extras "rows" := by
  rw [← exists_engineHeight_iff h, ← exists_extraText_iff, ← exists_extraText_iff,
    Options.engineSettings, h.extras]
  cases o.engineHeight with
  | error f => simp
  | ok t =>
    cases extraText? (.object extras) "columns" with
    | error f => simp
    | ok columns => cases extraText? (.object extras) "rows" <;> simp

/-! ### The query -/

/-- **Options that get through** make a query for their payload, with the factor that is used. -/
theorem rasterQuery_of_drawable (h : WellKinded o id text scale height extras)
    (hdraw : Drawable id text scale height extras) :
    ∃ settings k, o.rasterQuery = .ok ⟨.string id, o.text, settings, k⟩ ∧
      (factor scale extras).toInteger = .ok k := by
  obtain ⟨k, hk⟩ := hdraw.used
  obtain ⟨settings, hsettings⟩ :=
    (exists_engineSettings_iff h).mpr ⟨hdraw.height, hdraw.columns, hdraw.rows⟩
  refine ⟨settings, k, ?_, hk⟩
  rw [Options.rasterQuery, checkRaster_eq h, if_neg hdraw.payload,
    if_neg (Int.not_lt.mpr hdraw.checked), engineScale_eq h, hk, hsettings, h.rendererId]

/-- **All other options** are refused. -/
theorem rasterQuery_of_not_drawable (h : WellKinded o id text scale height extras)
    (hno : ¬ Drawable id text scale height extras) : ∃ f, o.rasterQuery = .error f := by
  rw [Options.rasterQuery, checkRaster_eq h, engineScale_eq h]
  by_cases htext : text = ""
  · exact ⟨_, by rw [if_pos htext]⟩
  by_cases hscale : scale < 1
  · exact ⟨_, by rw [if_neg htext, if_pos hscale]⟩
  rw [if_neg htext, if_neg hscale]
  cases hfactor : (factor scale extras).toInteger with
  | error f => exact ⟨f, rfl⟩
  | ok k =>
    cases hsettings : o.engineSettings with
    | error f => exact ⟨f, rfl⟩
    | ok settings =>
      obtain ⟨hheight, hcolumns, hrows⟩ := (exists_engineSettings_iff h).mp ⟨settings, hsettings⟩
      exact absurd ⟨htext, Int.not_lt.mp hscale, ⟨k, hfactor⟩, hheight, hcolumns, hrows⟩ hno

/-! ### The job -/

theorem queries_renderRaster (engines : Engines) {q : RasterQuery} (h : o.rasterQuery = .ok q) :
    (renderRaster o).queries engines = [.raster q] := by
  rw [renderRaster, h]
  cases hanswer : engines (.raster q) <;> simp [hanswer]

theorem renderRaster_of_drawable (engines : Engines) (h : WellKinded o id text scale height extras)
    (hdraw : Drawable id text scale height extras) :
    ∃ settings k, (renderRaster o).queries engines =
        [.raster ⟨.string id, o.text, settings, k⟩] ∧
      (factor scale extras).toInteger = .ok k := by
  obtain ⟨settings, k, hquery, hk⟩ := rasterQuery_of_drawable h hdraw
  exact ⟨settings, k, queries_renderRaster engines hquery, hk⟩

theorem renderRaster_of_not_drawable (engines : Engines)
    (h : WellKinded o id text scale height extras)
    (hno : ¬ Drawable id text scale height extras) :
    ∃ f, (renderRaster o).result engines = .error (.fault f) ∧
      (renderRaster o).queries engines = [] := by
  obtain ⟨f, hf⟩ := rasterQuery_of_not_drawable h hno
  rw [renderRaster, hf]
  exact ⟨f, rfl, rfl⟩

/-- **What the raster engine is asked.** Options that get through make one query, for their payload
and with the factor that is used; all others make none and fail. So if the general factor and the
one that is used are on the same side of one, the engine is asked only for a payload that is not
empty and with a factor of at least one, and such options are not refused, provided that the engine
can be told their height, their columns and their rows. -/
theorem renderRaster_asks (h : WellKinded o id text scale height extras) (engines : Engines) :
    (Drawable id text scale height extras →
        ∃ settings k, (renderRaster o).queries engines =
            [.raster ⟨.string id, o.text, settings, k⟩] ∧
          (factor scale extras).toInteger = .ok k) ∧
      (¬ Drawable id text scale height extras →
        ∃ f, (renderRaster o).result engines = .error (.fault f) ∧
          (renderRaster o).queries engines = []) ∧
      ((∀ k, (factor scale extras).toInteger = .ok k → (1 ≤ scale ↔ 1 ≤ k)) →
        (∀ q ∈ (renderRaster o).queries engines,
          ∃ settings k, q = .raster ⟨.string id, o.text, settings, k⟩ ∧ text ≠ "" ∧ 1 ≤ k) ∧
        ∀ k, text ≠ "" → factor scale extras = .int k → 1 ≤ k → HeightFits id height →
          SettingFits extras "columns" → SettingFits extras "rows" →
          (renderRaster o).queries engines ≠ []) := by
  refine ⟨renderRaster_of_drawable engines h, renderRaster_of_not_drawable engines h,
    fun hagree => ⟨fun q hq => ?_, fun k htext hk hpos hheight hcolumns hrows => ?_⟩⟩
  · by_cases hdraw : Drawable id text scale height extras
    · obtain ⟨settings, k, hqueries, hk⟩ := renderRaster_of_drawable engines h hdraw
      rw [hqueries, List.mem_singleton] at hq
      exact ⟨settings, k, hq, hdraw.payload, (hagree k hk).mp hdraw.checked⟩
    · obtain ⟨f, -, hqueries⟩ := renderRaster_of_not_drawable engines h hdraw
      rw [hqueries] at hq
      cases hq
  · have hvalue : (factor scale extras).toInteger = .ok k := by rw [hk]; rfl
    obtain ⟨settings, k', hqueries, -⟩ :=
      renderRaster_of_drawable engines h
        ⟨htext, (hagree k hvalue).mpr hpos, ⟨k, hvalue⟩, hheight, hcolumns, hrows⟩
    rw [hqueries]
    exact List.cons_ne_nil _ _

/-- Options for a Code 128 with a general scale factor and an extra one. -/
def scaled (general extra : Int) : Options where
  rendererId := .string "code128"
  text := .string "x"
  scale := .int general
  height := .int 10
  extras := .object [("scaleX", .int extra)]

/-- Two factors of two are both at least one. -/
theorem renderRaster_asks_two :
    WellKinded (scaled 2 2) "code128" "x" 2 10 [("scaleX", .int 2)] ∧
      Drawable "code128" "x" 2 10 [("scaleX", .int 2)] ∧
      (∃ settings, (renderRaster (scaled 2 2)).queries failingEncoder =
        [.raster ⟨.string "code128", .string "x", settings, 2⟩]) ∧
      (∀ k, (factor 2 [("scaleX", .int 2)]).toInteger = .ok k → (1 ≤ (2 : Int) ↔ 1 ≤ k)) ∧
      (∀ q ∈ (renderRaster (scaled 2 2)).queries failingEncoder,
        ∃ settings k, q = .raster ⟨.string "code128", .string "x", settings, k⟩ ∧ 1 ≤ k) ∧
      ¬ Drawable "code128" "x" 0 10 [("scaleX", .int 2)] ∧
      (renderRaster (scaled 0 2)).queries failingEncoder = [] := by
  have hkinds : ∀ general, WellKinded (scaled general 2) "code128" "x" general 10
      [("scaleX", .int 2)] := fun _ => ⟨rfl, .inl rfl, rfl, rfl, rfl⟩
  have hdraw : Drawable "code128" "x" 2 10 [("scaleX", .int 2)] :=
    ⟨by decide, by decide, ⟨2, rfl⟩, fun _ _ => ⟨_, rfl⟩, nofun, nofun⟩
  have hagree : ∀ k, (factor 2 [("scaleX", .int 2)]).toInteger = .ok k →
      (1 ≤ (2 : Int) ↔ 1 ≤ k) := by
    intro k hk
    obtain rfl : 2 = k := Except.ok.inj hk
    exact Iff.rfl
  have hno : ¬ Drawable "code128" "x" 0 10 [("scaleX", .int 2)] := fun h =>
    absurd h.checked (by decide)
  obtain ⟨settings, k, hqueries, hk⟩ := (renderRaster_asks (hkinds 2) failingEncoder).1 hdraw
  obtain rfl : 2 = k := Except.ok.inj hk
  refine ⟨hkinds 2, hdraw, ⟨settings, hqueries⟩, hagree, fun q hq => ?_, hno, ?_⟩
  · obtain ⟨settings, k, hq, -, hk⟩ :=
      ((renderRaster_asks (hkinds 2) failingEncoder).2.2 hagree).1 q hq
    exact ⟨settings, k, hq, hk⟩
  · obtain ⟨f, -, hnone⟩ := (renderRaster_asks (hkinds 0) failingEncoder).2.1 hno
    exact hnone

/-- **Two factors on different sides of one:** the engine is asked with an extra factor of zero, and
an extra factor of two is refused for the sake of a general one that is not used. -/
theorem renderRaster_asks_zero :
    (renderRaster (scaled 2 0)).queries failingEncoder =
        [.raster ⟨.string "code128", .string "x",
          ⟨.string "FFFFFF", some (.string "center"), some "0.394", none, none⟩, 0⟩] ∧
      (renderRaster (scaled 0 2)).queries failingEncoder = [] ∧
      (renderRaster (scaled 0 2)).result failingEncoder = .error (.fault .scaleTooSmall) :=
  ⟨rfl, rfl, rfl⟩

end LabelPress.Render
