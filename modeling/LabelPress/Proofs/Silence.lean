import LabelPress.Proofs.Rendering

/-!
# Jobs without their reports

What a caller and the engines see of a job is its result and its queries. The events that it reports
are seen by neither, so two jobs that differ in their reports only cannot be told apart. This module
drops the reports and says what is left of drawing a barcode.

Dropping reports leaves a tree of queries. Equal trees are more than equal transcripts: they ask the
same next question after the same answers, so they agree also on engines whose answers change from
one query to the next.

## Main definitions

* `Job.silent` — a job without its reports

## Main results

* `Job.result_silent`, `Job.queries_silent` — dropping the reports changes nothing else
* `Job.silent_bind` — the reports of a composed job are those of its parts
* `silent_generate` — reporting a failure is all that is done at the end of a generation
* `silent_drawRaster_of_query` — drawing a text is one query and the picture that it answers
-/

namespace LabelPress

open LabelPress.Image LabelPress.Json LabelPress.Render LabelPress.Barcode

namespace Job

variable {α β : Type} {engines : Engines}

/-- A job without its reports. -/
def silent : Job α → Job α
  | done a => done a
  | log _ rest => rest.silent
  | ask q rest => ask q fun a => (rest a).silent

@[simp] theorem silent_done (a : α) : (done a).silent = done a := rfl

@[simp] theorem silent_log (e : Event) (j : Job α) : (log e j).silent = j.silent := rfl

@[simp] theorem silent_ask (q : Query) (rest : q.Answer → Job α) :
    (ask q rest).silent = ask q fun a => (rest a).silent := rfl

/-- Dropping the reports of a job changes neither its result nor its queries. -/
theorem result_silent (engines : Engines) (j : Job α) :
    j.silent.result engines = j.result engines := by
  induction j with
  | done a => rfl
  | log e rest ih => exact ih
  | ask q rest ih => exact ih (engines q)

theorem queries_silent (engines : Engines) (j : Job α) :
    j.silent.queries engines = j.queries engines := by
  induction j with
  | done a => rfl
  | log e rest ih => exact ih
  | ask q rest ih => exact congrArg (q :: ·) (ih (engines q))

/-- **Jobs that differ in their reports only** have the same result and make the same queries. -/
theorem same_of_silent {j j' : Job α} (h : j.silent = j'.silent) (engines : Engines) :
    j.result engines = j'.result engines ∧ j.queries engines = j'.queries engines := by
  constructor
  · rw [← result_silent, h, result_silent]
  · rw [← queries_silent, h, queries_silent]

/-- A composed job reports what its parts report, and nothing else. -/
@[simp] theorem silent_bind (j : Job α) (f : α → Job β) :
    (j.bind f).silent = j.silent.bind fun a => (f a).silent := by
  induction j with
  | done a => rfl
  | log e rest ih => exact ih
  | ask q rest ih => exact congrArg (ask q) (funext ih)

@[simp] theorem silent_map (f : α → β) (j : Job α) : (j.map f).silent = j.silent.map f :=
  silent_bind j _

@[simp] theorem silent_logAll (es : List Event) (j : Job α) :
    (logAll es j).silent = j.silent := by
  induction es with
  | nil => rfl
  | cons e es ih => exact ih

/-- Jobs one after the other report what each of them reports, and nothing else. -/
theorem silent_sequence (js : List (Job α)) :
    (sequence js).silent = sequence (js.map silent) := by
  induction js with
  | nil => rfl
  | cons j js ih =>
    rw [sequence, silent_bind, List.map_cons, sequence]
    simp only [silent_map, ih]

theorem bind_done (j : Job α) : j.bind done = j := by
  induction j with
  | done a => rfl
  | log e rest ih => exact congrArg (log e) ih
  | ask q rest ih => exact congrArg (ask q) (funext ih)

end Job

namespace Barcode

/-! ### What is left of a generation -/

/-- What happens to an outcome at the end of a generation is only a report. -/
theorem silent_generate (c : Context) (r : Request) :
    (generate c r).silent = (dispatch c r).silent := by
  have hreport : (fun o => (reportFailure r o).silent) = Job.done := by
    funext o
    cases o <;> rfl
  rw [generate, Job.silent_bind, hreport, Job.bind_done]

/-- What is left of drawing a text is the work of the raster renderer. -/
theorem silent_drawRaster (r : Request) (text : String) :
    (drawRaster r text).silent = (renderRaster (r.rasterOptions text)).silent.map outcomeOf := by
  rw [drawRaster, drawOptions, Job.silent_logAll, Job.silent_log, Job.silent_map]

/-- **Options without a query** are refused, and no engine is asked. -/
theorem silent_drawRaster_of_error {r : Request} {text : String} {f : Fault}
    (h : (r.rasterOptions text).rasterQuery = .error f) :
    (drawRaster r text).silent = .done (.failure f) := by
  rw [silent_drawRaster, renderRaster, h]
  rfl

/-- **Options with a query** are one question to the raster engine, and its answer is the
outcome. -/
theorem silent_drawRaster_of_query {r : Request} {text : String} {q : RasterQuery}
    (h : (r.rasterOptions text).rasterQuery = .ok q) :
    (drawRaster r text).silent =
      .ask (.raster q) fun answer => .done (outcomeOf (Except.map framed answer)) := by
  have hpadded : ∀ image : Picture, image.padded (r.rasterOptions text).padding
      (r.rasterOptions text).background = .ok (framed image) := fun image =>
    padded_background image (by decide)
  rw [silent_drawRaster, renderRaster, h]
  refine congrArg (Job.ask (.raster q)) (funext fun answer => ?_)
  cases answer with
  | error e => rfl
  | ok image => simp only [hpadded, stopOnFault, Job.silent_done, Except.map, Job.bind]

theorem silent_drawRaster_congr {r r' : Request} {text : String}
    (h : (r.rasterOptions text).rasterQuery = (r'.rasterOptions text).rasterQuery) :
    (drawRaster r text).silent = (drawRaster r' text).silent := by
  cases hquery : (r.rasterOptions text).rasterQuery with
  | error f =>
    rw [silent_drawRaster_of_error hquery, silent_drawRaster_of_error (h ▸ hquery)]
  | ok q =>
    rw [silent_drawRaster_of_query hquery, silent_drawRaster_of_query (h ▸ hquery)]

end Barcode

end LabelPress
