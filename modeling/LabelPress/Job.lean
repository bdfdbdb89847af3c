import LabelPress.Event
import LabelPress.Render.Query

/-!
# Jobs

The generation of a barcode depends on what the engines answer. A job describes it without saying
where the answers come from: it is finished, or reports an event and goes on, or puts a query to an
engine and goes on from any answer.

Running a job against engines yields its result together with the queries it made and the events it
reported, both in order. Since a job is a value, several jobs can also be run side by side, in any
interleaving of their queries.

## Main definitions

* `Job`: a computation that queries the engines.
* `Job.run`: its result, queries and events, given the engines.
* `Job.bind`, `Job.map`, `Job.sequence`: composition.

## Main results

* `Job.result_bind`, `Job.queries_bind`, `Job.events_bind`: what a composed job yields is what its
  parts yield, one after the other.
-/

namespace LabelPress

open LabelPress.Render

/-- A computation that reports events and queries the engines. -/
inductive Job (α : Type) where
  /-- The computation is finished. -/
  | done (result : α)
  /-- An event is reported. -/
  | log (event : Event) (rest : Job α)
  /-- An engine is queried. -/
  | ask (query : Query) (rest : query.Answer → Job α)

/-- The engines, as a function from queries to answers. An engine's answer depends on nothing but
the query. -/
abbrev Engines := (q : Query) → q.Answer

/-- What is left of a job after it has been run. -/
structure Transcript (α : Type) where
  /-- The result of the job. -/
  result : α
  /-- The queries that it made. -/
  queries : List Query
  /-- The events that it reported. -/
  events : List Event

namespace Job

variable {α β : Type}

/-- Runs a job against engines. -/
def run (engines : Engines) : Job α → Transcript α
  | done a => ⟨a, [], []⟩
  | log e rest =>
    let t := rest.run engines
    { t with events := e :: t.events }
  | ask q rest =>
    let t := (rest (engines q)).run engines
    { t with queries := q :: t.queries }

/-- The result of a job. -/
def result (engines : Engines) (j : Job α) : α :=
  (j.run engines).result

/-- The queries that a job makes. -/
def queries (engines : Engines) (j : Job α) : List Query :=
  (j.run engines).queries

/-- The events that a job reports. -/
def events (engines : Engines) (j : Job α) : List Event :=
  (j.run engines).events

/-- Goes on with the result of a job. -/
def bind : Job α → (α → Job β) → Job β
  | done a, f => f a
  | log e rest, f => log e (rest.bind f)
  | ask q rest, f => ask q fun a => (rest a).bind f

/-- Applies a function to the result of a job. -/
def map (f : α → β) (j : Job α) : Job β :=
  j.bind fun a => done (f a)

/-- Reports events one after the other and goes on. -/
def logAll (events : List Event) (rest : Job α) : Job α :=
  events.foldr log rest

/-- Runs jobs one after the other and collects their results. -/
def sequence : List (Job α) → Job (List α)
  | [] => done []
  | j :: js => j.bind fun a => (sequence js).map (a :: ·)

/-! ### What composed jobs yield

The result, the queries and the events of a job are read off its three constructors, and those of a
composed job off its parts. -/

variable (engines : Engines)

@[simp]
theorem result_done (a : α) : (done a).result engines = a := rfl

@[simp]
theorem queries_done (a : α) : (done a).queries engines = [] := rfl

@[simp]
theorem events_done (a : α) : (done a).events engines = [] := rfl

@[simp]
theorem result_log (e : Event) (j : Job α) : (log e j).result engines = j.result engines := rfl

@[simp]
theorem queries_log (e : Event) (j : Job α) : (log e j).queries engines = j.queries engines := rfl

@[simp]
theorem events_log (e : Event) (j : Job α) : (log e j).events engines = e :: j.events engines := rfl

@[simp]
theorem result_ask (q : Query) (rest : q.Answer → Job α) :
    (ask q rest).result engines = (rest (engines q)).result engines := rfl

@[simp]
theorem queries_ask (q : Query) (rest : q.Answer → Job α) :
    (ask q rest).queries engines = q :: (rest (engines q)).queries engines := rfl

@[simp]
theorem events_ask (q : Query) (rest : q.Answer → Job α) :
    (ask q rest).events engines = (rest (engines q)).events engines := rfl

/-- Going on with the result of a job yields what the second job yields. -/
@[simp]
theorem result_bind (j : Job α) (f : α → Job β) :
    (j.bind f).result engines = (f (j.result engines)).result engines := by
  induction j with
  | done a => rfl
  | log e rest ih => exact ih
  | ask q rest ih => exact ih (engines q)

/-- A composed job makes the queries of its parts, one after the other. -/
@[simp]
theorem queries_bind (j : Job α) (f : α → Job β) :
    (j.bind f).queries engines =
      j.queries engines ++ (f (j.result engines)).queries engines := by
  induction j with
  | done a => rfl
  | log e rest ih => exact ih
  | ask q rest ih => exact congrArg (q :: ·) (ih (engines q))

/-- A composed job reports the events of its parts, one after the other. -/
@[simp]
theorem events_bind (j : Job α) (f : α → Job β) :
    (j.bind f).events engines =
      j.events engines ++ (f (j.result engines)).events engines := by
  induction j with
  | done a => rfl
  | log e rest ih => exact congrArg (e :: ·) ih
  | ask q rest ih => exact ih (engines q)

@[simp]
theorem result_map (f : α → β) (j : Job α) :
    (j.map f).result engines = f (j.result engines) :=
  result_bind engines j _

@[simp]
theorem queries_map (f : α → β) (j : Job α) :
    (j.map f).queries engines = j.queries engines := by
  rw [map, queries_bind, queries_done, List.append_nil]

@[simp]
theorem events_map (f : α → β) (j : Job α) :
    (j.map f).events engines = j.events engines := by
  rw [map, events_bind, events_done, List.append_nil]

/-- Events reported first change neither the result of a job nor its queries. -/
@[simp]
theorem result_logAll (es : List Event) (j : Job α) :
    (logAll es j).result engines = j.result engines := by
  induction es with
  | nil => rfl
  | cons e es ih => exact ih

@[simp]
theorem queries_logAll (es : List Event) (j : Job α) :
    (logAll es j).queries engines = j.queries engines := by
  induction es with
  | nil => rfl
  | cons e es ih => exact ih

@[simp]
theorem events_logAll (es : List Event) (j : Job α) :
    (logAll es j).events engines = es ++ j.events engines := by
  induction es with
  | nil => rfl
  | cons e es ih => exact congrArg (e :: ·) ih

/-- Jobs run one after the other yield their results in order. -/
theorem result_sequence (js : List (Job α)) :
    (sequence js).result engines = js.map (result engines) := by
  induction js with
  | nil => rfl
  | cons j js ih => rw [sequence, result_bind, result_map, ih, List.map_cons]

/-- Jobs run one after the other make all their queries in order. -/
theorem queries_sequence (js : List (Job α)) :
    (sequence js).queries engines = js.flatMap (queries engines) := by
  induction js with
  | nil => rfl
  | cons j js ih => rw [sequence, queries_bind, queries_map, ih, List.flatMap_cons]

end Job

end LabelPress
