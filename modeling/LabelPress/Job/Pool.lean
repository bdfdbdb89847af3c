import LabelPress.Job

/-!
# Jobs side by side

Several jobs can be under way at once. A job under way is a task: either it goes on by itself, or it
has put a query to an engine and waits for the answer. The tasks of a pool take turns. In its turn a
task makes one step: it reports an event, puts a query, or takes the answer that it waits for. So
any number of queries can be open at the same time, and the answers can come in any order.

Who has the next turn is left open. A schedule is any list of places in the pool; a turn of a place
whose task is finished, or where there is none, is passed over.

## Main definitions

* `Task`, `Task.step?`: a job under way, and its next step.
* `Pool.turn`: what happens in the turn of a place.
* `Pool.run`: what happens under a schedule, and what is left of the pool.
* `Pool.results?`: the results of a pool once all its tasks are finished.
-/

namespace LabelPress

open LabelPress.Render

variable {α : Type}

/-- A job that is under way. -/
inductive Task (α : Type) where
  /-- It goes on by itself. -/
  | running (job : Job α)
  /-- It waits for the answer to a query. -/
  | waiting (query : Query) (rest : query.Answer → Job α)

/-- What a task does in a step. -/
inductive Action where
  /-- It reports an event. -/
  | reported (event : Event)
  /-- It puts a query to an engine. -/
  | asked (query : Query)
  /-- It takes the answer to its query. -/
  | answered (query : Query)

/-- The query that is put to an engine. -/
def Action.query? : Action → Option Query
  | asked q => some q
  | _ => none

/-- How many steps a job takes: one for an event, and two for a query and its answer. -/
def Job.steps (engines : Engines) : Job α → Nat
  | .done _ => 0
  | .log _ rest => rest.steps engines + 1
  | .ask q rest => (rest (engines q)).steps engines + 2

namespace Task

/-- The task of a job that is finished. -/
def finished (result : α) : Task α :=
  running (.done result)

/-- The result of a task that is finished. -/
def result? : Task α → Option α
  | running (.done a) => some a
  | _ => none

/-- The next step of a task, with what it does; there is none if it is finished. -/
def step? (engines : Engines) : Task α → Option (Action × Task α)
  | running (.done _) => none
  | running (.log e rest) => some (.reported e, running rest)
  | running (.ask q rest) => some (.asked q, waiting q rest)
  | waiting q rest => some (.answered q, running (rest (engines q)))

/-- The job that is left of a task; if it waits for an answer, the job after that answer. -/
def remainder (engines : Engines) : Task α → Job α
  | running j => j
  | waiting q rest => rest (engines q)

/-- How many steps a task has before it. -/
def steps (engines : Engines) : Task α → Nat
  | running j => j.steps engines
  | waiting q rest => (rest (engines q)).steps engines + 1

end Task

/-- What the tasks of a pool have done, in order, each action with the place of its task. -/
abbrev Trace := List (Nat × Action)

namespace Trace

/-- The queries put to the engines, in order. -/
def queries (t : Trace) : List Query :=
  t.filterMap fun entry => entry.2.query?

/-- The queries that the task of one place has put, in order. -/
def queriesOf (t : Trace) (place : Nat) : List Query :=
  queries (t.filter fun entry => entry.1 = place)

end Trace

/-- Tasks that take turns. -/
abbrev Pool (α : Type) := List (Task α)

namespace Pool

/-- Jobs that are about to begin. -/
def start (jobs : List (Job α)) : Pool α :=
  jobs.map .running

/-- The results of the tasks, if all of them are finished. -/
def results? : Pool α → Option (List α)
  | [] => some []
  | t :: rest =>
    match t.result?, results? rest with
    | some a, some more => some (a :: more)
    | _, _ => none

/-- What happens in the turn of a place, and the pool after it. -/
def turn (engines : Engines) (p : Pool α) (place : Nat) : Trace × Pool α :=
  match p[place]?.bind (Task.step? engines) with
  | some (action, next) => ([(place, action)], p.set place next)
  | none => ([], p)

/-- What happens under a schedule, and the pool after it. -/
def run (engines : Engines) (p : Pool α) : List Nat → Trace × Pool α
  | [] => ([], p)
  | place :: schedule =>
    let (now, next) := p.turn engines place
    let (later, last) := next.run engines schedule
    (now ++ later, last)

end Pool

end LabelPress
