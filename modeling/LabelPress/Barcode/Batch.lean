import LabelPress.Barcode.Generate
import LabelPress.Job.Pool

/-!
# Batches

Several barcodes are generated independently of each other, and their outcomes are collected in the
order of the requests. A failure concerns its own item only. An abort concerns the whole batch: the
first one in the order of the requests takes the place of all outcomes.

The items of a batch do not wait for each other. `generateAll` has them one after the other, which
is one of the orders in which their queries can come; `generateConcurrently` leaves the order open.

## Main definitions

* `conclude`: the result of a batch, from the outcomes of its items.
* `generateAll`: the job of generating a batch.
* `generateConcurrently`: a batch whose items are under way at the same time.
-/

namespace LabelPress.Barcode

/-- Whether an outcome is a failure. -/
def Outcome.isFailure : Outcome → Bool
  | .failure _ => true
  | _ => false

/-- The message of an aborted generation. -/
def Outcome.abort? : Outcome → Option String
  | .aborted m => some m
  | _ => none

/-- The outcomes of a batch, or the message of its first abort. -/
def conclude (outcomes : List Outcome) : Except String (List Outcome) :=
  match outcomes.findSome? Outcome.abort? with
  | some m => .error m
  | none => .ok outcomes

/-- The event that closes a batch. -/
def batchEvent (outcomes : List Outcome) : Event :=
  .batchCompleted outcomes.length (outcomes.countP Outcome.isFailure)

/-- Collects the outcomes of a batch and reports that it is complete, unless it was aborted. -/
def finishBatch (outcomes : List Outcome) : Job (Except String (List Outcome)) :=
  match conclude outcomes with
  | .error m => .done (.error m)
  | .ok all => .log (batchEvent all) (.done (.ok all))

/-- Generates the barcodes of a batch one after the other. -/
def generateAll (c : Context) (requests : List Request) : Job (Except String (List Outcome)) :=
  (Job.sequence (requests.map (generate c))).bind finishBatch

/-- Generates the barcodes of a batch at the same time: what the items have done under a schedule
and, once all of them are finished, the result of the batch. -/
def generateConcurrently (engines : Engines) (c : Context) (requests : List Request)
    (schedule : List Nat) : Trace × Option (Except String (List Outcome)) :=
  let (trace, left) := (Pool.start (requests.map (generate c))).run engines schedule
  (trace, left.results?.map conclude)

end LabelPress.Barcode
