import LabelPress.Barcode.Unpaired
import LabelPress.Http.ImageQuery
import LabelPress.Settings.Store
import LabelPress.Zpl.Report
import LabelPress.Zpl.Submission
import LabelPress.Zpl.Template

/-!
# Answers of the endpoints

What each endpoint answers once its input has been checked. The endpoints for single barcodes, for
batches and for label documents share one generation: a fault of a single barcode becomes the status
of the response, a fault inside a batch only the report on its item.

Batches and label documents are limited in size. A document that is too long is not read, and a
batch that is too large is not begun.

Payloads and documents are strings that need not be texts. A response is written in UTF-8, so one
that would repeat what is no text cannot be written, and the endpoint has no answer then. This shows
only after everything has been generated.

## Main definitions

* `answerBarcode`, `answerImageQuery`, `answerBatch`: answers with generated barcodes.
* `answerInterpret`, `answerRender`, `answerTemplate`: answers about label documents.
-/

namespace LabelPress.Http

open LabelPress.Barcode LabelPress.Text LabelPress.Validation LabelPress.Zpl

/-- Why an endpoint has no answer. -/
inductive Breakdown where
  /-- Something went wrong that the endpoint does not account for. -/
  | internal
  /-- An engine aborted, and the whole service with it. -/
  | abort (message : String)
  deriving Repr, DecidableEq

/-- The answer of an endpoint. -/
abbrev Answer := Except Breakdown Response

/-- The response if a single barcode could not be generated: the status tells whether the payload is
to blame or the service. -/
def faultResponse (f : Fault) : Response :=
  Response.refusal (if f.isValue then 422 else 500) (failureMessage f)

/-- One barcode, reported as a document. -/
def barcodeAnswer (type : String) : Outcome → Answer
  | .aborted m => .error (.abort m)
  | .failure f => .ok (faultResponse f)
  | .success d => .ok (.reply 200 (.item (.ofOutcome type (.success d))))
  | .warning w => .ok (.reply 200 (.item (.ofOutcome type (.warning w))))

/-- One barcode as an image file. -/
def imageAnswer : Outcome → Answer
  | .aborted m => .error (.abort m)
  | .failure f => .ok (faultResponse f)
  | .success d => .ok (.image d)
  | .warning w => .ok (.reply 422 (.lengthDetail w))

/-- The reports on several requests. -/
def itemsOf (requests : List RawRequest) (outcomes : List Outcome) : List Item :=
  List.zipWith (fun r o => Item.ofOutcome r.type.val o) requests outcomes

/-- Whether all outcomes of several requests can be told. -/
def canReportAll (requests : List RawRequest) (outcomes : List Outcome) : Bool :=
  (List.zipWith RawRequest.canReport requests outcomes).all id

/-- An answer that is given if it can be written. -/
def answerIf (writable : Bool) (a : Answer) : Answer :=
  if writable then a else .error .internal

/-- Generates one barcode and reports on it. -/
def answerBarcode (c : Context) (r : RawRequest) : Job Answer :=
  (r.generate c).map fun o => answerIf (r.canReport o) (barcodeAnswer r.type.val o)

/-- Generates one barcode as an image file. -/
def answerImage (c : Context) (r : Barcode.Request) : Job Answer :=
  (generate c r).map imageAnswer

/-- Generates the barcode of a query as an image file. What the query asks for is checked once more
when the request for the barcode is made; the endpoint does not account for errors found there. -/
def answerImageQuery (c : Context) (q : ImageQuery) : Job Answer :=
  match q.request with
  | .error _ => .done (.error .internal)
  | .ok r => answerImage c r

/-- The response if a batch is too large. -/
def batchTooLarge (count : Nat) (limit : Int) : Response :=
  Response.refusal 422
    ("Batch contains " ++ toString count ++ " barcodes; the limit is " ++ toString limit)

/-- The response if a label document is too long. -/
def documentTooLong (limit : Int) : Response :=
  Response.refusal 413 ("ZPL document exceeds " ++ toString limit ++ " characters")

/-- Generates several barcodes, unless they are too many, and goes on with their outcomes. -/
def answerAll (limit : Int) (c : Context) (requests : List RawRequest)
    (answer : List Outcome → Answer) : Job Answer :=
  if limit < requests.length then .done (.ok (batchTooLarge requests.length limit))
  else
    (RawRequest.generateAll c requests).map fun result =>
      match result with
      | .error m => .error (.abort m)
      | .ok outcomes => answer outcomes

/-- The reports on the outcomes of a batch. -/
def batchAnswer (requests : List RawRequest) (outcomes : List Outcome) : Answer :=
  answerIf (canReportAll requests outcomes)
    (.ok (.reply 200 (.items (itemsOf requests outcomes))))

/-- Generates the barcodes of a batch. -/
def answerBatch (settings : Settings) (c : Context) (requests : List RawRequest) : Job Answer :=
  answerAll settings.batchMaxItems c requests (batchAnswer requests)

/-- Whether directives can be told: their data must be texts. -/
def areTexts (ds : List RawDirective) : Bool :=
  ds.all fun d => RawText.isText d.data

/-- Goes on with the directives of a label document, unless it is too long. -/
def withDirectives (settings : Settings) (label : RawText)
    (answer : List RawDirective → Job Answer) : Job Answer :=
  if settings.zplMaxLength < label.length then .done (.ok (documentTooLong settings.zplMaxLength))
  else Job.logAll (Zpl.events (RawText.shown label)) (answer (rawDirectives label))

/-- The directives of a label document. -/
def answerInterpret (settings : Settings) (label : RawText) : Job Answer :=
  withDirectives settings label fun ds =>
    .done (answerIf (areTexts ds) (.ok (.reply 200 (.directives (ds.map (·.directive))))))

/-- The requests for the barcodes of directives. -/
def requestsOf (ds : List RawDirective) : Checked (List RawRequest) :=
  Checked.all (ds.map RawDirective.toRequest)

/-- The directives of a label document, and the reports on the outcomes of their barcodes. -/
def renderAnswer (ds : List RawDirective) (requests : List RawRequest) (outcomes : List Outcome) :
    Answer :=
  answerIf (areTexts ds)
    (.ok (.reply 200 (.rendered (ds.map (·.directive)) (itemsOf requests outcomes))))

/-- Generates the barcodes of a label document. -/
def answerRender (settings : Settings) (c : Context) (label : RawText) : Job Answer :=
  withDirectives settings label fun ds =>
    if settings.batchMaxItems < ds.length then
      .done (.ok (batchTooLarge ds.length settings.batchMaxItems))
    else
      match requestsOf ds with
      | .error _ => .done (.error .internal)
      | .ok requests => answerAll settings.batchMaxItems c requests (renderAnswer ds requests)

/-- A label with a barcode of the named type. -/
def answerTemplate (type payload : String) : Response :=
  .reply 200
    (.template (templateSymbology (.ofText type)) (Zpl.template (.ofText type) payload))

/-- The response if fields of the input are not valid. -/
def answerInvalid (entity : Option Json.Value) (errors : List FieldError) : Answer :=
  if canReport errors entity then .ok (.reply 422 (.errors errors)) else .error .internal

/-- The response if the body cannot be read. -/
def answerUnreadable : BodyFault → Response
  | .malformed position =>
    .reply 422 (.errors [⟨[bodyStep, .item position], .unreadableDocument⟩])
  | .unreadable => Response.refusal 400 "There was an error parsing the body"

end LabelPress.Http
