import LabelPress.Barcode.Generate
import LabelPress.Validation.Error
import LabelPress.Zpl.Directive

/-!
# Replies

What the service tells its clients, apart from images. A reply is written as a document; how a
drawing is written into it is left open, since only its encoding as a file depends on that.

## Main definitions

* `Item`: the report on one barcode.
* `Reply`: everything that can be told.
* `Reply.toValue`: the document, given the writing of drawings.
-/

namespace LabelPress.Http

open LabelPress.Json LabelPress.Barcode LabelPress.Validation LabelPress.Zpl

/-- How the generation of a barcode went. -/
inductive ItemKind where
  | success
  | warning
  | error
  deriving Repr, DecidableEq

/-- The word for how a generation went. -/
def ItemKind.name : ItemKind → String
  | success => "success"
  | warning => "warning"
  | error => "error"

/-- The report on one barcode. -/
structure Item where
  /-- How the generation went. -/
  kind : ItemKind
  /-- The type as it was asked for. -/
  type : String
  /-- The barcode, if one was drawn. -/
  drawing : Option Drawing := none
  /-- Why there is none. -/
  message : Option String := none
  /-- The symbology suggested instead. -/
  fallback : Option Symbology := none

namespace Item

/-- The report that a generation failed. -/
def failed (type message : String) : Item where
  kind := .error
  type := type
  message := some message

/-- The report on an outcome. -/
def ofOutcome (type : String) : Outcome → Item
  | .success d => { kind := .success, type := type, drawing := some d }
  | .warning w =>
    { kind := .warning, type := type, message := some w.message, fallback := some w.fallback }
  | .failure f => failed type (failureMessage f)
  | .aborted m => failed type m

/-- A report as a document. -/
def toValue (write : Drawing → Value) (i : Item) : Value :=
  .object
    [("kind", .string i.kind.name), ("type", .string i.type),
     ("data_url", .ofOption write i.drawing), ("message", .ofOption .string i.message),
     ("fallback_type", .ofOption (fun s => .string s.name) i.fallback)]

end Item

/-- A step on the way to a field. -/
def stepValue : Step → Value
  | .member name => .string name
  | .item i => .int i

/-- The error of a field. -/
def errorValue (e : FieldError) : Value :=
  .object
    [("type", .string e.cause.kind), ("loc", .list (e.path.map stepValue)),
     ("msg", .string e.cause.message)]

/-- What the service tells a client. -/
inductive Reply where
  /-- The service is up; Data Matrix may be missing. -/
  | health (version : String) (dataMatrixAvailable : Bool)
  /-- The report on one barcode. -/
  | item (i : Item)
  /-- The reports on several barcodes. -/
  | items (is : List Item)
  /-- The directives of a label document. -/
  | directives (ds : List Directive)
  /-- The directives of a label document, and the reports on their barcodes. -/
  | rendered (ds : List Directive) (is : List Item)
  /-- A label with one barcode of a symbology. -/
  | template (symbology : Symbology) (label : String)
  /-- The request cannot be served, for this reason. -/
  | detail (reason : String)
  /-- The payload does not fit its symbology. -/
  | lengthDetail (warning : LengthWarning)
  /-- Fields of the request are not valid. -/
  | errors (es : List FieldError)

namespace Reply

/-- The word for the state of a part of the service. -/
def partWord (available : Bool) : String :=
  if available then "ok" else "unavailable"

/-- The word for the state of the whole service. -/
def overallWord (available : Bool) : String :=
  if available then "healthy" else "degraded"

/-- Directives as a list of documents. -/
def directiveList (ds : List Directive) : Value :=
  .list (ds.map fun d => .object d.entries)

/-- A reply as a document. -/
def toValue (write : Drawing → Value) : Reply → Value
  | health version available =>
    .object
      [("status", .string (overallWord available)), ("version", .string version),
       ("checks",
         .object [("qr", .string (partWord true)), ("datamatrix", .string (partWord available))])]
  | item i => i.toValue write
  | items is => .object [("items", .list (is.map (Item.toValue write)))]
  | directives ds => .object [("directives", directiveList ds), ("count", .int ds.length)]
  | rendered ds is =>
    .object [("directives", directiveList ds), ("items", .list (is.map (Item.toValue write)))]
  | template s label => .object [("type", .string s.name), ("zpl", .string label)]
  | detail reason => .object [("detail", .string reason)]
  | lengthDetail w =>
    .object
      [("detail",
        .object [("message", .string w.message), ("fallback_type", .string w.fallback.name)])]
  | errors es => .object [("detail", .list (es.map errorValue))]

end Reply

end LabelPress.Http
