import LabelPress.Symbology
import LabelPress.Validation.Check

/-!
# Barcode requests

A request names a type, a payload and possibly a height. The bounds on the length of the type and on
the height belong to the types of these fields, so every request satisfies them.

The payload of a request is a text. What a client sends can have another payload, since nothing is
asked of it but that it is a string. Such a request is a raw one, and raw requests are what the
service takes.

## Main definitions

* `Request.check`: a request from a value whose payload is a text.
* `checkBatch`: the requests of a batch, of which there must be at least one.
* `RawRequest.check`, `RawRequest.checkBatch`: the same for payloads that are any strings.
-/

namespace LabelPress.Barcode

open LabelPress.Json LabelPress.Text LabelPress.Validation

/-- The text of a barcode type: one to thirty-two characters. -/
abbrev TypeText := { s : String // 1 ≤ s.length ∧ s.length ≤ 32 }

/-- The name of a symbology as the text of a barcode type. -/
def typeOfSymbology (s : Symbology) : TypeText :=
  ⟨s.name, by cases s <;> decide⟩

/-- The height of bars: at least one and at most a thousand. -/
abbrev BarHeight := { n : Int // 0 < n ∧ n ≤ 1000 }

/-- A barcode to be generated. -/
structure Request where
  /-- The type as the caller wrote it. -/
  type : TypeText
  /-- The payload. -/
  data : String
  /-- The height asked for, if any. -/
  height : Option BarHeight
  deriving Repr, DecidableEq

/-- The height of bars, within its bounds. -/
def barHeight (n : Int) : Checked BarHeight :=
  between 0 1000 n

/-- A height that may be left out. -/
def checkHeight : Value → Checked (Option BarHeight)
  | .null => .ok none
  | v =>
    match integer v with
    | .error es => .error es
    | .ok n => (barHeight n).map some

/-- The text of a barcode type. -/
def checkType (v : Value) : Checked TypeText :=
  textBetween 1 32 v

namespace Request

/-- The symbology that a request names, if it is known. -/
def symbology? (r : Request) : Option Symbology :=
  Symbology.parse? r.type.val

/-- The request with another type. -/
def withSymbology (r : Request) (s : Symbology) : Request :=
  { r with type := typeOfSymbology s }

/-- The fields of a request among the members of an object, given the check of its payload. -/
def fieldsOf (checkData : Value → Checked α) (ms : Members) :
    Checked (TypeText × α × Option BarHeight) :=
  Checked.both (required ms "type" checkType)
    (Checked.both (required ms "data" checkData) (optional ms "height" none checkHeight))

/-- A request from the members of an object. -/
def ofMembers (ms : Members) : Checked Request :=
  (fieldsOf text ms).map fun (type, data, height) => ⟨type, data, height⟩

/-- The name of the model of a request. -/
def modelName : String := "BarcodeRequest"

/-- A request from a value. -/
def check (form : Form) (v : Value) : Checked Request :=
  match object form v with
  | .error es => .error es
  | .ok ms => ofMembers ms

end Request

/-- The name of the model of a batch. -/
def batchModelName : String := "BarcodeBatchRequest"

/-- The form in which the items of a batch are asked for. -/
def itemForm : Form → Form
  | .model _ => .model Request.modelName
  | .body => .body

/-- At least one item, each of which passes a check. -/
def checkItems (check : Value → Checked α) (v : Value) : Checked (List α) :=
  match listOf check v with
  | .error es => .error es
  | .ok [] => Checked.failed (.tooFewItems 1 0)
  | .ok rs => .ok rs

/-- The items of a batch, each of which passes a check. -/
def checkBatchOf (check : Form → Value → Checked α) (form : Form) (v : Value) : Checked (List α) :=
  match object form v with
  | .error es => .error es
  | .ok ms => required ms "requests" (checkItems (check (itemForm form)))

/-- The requests of a batch. -/
def checkBatch (form : Form) (v : Value) : Checked (List Request) :=
  checkBatchOf Request.check form v

/-! ### Requests whose payload is any string -/

/-- A barcode to be generated, with a payload that need not be a text. -/
structure RawRequest where
  /-- The type as the caller wrote it. -/
  type : TypeText
  /-- The payload. -/
  data : RawText
  /-- The height asked for, if any. -/
  height : Option BarHeight
  deriving Repr, DecidableEq

namespace RawRequest

/-- A request as a raw one. -/
def ofRequest (r : Request) : RawRequest :=
  ⟨r.type, .ofText r.data, r.height⟩

/-- The request with the text that is shown for the payload. It is the request itself if the payload
is a text. -/
def shown (r : RawRequest) : Request :=
  ⟨r.type, RawText.shown r.data, r.height⟩

/-- The payload as a value. -/
def payload (r : RawRequest) : Value :=
  .ofPoints r.data

/-- The symbology that a request names, if it is known. -/
def symbology? (r : RawRequest) : Option Symbology :=
  Symbology.parse? r.type.val

/-- The request with another type. -/
def withSymbology (r : RawRequest) (s : Symbology) : RawRequest :=
  { r with type := typeOfSymbology s }

/-- A raw request from the members of an object. -/
def ofMembers (ms : Members) : Checked RawRequest :=
  (Request.fieldsOf anyText ms).map fun (type, data, height) => ⟨type, data, height⟩

/-- A raw request from a value. -/
def check (form : Form) (v : Value) : Checked RawRequest :=
  match object form v with
  | .error es => .error es
  | .ok ms => ofMembers ms

/-- The raw requests of a batch. -/
def checkBatch (form : Form) (v : Value) : Checked (List RawRequest) :=
  checkBatchOf check form v

end RawRequest

end LabelPress.Barcode
