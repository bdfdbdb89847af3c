import LabelPress.Barcode.Batch

/-!
# Payloads that are no texts

A request as it was sent can have a payload with half of a surrogate pair in it. Such a payload goes
the way that its symbology calls for, like any other, but not all the way. It cannot be encoded, so
there is no QR symbol and no Data Matrix of it. A half is not a digit, so there is no check digit
for it either. What goes to the raster engine goes there as it is.

A warning repeats the payload. If the payload is no text the warning cannot be written down, and
nothing is left to tell the client.

## Main definitions

* `RawRequest.generate`, `RawRequest.generateAll`: the generation of barcodes for raw requests.
* `RawRequest.canReport`: whether the outcome of a request can be told.
-/

namespace LabelPress.Barcode

open LabelPress.Json LabelPress.Text LabelPress.Render LabelPress.CheckDigit

/-- Whether a code point is not a decimal digit. -/
def isNoDigit (p : CodePoint) : Bool :=
  !p.satisfies isDecimalDigit

/-- Among the code points of what is no text there is one that is not a digit. -/
theorem isSome_find?_isNoDigit (t : Unpaired) : (t.points.find? isNoDigit).isSome = true := by
  rw [List.find?_isSome]
  obtain ⟨p, hp, hhalf⟩ := List.all_eq_false.mp t.notText
  cases p with
  | char c => exact absurd rfl hhalf
  | half s => exact ⟨_, hp, rfl⟩

/-- The fault of a code point that should be a digit. -/
def digitFault : CodePoint → Fault
  | .char c => .notAnInteger (String.singleton c)
  | .half s => .unpairedInteger (.single s)

/-- The fault of the first code point that is not a digit. -/
def firstDigitFault (t : Unpaired) : Fault :=
  digitFault ((t.points.find? isNoDigit).get (isSome_find?_isNoDigit t))

/-- What comes of a payload that is no text under a scheme of check digits. Nothing is drawn:
because of its length, or else because of the first code point that is not a digit. -/
def refuse (s : Scheme) (t : Unpaired) : Job Outcome :=
  if t.points.length = s.payloadLength ∨ t.points.length = s.codeLength then
    .done (.failure (firstDigitFault t))
  else .log (.lengthInvalid s t.points.length) (.done (.warning ⟨s, t.shown⟩))

namespace RawRequest

/-- The options for drawing the payload of a request with the raster engine, as it is. -/
def rasterOptions (r : RawRequest) : Options :=
  { r.shown.rasterOptions r.shown.data with text := r.payload }

/-- The options for encoding the payload of a request as a Data Matrix. -/
def dataMatrixOptions (r : RawRequest) : Options :=
  { r.shown.dataMatrixOptions with text := r.payload }

/-- Draws a payload that is no text with the raster engine, unless there are check digits in its
symbology. -/
def drawUnpaired (r : RawRequest) (t : Unpaired) : Job Outcome :=
  match r.symbology?.bind Scheme.ofSymbology? with
  | some s => refuse s t
  | none => drawOptions r.shown.designator r.rasterOptions

/-- Sends a payload that is no text the way that its symbology calls for. -/
def dispatchUnpaired (c : Context) (r : RawRequest) (t : Unpaired) : Job Outcome :=
  match r.symbology? with
  | some .qr => drawQr c (.unpaired t)
  | some .dataMatrix =>
    drawMatrixOr c r.dataMatrixOptions ((r.withSymbology .code128).drawUnpaired t)
  | _ => r.drawUnpaired t

/-- Generates one barcode for a request as it was sent. -/
def generate (c : Context) (r : RawRequest) : Job Outcome :=
  if h : RawText.isText r.data then Barcode.generate c r.shown
  else (r.dispatchUnpaired c ⟨r.data, by simpa using h⟩).bind (reportFailure r.shown)

/-- Generates the barcodes of a batch as it was sent, one after the other. -/
def generateAll (c : Context) (requests : List RawRequest) :
    Job (Except String (List Outcome)) :=
  (Job.sequence (requests.map (generate c))).bind finishBatch

/-- Whether the outcome of a request can be told: a warning repeats the payload, which must be a
text then. -/
def canReport (r : RawRequest) : Outcome → Bool
  | .warning _ => RawText.isText r.data
  | _ => true

end RawRequest

end LabelPress.Barcode
