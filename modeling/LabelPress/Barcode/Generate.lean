import LabelPress.Barcode.Normalise
import LabelPress.Barcode.Options
import LabelPress.Qr.Renderer
import LabelPress.Render.DataMatrix

/-!
# Generating barcodes

A request goes one of three ways. QR symbols are drawn by the QR renderer. Data Matrix is tried
with its own renderer first, and if that fails the request is treated as one for Code 128.
Everything else, types that are not known among it, goes to the raster engine after its payload
has been normalised.

## Main definitions

* `Outcome`: how a generation ends.
* `generate`: the job of generating one barcode.
-/

namespace LabelPress.Barcode

open LabelPress.Image LabelPress.Render

/-- The renderers that a generation uses. -/
structure Context where
  /-- The QR renderer. -/
  qr : Qr.Renderer
  /-- Whether the Data Matrix encoder is there. -/
  encoderAvailable : Bool
  deriving Repr

/-- An image that was generated. -/
inductive Drawing where
  /-- An image in colours. -/
  | bitmap (image : Grid Rgb)
  /-- The image of a QR symbol. -/
  | qr (symbol : Qr.Symbol)

/-- How a generation ends. -/
inductive Outcome where
  /-- A barcode was drawn. -/
  | success (drawing : Drawing)
  /-- The payload does not fit its symbology, and nothing was drawn. -/
  | warning (warning : LengthWarning)
  /-- A fault made the generation fail. -/
  | failure (cause : Fault)
  /-- An engine aborted. -/
  | aborted (message : String)

/-- The wording of a failed generation. -/
def failureMessage (cause : Fault) : String :=
  "Barcode generation failed: " ++ cause.message

/-- The outcome of a rendering. -/
def outcomeOf : Except Stop (Grid Rgb) → Outcome
  | .ok image => .success (.bitmap image)
  | .error (.fault f) => .failure f
  | .error (.abort m) => .aborted m

/-- The outcome of drawing a QR symbol. -/
def outcomeOfQr : Except Fault Qr.Symbol → Outcome
  | .ok s => .success (.qr s)
  | .error f => .failure f

/-- Draws the QR symbol of a value. -/
def drawQr (c : Context) (payload : Json.Value) : Job Outcome :=
  match c.qr.layOut payload with
  | .error f => .done (.failure f)
  | .ok l =>
    .log (.qrRender l.version c.qr.size c.qr.margin c.qr.level)
      (.done (outcomeOfQr (c.qr.draw l)))

/-- Draws the QR symbol of a payload. -/
def generateQr (c : Context) (data : String) : Job Outcome :=
  drawQr c (.string data)

/-- The events about a type that the raster engine does not draw. -/
def rendererIdEvents (d : Designator) : List Event :=
  if d.knownRendererId?.isSome then []
  else [.rendererIdDefaulted d.shown Designator.defaultRendererId]

/-- Draws what the options for a designated type say with the raster engine. -/
def drawOptions (d : Designator) (o : Options) : Job Outcome :=
  Job.logAll (rendererIdEvents d) <| .log (.optionsSettled o) <| (renderRaster o).map outcomeOf

/-- Draws a normalised payload with the raster engine. -/
def drawRaster (r : Request) (data : String) : Job Outcome :=
  drawOptions r.designator (r.rasterOptions data)

/-- Normalises the payload of a request and draws it with the raster engine. -/
def generateRaster (r : Request) : Job Outcome :=
  match normalise r with
  | .error f => .done (.failure f)
  | .ok n =>
    Job.logAll (Event.ofNormalised n) <|
      match n.payload with
      | .error w => .done (.warning w)
      | .ok data => drawRaster r data

/-- Draws the Data Matrix that options ask for, or goes on with another job if that fails. -/
def drawMatrixOr (c : Context) (o : Options) (fallback : Job Outcome) : Job Outcome :=
  (renderDataMatrix c.encoderAvailable o).bind fun drawn =>
    match drawn with
    | .error (.fault f) => .log (.dataMatrixFallback f.message) fallback
    | drawn => .done (outcomeOf drawn)

/-- Draws a Data Matrix, or a Code 128 if that fails. -/
def generateDataMatrix (c : Context) (r : Request) : Job Outcome :=
  drawMatrixOr c r.dataMatrixOptions (generateRaster (r.withSymbology .code128))

/-- Sends a request the way that its symbology calls for. -/
def dispatch (c : Context) (r : Request) : Job Outcome :=
  match r.symbology? with
  | some .qr => generateQr c r.data
  | some .dataMatrix => generateDataMatrix c r
  | _ => generateRaster r

/-- Reports a failure. -/
def reportFailure (r : Request) : Outcome → Job Outcome
  | .failure f => .log (.generationFailed r.type.val f.message) (.done (.failure f))
  | o => .done o

/-- Generates one barcode. -/
def generate (c : Context) (r : Request) : Job Outcome :=
  (dispatch c r).bind (reportFailure r)

end LabelPress.Barcode
