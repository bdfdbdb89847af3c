import LabelPress.Image.Padding
import LabelPress.Job
import LabelPress.Json.Numeric
import LabelPress.Number.Numeral
import LabelPress.Text.Search

/-!
# The raster renderer

Everything but QR symbols can be drawn by the raster engine. The renderer checks the options,
turns them into a query and frames the image that comes back. The engine measures heights in
inches, and only those of linear symbologies are passed on; the scale factor is the extra setting
`scaleX` if there is one.

## Main definitions

* `Options.rasterQuery`: the query for given options.
* `renderRaster`: the job of drawing them.
-/

namespace LabelPress.Render

open LabelPress.Json LabelPress.Image LabelPress.Number LabelPress.Text

/-- The identifiers of linear symbologies, the only ones whose height is passed on. -/
def linearIds : List String :=
  ["code128", "code39", "ean13", "upca", "ean8", "code93", "itf14"]

/-- The length of an inch in millimetres. -/
def inch : Binary64 :=
  .ofDecimal false 254 (-1)

/-- A height in millimetres as a floating point number. -/
def heightNumber (height : Value) : Except Fault Binary64 :=
  match height with
  | .float x => .ok x
  | v =>
    match v.toCount with
    | .error f => .error f
    | .ok n =>
      match Binary64.ofInt? n with
      | some x => .ok x
      | none => .error .floatOverflow

/-- The form in which inches are written. -/
def inchForm : NumeralForm := ⟨.positional, 3, false⟩

/-- A height in millimetres as inches with three decimal places, computed in binary floating
point. -/
def inches (height : Value) : Except Fault String :=
  (heightNumber height).map fun x => String.ofList ((x.div inch).written inchForm)

/-- Whether an identifier is that of a linear symbology. Lists and objects cannot even be looked
for. -/
def isLinearId : Value → Except Fault Bool
  | .string s => .ok (linearIds.contains s)
  | .list _ => .error (.unhashable "list")
  | .object _ => .error (.unhashable "dict")
  | _ => .ok false

/-- An extra setting written as a string, if it is there. -/
def extraText? (extras : Value) (name : String) : Except Fault (Option RawText) :=
  match extras with
  | .object members =>
    match Members.get? members name with
    | none => .ok none
    | some v => v.written.map some
  | .list items =>
    if items.any fun v => v.string? == some name then .error .listIndex else .ok none
  | .string s => if occursIn name.toList s.toList then .error .stringIndex else .ok none
  | .unpaired t =>
    if occursIn name.toList (RawText.chars t.points) then .error .stringIndex else .ok none
  | v => .error (.notContainer v.kindName)

namespace Options

/-- The height that is passed on to the engine. -/
def engineHeight (o : Options) : Except Fault (Option String) :=
  match isLinearId o.rendererId with
  | .error f => .error f
  | .ok false => .ok none
  | .ok true =>
    match o.height.isAbove 0 with
    | .error f => .error f
    | .ok false => .ok none
    | .ok true => (inches o.height).map some

/-- The settings that are passed on to the engine. -/
def engineSettings (o : Options) : Except Fault EngineSettings :=
  match o.engineHeight with
  | .error f => .error f
  | .ok height =>
    match extraText? o.extras "columns" with
    | .error f => .error f
    | .ok columns =>
      match extraText? o.extras "rows" with
      | .error f => .error f
      | .ok rows => .ok
        { background := o.background
          textAlign := if o.includeText.isTruthy then some o.textAlign else none
          height := height
          columns := columns
          rows := rows }

/-- The scale factor before it is turned into an integer. -/
def rasterScale (o : Options) : Except Fault Value :=
  match o.extras with
  | .object members => .ok ((Members.get? members "scaleX").getD o.scale)
  | v => .error (.lacksAttribute v.kindName "get")

/-- Refuses an empty payload and a general scale factor below one. -/
def checkRaster (o : Options) : Except Fault Unit :=
  if !o.text.isTruthy then
    match o.rendererId.written with
    | .error f => .error f
    | .ok id => .error (.emptyPayload (RawText.shown id))
  else
    match o.scale.isBelow 1 with
    | .error f => .error f
    | .ok true => .error .scaleTooSmall
    | .ok false => .ok ()

/-- The scale factor that is passed on to the engine. -/
def engineScale (o : Options) : Except Fault Int :=
  match o.rasterScale with
  | .error f => .error f
  | .ok scale => scale.toInteger

/-- The query to the raster engine for given options. -/
def rasterQuery (o : Options) : Except Fault RasterQuery :=
  match o.checkRaster with
  | .error f => .error f
  | .ok () =>
    match o.engineScale with
    | .error f => .error f
    | .ok scale =>
      match o.engineSettings with
      | .error f => .error f
      | .ok settings => .ok ⟨o.rendererId, o.text, settings, scale⟩

end Options

/-- A fault as what ends a rendering. -/
def stopOnFault {α : Type} : Except Fault α → Except Stop α
  | .ok a => .ok a
  | .error f => .error (.fault f)

/-- Draws a barcode with the raster engine. -/
def renderRaster (o : Options) : Job (Except Stop (Grid Rgb)) :=
  match o.rasterQuery with
  | .error f => .done (.error (.fault f))
  | .ok q =>
    .log (.rasterRender q) <| .ask (.raster q) fun answer =>
      match answer with
      | .error e => .done (.error e)
      | .ok image => .done (stopOnFault (image.padded o.padding o.background))

end LabelPress.Render
