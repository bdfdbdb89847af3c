import LabelPress.Barcode.Request
import LabelPress.Render.Options
import LabelPress.Symbology.Preset

/-!
# From requests to render options

A preset of the symbology wins over the height of the request, which wins over the default. Data
Matrix has a compact configuration of its own, tried before the general one.
-/

namespace LabelPress.Barcode

open LabelPress.Json LabelPress.Render

/-- The height of bars when neither preset nor request sets one. -/
def defaultHeight : Int := 60

/-- The scale factor when the preset sets none. -/
def defaultScale : Int := 2

/-- The width of the border. -/
def defaultPadding : Int := 8

/-- The colour of the border. -/
def backgroundColour : String := "FFFFFF"

namespace Request

/-- The type of a request as a designator. -/
def designator (r : Request) : Designator :=
  .ofText r.type.val

/-- The preset that applies to a request. -/
def preset (r : Request) : Preset :=
  .ofDesignator r.designator

/-- The height of the bars for a request. -/
def effectiveHeight (r : Request) : Int :=
  (r.preset.height.or (r.height.map (·.val))).getD defaultHeight

/-- The options for drawing a payload for a request with the raster engine. -/
def rasterOptions (r : Request) (data : String) : Options where
  rendererId := .string r.designator.rendererId
  text := .string data
  scale := .int (r.preset.scale.getD defaultScale)
  height := .int r.effectiveHeight
  padding := .int defaultPadding
  includeText := .bool (r.preset.includeText.getD true)
  textAlign := .string "center"
  background := .string backgroundColour
  extras := .object r.preset.extras

/-- The options for encoding the payload of a request as a Data Matrix. -/
def dataMatrixOptions (r : Request) : Options where
  rendererId := .string "datamatrix"
  text := .string r.data
  scale := .int 1
  height := .int 50
  width := .int 50
  padding := .int 3
  includeText := .bool false
  background := .string backgroundColour

end Request

end LabelPress.Barcode
