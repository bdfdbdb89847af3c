import LabelPress.Render.Raster
import LabelPress.Text.Blank
import LabelPress.Text.Utf8

/-!
# The Data Matrix renderer

The payload is encoded as UTF-8 and handed to the encoder, which returns a grid of modules. The grid
is enlarged by a whole factor, never reduced, and framed. Width and height of the options do not
matter here.

## Main definitions

* `Encoded.image`: the image of an encoded matrix, if it has enough bytes.
* `renderDataMatrix`: the job of drawing a Data Matrix.
-/

namespace LabelPress.Render

open LabelPress.Json LabelPress.Image LabelPress.Text

/-- The longest payload in bytes. -/
def maxPayloadBytes : Nat := 2000

/-- Whether a payload consists of blanks only. -/
def isBlankPayload (payload : String) : Bool :=
  (strip payload.toList).isEmpty

/-- Refuses a blank payload and one that is too long. -/
def checkDataMatrix (payload : String) : Except Fault Unit :=
  if isBlankPayload payload then .error (.emptyPayload "DataMatrix")
  else if maxPayloadBytes < (utf8Bytes payload).length then .error .payloadTooLarge
  else .ok ()

/-- The module in column `x` and row `y` of an encoded matrix. -/
def Encoded.module (e : Encoded) (x y : Nat) : Rgb :=
  let start := 3 * (y * e.width + x)
  ⟨e.bytes.getD start 0, e.bytes.getD (start + 1) 0, e.bytes.getD (start + 2) 0⟩

/-- The image of an encoded matrix. Bytes beyond its size are ignored. -/
def Encoded.image (e : Encoded) : Except Fault (Grid Rgb) :=
  if e.bytes.size < 3 * e.width * e.height then .error .incompleteImage
  else .ok (Grid.ofFn e.width e.height fun x y => e.module x y)

/-- An image enlarged by a whole factor. A factor of one changes nothing, and neither does any other
factor to an image that has no pixels in either direction. -/
def enlarged (factor : Int) (image : Grid Rgb) : Except Fault (Grid Rgb) :=
  if factor ≤ 1 || (image.width = 0 && image.height = 0) then .ok image
  else
    match checkSide (image.width * factor) with
    | .error f => .error f
    | .ok () =>
      match checkSide (image.height * factor) with
      | .error f => .error f
      | .ok () =>
        if image.width = 0 || image.height = 0 then .error .emptyEnlargement
        else .ok (image.enlarge factor.toNat)

/-- The image of an encoded matrix, enlarged as the options say. -/
def Options.enlargedMatrix (o : Options) (e : Encoded) : Except Fault (Grid Rgb) :=
  match e.image with
  | .error f => .error f
  | .ok modules =>
    match o.scale.toInteger with
    | .error f => .error f
    | .ok factor => enlarged factor modules

/-- The image of an encoded matrix, enlarged and framed as the options say. -/
def Options.matrixImage (o : Options) (e : Encoded) : Except Fault (Grid Rgb) :=
  match o.enlargedMatrix e with
  | .error f => .error f
  | .ok image => (Picture.rgb image).padded o.padding o.background

/-- The payload of options, which must be a string that the encoder can take. A string that is no
text is not blank, but it cannot be encoded. -/
def Options.matrixPayload (o : Options) : Except Fault String :=
  match o.text with
  | .string payload => (checkDataMatrix payload).map fun () => payload
  | .unpaired t => .error (.unencodable t.firstRun)
  | v => .error (.lacksAttribute v.kindName "strip")

/-- Draws a Data Matrix; `available` says whether there is an encoder. -/
def renderDataMatrix (available : Bool) (o : Options) : Job (Except Stop (Grid Rgb)) :=
  match o.matrixPayload with
  | .error f => .done (.error (.fault f))
  | .ok payload =>
    if available then
      .ask (.dataMatrix (utf8Bytes payload)) fun answer =>
        match answer with
        | .error e => .done (.error e)
        | .ok encoded => .done (stopOnFault (o.matrixImage encoded))
    else .done (.error (.fault .encoderUnavailable))

end LabelPress.Render
