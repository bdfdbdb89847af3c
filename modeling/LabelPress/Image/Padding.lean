import LabelPress.Image.Colour
import LabelPress.Image.Extent

/-!
# Padding

An image is converted to plain colours and, if the padding is positive, surrounded by a border of
the background colour. Without padding the background is not looked at, so it need not be a colour.
-/

namespace LabelPress.Image

open LabelPress.Json

/-- A border that there is always room for: no image in plain colours has a side within sixteen
pixels of the longest. -/
def sureBorder : Int := 8

/-- Surrounds an image with a border of some width, which must be a whole number. The sides of what
comes of it must not be too long. -/
def bordered (image : Grid Rgb) (padding : Value) (border : Colour) : Except Fault (Grid Rgb) :=
  match padding.toCount with
  | .error f => .error f
  | .ok n =>
    if n ≤ sureBorder then .ok (image.frame n.toNat border.toRgb)
    else
      match checkSide (image.width + 2 * n) with
      | .error f => .error f
      | .ok () =>
        match checkSide (image.height + 2 * n) with
        | .error f => .error f
        | .ok () => .ok (image.frame n.toNat border.toRgb)

/-- Converts an image to plain colours and surrounds it with `padding` cells of the background. -/
def Picture.padded (image : Picture) (padding background : Value) : Except Fault (Grid Rgb) :=
  match padding.isAtMost 0 with
  | .error f => .error f
  | .ok true => .ok image.toRgb
  | .ok false =>
    match Colour.ofValue background with
    | .error f => .error f
    | .ok c => bordered image.toRgb padding c

/-- What precedes the encoded image in a data URL. -/
def dataUrlMark : String := "data:image/png;base64"

/-- Refuses an image that cannot be written to a file, since it has no pixels. -/
def Picture.checkWritable (image : Picture) : Except Fault Unit :=
  if image.toRgb.width = 0 || image.toRgb.height = 0 then .error .emptyImage else .ok ()

end LabelPress.Image
