import LabelPress.Image.Grid

/-!
# Pixels and images

Engines return images in one of four modes: two levels, shades of grey, colours, or colours with an
opacity. Every mode has a conversion to plain colours; the opacity is dropped, not blended.
-/

namespace LabelPress.Image

/-- A colour of three bytes. -/
structure Rgb where
  /-- The red part. -/
  red : UInt8
  /-- The green part. -/
  green : UInt8
  /-- The blue part. -/
  blue : UInt8
  deriving Repr, DecidableEq

/-- A colour with an opacity. -/
structure Rgba where
  /-- The colour. -/
  colour : Rgb
  /-- How opaque it is. -/
  alpha : UInt8
  deriving Repr, DecidableEq

/-- A shade of grey as a colour. -/
def Rgb.grey (v : UInt8) : Rgb := ⟨v, v, v⟩

/-- An image as an engine returns it. -/
inductive Picture where
  /-- Two levels: `true` is white. -/
  | bilevel (pixels : Grid Bool)
  /-- Shades of grey. -/
  | grey (pixels : Grid UInt8)
  /-- Colours. -/
  | rgb (pixels : Grid Rgb)
  /-- Colours with opacity. -/
  | rgba (pixels : Grid Rgba)

/-- An image in plain colours. -/
def Picture.toRgb : Picture → Grid Rgb
  | .bilevel g => g.map fun white => Rgb.grey (if white then 255 else 0)
  | .grey g => g.map Rgb.grey
  | .rgb g => g
  | .rgba g => g.map (·.colour)

end LabelPress.Image
