import LabelPress.Image.Pixel
import LabelPress.Qr.Matrix

/-!
# Images of QR symbols

The symbol of version `v` has `17 + 4 * v` modules on each side, and a margin of light modules
around it. Its image is a square of pixels of any size, each showing the module that its centre
falls on. What every symbol has is the finder pattern in three corners, whose middle row shows one
dark, one light, three dark, one light and one dark module.

The image takes all modules to compute. Its first runs in the middle of the finder pattern need none
of them, and its corner needs them only if there are few pixels.

## Main definitions

* `Symbol.modulesAcross`: the number of modules on a side, margins included.
* `Symbol.shownModule`: the module shown by a column of pixels.
* `Symbol.image`: the image, pixel by pixel.
* `Symbol.finderRow?`: the first runs of pixels of a row through the middle of the finder pattern.
* `Symbol.corner`: the pixel in the top left corner.
-/

namespace LabelPress.Qr

open LabelPress.Image

/-- The image of a QR symbol. -/
structure Symbol where
  /-- The level of error correction. -/
  level : Level
  /-- The payload. -/
  payload : List UInt8
  /-- The version of the symbol. -/
  version : Nat
  /-- The number of pixels on a side. -/
  size : Nat
  /-- The number of light modules around the symbol. -/
  margin : Nat
  /-- The colour of dark modules. -/
  dark : Rgb
  /-- The colour of light modules. -/
  light : Rgb
  deriving Repr, DecidableEq

/-- The module, of `modules` across, that pixel `x`, of `size` across, shows: the one on which the
centre of the pixel falls. -/
def moduleShown (modules size x : Nat) : Nat :=
  (2 * x + 1) * modules / (2 * size)

/-- How many pixels, of `size` across, show one of the modules from `first` up to but not including
`last`. -/
def pixelsShowing (modules size first last : Nat) : Nat :=
  (List.range size).countP fun x =>
    first ≤ moduleShown modules size x && moduleShown modules size x < last

namespace Symbol

/-- The number of modules on a side of the image. -/
def modulesAcross (s : Symbol) : Nat :=
  symbolSide s.version + 2 * s.margin

/-- The module that a column of pixels shows, counted from the edge of the margin. -/
def shownModule (s : Symbol) (x : Nat) : Nat :=
  moduleShown s.modulesAcross s.size x

/-- Whether the module in a column and a row is dark. Both are counted from the edge of the margin,
which is light. -/
def isDark (s : Symbol) (column row : Nat) : Bool :=
  s.margin ≤ column && s.margin ≤ row &&
    (modules s.level s.version s.payload).get (row - s.margin) (column - s.margin) false

/-- The pixel in a column and a row of the image: the colour of the module that both show. -/
def pixel (s : Symbol) (x y : Nat) : Rgb :=
  if s.isDark (s.shownModule x) (s.shownModule y) then s.dark else s.light

/-- The image of a symbol. -/
def image (s : Symbol) : Grid Rgb :=
  Grid.ofFn s.size s.size fun x y => s.pixel x y

/-- The bands of the middle row of the finder pattern in the top left corner, from the edge of the
image: whether a band is dark, and the modules that it spans. -/
def finderBands (s : Symbol) : List (Bool × Nat × Nat) :=
  let m := s.margin
  (if m = 0 then [] else [(false, 0, m)]) ++
    [(true, m, m + 1), (false, m + 1, m + 2), (true, m + 2, m + 5), (false, m + 5, m + 6),
     (true, m + 6, m + 7)]

/-- The first runs of equal pixels of a row through the middle of the finder pattern. Without at
least one pixel for each module the row is not determined. -/
def finderRow? (s : Symbol) : Option (List (Rgb × Nat)) :=
  if s.size < s.modulesAcross then none
  else if s.dark = s.light then some [(s.dark, s.size)]
  else some <| s.finderBands.map fun (isDark, first, last) =>
    (if isDark then s.dark else s.light, pixelsShowing s.modulesAcross s.size first last)

/-- The side of a finder pattern with its light border. -/
def finderSide : Nat := 8

/-- Whether a module on the diagonal of the symbol, margins left out, is dark. In the finder pattern
its frame and its middle are, whatever the payload. -/
def diagonalIsDark (s : Symbol) (i : Nat) : Bool :=
  if i < finderSide then i = 0 || i = 6 || (2 ≤ i && i ≤ 4)
  else (modules s.level s.version s.payload).get i i false

/-- The pixel in the top left corner. In an image with few pixels it shows a module further down the
diagonal. -/
def corner (s : Symbol) : Rgb :=
  let i := s.shownModule 0
  if s.margin ≤ i && s.diagonalIsDark (i - s.margin) then s.dark else s.light

end Symbol

end LabelPress.Qr
