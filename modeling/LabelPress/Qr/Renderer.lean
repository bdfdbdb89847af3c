import LabelPress.Image.Colour
import LabelPress.Image.Extent
import LabelPress.Json.Arguments
import LabelPress.Qr.Symbol
import LabelPress.Qr.Version
import LabelPress.Text.Utf8

/-!
# The QR renderer

A renderer holds the settings of every symbol that it draws. It is made from values of any kind that
are checked one after the other: the level, the size, the margin, the dark colour and the light
colour. Size and margin are kept as they were given; whether the size is a whole number shows only
when an image is drawn.

A symbol is laid out first, which settles its version, and drawn afterwards.

## Main definitions

* `Renderer.make`, `Renderer.ofMembers`: a renderer from its settings.
* `Renderer.layOut`: the layout of the symbol for a payload.
* `Renderer.draw`: the image of a layout.
-/

namespace LabelPress.Qr

open LabelPress.Image LabelPress.Json LabelPress.Text

/-- The settings of QR symbols. -/
structure Renderer where
  /-- The number of pixels on a side. -/
  size : Value
  /-- The number of light modules around a symbol. -/
  margin : Value
  /-- The level of error correction. -/
  level : Level
  /-- The colour of dark modules. -/
  foreground : Colour
  /-- The colour of light modules. -/
  background : Colour
  deriving Repr

/-- A symbol that has been laid out. -/
structure Layout where
  /-- The payload of the symbol. -/
  payload : List UInt8
  /-- The version of the symbol. -/
  version : Nat
  /-- The number of light modules around it. -/
  margin : Nat
  deriving Repr, DecidableEq

namespace Layout

/-- The pixels on a side of a module before an image is brought to its size. -/
def modulePixels : Nat := 10

/-- The number of modules on a side, margins included. -/
def modulesAcross (l : Layout) : Nat :=
  symbolSide l.version + 2 * l.margin

/-- The pixels on a side before an image is brought to its size. -/
def nativeSize (l : Layout) : Nat :=
  modulePixels * l.modulesAcross

end Layout

namespace Renderer

/-- A level of error correction from a value, which must be a string. -/
def readLevel (v : Value) : Except Fault Level :=
  match v.toText "upper" with
  | .error f => .error f
  | .ok s =>
    match Level.parse? s with
    | none => .error .unknownLevel
    | some l => .ok l

/-- Refuses a size that is not positive. -/
def checkSize (size : Value) : Except Fault Unit :=
  match size.isAtMost 0 with
  | .error f => .error f
  | .ok true => .error .sizeNotPositive
  | .ok false => .ok ()

/-- Refuses a negative margin. -/
def checkMargin (margin : Value) : Except Fault Unit :=
  match margin.isBelow 0 with
  | .error f => .error f
  | .ok true => .error .marginNegative
  | .ok false => .ok ()

/-- A renderer with the given settings, or the first fault among them. -/
def make (size margin level foreground background : Value) : Except Fault Renderer :=
  match readLevel level with
  | .error f => .error f
  | .ok l =>
    match checkSize size with
    | .error f => .error f
    | .ok () =>
      match checkMargin margin with
      | .error f => .error f
      | .ok () =>
        match Colour.ofValue foreground with
        | .error f => .error f
        | .ok fg => (Colour.ofValue background).map fun bg => ⟨size, margin, l, fg, bg⟩

/-- The names of the settings. -/
def parameters : Parameters where
  callable := "QRRenderer.__init__"
  needed := []
  possible := ["size", "margin", "error_correction", "foreground_color", "background_color"]

/-- A renderer from named settings, all of which have defaults. -/
def ofMembers (ms : Members) : Except Fault Renderer :=
  match parameters.check ms with
  | .error f => .error f
  | .ok () =>
    make ((ms.get? "size").getD (.int 200)) ((ms.get? "margin").getD (.int 2))
      ((ms.get? "error_correction").getD (.string "L"))
      ((ms.get? "foreground_color").getD (.string "#000000"))
      ((ms.get? "background_color").getD (.string "#FFFFFF"))

/-- The layout of the symbol for a payload. What is not a string is taken as it is written. -/
def layOut (r : Renderer) (payload : Value) : Except Fault Layout :=
  if !payload.isTruthy then .error (.emptyPayload "QR")
  else
    match r.margin.toInteger with
    | .error f => .error f
    | .ok margin =>
      match payload.encoded with
      | .error f => .error f
      | .ok bytes =>
        match versionFor? r.level bytes with
        | none => .error .versionOverflow
        | some v => .ok ⟨bytes, v, margin.toNat⟩

/-- The number of pixels on a side of the image of a layout. A number with a fraction will do only
if the image has that size anyway. -/
def side (r : Renderer) (l : Layout) : Except Fault Nat :=
  match r.size.toCount with
  | .ok n => (checkSide n).map fun () => n.toNat
  | .error f =>
    match r.size with
    | .float x => if x.compareInt l.nativeSize = some .eq then .ok l.nativeSize else .error f
    | _ => .error f

/-- The image of a layout. It is drawn with whole pixels for each module first, and brought to its
size afterwards; both images must be possible. -/
def draw (r : Renderer) (l : Layout) : Except Fault Symbol :=
  match checkSide l.nativeSize with
  | .error f => .error f
  | .ok () =>
    (r.side l).map fun size =>
      ⟨r.level, l.payload, l.version, size, l.margin, r.foreground.toRgb, r.background.toRgb⟩

end Renderer

end LabelPress.Qr
