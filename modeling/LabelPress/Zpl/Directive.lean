import LabelPress.Json.Value
import LabelPress.Symbology

/-!
# Directives

A barcode found in a label document: its symbology and data, where it stands, and how wide and high
its bars are to be. Documents do not set the width, the height and the options, so these have
defaults.
-/

namespace LabelPress.Zpl

open LabelPress.Json

/-- The width of the narrow bars of a directive. -/
def directiveWidth : Int := 2

/-- The height of the bars of a directive. -/
def directiveHeight : Int := 100

/-- A barcode at a position of a label. -/
structure Directive where
  /-- The symbology to use. -/
  symbology : Symbology
  /-- The payload to encode. -/
  data : String
  /-- The distance from the left edge of the label. -/
  x : Int := 0
  /-- The distance from the top edge of the label. -/
  y : Int := 0
  /-- The width of the narrow bars. -/
  width : Int := directiveWidth
  /-- The height of the bars. -/
  height : Int := directiveHeight
  /-- Further settings. -/
  options : Members := []

/-- The parts of a directive by name. -/
def Directive.entries (d : Directive) : Members :=
  [("type", .string d.symbology.name), ("data", .string d.data), ("x", .int d.x), ("y", .int d.y),
   ("width", .int d.width), ("height", .int d.height), ("options", .object d.options)]

end LabelPress.Zpl
