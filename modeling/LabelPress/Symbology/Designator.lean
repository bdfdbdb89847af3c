import LabelPress.Json.Display
import LabelPress.Symbology

/-!
# Designators

What a caller passes where a barcode type is expected: a symbology itself, or any value, of which
only strings can name a symbology. Where nothing is designated, or something that the raster engine
does not draw, the engine is asked for Code 128.
-/

namespace LabelPress

open LabelPress.Json

/-- A symbology, or a value that may name one. -/
inductive Designator where
  /-- The symbology itself. -/
  | symbology (s : Symbology)
  /-- A value passed by a caller. -/
  | value (v : Value)

namespace Designator

/-- A text as a designator. -/
def ofText (s : String) : Designator :=
  .value (.string s)

/-- The symbology designated, if any. -/
def parse? : Designator → Option Symbology
  | .symbology s => some s
  | .value (.string s) => Symbology.parse? s
  | .value _ => none

/-- A designator as it is shown in log events. -/
def shown : Designator → String
  | .symbology s => "Symbology." ++ s.name
  | .value v => v.shown

/-- The identifier that the raster engine is asked for when nothing better is known. -/
def defaultRendererId : String := "code128"

/-- The identifier under which the raster engine draws what is designated, if it does. -/
def knownRendererId? (d : Designator) : Option String :=
  d.parse?.bind Symbology.rendererId?

/-- The identifier that the raster engine is asked for. -/
def rendererId (d : Designator) : String :=
  d.knownRendererId?.getD defaultRendererId

end Designator

end LabelPress
