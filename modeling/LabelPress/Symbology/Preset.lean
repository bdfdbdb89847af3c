import LabelPress.Symbology.Designator

/-!
# Presets

Settings that a symbology brings with it. They take precedence over the general defaults and over
what a request asks for. Linear symbologies get short bars and no text below them; Data Matrix gets
a square of fixed height, and PDF417 a fixed layout.
-/

namespace LabelPress

open LabelPress.Json

/-- The settings fixed by a symbology. -/
structure Preset where
  /-- The scale factor, if it is fixed. -/
  scale : Option Int
  /-- The height, if it is fixed. -/
  height : Option Int
  /-- Whether the text is printed below the bars, if that is fixed. -/
  includeText : Option Bool
  /-- Settings with a meaning for this symbology alone. -/
  extras : Members

namespace Preset

/-- The preset that fixes nothing. -/
def free : Preset := ⟨none, none, none, []⟩

/-- The preset of a symbology. -/
def ofSymbology (s : Symbology) : Preset :=
  match s with
  | .dataMatrix => ⟨some 2, some 80, none, [("sizelimit", .int 1)]⟩
  | .pdf417 => ⟨none, none, none, [("columns", .int 2), ("rows", .int 10)]⟩
  | s => if s.isLinear then ⟨none, some 10, some false, [("scaleX", .int 2)]⟩ else free

/-- The preset of what is designated; nothing is fixed if that is no symbology. -/
def ofDesignator (d : Designator) : Preset :=
  (d.parse?.map ofSymbology).getD free

/-- The settings of a preset by name. -/
def entries (p : Preset) : Members :=
  (p.scale.map fun n => ("scale", Value.int n)).toList
    ++ (p.height.map fun n => ("height", Value.int n)).toList
    ++ (p.includeText.map fun b => ("includetext", Value.bool b)).toList
    ++ p.extras

end Preset

end LabelPress
