import LabelPress.Image.Pixel
import LabelPress.Fault
import LabelPress.Json.Value

/-!
# Queries to the engines

Bars and matrices are drawn by two engines outside this library. A query is what one of them is
asked; the type of its answer depends on the query. An engine answers with an image or with the
reason why there is none. What a renderer does not look into itself reaches the engine as it is.
-/

namespace LabelPress.Render

open LabelPress.Json LabelPress.Image LabelPress.Text

/-- The settings that the raster engine understands. -/
structure EngineSettings where
  /-- The background colour. -/
  background : Value
  /-- The alignment of the text below the bars, if it is printed. -/
  textAlign : Option Value
  /-- The height of the bars in inches, if it is set. -/
  height : Option String
  /-- The number of columns, if it is set. -/
  columns : Option RawText
  /-- The number of rows, if it is set. -/
  rows : Option RawText
  deriving Repr

/-- The settings that print the text below the bars. -/
def textEntries (align : Value) : Members :=
  [("includetext", .bool true), ("textxalign", align)]

/-- The settings by name. -/
def EngineSettings.entries (s : EngineSettings) : Members :=
  ("backgroundcolor", s.background)
    :: ((s.textAlign.map textEntries).getD []
      ++ (s.height.map fun h => ("height", Value.string h)).toList
      ++ (s.columns.map fun n => ("columns", Value.ofPoints n)).toList
      ++ (s.rows.map fun n => ("rows", Value.ofPoints n)).toList)

/-- What the raster engine is asked to draw. -/
structure RasterQuery where
  /-- The identifier of the symbology. -/
  rendererId : Value
  /-- The payload. -/
  data : Value
  /-- The settings. -/
  settings : EngineSettings
  /-- The scale factor. -/
  scale : Int
  deriving Repr

/-- A matrix of modules as the Data Matrix encoder returns it: three bytes for each module, row by
row. -/
structure Encoded where
  /-- The number of columns. -/
  width : Nat
  /-- The number of rows. -/
  height : Nat
  /-- The bytes of the modules. -/
  bytes : Array UInt8
  deriving Repr, DecidableEq

/-- A query to one of the engines. -/
inductive Query where
  /-- The raster engine is to draw bars. -/
  | raster (q : RasterQuery)
  /-- The Data Matrix encoder is to encode bytes. -/
  | dataMatrix (payload : List UInt8)
  deriving Repr

/-- The type of the answer to a query. -/
def Query.Answer : Query → Type
  | .raster _ => Except Stop Picture
  | .dataMatrix _ => Except Stop Encoded

end LabelPress.Render
