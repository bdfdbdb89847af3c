import LabelPress.Symbology.Designator

/-!
# Label templates

A minimal label with one barcode at a fixed position. Six symbologies have a template of their own;
for any other the one of Code 128 is used. The data is placed as it is, so it must not contain
commands.
-/

namespace LabelPress.Zpl

/-- The barcode command of a symbology that has a template. -/
def templateCommand? : Symbology → Option String
  | .code128 => some "^BC,100,Y,N,N"
  | .code39 => some "^B3N,N,100,Y,N"
  | .qr => some "^BQN,2,4"
  | .dataMatrix => some "^BX,N,200,200"
  | .ean13 => some "^BE,N,100,Y,N"
  | .upcA => some "^BY,N,100,Y,N"
  | _ => none

/-- The symbology whose template is used for what is designated. -/
def templateSymbology (d : Designator) : Symbology :=
  match d.parse? with
  | some s => if (templateCommand? s).isSome then s else .code128
  | none => .code128

/-- The label with the template of a symbology. -/
def labelWith (s : Symbology) (data : String) : String :=
  "^XA\n^FO50,50" ++ (templateCommand? s).getD "" ++ "\n^FD" ++ data ++ "^FS\n^XZ"

/-- A label with one barcode of the designated type. -/
def template (d : Designator) (data : String) : String :=
  labelWith (templateSymbology d) data

end LabelPress.Zpl
