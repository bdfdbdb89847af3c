import LabelPress.Symbology
import LabelPress.Text.Digit
import LabelPress.Text.Integer
import LabelPress.Text.Search

/-!
# Commands of a label document

Three kinds of commands are recognised in a line; whatever else it holds is ignored.

* A barcode command names a symbology. The commands are tried in the order of `barcodeCommands`,
  and the first one that the line contains anywhere counts.
* A field origin is `^FO`, a run of decimal digits, a comma and another run. The leftmost occurrence
  of this form counts.
* Field data stands between `^FD` and the next `^FS`, or reaches to the end of the line. It never
  crosses a newline: if one comes first, the search goes on with the next `^FD`, except that a
  newline may be the last character of the line.

## Main definitions

* `barcodeCommand?`, `fieldOrigin?`, `fieldData?`: what each search finds in a line.
-/

namespace LabelPress.Zpl

open LabelPress.Text

/-- The barcode commands and the symbologies they stand for, in the order in which they are
tried. -/
def barcodeCommands : List (List Char × Symbology) :=
  [(['^', 'B', 'C'], .code128), (['^', 'B', '3'], .code39), (['^', 'B', 'Q'], .qr),
   (['^', 'B', 'X'], .dataMatrix), (['^', 'B', 'E'], .ean13), (['^', 'B', 'Y'], .upcA)]

/-- The symbology of the first barcode command, in the order of the table, that a line contains. -/
def barcodeCommand? (line : List Char) : Option Symbology :=
  (barcodeCommands.find? fun entry => occursIn entry.1 line).map (·.2)

/-- The beginning of a field origin. -/
def originMark : List Char := ['^', 'F', 'O']

/-- The beginning of field data. -/
def dataMark : List Char := ['^', 'F', 'D']

/-- The end of a field. -/
def separatorMark : List Char := ['^', 'F', 'S']

/-- The coordinate that a run of digits denotes; a run that is too long denotes zero. -/
def coordinate (digits : List Char) : Nat :=
  if maxDigits < digits.length then 0 else decimalValue (digits.map digitValue)

/-- Two coordinates separated by a comma at the beginning of a text. -/
def coordinates? (s : List Char) : Option (Nat × Nat) :=
  match digitRun s with
  | ([], _) => none
  | (xs, ',' :: rest) =>
    match digitRun rest with
    | ([], _) => none
    | (ys, _) => some (coordinate xs, coordinate ys)
  | _ => none

/-- The coordinates of the leftmost field origin of a line. -/
def fieldOrigin? : List Char → Option (Nat × Nat)
  | [] => none
  | c :: cs =>
    match if originMark.isPrefixOf (c :: cs) then coordinates? ((c :: cs).drop 3) else none with
    | some p => some p
    | none => fieldOrigin? cs

/-- The field that a text begins with: up to the first `^FS`, or to the end of the text if there is
none. There is no field if a newline comes first, unless it is the last character. -/
def fieldText? : List Char → Option (List Char)
  | [] => some []
  | c :: cs =>
    if separatorMark.isPrefixOf (c :: cs) then some []
    else if c = '\n' then (if cs.isEmpty then some [] else none)
    else (fieldText? cs).map (c :: ·)

/-- The first field of a line. -/
def fieldData? : List Char → Option (List Char)
  | [] => none
  | c :: cs =>
    match if dataMark.isPrefixOf (c :: cs) then fieldText? ((c :: cs).drop 3) else none with
    | some field => some field
    | none => fieldData? cs

end LabelPress.Zpl
