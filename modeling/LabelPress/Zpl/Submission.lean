import LabelPress.Barcode.Request
import LabelPress.Zpl.RawDocument

/-!
# Directives as input and as requests

A directive can be passed in as an object, and a directive can be turned into a barcode request with
its symbology, data and height. The height of a directive has no bounds of its own, so the second
step can fail. The data of a directive and the document itself can be any strings.
-/

namespace LabelPress.Zpl

open LabelPress.Json LabelPress.Text LabelPress.Validation LabelPress.Barcode

/-- The name of the model of a directive. -/
def directiveModelName : String := "BarcodeDirective"

/-- A symbology under exactly its name. -/
def checkSymbology (v : Value) : Checked Symbology :=
  match v.string?.bind fun s => Symbology.ofName? s.toList with
  | some s => .ok s
  | none => Checked.failed (.notMember (Symbology.all.map Symbology.name))

/-- An object as a list of members. -/
def checkOptions : Value → Checked Members
  | .object ms => .ok ms
  | _ => Checked.failed .notObject

/-- A directive from the members of an object. Its data can be any string. -/
def RawDirective.ofMembers (ms : Members) : Checked RawDirective :=
  (Checked.both (required ms "type" checkSymbology)
    (Checked.both (required ms "data" anyText)
      (Checked.both (optional ms "x" 0 integer)
        (Checked.both (optional ms "y" 0 integer)
          (Checked.both (optional ms "width" directiveWidth integer)
            (Checked.both (optional ms "height" directiveHeight integer)
              (optional ms "options" [] checkOptions))))))).map
    fun (s, data, x, y, width, height, options) =>
      ⟨⟨s, RawText.shown data, x, y, width, height, options⟩, data⟩

/-- A directive from a value. -/
def RawDirective.check (v : Value) : Checked RawDirective :=
  match object (.model directiveModelName) v with
  | .error es => .error es
  | .ok ms => RawDirective.ofMembers ms

/-- A directive from a value, with what is shown for its data. -/
def Directive.check (v : Value) : Checked Directive :=
  (RawDirective.check v).map (·.directive)

/-- The request for the barcode of a directive. -/
def Directive.toRequest (d : Directive) : Checked Request :=
  match Checked.under (.member "height") (barHeight d.height) with
  | .error es => .error es
  | .ok h => .ok ⟨typeOfSymbology d.symbology, d.data, some h⟩

/-- The request for the barcode of a directive with its data as it stands in the document. -/
def RawDirective.toRequest (d : RawDirective) : Checked RawRequest :=
  d.directive.toRequest.map fun r => ⟨r.type, d.data, r.height⟩

/-- A label document from the members of the body of a request. -/
def checkDocument (v : Value) : Checked RawText :=
  match object .body v with
  | .error es => .error es
  | .ok ms => required ms "zpl" anyText

end LabelPress.Zpl
