import LabelPress.Barcode.Request
import LabelPress.CheckDigit

/-!
# Normalising payloads

EAN-13 and UPC-A payloads get a check digit if it is missing and a correct one if it is wrong. A
payload of any other length cannot be encoded in these symbologies; it leads to a warning that
suggests Code 128. Payloads of other symbologies are taken as they are.

## Main definitions

* `Normalised`: what became of a payload.
* `normalise`: the payload of a request made ready for encoding.
-/

namespace LabelPress.Barcode

open LabelPress.CheckDigit

/-- A payload whose length does not fit its symbology. -/
structure LengthWarning where
  /-- The scheme of check digits that the symbology uses. -/
  scheme : Scheme
  /-- The payload. -/
  data : String
  deriving Repr, DecidableEq

/-- The trade name of a symbology with check digits. -/
def schemeLabel : Scheme → String
  | .ean13 => "EAN-13"
  | .upcA => "UPC-A"

namespace LengthWarning

/-- The symbology suggested instead. -/
def fallback (_ : LengthWarning) : Symbology := .code128

/-- The wording of a warning. -/
def message (w : LengthWarning) : String :=
  schemeLabel w.scheme ++ " barcodes require " ++ toString w.scheme.payloadLength ++ " or "
    ++ toString w.scheme.codeLength ++ " digits.\n\nReceived: " ++ toString w.data.length
    ++ " digits\nData: " ++ w.data ++ "\n\nUse Code 128 to encode this value instead."

end LengthWarning

/-- What became of a payload. -/
inductive Normalised where
  /-- It was taken as it is. -/
  | unchanged (data : String)
  /-- The check digit was missing and has been appended. -/
  | completed (scheme : Scheme) (given code : String)
  /-- The check digit was right. -/
  | sound (code : String)
  /-- The check digit was wrong and has been replaced. -/
  | repaired (scheme : Scheme) (given corrected : String)
  /-- The length does not fit. -/
  | rejected (warning : LengthWarning)
  deriving Repr, DecidableEq

/-- The payload to encode, or the warning. -/
def Normalised.payload : Normalised → Except LengthWarning String
  | .unchanged data => .ok data
  | .completed _ _ code => .ok code
  | .sound code => .ok code
  | .repaired _ _ corrected => .ok corrected
  | .rejected w => .error w

/-- A payload made ready for a scheme of check digits. -/
def normaliseFor (s : Scheme) (data : String) : Except Fault Normalised :=
  match s.complete data.toList with
  | .error e => .error e
  | .ok (some code) => .ok (.completed s data (String.ofList code))
  | .ok none =>
    match s.verify data.toList with
    | .error e => .error e
    | .ok none => .ok (.rejected ⟨s, data⟩)
    | .ok (some (.sound code)) => .ok (.sound (String.ofList code))
    | .ok (some (.repaired _ corrected)) => .ok (.repaired s data (String.ofList corrected))

/-- The payload of a request made ready for encoding. -/
def normalise (r : Request) : Except Fault Normalised :=
  match r.symbology?.bind Scheme.ofSymbology? with
  | some s => normaliseFor s r.data
  | none => .ok (.unchanged r.data)

end LabelPress.Barcode
