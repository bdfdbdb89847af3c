import LabelPress.Barcode.Request
import LabelPress.Http.Intake

/-!
# Queries for images

An image is asked for by the parameters of a query. They are checked for themselves, and only then
made into a request for a barcode, which checks them again: so a bound that is changed in one place
only shows as a request that cannot be made.

## Main definitions

* `ImageQuery.ofMembers`: a query for an image from the parameters of a query.
* `ImageQuery.request`: the request for the barcode.
-/

namespace LabelPress.Http

open LabelPress.Json LabelPress.Validation

/-- What a query for an image asks for. -/
structure ImageQuery where
  /-- The type of the barcode. -/
  type : { s : String // 1 ≤ s.length ∧ s.length ≤ 32 }
  /-- The payload. -/
  data : String
  /-- The height of the bars, if it is set. -/
  height : Option { n : Int // 0 < n ∧ n ≤ 1000 }
  deriving Repr, DecidableEq

namespace ImageQuery

/-- A height that is set. -/
def checkHeight (v : Value) : Checked (Option { n : Int // 0 < n ∧ n ≤ 1000 }) :=
  match integer v with
  | .error es => .error es
  | .ok n => (between 0 1000 n).map some

/-- A query for an image from the parameters of a query. -/
def ofMembers (ms : Members) : Checked ImageQuery :=
  (Checked.both (required ms "type" (textBetween 1 32))
    (Checked.both (required ms "data" text) (optional ms "height" none checkHeight))).map
    fun (type, data, height) => ⟨type, data, height⟩

/-- The members of the request for the barcode. -/
def members (q : ImageQuery) : Members :=
  [("type", .string q.type.val), ("data", .string q.data),
   ("height", .ofOption .int (q.height.map (·.val)))]

/-- The request for the barcode. -/
def request (q : ImageQuery) : Checked Barcode.Request :=
  Barcode.Request.check (.model Barcode.Request.modelName) (.object q.members)

end ImageQuery

end LabelPress.Http
