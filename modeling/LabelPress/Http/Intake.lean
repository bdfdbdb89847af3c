import LabelPress.Http.Message
import LabelPress.Json.Reader
import LabelPress.Text.Blank
import LabelPress.Text.Encoding
import LabelPress.Text.Percent
import LabelPress.Text.Utf8
import LabelPress.Validation.Check

/-!
# What a request brings

The body of a request is read as a document unless its type says that it is something else, in
which case it counts as a mere string. Fields are checked below the place where they were found,
the body or the query. The errors of fields are reported together with the values at fault; a
number that is not finite cannot be reported, nor can a string that is no text, so a request with
such a value at fault is not answered properly.

## Main definitions

* `Request.entity`: the value in the body of a request, if there is one.
* `checkBody`, `checkQuery`: the checks of fields.
* `valueAtFault`: the value that an error is about.
-/

namespace LabelPress.Http

open LabelPress.Json LabelPress.Text LabelPress.Validation

/-- A media type without its parameters, in lower case. -/
def mediaType (header : String) : List Char :=
  (strip (header.toList.takeWhile (· ≠ ';'))).map Char.toLower

/-- Whether a media type is that of a document. -/
def isDocumentType (type : List Char) : Bool :=
  let main := type.takeWhile (· ≠ '/')
  let sub := type.drop (main.length + 1)
  main == "application".toList && !sub.contains '/' &&
    (sub == "json".toList || "+json".toList.isSuffixOf sub)

/-- Whether the body of a request is declared to be a document, or nothing is declared. -/
def Request.hasDocument (r : Request) : Bool :=
  match r.header? "content-type" with
  | none => true
  | some header => isDocumentType (mediaType header)

/-- The document in the body of a request, code point by code point. Its octets need not be in the
encoding that the rest of the request is in. -/
def Request.documentPoints? (r : Request) : Option RawText :=
  let octets := utf8Bytes r.body
  match Encoding.detect octets with
  | .utf8 => some (.ofChars (dropByteOrderMark r.body.toList))
  | .utf16 order => decodeUtf16 order octets
  | .utf32 order => decodeUtf32 order octets

/-- How deeply lists and objects may be nested in a body. The reader calls itself for every level,
and calls may be nested up to a thousand deep; about seventy of them are under way already when the
body of a request is read. -/
def bodyDepth : Nat := 930

/-- Why the body of a request cannot be read. -/
inductive BodyFault where
  /-- It is not a document; the first fault is at this position. -/
  | malformed (position : Nat)
  /-- It cannot be decoded, or is more than the reader can take. -/
  | unreadable
  deriving Repr, DecidableEq

/-- A fault of the reader as one of the body. -/
def BodyFault.ofReadError : ReadError → BodyFault
  | .malformed position => .malformed position
  | .tooManyDigits | .tooDeep _ => .unreadable

/-- The document in the body of a request. -/
def Request.document (r : Request) : Except BodyFault Value :=
  match r.documentPoints? with
  | none => .error .unreadable
  | some t => (readPoints bodyDepth t).mapError .ofReadError

/-- The value in the body of a request. There is none if the body is empty. -/
def Request.entity (r : Request) : Except BodyFault (Option Value) :=
  if r.body.isEmpty then .ok none
  else if r.hasDocument then r.document.map some
  else .ok (some (.string r.body))

/-- The place of fields in the body. -/
def bodyStep : Step := .member "body"

/-- The place of fields in the query. -/
def queryStep : Step := .member "query"

/-- Checks the body of a request, which must be there. -/
def checkBody (check : Value → Checked α) (entity : Option Value) : Checked α :=
  Checked.under bodyStep <|
    match entity with
    | none => Checked.failed .missing
    | some v => check v

/-- The parameters of a query as members; of a repeated one the last value counts. -/
def Request.parameters (r : Request) : Members :=
  Members.putAll [] ((formPairs r.query).map fun p => (p.1, .string p.2))

/-- Checks the parameters of a query. -/
def checkQuery (check : Members → Checked α) (r : Request) : Checked α :=
  Checked.under queryStep (check r.parameters)

/-- The value reached from another one by a step. -/
def follow : Value → Step → Value
  | .object ms, .member name => (Members.get? ms name).getD .null
  | .list vs, .item i => vs[i]?.getD .null
  | _, _ => .null

/-- The value at fault in an entity. If a member is missing, that is the object that lacks it. -/
def valueAtFault (entity : Value) (e : FieldError) : Value :=
  let steps := e.path.drop 1
  (if e.cause = .missing then steps.dropLast else steps).foldl follow entity

mutual
/-- Whether all numbers in a value are finite and all its strings are text. -/
def isReportable : Value → Bool
  | .float x => x.isFinite
  | .unpaired _ => false
  | .list vs => areReportable vs
  | .object ms => areMembersReportable ms
  | _ => true

/-- Whether all values in a list can be reported. -/
def areReportable : List Value → Bool
  | [] => true
  | v :: vs => isReportable v && areReportable vs

/-- Whether all values of members can be reported. -/
def areMembersReportable : List (String × Value) → Bool
  | [] => true
  | (_, v) :: ms => isReportable v && areMembersReportable ms
end

/-- Whether the values at fault can be reported. -/
def canReport (errors : List FieldError) (entity : Option Value) : Bool :=
  match entity with
  | none => true
  | some v => errors.all fun e => isReportable (valueAtFault v e)

end LabelPress.Http
