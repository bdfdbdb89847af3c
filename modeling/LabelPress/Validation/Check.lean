import LabelPress.Json.Value
import LabelPress.Text.Integer
import LabelPress.Validation.Error

/-!
# Checking input

A check turns a value into a result or into the errors of its fields. Checks of several fields run
side by side, so that the errors of all of them are reported, in the order of the fields.

## Main definitions

* `Checked`: a result or a list of errors.
* `Checked.both`, `Checked.all`: checks side by side.
* `required`, `optional`: a member of an object.
* `anyText`: strings.
* `text`, `textBetween`, `textAtLeast`: strings that are texts.
* `integer`, `integerWithin`, `between`, `truthValue`, `literal`: other values of fields.
-/

namespace LabelPress.Validation

open LabelPress.Json LabelPress.Text LabelPress.Number

/-- A result, or the errors that stand in its way. -/
abbrev Checked (α : Type) := Except (List FieldError) α

namespace Checked

/-- A single error at the value itself. -/
def failed (cause : Cause) : Checked α :=
  .error [⟨[], cause⟩]

/-- Two checks side by side. -/
def both (a : Checked α) (b : Checked β) : Checked (α × β) :=
  match a, b with
  | .ok x, .ok y => .ok (x, y)
  | .ok _, .error es => .error es
  | .error es, .ok _ => .error es
  | .error es, .error fs => .error (es ++ fs)

/-- Any number of checks side by side. -/
def all : List (Checked α) → Checked (List α)
  | [] => .ok []
  | c :: cs => (both c (all cs)).map fun (x, xs) => x :: xs

/-- A check of a part of the value, reached by a step. -/
def under (step : Step) : Checked α → Checked α
  | .ok x => .ok x
  | .error es => .error (es.map fun e => { e with path := step :: e.path })

/-- The checks of the items of a list, each with its index. -/
def items (check : Value → Checked α) (values : List Value) : Checked (List α) :=
  all (values.mapIdx fun i v => under (.item i) (check v))

end Checked

open Checked

/-- The member of the given name, which must be there. -/
def required (ms : Members) (name : String) (check : Value → Checked α) : Checked α :=
  under (.member name) <|
    match ms.get? name with
    | some v => check v
    | none => failed .missing

/-- The member of the given name, or a default if it is absent. -/
def optional (ms : Members) (name : String) (fallback : α) (check : Value → Checked α) :
    Checked α :=
  match ms.get? name with
  | some v => under (.member name) (check v)
  | none => .ok fallback

/-- A string, which need not be a text. -/
def anyText : Value → Checked RawText
  | .string s => .ok (.ofText s)
  | .unpaired t => .ok t.points
  | _ => failed .notString

/-- A string that is a text. -/
def text : Value → Checked String
  | .string s => .ok s
  | .unpaired _ => failed .notUnicode
  | _ => failed .notString

/-- A string whose length lies between two bounds. -/
def textBetween (least most : Nat) (v : Value) :
    Checked { s : String // least ≤ s.length ∧ s.length ≤ most } :=
  match text v with
  | .error es => .error es
  | .ok s =>
    if low : least ≤ s.length then
      if high : s.length ≤ most then .ok ⟨s, low, high⟩ else failed (.stringTooLong most)
    else failed (.stringTooShort least)

/-- A string of at least this many characters. -/
def textAtLeast (least : Nat) (v : Value) : Checked String :=
  match text v with
  | .error es => .error es
  | .ok s => if least ≤ s.length then .ok s else failed (.stringTooShort least)

/-- The bound of machine words. The integers that a floating point number may stand for lie strictly
between it and its negative. -/
def wordBound : Int := 0x8000000000000000

/-- An integer. Truth values count as zero and one, floating point numbers without a fraction as
integers, and strings are read as integers of an input field. -/
def integer : Value → Checked Int
  | .int n => .ok n
  | .bool b => .ok (if b then 1 else 0)
  | .float x =>
    match x.toInt? with
    | none => failed .infiniteNumber
    | some n =>
      if !x.isIntegral then failed .fractionalNumber
      else if -wordBound < n && n < wordBound then .ok n
      else failed .oversizedInteger
  | .string s =>
    match readFieldInteger s.toList with
    | .value n => .ok n
    | .tooLong _ => failed .oversizedInteger
    | .malformed => failed .unreadableInteger
  | .unpaired _ => failed .notUnicode
  | _ => failed .notInteger

/-- An integer with a least and a greatest value, either of which may be open. -/
def integerWithin (least most : Option Int) (v : Value) : Checked Int :=
  match integer v with
  | .error es => .error es
  | .ok n =>
    match most.filter (· < n), least.filter (n < ·) with
    | some m, _ => failed (.aboveMost m)
    | none, some m => failed (.belowLeast m)
    | none, none => .ok n

/-- An integer above one bound and not above another. -/
def between (low high n : Int) : Checked { m : Int // low < m ∧ m ≤ high } :=
  if above : low < n then
    if most : n ≤ high then .ok ⟨n, above, most⟩ else failed (.aboveMost high)
  else failed (.notAbove low)

/-- The words for true and false in texts, in any case. -/
def truthWords : List (List Char × Bool) :=
  [("1".toList, true), ("true".toList, true), ("t".toList, true), ("yes".toList, true),
   ("y".toList, true), ("on".toList, true), ("0".toList, false), ("false".toList, false),
   ("f".toList, false), ("no".toList, false), ("n".toList, false), ("off".toList, false)]

/-- An integer as a truth value. -/
def truthOfInt (n : Int) : Checked Bool :=
  if n = 0 then .ok false else if n = 1 then .ok true else failed .unreadableTruthValue

/-- A truth value. Numbers zero and one count, and so do the words in `truthWords`. Numbers that do
not fit into a machine word are not even looked at. -/
def truthValue : Value → Checked Bool
  | .bool b => .ok b
  | .int n =>
    if -wordBound ≤ n && n < wordBound then truthOfInt n
    else failed .notTruthValue
  | .float x =>
    match if x.isIntegral then x.toInt? else none with
    | some n =>
      if -wordBound < n && n < wordBound then truthOfInt n
      else failed .notTruthValue
    | none => failed .notTruthValue
  | .string s =>
    match truthWords.lookup (s.toList.map Char.toLower) with
    | some b => .ok b
    | none => failed .unreadableTruthValue
  | .unpaired _ => failed .notUnicode
  | _ => failed .notTruthValue

/-- One of several words, each of which stands for a result. -/
def literal (words : List (String × α)) (v : Value) : Checked α :=
  match v.string?.bind fun s => words.lookup s with
  | some a => .ok a
  | none => failed (.notLiteral (words.map (·.1)))

/-- A list of checked items. -/
def listOf (check : Value → Checked α) : Value → Checked (List α)
  | .list values => Checked.items check values
  | _ => failed .notList

/-- How an object with fields is asked for: as the instance of a named model, or as the body of a
request. -/
inductive Form where
  | model (name : String)
  | body
  deriving Repr, DecidableEq

/-- The members of a value that must be an object. -/
def object (form : Form) : Value → Checked Members
  | .object ms => .ok ms
  | _ =>
    match form with
    | .model name => failed (.notModel name)
    | .body => failed .notExtractable

end LabelPress.Validation
