import LabelPress.Json.Value
import LabelPress.Text.Digit
import LabelPress.Text.Encoding
import LabelPress.Text.Hex
import LabelPress.Text.Integer

/-!
# Reading documents

A reader that goes over code points from left to right and reports the position of the first fault.
The position is the count of code points before the offending one, or before the place where a
value, a member name, a colon or a comma was expected; a string that is not closed is reported at
its opening quote, an escape at its backslash or at its letter `u`.

Beyond the standard grammar the reader accepts `NaN`, `Infinity` and `-Infinity`. If a member name
is repeated, the last value counts. An escaped pair of surrogates is one character; half of a pair
without the other half stays what it is, whether it is escaped or not.

Lists and objects can be nested up to a depth that the caller sets, so that a short text cannot
exhaust the stack. The depth is looked at whenever a bracket or a brace opens.

## Main definitions

* `Cursor`: a position and what follows it.
* `readPoints`: the value that a whole sequence of code points denotes, if it is not nested too
  deeply.
* `readWithin`: the same for a text.
* `read`: the value that a whole text denotes.
-/

namespace LabelPress.Json

open LabelPress.Text LabelPress.Number

/-- The two kinds of values that hold others. -/
inductive Container where
  | list
  | object
  deriving Repr, DecidableEq

/-- The word for a kind of container. -/
def Container.word : Container → String
  | list => "array"
  | object => "object"

/-- Why a text is not a document. -/
inductive ReadError where
  /-- The text is malformed at this position. -/
  | malformed (position : Nat)
  /-- An integer has too many digits to be converted. -/
  | tooManyDigits
  /-- A list or an object is nested too deeply. -/
  | tooDeep (container : Container)
  deriving Repr, DecidableEq

/-- A position in a text together with the rest of the text. -/
structure Cursor where
  /-- How many code points lie before the cursor. -/
  position : Nat
  /-- What lies after the cursor. -/
  rest : RawText
  deriving Repr

namespace Cursor

/-- The start of a document. -/
def start (s : RawText) : Cursor := ⟨0, s⟩

/-- Whether a character may separate the parts of a document. -/
def isSpace (c : Char) : Bool :=
  c == ' ' || c == '\t' || c == '\n' || c == '\r'

/-- Moves forward over `n` code points. -/
def advance (c : Cursor) (n : Nat) : Cursor :=
  ⟨c.position + n, c.rest.drop n⟩

/-- Moves forward over separating characters. -/
def skipSpace (c : Cursor) : Cursor :=
  c.advance (c.rest.takeWhile (·.satisfies isSpace)).length

end Cursor

/-- What a reader returns: a result and the cursor after it. -/
abbrev Reading (α : Type) := Except ReadError (α × Cursor)

/-- The value of a code point as a hexadecimal digit. -/
def hexPointValue? : CodePoint → Option Nat
  | .char c => hexValue? c
  | .half _ => none

/-- The number of a four-digit escape. -/
def escapeNumber? (a b c d : CodePoint) : Option Nat := do
  let digits ← [a, b, c, d].mapM hexPointValue?
  return hexNumber digits

/-- The character of a one-letter escape. -/
def simpleEscape? (c : Char) : Option Char :=
  if c = '"' || c = '\\' || c = '/' then some c
  else if c = 'b' then some '\x08'
  else if c = 'f' then some '\x0c'
  else if c = 'n' then some '\n'
  else if c = 'r' then some '\r'
  else if c = 't' then some '\t'
  else none

/-- Puts a code point in front of what the reader of the rest of a string returned. -/
def consPoint (p : CodePoint) : Reading RawText → Reading RawText
  | .ok (ps, k) => .ok (p :: ps, k)
  | .error e => .error e

/-- What an escape that stands for the first half of a surrogate pair finds behind it. -/
inductive SecondHalf where
  /-- No escape follows, or it is the last thing in the text. -/
  | absent
  /-- An escape follows that is not four hexadecimal digits. -/
  | malformed
  /-- An escape of this number follows. -/
  | number (n : Nat)

/-- Looks for an escape, followed by at least one more code point, at the front. -/
def secondHalf : RawText → SecondHalf
  | .char '\\' :: .char 'u' :: a :: b :: c :: d :: _ :: _ =>
    match escapeNumber? a b c d with
    | some n => .number n
    | none => .malformed
  | _ => .absent

/-- Reads the inside of a string up to and including its closing quote. The string was opened at
position `opened`, and `position` code points lie before `s`. -/
def readString (opened position : Nat) (s : RawText) : Reading RawText :=
  match s with
  | [] => .error (.malformed opened)
  | .char '"' :: rest => .ok ([], ⟨position + 1, rest⟩)
  | [.char '\\'] => .error (.malformed opened)
  | .char '\\' :: .char 'u' :: a :: b :: c :: d :: e :: more =>
    match escapeNumber? a b c d with
    | none => .error (.malformed (position + 1))
    | some n =>
      match if isHighSurrogate n then secondHalf (e :: more) else .absent with
      | .malformed => .error (.malformed (position + 7))
      | .number low =>
        if isLowSurrogate low then
          consPoint (.char (joinSurrogates n low)) (readString opened (position + 12) (more.drop 5))
        else consPoint (.ofNat n) (readString opened (position + 6) (e :: more))
      | .absent => consPoint (.ofNat n) (readString opened (position + 6) (e :: more))
  | .char '\\' :: .char 'u' :: _ => .error (.malformed (position + 1))
  | .char '\\' :: .char c :: rest =>
    match simpleEscape? c with
    | some d => consPoint (.char d) (readString opened (position + 2) rest)
    | none => .error (.malformed position)
  | .char '\\' :: .half _ :: _ => .error (.malformed position)
  | p :: rest =>
    if p.satisfies (·.toNat < 0x20) then .error (.malformed position)
    else consPoint p (readString opened (position + 1) rest)
  termination_by s.length
  decreasing_by all_goals simp +arith

/-- The ASCII digits that a text begins with, and the rest. -/
def asciiDigits (s : List Char) : List Char × List Char :=
  (s.takeWhile isAsciiDigit, s.dropWhile isAsciiDigit)

/-- The value of a run of ASCII digits. -/
def digitsNumber (s : List Char) : Nat :=
  decimalValue (s.map fun c => c.toNat - 0x30)

/-- The fraction that a text begins with: the digits after a point, if there are any. -/
def fractionPart (s : List Char) : List Char × List Char :=
  match s with
  | '.' :: rest =>
    match asciiDigits rest with
    | ([], _) => ([], s)
    | (digits, after) => (digits, after)
  | _ => ([], s)

/-- The exponent that a text begins with: its value and the rest of the text. -/
def exponentPart? (s : List Char) : Option (Int × List Char) :=
  match s with
  | e :: rest =>
    if e = 'e' || e = 'E' then
      let (negative, body) := takeSign rest
      match asciiDigits body with
      | ([], _) => none
      | (digits, after) => some (withSign negative (digitsNumber digits), after)
    else none
  | [] => none

/-- The whole part of a number: a zero alone or digits that do not begin with zero. -/
def wholePart? (s : List Char) : Option (List Char × List Char) :=
  match asciiDigits s with
  | ([], _) => none
  | ('0' :: _, _) => some (['0'], s.drop 1)
  | (digits, after) => some (digits, after)

/-- Reads a number, or nothing if the text does not begin with one. -/
def readNumber? (s : List Char) : Option (Except ReadError (Value × List Char)) :=
  let (negative, body) := match s with
    | '-' :: rest => (true, rest)
    | _ => (false, s)
  match wholePart? body with
  | none => none
  | some (whole, afterWhole) =>
    let (fraction, afterFraction) := fractionPart afterWhole
    match fraction, exponentPart? afterFraction with
    | [], none =>
      if maxDigits < whole.length then some (.error .tooManyDigits)
      else some (.ok (.int (withSign negative (digitsNumber whole)), afterFraction))
    | _, exponent =>
      let (e, rest) := exponent.getD (0, afterFraction)
      let x := Binary64.ofDecimal negative (digitsNumber (whole ++ fraction)) (e - fraction.length)
      some (.ok (.float x, rest))

/-- Whether a character can be part of a number. -/
def isNumberChar (c : Char) : Bool :=
  isAsciiDigit c || c == '+' || c == '-' || c == '.' || c == 'e' || c == 'E'

/-- The constants of the format, as they are written and as values. -/
def constants : List (List Char × Value) :=
  [("null".toList, .null), ("true".toList, .bool true), ("false".toList, .bool false),
   ("NaN".toList, .float .notANumber), ("Infinity".toList, .float (.infinite false)),
   ("-Infinity".toList, .float (.infinite true))]

/-- Reads a constant or a number. -/
def readScalar (c : Cursor) : Reading Value :=
  match constants.find? fun k => (RawText.ofChars k.1).isPrefixOf c.rest with
  | some (word, v) => .ok (v, c.advance word.length)
  | none =>
    let front := RawText.chars (c.rest.takeWhile (·.satisfies isNumberChar))
    match readNumber? front with
    | some (.ok (v, left)) => .ok (v, c.advance (front.length - left.length))
    | some (.error e) => .error e
    | none => .error (.malformed c.position)

mutual
/-- Reads a value in which lists and objects may be nested up to the given depth, with fuel for the
values nested in it. -/
def readValue : Nat → Nat → Cursor → Reading Value
  | 0, _, c => .error (.malformed c.position)
  | fuel + 1, depth, c =>
    match c.rest with
    | [] => .error (.malformed c.position)
    | .char '"' :: rest =>
      match readString c.position (c.position + 1) rest with
      | .ok (t, k) => .ok (.ofPoints t, k)
      | .error e => .error e
    | .char '[' :: _ =>
      match depth with
      | 0 => .error (.tooDeep .list)
      | inner + 1 => readList fuel inner (c.advance 1).skipSpace
    | .char '\x7b' :: _ =>
      match depth with
      | 0 => .error (.tooDeep .object)
      | inner + 1 => readObject fuel inner (c.advance 1).skipSpace
    | _ => readScalar c

/-- Reads a list from behind its opening bracket. -/
def readList : Nat → Nat → Cursor → Reading Value
  | 0, _, c => .error (.malformed c.position)
  | fuel + 1, depth, c =>
    match c.rest with
    | .char ']' :: _ => .ok (.list [], c.advance 1)
    | _ =>
      match readItems fuel depth c with
      | .ok (items, k) => .ok (.list items, k)
      | .error e => .error e

/-- Reads an object from behind its opening brace. -/
def readObject : Nat → Nat → Cursor → Reading Value
  | 0, _, c => .error (.malformed c.position)
  | fuel + 1, depth, c =>
    match c.rest with
    | .char '\x7d' :: _ => .ok (.object [], c.advance 1)
    | _ =>
      match readMembers fuel depth [] c with
      | .ok (members, k) => .ok (.object members, k)
      | .error e => .error e

/-- Reads the items of a list from the first one to the closing bracket. -/
def readItems : Nat → Nat → Cursor → Reading (List Value)
  | 0, _, c => .error (.malformed c.position)
  | fuel + 1, depth, c =>
    match readValue fuel depth c with
    | .error e => .error e
    | .ok (v, k) =>
      let after := k.skipSpace
      match after.rest with
      | .char ']' :: _ => .ok ([v], after.advance 1)
      | .char ',' :: _ =>
        match readItems fuel depth (after.advance 1).skipSpace with
        | .ok (vs, j) => .ok (v :: vs, j)
        | .error e => .error e
      | _ => .error (.malformed after.position)

/-- Reads the members of an object from the first name to the closing brace, given the members
read so far. -/
def readMembers : Nat → Nat → Members → Cursor → Reading Members
  | 0, _, _, c => .error (.malformed c.position)
  | fuel + 1, depth, sofar, c =>
    match c.rest with
    | .char '"' :: rest =>
      match readString c.position (c.position + 1) rest with
      | .error e => .error e
      | .ok (name, k) =>
        let colon := k.skipSpace
        match colon.rest with
        | .char ':' :: _ =>
          match readValue fuel depth (colon.advance 1).skipSpace with
          | .error e => .error e
          | .ok (v, j) =>
            let members := sofar.put (RawText.shown name) v
            let after := j.skipSpace
            match after.rest with
            | .char '\x7d' :: _ => .ok (members, after.advance 1)
            | .char ',' :: _ => readMembers fuel depth members (after.advance 1).skipSpace
            | _ => .error (.malformed after.position)
        | _ => .error (.malformed colon.position)
    | _ => .error (.malformed c.position)
end

/-- The value that code points denote, if its lists and objects are not nested too deeply.
Every nested value takes a code point, so fuel for three calls a code point is enough. -/
def readPoints (depth : Nat) (s : RawText) : Except ReadError Value :=
  match readValue (3 * s.length + 3) depth (Cursor.start s).skipSpace with
  | .error e => .error e
  | .ok (v, k) =>
    let after := k.skipSpace
    if after.rest.isEmpty then .ok v else .error (.malformed after.position)

/-- The value that a text denotes, if its lists and objects are not nested more deeply than this. -/
def readWithin (depth : Nat) (s : List Char) : Except ReadError Value :=
  readPoints depth (.ofChars s)

/-- The value that a text denotes. No text is nested more deeply than it is long. -/
def read (s : List Char) : Except ReadError Value :=
  readWithin s.length s

end LabelPress.Json
