/-!
# Segments of a QR payload

The bytes of a payload are divided into segments, each of which is written in the densest of three
alphabets that suits it: digits, forty-five alphanumeric characters, or any bytes.

A payload of at most twenty bytes is one segment. In a longer one every maximal run of at least
twenty digits is a segment of its own; in the pieces between, every maximal run of at least twenty
alphanumeric characters is; what remains is written as bytes. A newline at the end of a short
payload is set apart when everything before it fits an alphabet.

## Main definitions

* `segments`: the division of a payload.
* `Segment.bits`: the size of a segment, given the size class of the version.
-/

namespace LabelPress.Qr

/-- The alphabet of a segment. -/
inductive Mode where
  | numeric
  | alphanumeric
  | byte
  deriving Repr, DecidableEq

/-- A piece of a payload with the alphabet in which it is written. -/
structure Segment where
  /-- The alphabet. -/
  mode : Mode
  /-- The bytes of the piece. -/
  bytes : List UInt8
  deriving Repr, DecidableEq

/-- Whether a byte is a digit. -/
def isDigit (b : UInt8) : Bool :=
  0x30 ≤ b && b ≤ 0x39

/-- The bytes of the alphanumeric alphabet that are neither digits nor letters. -/
def alphanumericMarks : List UInt8 :=
  [0x20, 0x24, 0x25, 0x2A, 0x2B, 0x2D, 0x2E, 0x2F, 0x3A]

/-- Whether a byte belongs to the alphanumeric alphabet. -/
def isAlphanumeric (b : UInt8) : Bool :=
  isDigit b || (0x41 ≤ b && b ≤ 0x5A) || alphanumericMarks.contains b

/-- The length from which a run is worth a segment of its own, and up to which a payload is not
divided. -/
def runLength : Nat := 20

/-- Joins neighbouring pieces that are not set apart. -/
def joinPlain : List (Bool × List UInt8) → List (Bool × List UInt8)
  | [] => []
  | (apart, piece) :: rest =>
    match apart, joinPlain rest with
    | false, (false, next) :: more => (false, piece ++ next) :: more
    | _, joined => (apart, piece) :: joined

/-- Divides a long payload: maximal runs of at least `runLength` bytes satisfying `p` are set
apart. -/
def longRuns (p : UInt8 → Bool) (bytes : List UInt8) : List (Bool × List UInt8) :=
  joinPlain <| (bytes.splitBy fun a b => p a == p b).map fun run =>
    (run.all p && runLength ≤ run.length, run)

/-- Divides a short payload: it is set apart as a whole if all its bytes satisfy `p`, and so is what
precedes a newline at its end. -/
def wholeRun (p : UInt8 → Bool) (bytes : List UInt8) : List (Bool × List UInt8) :=
  if bytes.all p then [(true, bytes)]
  else if bytes.getLast? = some 0x0A && 1 < bytes.length && bytes.dropLast.all p then
    [(true, bytes.dropLast), (false, [0x0A])]
  else [(false, bytes)]

/-- Divides a payload by the bytes satisfying `p`, as a short or as a long one. -/
def divide (short : Bool) (p : UInt8 → Bool) (bytes : List UInt8) : List (Bool × List UInt8) :=
  if short then wholeRun p bytes else longRuns p bytes

/-- The segments of a payload. -/
def segments (bytes : List UInt8) : List Segment :=
  let short := bytes.length ≤ runLength
  (divide short isDigit bytes).flatMap fun (digits, piece) =>
    if digits then [⟨.numeric, piece⟩]
    else (divide short isAlphanumeric piece).map fun (letters, part) =>
      ⟨if letters then .alphanumeric else .byte, part⟩

/-- Versions fall into three classes by the width of their length fields. -/
inductive SizeClass where
  /-- Versions 1 to 9. -/
  | small
  /-- Versions 10 to 26. -/
  | medium
  /-- Versions 27 to 40. -/
  | large
  deriving Repr, DecidableEq

/-- The class of a version. -/
def sizeClass (version : Nat) : SizeClass :=
  if version < 10 then .small else if version < 27 then .medium else .large

/-- The width of a length field. -/
def lengthBits : SizeClass → Mode → Nat
  | .small, .numeric => 10
  | .small, .alphanumeric => 9
  | .small, .byte => 8
  | .medium, .numeric => 12
  | .medium, .alphanumeric => 11
  | .medium, .byte => 16
  | .large, .numeric => 14
  | .large, .alphanumeric => 13
  | .large, .byte => 16

/-- The width of `n` characters of an alphabet. -/
def dataBits : Mode → Nat → Nat
  | .numeric, n => 10 * (n / 3) + (if n % 3 = 2 then 7 else if n % 3 = 1 then 4 else 0)
  | .alphanumeric, n => 11 * (n / 2) + 6 * (n % 2)
  | .byte, n => 8 * n

/-- The width of a segment: its alphabet in four bits, its length and its characters. -/
def Segment.bits (c : SizeClass) (s : Segment) : Nat :=
  4 + lengthBits c s.mode + dataBits s.mode s.bytes.length

/-- The width of several segments. -/
def totalBits (c : SizeClass) : List Segment → Nat
  | [] => 0
  | s :: rest => s.bits c + totalBits c rest

end LabelPress.Qr
