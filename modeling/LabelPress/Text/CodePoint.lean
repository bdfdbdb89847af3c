import LabelPress.Text.Quoted
import LabelPress.Text.Utf8

/-!
# Code points

A text is a sequence of characters. The strings of documents need not be texts: they can hold half
of a surrogate pair without the other half. Such a half is a code point, but it is no character. It
cannot be encoded, and it is neither a blank nor a digit nor part of a command. Where it has to be
shown as a character, the replacement character stands for it.

## Main definitions

* `CodePoint`: a character or half of a surrogate pair.
* `RawText`: a sequence of code points.
* `RawText.isText`: whether it has characters only.
* `RawText.shown`: the text that is shown for it.
* `Unpaired`: a sequence of code points that is no text.
-/

namespace LabelPress.Text

/-- Whether a number is the first half of a surrogate pair. -/
def isHighSurrogate (n : Nat) : Bool :=
  0xD800 ≤ n && n ≤ 0xDBFF

/-- Whether a number is the second half of a surrogate pair. -/
def isLowSurrogate (n : Nat) : Bool :=
  0xDC00 ≤ n && n ≤ 0xDFFF

/-- Half of a surrogate pair. -/
structure Surrogate where
  /-- The number of the code point. -/
  number : Nat
  /-- It is one of the numbers set apart for surrogates. -/
  isHalf : (isHighSurrogate number || isLowSurrogate number) = true
  deriving Repr, DecidableEq

/-- An element of a string. -/
inductive CodePoint where
  | char (c : Char)
  | half (s : Surrogate)
  deriving Repr, DecidableEq

namespace CodePoint

/-- The code point of a number. -/
def ofNat (n : Nat) : CodePoint :=
  if h : (isHighSurrogate n || isLowSurrogate n) = true then .half ⟨n, h⟩ else .char (Char.ofNat n)

/-- Whether a code point is a character. -/
def isChar : CodePoint → Bool
  | char _ => true
  | half _ => false

/-- The character that is shown for a code point. -/
def shown : CodePoint → Char
  | char c => c
  | half _ => replacementChar

/-- Whether a code point is a character of some class. -/
def satisfies (p : Char → Bool) : CodePoint → Bool
  | char c => p c
  | half _ => false

end CodePoint

/-- A sequence of code points, which need not be a text. -/
abbrev RawText := List CodePoint

/-- A run of halves of surrogate pairs, none of which is a pair with the next. -/
structure HalfRun where
  /-- How many code points lie before the run. -/
  position : Nat
  /-- The first half. -/
  first : Surrogate
  /-- How many halves follow it at once. -/
  more : Nat
  deriving Repr, DecidableEq

namespace RawText

/-- Characters as a sequence of code points. -/
def ofChars (s : List Char) : RawText :=
  s.map .char

/-- A text as a sequence of code points. -/
def ofText (s : String) : RawText :=
  ofChars s.toList

/-- Whether a sequence of code points is a text. -/
def isText (t : RawText) : Bool :=
  t.all CodePoint.isChar

/-- The characters that are shown for a sequence of code points. -/
def chars (t : RawText) : List Char :=
  t.map CodePoint.shown

/-- The text that is shown for a sequence of code points. -/
def shown (t : RawText) : String :=
  String.ofList (chars t)

/-- The first run of halves. -/
def firstRun? : RawText → Option HalfRun
  | [] => none
  | .half s :: rest => some ⟨0, s, (rest.takeWhile fun p => !p.isChar).length⟩
  | .char _ :: rest => (firstRun? rest).map fun r => { r with position := r.position + 1 }

/-! ### Texts among the sequences of code points -/

@[simp]
theorem chars_ofChars (s : List Char) : chars (ofChars s) = s := by
  simp [chars, ofChars, Function.comp_def, CodePoint.shown]

@[simp]
theorem shown_ofText (s : String) : shown (ofText s) = s := by
  rw [shown, ofText, chars_ofChars, String.ofList_toList]

@[simp]
theorem isText_ofText (s : String) : isText (ofText s) = true := by
  simp [isText, ofText, ofChars, CodePoint.isChar]

@[simp]
theorem length_chars (t : RawText) : (chars t).length = t.length :=
  List.length_map _

@[simp]
theorem length_shown (t : RawText) : (shown t).length = t.length := by
  rw [shown, String.length_ofList, length_chars]

@[simp]
theorem length_ofText (s : String) : (ofText s).length = s.length := by
  rw [← length_shown, shown_ofText]

theorem shown_eq_empty_iff {t : RawText} : shown t = "" ↔ t = [] := by
  rw [← List.length_eq_zero_iff, ← length_shown, String.length_eq_zero_iff]

/-- What is no text has a run of halves. -/
theorem isSome_firstRun? (t : RawText) : (firstRun? t).isSome = !isText t := by
  induction t with
  | nil => rfl
  | cons p rest ih =>
    cases p with
    | char c => rw [firstRun?, Option.isSome_map, ih]; rfl
    | half s => rfl

/-- A sequence of code points between quotes. A half is written as other code points are that are
not printable. -/
def quoted (t : RawText) : List Char :=
  let quote := quoteFor (chars t)
  quote :: t.flatMap (point quote) ++ [quote]
where
  /-- One code point inside quotes. -/
  point (quote : Char) : CodePoint → List Char
    | .char c => quoteChar quote c
    | .half s => '\\' :: 'u' :: hexText 4 s.number

end RawText

/-- A sequence of code points that is no text. -/
structure Unpaired where
  /-- The code points. -/
  points : RawText
  /-- Not all of them are characters. -/
  notText : RawText.isText points = false
  deriving Repr, DecidableEq

namespace Unpaired

/-- A single half. -/
def single (s : Surrogate) : Unpaired :=
  ⟨[.half s], rfl⟩

/-- The text that is shown for it. -/
def shown (t : Unpaired) : String :=
  RawText.shown t.points

/-- What is no text is not empty. -/
theorem shown_ne_empty (t : Unpaired) : t.shown ≠ "" := by
  intro hempty
  have htext := t.notText
  rw [RawText.shown_eq_empty_iff.mp hempty] at htext
  cases htext

/-- The first run of halves, at which an encoding fails. -/
def firstRun (t : Unpaired) : HalfRun :=
  (RawText.firstRun? t.points).get (by rw [RawText.isSome_firstRun?, t.notText]; rfl)

end Unpaired

end LabelPress.Text
