import LabelPress.Image.Colour
import LabelPress.Proofs.Scanning
import Mathlib.Tactic.Common

/-!
# Colours in hexadecimal digits

The reader of colours takes each pair of characters for an integer and accepts more than digits. On
hexadecimal digits it does what one expects: a pair is read as the number that its digits denote, so
every part is a byte and the colour that is painted is the colour that was written.

## Main definitions

* `hexPair?` — the number that a pair of hexadecimal digits denotes
* `HexColour` — a text writes a colour in hexadecimal digits

## Main results

* `readPart?_of_hexPair?` — a pair of digits is read as its number
* `ofValue_of_hexColour` — a colour in hexadecimal digits is read as itself
-/

namespace LabelPress.Image

open LabelPress.Json LabelPress.Text

/-- The number that two hexadecimal digits denote. -/
def hexPair? (a b : Char) : Option Nat :=
  match hexValue? a, hexValue? b with
  | some high, some low => some (16 * high + low)
  | _, _ => none

/-- A text writes a colour: any number of number signs, and then a pair of hexadecimal digits for
each part. -/
def HexColour (s : String) (c : Rgb) : Prop :=
  ∃ marks r r' g g' b b',
    s.toList = List.replicate marks '#' ++ [r, r', g, g', b, b'] ∧
      hexPair? r r' = some c.red.toNat ∧ hexPair? g g' = some c.green.toNat ∧
      hexPair? b b' = some c.blue.toNat

variable {a b : Char} {n : Nat}

/-! ### Digits -/

/-- The code points of the hexadecimal digits. -/
def hexCodes : List Nat :=
  List.range' 0x30 10 ++ List.range' 0x41 6 ++ List.range' 0x61 6

theorem toNat_mem_hexCodes (h : (hexValue? a).isSome = true) : a.toNat ∈ hexCodes := by
  simp only [hexCodes, List.mem_append, List.mem_range'_1]
  simp only [hexValue?, hexLetterValue?] at h
  split_ifs at h <;> simp_all <;> omega

/-- A hexadecimal digit is a digit in base sixteen, and nothing else that the reader of integers
looks for. The digits are gone through one by one. -/
theorem hexDigit_spec (h : (hexValue? a).isSome = true) :
    digitIn? 16 a = hexValue? a ∧ isWhiteSpace a = false ∧ a ∉ ['-', '+', '_', 'x', 'X', '#'] := by
  have htable : ∀ n ∈ hexCodes, digitIn? 16 (Char.ofNat n) = hexValue? (Char.ofNat n) ∧
      isWhiteSpace (Char.ofNat n) = false ∧
      Char.ofNat n ∉ ['-', '+', '_', 'x', 'X', '#'] := by
    decide
  have hvalue := htable a.toNat (toNat_mem_hexCodes h)
  rwa [Char.ofNat_toNat] at hvalue

theorem hexPair?_eq_some_iff :
    hexPair? a b = some n ↔
      ∃ high low, hexValue? a = some high ∧ hexValue? b = some low ∧ 16 * high + low = n := by
  rw [hexPair?]
  cases hexValue? a <;> cases hexValue? b <;> simp

/-! ### Pairs -/

/-- **A pair of hexadecimal digits** is read as the number that it denotes. -/
theorem readPart?_of_hexPair? (h : hexPair? a b = some n) :
    Colour.readPart? a b = some (n : Int) := by
  obtain ⟨high, low, ha, hb, rfl⟩ := hexPair?_eq_some_iff.mp h
  obtain ⟨hdigit, hblank, hmarks⟩ := hexDigit_spec (a := a) (by simp [ha])
  obtain ⟨hdigit', hblank', hmarks'⟩ := hexDigit_spec (a := b) (by simp [hb])
  simp only [List.mem_cons, List.not_mem_nil, or_false, not_or] at hmarks hmarks'
  have hstrip : stripBy isWhiteSpace [a, b] = [a, b] :=
    stripBy_eq_self (by simpa using hblank) (by simpa using hblank')
  have hsign : takeSign [a, b] = (false, [a, b]) := by
    unfold takeSign
    split <;> simp_all
  have hmark : dropBaseMark 16 [a, b] = [a, b] := by
    by_cases hzero : a = '0'
    · subst hzero
      simp [dropBaseMark, hmarks'.2.2.2.1, hmarks'.2.2.2.2.1]
    · unfold dropBaseMark
      split
      · split <;> simp_all
      · rfl
  have hdigits : groupedDigits (digitIn? 16) false [a, b] = some ([high, low], []) := by
    simp [groupedDigits, hmarks.2.2.1, hmarks'.2.2.1, hdigit, hdigit', ha, hb]
  simp [Colour.readPart?, readInteger, hstrip, hsign, hmark, hdigits, IntegerReading.value?,
    withSign, Nat.mul_comm high]

/-! ### Colours -/

/-- **A colour in hexadecimal digits** is read as itself. -/
theorem ofValue_of_hexColour {s : String} {c : Rgb} (h : HexColour s c) :
    Colour.ofValue (.string s) = .ok ⟨c.red.toNat, c.green.toNat, c.blue.toNat⟩ := by
  obtain ⟨marks, r, r', g, g', b, b', hs, hred, hgreen, hblue⟩ := h
  have hfirst : r ≠ '#' := by
    obtain ⟨high, low, hr, -⟩ := hexPair?_eq_some_iff.mp hred
    rintro rfl
    have hnone : hexValue? '#' = none := by decide
    rw [hnone] at hr
    cases hr
  have hbody : (List.replicate marks '#' ++ [r, r', g, g', b, b']).dropWhile (· = '#') =
      [r, r', g, g', b, b'] := by
    rw [List.dropWhile_append_of_pos (by simp), List.dropWhile_cons_of_neg (by simpa using hfirst)]
  simp only [Colour.ofValue, Value.toText, Colour.read, Colour.readChars, hs, hbody,
    readPart?_of_hexPair? hred, readPart?_of_hexPair? hgreen, readPart?_of_hexPair? hblue]

end LabelPress.Image
