import LabelPress.Proofs.HexColour
import LabelPress.Proofs.Numeral
import Mathlib.Data.Bool.AllAny
import Mathlib.Data.List.TakeWhile

/-!
# What is taken for a colour

Hexadecimal digits are not all that the reader of colours accepts. It reads each pair of characters
by the generous rules for integers, so the place of a digit may be taken by a sign or by white
space, and a decimal digit may come from any script. This module says which texts are colours and
which colours they are, and how far that goes beyond six hexadecimal digits.

Of the rules for integers little is left for two characters. There is room for one sign or one blank
beside a digit, but not for the mark of base sixteen and a digit after it, nor for an underscore
between two digits.

## Main definitions

* `PartText` — the pairs of characters that are parts of a colour
* `WritesColour` — the texts that are colours
* `IsLoose` — the characters that are taken beyond hexadecimal digits

## Main results

* `readPart?_eq_some_iff`, `read_eq_ok_iff` — what the reader accepts
* `writesColour_of_hexColour`, `exists_hexColour` — without loose characters it is what one expects
* `read_colourText` — the reader of colours on every text
-/

namespace LabelPress.Image

open LabelPress.Json LabelPress.Text

variable {a b : Char} {d : Nat} {n : Int}

/-! ### Digits in base sixteen -/

/-- A digit in base sixteen is a decimal digit of some script or one of twelve letters. -/
theorem digit_cases (h : digitIn? 16 a = some d) :
    digitValue? a = some d ∨ hexLetterValue? a = some d := by
  obtain ⟨h, -⟩ := Option.filter_eq_some_iff.mp h
  exact (Option.or_eq_some_iff.mp h).imp id And.right

theorem hexValue?_of_hexLetterValue? (h : hexLetterValue? a = some d) : hexValue? a = some d := by
  have hdecimal : (0x30 ≤ a.toNat && a.toNat ≤ 0x39) = false := by
    simp only [hexLetterValue?, Bool.and_eq_true, decide_eq_true_eq] at h
    rw [Bool.and_eq_false_iff, decide_eq_false_iff_not, decide_eq_false_iff_not]
    split_ifs at h <;> omega
  rw [hexValue?, hdecimal, h]
  rfl

theorem isWhiteSpace_of_digit (h : digitIn? 16 a = some d) : isWhiteSpace a = false := by
  rcases digit_cases h with hdecimal | hletter
  · exact isWhiteSpace_of_isDecimalDigit (by rw [isDecimalDigit, hdecimal]; rfl)
  · have hhex := hexValue?_of_hexLetterValue? hletter
    exact (hexDigit_spec (by rw [hhex]; rfl)).2.1

/-- What the reader of integers gives a meaning of its own is no digit. -/
theorem ne_of_digit (h : digitIn? 16 a = some d) : a ∉ ['-', '+', '_', 'x', 'X', '#'] := by
  have hmarks : ∀ c ∈ ['-', '+', '_', 'x', 'X', '#'], digitIn? 16 c = none :=
    List.all_iff_forall_prop.mp (by decide)
  intro hmem
  rw [hmarks a hmem] at h
  cases h

theorem digit_lt (h : digitIn? 16 a = some d) : d < 16 := by
  simpa using (Option.filter_eq_some_iff.mp h).2

/-! ### Short texts as integers

A text is stripped, its sign is taken off, and the rest is read as a magnitude. With no more than
two characters this comes to few cases. -/

/-- The magnitude that a text without white space around it and without a sign denotes. -/
def magnitude? (s : List Char) : Option Nat :=
  match groupedDigits (digitIn? 16) false (dropBaseMark 16 s) with
  | some (digits, []) => some (hexNumber digits)
  | _ => none

/-- The integer that a text without white space around it denotes. -/
def stripped? (s : List Char) : Option Int :=
  (magnitude? (takeSign s).2).map (withSign (takeSign s).1)

theorem value?_readInteger (s : List Char) :
    (readInteger 16 s).value? = stripped? (stripBy isWhiteSpace s) := by
  rw [readInteger, stripped?, magnitude?]
  dsimp only
  rcases groupedDigits (digitIn? 16) false _ with _ | ⟨digits, _ | ⟨c, rest⟩⟩ <;> rfl

theorem dropBaseMark_eq_self {s : List Char}
    (h : ∀ x rest, s = '0' :: x :: rest → x ≠ 'x' ∧ x ≠ 'X') : dropBaseMark 16 s = s := by
  rw [dropBaseMark.eq_def, if_pos rfl]
  split
  next x rest => simp [h x rest rfl]
  next => rfl

theorem magnitude?_singleton (a : Char) : magnitude? [a] = digitIn? 16 a := by
  have hdrop : dropBaseMark 16 [a] = [a] := dropBaseMark_eq_self (by simp)
  rw [magnitude?, hdrop]
  cases ha : digitIn? 16 a with
  | none => by_cases hunder : a = '_' <;> simp [groupedDigits, ha, hunder]
  | some d =>
    have hunder : a ≠ '_' := fun h => ne_of_digit ha (by simp [h])
    simp [groupedDigits, ha, hunder, hexNumber]

/-- A zero and the letter of the mark do not stand for digits side by side, so it makes no
difference that the reader looks for the mark. -/
theorem magnitude?_pair (a b : Char) :
    magnitude? [a, b] =
      (digitIn? 16 a).bind fun high => (digitIn? 16 b).map fun low => 16 * high + low := by
  by_cases hmark : a = '0' ∧ (b = 'x' ∨ b = 'X')
  · obtain ⟨rfl, rfl | rfl⟩ := hmark <;> decide
  have hdrop : dropBaseMark 16 [a, b] = [a, b] := by
    refine dropBaseMark_eq_self fun x rest h => ?_
    simp only [List.cons.injEq] at h
    simp_all
  rw [magnitude?, hdrop]
  cases ha : digitIn? 16 a with
  | none => by_cases hunder : a = '_' <;> simp [groupedDigits, ha, hunder]
  | some high =>
    have hunder : a ≠ '_' := fun h => ne_of_digit ha (by simp [h])
    cases hb : digitIn? 16 b with
    | none => by_cases hunder' : b = '_' <;> simp [groupedDigits, ha, hb, hunder, hunder']
    | some low =>
      have hunder' : b ≠ '_' := fun h => ne_of_digit hb (by simp [h])
      simp [groupedDigits, ha, hb, hunder, hunder', hexNumber, Nat.mul_comm high]

theorem stripped?_of_ne {s : List Char} (hminus : s.head? ≠ some '-') (hplus : s.head? ≠ some '+') :
    stripped? s = (magnitude? s).map Int.ofNat := by
  have hsign : takeSign s = (false, s) := by
    unfold takeSign
    split
    · simp at hminus
    · simp at hplus
    · rfl
  rw [stripped?, hsign]
  rfl

/-- A sign alone is no integer, and neither is it a digit. -/
theorem stripped?_singleton (a : Char) : stripped? [a] = (digitIn? 16 a).map Int.ofNat := by
  by_cases hminus : a = '-'
  · subst hminus
    decide
  by_cases hplus : a = '+'
  · subst hplus
    decide
  rw [stripped?_of_ne (by simpa using hminus) (by simpa using hplus), magnitude?_singleton]

theorem stripped?_minus (b : Char) :
    stripped? ['-', b] = (digitIn? 16 b).map fun low : Nat => -(low : Int) := by
  have hsign : stripped? ['-', b] = (magnitude? [b]).map (withSign true) := rfl
  rw [hsign, magnitude?_singleton]
  rfl

theorem stripped?_plus (b : Char) : stripped? ['+', b] = (digitIn? 16 b).map Int.ofNat := by
  have hsign : stripped? ['+', b] = (magnitude? [b]).map (withSign false) := rfl
  rw [hsign, magnitude?_singleton]
  rfl

/-- Of two characters, stripping leaves those that are not to be dropped. -/
theorem stripBy_pair (p : Char → Bool) (a b : Char) :
    stripBy p [a, b] = [a, b].filter fun c => !p c := by
  cases ha : p a <;> cases hb : p b <;> simp [stripBy, dropEnd, ha, hb]

/-! ### Parts -/

/-- The pairs of characters that are parts of a colour, with the number that each denotes. The
digits are those in base sixteen: decimal digits of any script, and the letters from A to F. -/
inductive PartText : Char → Char → Int → Prop where
  /-- Two digits. -/
  | digits {a b : Char} {high low : Nat} (ha : digitIn? 16 a = some high)
    (hb : digitIn? 16 b = some low) : PartText a b (16 * high + low : Nat)
  /-- A digit after a plus sign. -/
  | plus {b : Char} {low : Nat} (hb : digitIn? 16 b = some low) : PartText '+' b low
  /-- A digit after a minus sign. -/
  | minus {b : Char} {low : Nat} (hb : digitIn? 16 b = some low) : PartText '-' b (-(low : Int))
  /-- A digit after white space. -/
  | blankBefore {a b : Char} {low : Nat} (ha : isWhiteSpace a = true)
    (hb : digitIn? 16 b = some low) : PartText a b low
  /-- A digit before white space. -/
  | blankAfter {a b : Char} {low : Nat} (ha : digitIn? 16 a = some low)
    (hb : isWhiteSpace b = true) : PartText a b low

/-- **A pair of characters is a part of a colour** iff it has a digit, and beside it another digit,
a sign before it or white space. -/
theorem readPart?_eq_some_iff : Colour.readPart? a b = some n ↔ PartText a b n := by
  rw [Colour.readPart?, value?_readInteger, stripBy_pair]
  constructor
  · intro h
    cases ha : isWhiteSpace a <;> cases hb : isWhiteSpace b <;>
      simp only [List.filter_cons, ha, hb, Bool.not_true, Bool.not_false, if_true, if_false,
        Bool.false_eq_true, List.filter_nil] at h
    · by_cases hminus : a = '-'
      · subst hminus
        rw [stripped?_minus] at h
        obtain ⟨low, hlow, rfl⟩ := Option.map_eq_some_iff.mp h
        exact .minus hlow
      by_cases hplus : a = '+'
      · subst hplus
        rw [stripped?_plus] at h
        obtain ⟨low, hlow, rfl⟩ := Option.map_eq_some_iff.mp h
        exact .plus hlow
      rw [stripped?_of_ne (by simpa using hminus) (by simpa using hplus), magnitude?_pair] at h
      obtain ⟨m, hm, rfl⟩ := Option.map_eq_some_iff.mp h
      obtain ⟨high, hhigh, hm⟩ := Option.bind_eq_some_iff.mp hm
      obtain ⟨low, hlow, rfl⟩ := Option.map_eq_some_iff.mp hm
      exact .digits hhigh hlow
    · rw [stripped?_singleton] at h
      obtain ⟨low, hlow, rfl⟩ := Option.map_eq_some_iff.mp h
      exact .blankAfter hlow hb
    · rw [stripped?_singleton] at h
      obtain ⟨low, hlow, rfl⟩ := Option.map_eq_some_iff.mp h
      exact .blankBefore ha hlow
    · cases h
  · intro h
    cases h with
    | digits ha hb =>
      have hmarks := ne_of_digit ha
      simp only [List.mem_cons, not_or] at hmarks
      simp only [List.filter_cons, isWhiteSpace_of_digit ha, isWhiteSpace_of_digit hb]
      rw [stripped?_of_ne (by simpa using hmarks.1) (by simpa using hmarks.2.1)]
      simp [magnitude?_pair, ha, hb]
    | plus hb =>
      have hblank : isWhiteSpace '+' = false := by decide
      simp only [List.filter_cons, hblank, isWhiteSpace_of_digit hb]
      simp [stripped?_plus, hb]
    | minus hb =>
      have hblank : isWhiteSpace '-' = false := by decide
      simp only [List.filter_cons, hblank, isWhiteSpace_of_digit hb]
      simp [stripped?_minus, hb]
    | blankBefore ha hb =>
      simp [ha, isWhiteSpace_of_digit hb, stripped?_singleton, hb]
    | blankAfter ha hb =>
      simp [hb, isWhiteSpace_of_digit ha, stripped?_singleton, ha]

/-! ### Colours -/

/-- The colour with these bytes for its parts. -/
def Colour.ofRgb (c : Rgb) : Colour :=
  ⟨c.red.toNat, c.green.toNat, c.blue.toNat⟩

/-- A text is taken for a colour: any number of number signs, and then a pair of characters for each
part. -/
def WritesColour (s : String) (c : Colour) : Prop :=
  ∃ marks r r' g g' b b',
    s.toList = List.replicate marks '#' ++ [r, r', g, g', b, b'] ∧
      PartText r r' c.red ∧ PartText g g' c.green ∧ PartText b b' c.blue

variable {s : String} {c : Colour}

/-- No part begins with a number sign, so the signs in front of a colour end where it begins. -/
theorem ne_numberSign_of_partText (h : PartText a b n) : a ≠ '#' := by
  rintro rfl
  cases h with
  | digits ha _ => exact ne_of_digit ha (by decide)
  | blankBefore ha _ => exact absurd ha (by decide)
  | blankAfter ha _ => exact ne_of_digit ha (by decide)

theorem takeWhile_eq_replicate (ch : Char) (l : List Char) :
    ∃ k, l.takeWhile (· = ch) = List.replicate k ch :=
  ⟨_, List.eq_replicate_iff.mpr ⟨rfl, fun d hd => by simpa using List.mem_takeWhile_imp hd⟩⟩

/-- **What is read as a colour** is taken for that colour, and nothing else. -/
theorem read_eq_ok_iff : Colour.read s = .ok c ↔ WritesColour s c := by
  constructor
  · intro h
    obtain ⟨marks, hmarks⟩ := takeWhile_eq_replicate '#' s.toList
    have hsplit := List.takeWhile_append_dropWhile (p := (· = '#')) (l := s.toList)
    rw [Colour.read, Colour.readChars] at h
    split at h
    next r r' g g' b b' hbody =>
      split at h
      next hred hgreen hblue =>
        obtain rfl := Except.ok.inj h
        rw [hmarks, hbody] at hsplit
        exact ⟨marks, r, r', g, g', b, b', hsplit.symm, readPart?_eq_some_iff.mp hred,
          readPart?_eq_some_iff.mp hgreen, readPart?_eq_some_iff.mp hblue⟩
      next => cases h
    next => cases h
  · rintro ⟨marks, r, r', g, g', b, b', hs, hred, hgreen, hblue⟩
    have hbody : s.toList.dropWhile (· = '#') = [r, r', g, g', b, b'] := by
      rw [hs, List.dropWhile_append_of_pos (by simp),
        List.dropWhile_cons_of_neg (by simpa using ne_numberSign_of_partText hred)]
    simp only [Colour.read, Colour.readChars, hbody, readPart?_eq_some_iff.mpr hred,
      readPart?_eq_some_iff.mpr hgreen, readPart?_eq_some_iff.mpr hblue]

theorem kind_of_read {f : Fault} (h : Colour.read s = .error f) : f.kind = .value := by
  rw [Colour.read, Colour.readChars] at h
  split at h
  · split at h
    · cases h
    · obtain rfl := Except.error.inj h
      rfl
  · obtain rfl := Except.error.inj h
    rfl

/-! ### Loose characters -/

/-- The characters that may stand in a colour although they are no hexadecimal digits: signs, white
space and the digits of other scripts. -/
def IsLoose (c : Char) : Prop :=
  c = '+' ∨ c = '-' ∨ isWhiteSpace c = true ∨ (isDecimalDigit c = true ∧ isAsciiDigit c = false)

theorem hexValue?_of_digit (hstrict : ¬ IsLoose a) (h : digitIn? 16 a = some d) :
    hexValue? a = some d := by
  rcases digit_cases h with hdecimal | hletter
  · have hascii : isAsciiDigit a = true := by
      by_contra hother
      exact hstrict (.inr (.inr (.inr
        ⟨by rw [isDecimalDigit, hdecimal]; rfl, by simpa using hother⟩)))
    have hvalue : (hexValue? a).isSome = true := by
      have hrange : (0x30 ≤ a.toNat && a.toNat ≤ 0x39) = true := hascii
      rw [hexValue?, hrange]
      rfl
    rw [← (hexDigit_spec hvalue).1, h]
  · exact hexValue?_of_hexLetterValue? hletter

theorem not_isLoose_of_hexValue? (h : (hexValue? a).isSome = true) : ¬ IsLoose a := by
  have hscript : ∀ n ∈ hexCodes, isDecimalDigit (Char.ofNat n) = true →
      isAsciiDigit (Char.ofNat n) = true := by
    decide
  obtain ⟨-, hblank, hmarks⟩ := hexDigit_spec h
  have hcode := hscript a.toNat (toNat_mem_hexCodes h)
  rw [Char.ofNat_toNat] at hcode
  rintro (rfl | rfl | hwhite | ⟨hdecimal, hother⟩)
  · exact hmarks (by decide)
  · exact hmarks (by decide)
  · rw [hblank] at hwhite
    cases hwhite
  · rw [hcode hdecimal] at hother
    cases hother

/-- **A part without loose characters** is a pair of hexadecimal digits. -/
theorem partText_iff_hexPair (ha : ¬ IsLoose a) (hb : ¬ IsLoose b) :
    PartText a b n ↔ ∃ k : UInt8, hexPair? a b = some k.toNat ∧ n = k.toNat := by
  constructor
  · intro h
    cases h with
    | @digits _ _ high low hhigh hlow =>
      have hlt : 16 * high + low < 256 := by
        have := digit_lt hhigh
        have := digit_lt hlow
        omega
      refine ⟨UInt8.ofNat (16 * high + low), ?_, ?_⟩
      · rw [UInt8.toNat_ofNat_of_lt' hlt]
        exact hexPair?_eq_some_iff.mpr
          ⟨high, low, hexValue?_of_digit ha hhigh, hexValue?_of_digit hb hlow, rfl⟩
      · rw [UInt8.toNat_ofNat_of_lt' hlt]
    | plus _ => exact absurd (.inl rfl) ha
    | minus _ => exact absurd (.inr (.inl rfl)) ha
    | blankBefore hblank _ => exact absurd (.inr (.inr (.inl hblank))) ha
    | blankAfter _ hblank => exact absurd (.inr (.inr (.inl hblank))) hb
  · rintro ⟨k, hpair, rfl⟩
    exact readPart?_eq_some_iff.mp (readPart?_of_hexPair? hpair)

theorem not_isLoose_of_hexPair (h : (hexPair? a b).isSome = true) :
    ¬ IsLoose a ∧ ¬ IsLoose b := by
  obtain ⟨n, hn⟩ := Option.isSome_iff_exists.mp h
  obtain ⟨high, low, ha, hb, -⟩ := hexPair?_eq_some_iff.mp hn
  exact ⟨not_isLoose_of_hexValue? (by rw [ha]; rfl), not_isLoose_of_hexValue? (by rw [hb]; rfl)⟩

theorem not_isLoose_of_hexColour {rgb : Rgb} (h : HexColour s rgb) :
    ∀ ch ∈ s.toList, ¬ IsLoose ch := by
  obtain ⟨marks, r, r', g, g', b, b', hs, hred, hgreen, hblue⟩ := h
  have hsign : ¬ IsLoose '#' := by
    rintro (h | h | h | ⟨h, -⟩) <;> exact absurd h (by decide)
  have hr := not_isLoose_of_hexPair (by rw [hred]; rfl)
  have hg := not_isLoose_of_hexPair (by rw [hgreen]; rfl)
  have hb := not_isLoose_of_hexPair (by rw [hblue]; rfl)
  intro ch hmem
  rw [hs, List.mem_append] at hmem
  rcases hmem with hmark | hbody
  · rwa [List.eq_of_mem_replicate hmark]
  · simp only [List.mem_cons, List.not_mem_nil, or_false] at hbody
    rcases hbody with rfl | rfl | rfl | rfl | rfl | rfl
    exacts [hr.1, hr.2, hg.1, hg.2, hb.1, hb.2]

theorem writesColour_of_hexColour {rgb : Rgb} (h : HexColour s rgb) :
    WritesColour s (Colour.ofRgb rgb) :=
  read_eq_ok_iff.mp (ofValue_of_hexColour h)

/-- **A colour without loose characters** is written in hexadecimal digits. -/
theorem exists_hexColour (h : WritesColour s c) (hstrict : ∀ ch ∈ s.toList, ¬ IsLoose ch) :
    ∃ rgb, HexColour s rgb ∧ c = Colour.ofRgb rgb := by
  obtain ⟨red, green, blue⟩ := c
  obtain ⟨marks, r, r', g, g', b, b', hs, hred, hgreen, hblue⟩ := h
  simp only [hs, List.forall_mem_append, List.forall_mem_cons] at hstrict
  obtain ⟨-, hr, hr', hg, hg', hb, hb', -⟩ := hstrict
  obtain ⟨x, hx, rfl⟩ := (partText_iff_hexPair hr hr').mp hred
  obtain ⟨y, hy, rfl⟩ := (partText_iff_hexPair hg hg').mp hgreen
  obtain ⟨z, hz, rfl⟩ := (partText_iff_hexPair hb hb').mp hblue
  exact ⟨⟨x, y, z⟩, ⟨marks, r, r', g, g', b, b', hs, hx, hy, hz⟩, rfl⟩

/-- **The reader of colours on every text.** It reads a colour iff the text is six characters after
any number of number signs, and each pair of them is two digits, a digit with a sign before it or a
digit with white space beside it; every other text is refused as a wrong value. The texts of
hexadecimal digits are those among them that have no loose character, and they are read as the bytes
that their pairs denote. -/
theorem read_colourText (s : String) :
    (∀ c, Colour.read s = .ok c ↔ WritesColour s c) ∧
      ((∃ f, Colour.read s = .error f ∧ f.kind = .value) ↔ ∀ c, ¬ WritesColour s c) ∧
      ∀ c, (Colour.read s = .ok c ∧ ∀ ch ∈ s.toList, ¬ IsLoose ch) ↔
        ∃ rgb, HexColour s rgb ∧ c = Colour.ofRgb rgb := by
  refine ⟨fun c => read_eq_ok_iff, ⟨?_, fun hno => ?_⟩, fun c => ⟨?_, ?_⟩⟩
  · rintro ⟨f, hf, -⟩ c hc
    rw [read_eq_ok_iff.mpr hc] at hf
    cases hf
  · cases hread : Colour.read s with
    | error f => exact ⟨f, rfl, kind_of_read hread⟩
    | ok c => exact absurd (read_eq_ok_iff.mp hread) (hno c)
  · rintro ⟨hread, hstrict⟩
    exact exists_hexColour (read_eq_ok_iff.mp hread) hstrict
  · rintro ⟨rgb, hhex, rfl⟩
    exact ⟨read_eq_ok_iff.mpr (writesColour_of_hexColour hhex), not_isLoose_of_hexColour hhex⟩

/-- **A colour with negative parts:** a digit after a minus sign is taken for a part, although it is
not a pair of hexadecimal digits. -/
theorem read_colourText_signed :
    Colour.read "-1-1-1" = .ok ⟨-1, -1, -1⟩ ∧ (∀ rgb, ¬ HexColour "-1-1-1" rgb) ∧
      ¬ Colour.inRange ⟨-1, -1, -1⟩ := by
  refine ⟨by decide, fun rgb h => ?_, fun h => absurd h.1.1 (by decide)⟩
  exact not_isLoose_of_hexColour h '-' (by decide) (.inr (.inl rfl))

end LabelPress.Image
