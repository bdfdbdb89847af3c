import LabelPress.Barcode.Normalise
import Mathlib.Tactic.Common

/-!
# What normalising a payload can lead to

A payload of a symbology with check digits is refused for its length, refused for its first
character that is not a digit, or becomes a full code. Which of the three it is depends on its
length and on its characters alone.

## Main definitions

* `FirstNonDigit` — the first character of a text that is not a decimal digit
* `Scheme.FitsLength` — the lengths that a scheme of check digits accepts

## Main results

* `digitValues_eq_ok`, `digitValues_eq_error` — reading digits
* `normaliseFor_of_not_fitsLength`, `normaliseFor_of_firstNonDigit`, `normaliseFor_of_digits` — the
  three things that normalising can lead to
-/

namespace LabelPress.CheckDigit

open LabelPress.Text

/-! ### Reading digits -/

/-- `c` is the first character of a text that is not a decimal digit. -/
def FirstNonDigit (s : List Char) (c : Char) : Prop :=
  ∃ before after, s = before ++ c :: after ∧ (∀ d ∈ before, isDecimalDigit d = true) ∧
    isDecimalDigit c = false

theorem digits_or_firstNonDigit (s : List Char) :
    (∀ c ∈ s, isDecimalDigit c = true) ∨ ∃ c, FirstNonDigit s c := by
  induction s with
  | nil => exact Or.inl (by simp)
  | cons c cs ih =>
    by_cases hc : isDecimalDigit c = true
    · rcases ih with hcs | ⟨d, before, after, rfl, hbefore, hd⟩
      · exact Or.inl (List.forall_mem_cons.mpr ⟨hc, hcs⟩)
      · exact Or.inr ⟨d, c :: before, after, rfl, List.forall_mem_cons.mpr ⟨hc, hbefore⟩, hd⟩
    · exact Or.inr ⟨c, [], cs, rfl, by simp, by simpa using hc⟩

theorem digitValues_eq_ok {s : List Char} (h : ∀ c ∈ s, isDecimalDigit c = true) :
    digitValues s = .ok (s.map digitValue) := by
  induction s with
  | nil => rfl
  | cons c cs ih =>
    rw [List.forall_mem_cons] at h
    obtain ⟨d, hd⟩ := Option.isSome_iff_exists.mp h.1
    simp only [digitValues, hd, ih h.2, List.map_cons, digitValue, Option.getD_some]

theorem digitValues_eq_error {s : List Char} {c : Char} (h : FirstNonDigit s c) :
    digitValues s = .error (.notAnInteger (String.singleton c)) := by
  obtain ⟨before, after, rfl, hbefore, hc⟩ := h
  have hnone : digitValue? c = none := by simpa [isDecimalDigit] using hc
  induction before with
  | nil => simp only [List.nil_append, digitValues, hnone]
  | cons b before ih =>
    rw [List.forall_mem_cons] at hbefore
    obtain ⟨d, hd⟩ := Option.isSome_iff_exists.mp hbefore.1
    simp only [List.cons_append, digitValues, hd, ih hbefore.2]

/-- The first character that is not a digit stands in the first part of a text, or in the second
part after nothing but digits. -/
theorem firstNonDigit_append {a b : List Char} {c : Char} (h : FirstNonDigit (a ++ b) c) :
    FirstNonDigit a c ∨ ((∀ d ∈ a, isDecimalDigit d = true) ∧ FirstNonDigit b c) := by
  obtain ⟨before, after, hsplit, hbefore, hc⟩ := h
  rcases List.append_eq_append_iff.mp hsplit with ⟨rest, rfl, hb⟩ | ⟨rest, rfl, hrest⟩
  · exact Or.inr ⟨fun d hd => hbefore d (List.mem_append_left _ hd), rest, after, hb,
      fun d hd => hbefore d (List.mem_append_right _ hd), hc⟩
  · cases rest with
    | nil =>
      refine Or.inr ⟨by simpa using hbefore, [], after, by simpa using hrest.symm, by simp, hc⟩
    | cons d rest =>
      obtain ⟨rfl, -⟩ := List.cons_eq_cons.mp hrest
      exact Or.inl ⟨before, rest, rfl, hbefore, hc⟩

/-- Verifying fails at the first character that is not a digit, wherever it stands. -/
theorem Scheme.verify_of_firstNonDigit {s : Scheme} {code : List Char} {c : Char}
    (hlength : code.length = s.codeLength) (hc : FirstNonDigit code c) :
    s.verify code = .error (.notAnInteger (String.singleton c)) := by
  rw [Scheme.verify, if_pos hlength]
  rw [← List.take_append_drop s.payloadLength code] at hc
  rcases firstNonDigit_append hc with hc | ⟨hdigits, hc⟩
  · simp only [digitValues_eq_error hc]
  · simp only [digitValues_eq_ok hdigits, digitValues_eq_error hc]

/-- The lengths that a scheme accepts: with the check digit and without it. -/
def Scheme.FitsLength (s : Scheme) (n : Nat) : Prop :=
  n = s.payloadLength ∨ n = s.codeLength

end LabelPress.CheckDigit

namespace LabelPress.Barcode

open LabelPress.Text LabelPress.CheckDigit

variable {s : Scheme} {data : String}

/-! ### Normalising for a scheme -/

/-- **A length that does not fit** leads to a warning, whatever the characters are. -/
theorem normaliseFor_of_not_fitsLength (h : ¬ s.FitsLength data.length) :
    normaliseFor s data = .ok (.rejected ⟨s, data⟩) := by
  rw [Scheme.FitsLength, not_or, ← String.length_toList] at h
  rw [normaliseFor, Scheme.complete, if_neg h.1, Scheme.verify, if_neg h.2]

/-- **A character that is not a digit** makes the payload unreadable. -/
theorem normaliseFor_of_firstNonDigit (h : s.FitsLength data.length) {c : Char}
    (hc : FirstNonDigit data.toList c) :
    normaliseFor s data = .error (.notAnInteger (String.singleton c)) := by
  rw [← String.length_toList] at h
  rw [normaliseFor, Scheme.complete]
  rcases h with h | h
  · rw [if_pos h, digitValues_eq_error hc]
  · have hne : ¬ data.toList.length = s.payloadLength := by
      rw [h, Scheme.codeLength]
      omega
    rw [if_neg hne, Scheme.verify_of_firstNonDigit h hc]

/-- **Digits of a length that fits** become a full code. -/
theorem normaliseFor_of_digits (h : s.FitsLength data.length)
    (hdigits : ∀ c ∈ data.toList, isDecimalDigit c = true) :
    ∃ n code, normaliseFor s data = .ok n ∧ n.payload = .ok code ∧ code.length = s.codeLength := by
  rw [← String.length_toList] at h
  rw [normaliseFor, Scheme.complete]
  rcases h with h | h
  · rw [if_pos h, digitValues_eq_ok hdigits]
    exact ⟨_, _, rfl, rfl, by simp [← String.length_toList, h, Scheme.codeLength]⟩
  · have hne : ¬ data.toList.length = s.payloadLength := by
      rw [h, Scheme.codeLength]
      omega
    have htake : digitValues (data.toList.take s.payloadLength) = .ok _ :=
      digitValues_eq_ok fun c hc => hdigits c (List.mem_of_mem_take hc)
    have hdrop : digitValues (data.toList.drop s.payloadLength) = .ok _ :=
      digitValues_eq_ok fun c hc => hdigits c (List.mem_of_mem_drop hc)
    rw [if_neg hne, Scheme.verify, if_pos h]
    simp only [htake, hdrop]
    split_ifs
    · exact ⟨_, _, rfl, rfl, by rw [String.ofList_toList, ← String.length_toList, h]⟩
    · refine ⟨_, _, rfl, rfl, ?_⟩
      rw [← String.length_toList, String.toList_ofList, List.length_append, List.length_take, h]
      simp [Scheme.codeLength]

end LabelPress.Barcode
