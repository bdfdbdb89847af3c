import LabelPress.Proofs.Scanning
import LabelPress.Text.Integer

/-!
# Numerals of every script

The generous reader of integers takes any run of decimal digits for a numeral, whatever scripts the
digits come from, and refuses it only for its length. Nothing else that the reader knows of can get
in the way: no digit is white space, a sign or an underscore.

## Main results

* `isDecimalDigit_iff` — a digit lies at most nine above the zero of its script
* `readInteger_of_digits` — what is made of a run of digits
-/

namespace LabelPress.Text

/-! ### Digits -/

/-- A digit lies at most nine above the zero of its script. -/
theorem isDecimalDigit_iff {c : Char} :
    isDecimalDigit c = true ↔ ∃ z ∈ decimalZeros, z ≤ c.toNat ∧ c.toNat < z + 10 := by
  rw [isDecimalDigit, digitValue?, Option.isSome_map, List.find?_isSome]
  simp only [Bool.and_eq_true, decide_eq_true_eq]

theorem digitValue?_lt_ten {c : Char} {d : Nat} (h : digitValue? c = some d) : d < 10 := by
  obtain ⟨z, hz, rfl⟩ := Option.map_eq_some_iff.mp h
  have hrange := List.find?_some hz
  simp only [Bool.and_eq_true, decide_eq_true_eq] at hrange
  omega

/-- No digit is white space: the blocks of ten keep clear of it. -/
theorem isWhiteSpace_of_isDecimalDigit {c : Char} (h : isDecimalDigit c = true) :
    isWhiteSpace c = false := by
  have htable : ∀ z ∈ decimalZeros, ∀ d < 10, isWhiteSpace (Char.ofNat (z + d)) = false := by
    decide
  obtain ⟨z, hz, hle, hlt⟩ := isDecimalDigit_iff.mp h
  have hvalue := htable z hz (c.toNat - z) (by omega)
  rwa [Nat.add_sub_cancel' hle, Char.ofNat_toNat] at hvalue

theorem digitIn?_ten {c : Char} (h : isDecimalDigit c = true) :
    digitIn? 10 c = some (digitValue c) := by
  obtain ⟨d, hd⟩ := Option.isSome_iff_exists.mp h
  have hlt := digitValue?_lt_ten hd
  simp [digitIn?, digitValue, hd, hlt]

/-! ### Runs of digits -/

variable {xs : List Char}

theorem groupedDigits_of_digits (h : ∀ c ∈ xs, isDecimalDigit c = true) :
    groupedDigits (digitIn? 10) true xs = some (xs.map digitValue, []) := by
  induction xs with
  | nil => rfl
  | cons c cs ih =>
    have hc : isDecimalDigit c = true := h c List.mem_cons_self
    have hcs := ih fun d hd => h d (List.mem_cons_of_mem c hd)
    have hmark : c ≠ '_' := by
      rintro rfl
      exact absurd hc (by decide)
    simp [groupedDigits, hmark, digitIn?_ten hc, hcs]

theorem takeSign_of_digits (h : ∀ c ∈ xs, isDecimalDigit c = true) : takeSign xs = (false, xs) := by
  unfold takeSign
  split
  · exact absurd (h '-' List.mem_cons_self) (by decide)
  · exact absurd (h '+' List.mem_cons_self) (by decide)
  · rfl

/-- **A run of digits is a numeral.** It denotes what its digits say, unless there are too many of
them. -/
theorem readInteger_of_digits (hne : xs ≠ []) (h : ∀ c ∈ xs, isDecimalDigit c = true) :
    readInteger 10 xs =
      if maxDigits < xs.length then .tooLong xs.length
      else .value (decimalValue (xs.map digitValue)) := by
  have hstrip : stripBy isWhiteSpace xs = xs := by
    refine stripBy_eq_self (fun c hc => ?_) fun c hc => ?_
    · exact isWhiteSpace_of_isDecimalDigit (h c (List.mem_of_mem_head? hc))
    · exact isWhiteSpace_of_isDecimalDigit (h c (List.mem_of_mem_getLast? hc))
  have hdigits : groupedDigits (digitIn? 10) false xs = some (xs.map digitValue, []) := by
    obtain ⟨c, cs, rfl⟩ := List.exists_cons_of_ne_nil hne
    have hall := groupedDigits_of_digits h
    have hmark : c ≠ '_' := by
      rintro rfl
      exact absurd (h '_' List.mem_cons_self) (by decide)
    rw [groupedDigits, if_neg hmark] at hall ⊢
    rw [digitIn?_ten (h c List.mem_cons_self)] at hall ⊢
    exact hall
  have hbase : dropBaseMark 10 xs = xs := rfl
  simp only [readInteger, hstrip, takeSign_of_digits h, hbase, hdigits]
  simp [decimalValue, withSign]

end LabelPress.Text
