import LabelPress.Proofs.ValidCode

/-!
# Errors that check digits detect

Two slips are common where codes are typed: one digit is mistyped, or two neighbouring digits are
exchanged. A wrong digit changes the weighted sum by one or three times the difference, and neither
weight has a factor in common with ten, so it never goes unnoticed. An exchange changes the sum by
twice the difference, since neighbouring weights are two apart: it goes unnoticed exactly if the
digits differ by five.

A slip is noticed when verifying leads to another text than the one given. Both schemes are treated
at once, since all that matters of the weights is that neighbours are one and three.

## Main definitions

* `Scheme.totalFrom` — the weighted sum of digits that stand from some place on

## Main results

* `Scheme.not_valid_of_substitution`, `Scheme.valid_of_transposition_iff` — the two slips
* `Scheme.corrected_eq_ok_iff` — what verifying a text leads to
* `corrected_detects` — what verifying leads to after a slip
-/

namespace LabelPress.CheckDigit

open LabelPress.Text LabelPress.Barcode

namespace Scheme

variable {s : Scheme} {before after text : List Char} {a b : Char}

/-! ### Sums of texts that differ in one place or two -/

/-- The weighted sum of the digits of a text whose first place is `n`. -/
def totalFrom (s : Scheme) (n : Nat) (text : List Char) : Nat :=
  ((text.map digitValue).mapIdx fun i d => s.weight (i + n) * d).sum

theorem total_append (s : Scheme) (before after : List Char) :
    s.total (before ++ after) = s.total before + s.totalFrom before.length after := by
  rw [total, List.map_append, List.mapIdx_append, List.sum_append, List.length_map]
  rfl

theorem totalFrom_cons (s : Scheme) (n : Nat) (c : Char) (text : List Char) :
    s.totalFrom n (c :: text) = s.weight n * digitValue c + s.totalFrom (n + 1) text := by
  have hplace : ∀ i, i + 1 + n = i + (n + 1) := fun i => by omega
  simp only [totalFrom, List.map_cons, List.mapIdx_cons, List.sum_cons, Nat.zero_add, hplace]

theorem weight_cases (s : Scheme) (n : Nat) :
    (s.weight n = 1 ∧ s.weight (n + 1) = 3) ∨ (s.weight n = 3 ∧ s.weight (n + 1) = 1) := by
  rcases Nat.mod_two_eq_zero_or_one n with h | h
  · have hsucc : (n + 1) % 2 = 1 := by omega
    cases s <;> simp [weight, h, hsucc]
  · have hsucc : (n + 1) % 2 = 0 := by omega
    cases s <;> simp [weight, h, hsucc]

/-! ### The two slips -/

/-- **A wrong digit is never overlooked:** a valid code does not stay valid if one digit is replaced
by one of another value. -/
theorem not_valid_of_substitution (hvalid : s.Valid (before ++ a :: after))
    (hb : isDecimalDigit b = true) (hne : digitValue b ≠ digitValue a) :
    ¬ s.Valid (before ++ b :: after) := by
  intro hother
  have hsum := hvalid.total
  have hsumOther := hother.total
  have ha : digitValue a < 10 := digitValue_lt_ten (hvalid.digits a (by simp))
  have hb' : digitValue b < 10 := digitValue_lt_ten hb
  rw [total_append, totalFrom_cons] at hsum hsumOther
  rcases s.weight_cases before.length with ⟨h, -⟩ | ⟨h, -⟩
  · rw [h] at hsum hsumOther
    omega
  · rw [h] at hsum hsumOther
    omega

/-- **An exchange is overlooked iff the digits differ by five,** as long as they differ at all. -/
theorem valid_of_transposition_iff (hvalid : s.Valid (before ++ a :: b :: after))
    (hne : digitValue a ≠ digitValue b) :
    s.Valid (before ++ b :: a :: after) ↔
      digitValue a + 5 = digitValue b ∨ digitValue b + 5 = digitValue a := by
  have hsum := hvalid.total
  have ha : digitValue a < 10 := digitValue_lt_ten (hvalid.digits a (by simp))
  have hb : digitValue b < 10 := digitValue_lt_ten (hvalid.digits b (by simp))
  have hperm : (before ++ b :: a :: after).Perm (before ++ a :: b :: after) :=
    (List.Perm.swap a b after).append_left before
  have hother : s.Valid (before ++ b :: a :: after) ↔
      s.total (before ++ b :: a :: after) % 10 = 0 := by
    refine ⟨Valid.total, fun h => ⟨?_, fun c hc => hvalid.digits c (hperm.mem_iff.mp hc), h⟩⟩
    rw [hperm.length_eq, hvalid.length]
  rw [hother]
  rw [total_append, totalFrom_cons, totalFrom_cons] at hsum ⊢
  rcases s.weight_cases before.length with ⟨h, h'⟩ | ⟨h, h'⟩
  · rw [h, h'] at hsum ⊢
    omega
  · rw [h, h'] at hsum ⊢
    omega

/-! ### What verifying leads to -/

/-- **Verifying digits with a check digit** leads to the repaired code. -/
theorem corrected_of_digits (hlength : text.length = s.codeLength)
    (hdigits : ∀ c ∈ text, isDecimalDigit c = true) :
    s.corrected text = .ok (some (s.repaired text)) := by
  obtain ⟨verdict, hverdict, hcode⟩ := verify_of_length hlength hdigits
  rw [corrected, hverdict, ← hcode]
  rfl

/-- A code comes of verifying digits with a check digit, and of nothing else. -/
theorem corrected_eq_ok_iff {code : List Char} :
    s.corrected text = .ok (some code) ↔
      text.length = s.codeLength ∧ (∀ c ∈ text, isDecimalDigit c = true) ∧
        code = s.repaired text := by
  constructor
  · intro h
    have hlength : text.length = s.codeLength := by
      by_contra hne
      rw [corrected, verify_eq_none_iff.mpr hne] at h
      cases h
    have hdigits : ∀ c ∈ text, isDecimalDigit c = true := by
      rcases digits_or_firstNonDigit text with hdigits | ⟨c, hc⟩
      · exact hdigits
      · rw [corrected, verify_of_firstNonDigit hlength hc] at h
        cases h
    rw [corrected_of_digits hlength hdigits] at h
    exact ⟨hlength, hdigits, (Option.some.inj (Except.ok.inj h)).symm⟩
  · rintro ⟨hlength, hdigits, rfl⟩
    exact corrected_of_digits hlength hdigits

theorem repaired_dropLast (hlength : text.length = s.codeLength) :
    (s.repaired text).length = text.length ∧ (s.repaired text).dropLast = text.dropLast := by
  have hpayload : s.payload text = text.dropLast := by
    rw [payload, List.dropLast_eq_take, hlength]
    rfl
  rw [repaired]
  split_ifs
  · exact ⟨rfl, rfl⟩
  · rw [completed, List.dropLast_concat, hpayload, List.length_append, List.length_dropLast,
      List.length_singleton, hlength]
    exact ⟨rfl, rfl⟩

end Scheme

/-! ### After a slip -/

/-- Verifying a text leads to another one, which differs from it in the last character at most. -/
def Noticed (s : Scheme) (text : List Char) : Prop :=
  ∃ code, s.corrected text = .ok (some code) ∧ code ≠ text ∧
    code.length = text.length ∧ code.dropLast = text.dropLast

/-- Verifying a text leaves it as it is. -/
def Overlooked (s : Scheme) (text : List Char) : Prop :=
  s.corrected text = .ok (some text)

variable {s : Scheme} {text : List Char}

theorem overlooked_iff (hlength : text.length = s.codeLength)
    (hdigits : ∀ c ∈ text, isDecimalDigit c = true) : Overlooked s text ↔ s.Valid text := by
  rw [Overlooked, Scheme.corrected_of_digits hlength hdigits, Except.ok.injEq, Option.some.injEq,
    Scheme.repaired_eq_self_iff (Or.inr hlength) hdigits]

theorem noticed_iff (hlength : text.length = s.codeLength)
    (hdigits : ∀ c ∈ text, isDecimalDigit c = true) : Noticed s text ↔ ¬ s.Valid text := by
  rw [← overlooked_iff hlength hdigits]
  obtain ⟨hsame, hdrop⟩ := Scheme.repaired_dropLast (s := s) hlength
  have hcorrected := Scheme.corrected_of_digits hlength hdigits
  constructor
  · rintro ⟨code, hcode, hne, -⟩ hself
    rw [Overlooked, hcode, Except.ok.injEq, Option.some.injEq] at hself
    exact hne hself
  · intro hnot
    refine ⟨s.repaired text, hcorrected, fun hself => hnot ?_, hsame, hdrop⟩
    rw [Overlooked, hcorrected, hself]

/-- **Errors that verifying detects.** Whatever code comes of verifying a text, it differs from the
text in the last character at most. And for digits that verifying leaves as they are:

* One digit replaced by one of another value, wherever it stands, is noticed.
* Two neighbouring digits of different values exchanged, wherever they stand, are noticed unless
  their values differ by five, and overlooked if they do. -/
theorem corrected_detects (s : Scheme) :
    (∀ text code, s.corrected text = .ok (some code) →
      code.length = text.length ∧ code.dropLast = text.dropLast) ∧
    (∀ text, text.length = s.codeLength → (∀ c ∈ text, isDecimalDigit c = true) →
      ∃ code, s.corrected text = .ok (some code)) ∧
    ∀ text, text.length = s.codeLength → (∀ c ∈ text, isDecimalDigit c = true) →
      Overlooked s text →
      (∀ before after a b, text = before ++ a :: after → isDecimalDigit b = true →
        digitValue b ≠ digitValue a → Noticed s (before ++ b :: after)) ∧
      ∀ before after a b, text = before ++ a :: b :: after → digitValue a ≠ digitValue b →
        if digitValue a + 5 = digitValue b ∨ digitValue b + 5 = digitValue a then
          Overlooked s (before ++ b :: a :: after)
        else Noticed s (before ++ b :: a :: after) := by
  refine ⟨fun text code h => ?_, fun text hlength hdigits => ?_,
    fun text hlength hdigits hself => ⟨?_, ?_⟩⟩
  · obtain ⟨hlength, -, rfl⟩ := Scheme.corrected_eq_ok_iff.mp h
    exact Scheme.repaired_dropLast hlength
  · exact ⟨_, Scheme.corrected_of_digits hlength hdigits⟩
  · rintro before after a b rfl hb hne
    have hvalid := (overlooked_iff hlength hdigits).mp hself
    have hlength' : (before ++ b :: after).length = s.codeLength := by
      simpa using hlength
    have hdigits' : ∀ c ∈ before ++ b :: after, isDecimalDigit c = true := by
      intro c hc
      rcases List.mem_append.mp hc with hc | hc
      · exact hdigits c (List.mem_append_left _ hc)
      · rcases List.mem_cons.mp hc with rfl | hc
        · exact hb
        · exact hdigits c (by simp [hc])
    rw [noticed_iff hlength' hdigits']
    exact Scheme.not_valid_of_substitution hvalid hb hne
  · rintro before after a b rfl hne
    have hvalid := (overlooked_iff hlength hdigits).mp hself
    have hperm : (before ++ b :: a :: after).Perm (before ++ a :: b :: after) :=
      (List.Perm.swap a b after).append_left before
    have hlength' : (before ++ b :: a :: after).length = s.codeLength := by
      rw [hperm.length_eq, hlength]
    have hdigits' : ∀ c ∈ before ++ b :: a :: after, isDecimalDigit c = true := fun c hc =>
      hdigits c (hperm.mem_iff.mp hc)
    rw [overlooked_iff hlength' hdigits', noticed_iff hlength' hdigits']
    have hiff := Scheme.valid_of_transposition_iff hvalid hne
    split_ifs with hfive
    · exact hiff.mpr hfive
    · exact fun h => hfive (hiff.mp h)

/-- Two neighbouring digits that differ by five, exchanged in a valid code of EAN-13. -/
theorem corrected_detects_fiveApart :
    Overlooked .ean13 "4006381333931".toList ∧ Overlooked .ean13 "4006831333931".toList := by
  have hself : Overlooked .ean13 "4006381333931".toList := rfl
  obtain ⟨-, hexchange⟩ :=
    (corrected_detects .ean13).2.2 "4006381333931".toList (by decide)
      (List.all_eq_true.mp (by decide)) hself
  exact ⟨hself, hexchange "4006".toList "1333931".toList '3' '8' (by decide) (by decide)⟩

end LabelPress.CheckDigit
