import LabelPress.CheckDigit
import Mathlib.Tactic.Common

/-!
# A code of one scheme as a code of the other

EAN-13 begins with weight one and UPC-A with weight three. A zero in front adds nothing to a sum and
moves every digit to a place of the other weight, so a text is to UPC-A what the same text with a
zero in front is to EAN-13. The two schemes complete the sum in different ways, which is the only
thing that the zero does not account for.

The comparison is of everything that can come of a text: a fault, nothing, or a code.

## Main definitions

* `ZeroApart` — two results that differ by a zero in front of the code, if there is one

## Main results

* `checkDigit_leadingZero` — both schemes have the same check digit
* `complete_leadingZero`, `verify_leadingZero` — completing and verifying commute with the zero
* `ean13_leadingZero` — the results for a text are a zero apart
-/

namespace LabelPress.CheckDigit

open LabelPress.Text

/-- Two results differ by a zero in front of the code at most: both are the same fault over a value,
both are nothing, or both are codes. -/
inductive ZeroApart :
    Except Fault (Option (List Char)) → Except Fault (Option (List Char)) → Prop where
  /-- Both fail, for the same reason. -/
  | failed {f : Fault} (h : f.kind = .value) : ZeroApart (.error f) (.error f)
  /-- Neither has a code. -/
  | nothing : ZeroApart (.ok none) (.ok none)
  /-- Both have a code. -/
  | code (digits : List Char) : ZeroApart (.ok (some ('0' :: digits))) (.ok (some digits))

/-- A verdict about a code with a zero in front. -/
def Verdict.leadingZero : Verdict → Verdict
  | .sound code => .sound ('0' :: code)
  | .repaired given corrected => .repaired ('0' :: given) ('0' :: corrected)

@[simp] theorem Verdict.code_leadingZero (v : Verdict) : v.leadingZero.code = '0' :: v.code := by
  cases v <;> rfl

/-! ### Digits -/

theorem digitValues_zero_cons (s : List Char) :
    digitValues ('0' :: s) = (digitValues s).map (0 :: ·) := by
  have hzero : digitValue? '0' = some 0 := by decide
  simp only [digitValues, hzero]
  cases digitValues s <;> rfl

theorem kind_of_digitValues_error {s : List Char} {f : Fault} (h : digitValues s = .error f) :
    f.kind = .value := by
  induction s with
  | nil => cases h
  | cons c cs ih =>
    rw [digitValues] at h
    split at h
    · obtain rfl := Except.error.inj h
      rfl
    · split at h
      next => cases h
      next hcs =>
        obtain rfl := Except.error.inj h
        exact ih hcs

/-! ### Sums -/

/-- A zero in front exchanges the weights of all other digits. -/
theorem sum_leadingZero (digits : List Nat) :
    Scheme.sum .ean13 (0 :: digits) = Scheme.sum .upcA digits := by
  show 0 * 1 + weightedSum 3 1 digits = weightedSum 3 1 digits
  omega

/-- **The check digits agree,** although the schemes complete the sum in different ways. -/
theorem checkDigit_leadingZero (digits : List Nat) :
    Scheme.checkDigit .ean13 (0 :: digits) = Scheme.checkDigit .upcA digits := by
  rw [Scheme.checkDigit_eq, Scheme.checkDigit_eq, sum_leadingZero]

/-! ### Results -/

/-- **Completing commutes with the zero.** -/
theorem complete_leadingZero (payload : List Char) :
    Scheme.complete .ean13 ('0' :: payload) =
      (Scheme.complete .upcA payload).map (Option.map ('0' :: ·)) := by
  have hlength : ('0' :: payload).length = Scheme.payloadLength .ean13 ↔
      payload.length = Scheme.payloadLength .upcA := by
    simp [Scheme.payloadLength]
  rw [Scheme.complete, Scheme.complete, if_congr hlength rfl rfl, digitValues_zero_cons]
  split_ifs
  · cases digitValues payload with
    | error f => rfl
    | ok ds => simp only [Except.map, checkDigit_leadingZero, Option.map, List.cons_append]
  · rfl

/-- **Verifying commutes with the zero.** -/
theorem verify_leadingZero (code : List Char) :
    Scheme.verify .ean13 ('0' :: code) =
      (Scheme.verify .upcA code).map (Option.map Verdict.leadingZero) := by
  have hlength : ('0' :: code).length = Scheme.codeLength .ean13 ↔
      code.length = Scheme.codeLength .upcA := by
    simp [Scheme.codeLength, Scheme.payloadLength]
  have htake : ('0' :: code).take (Scheme.payloadLength .ean13) =
      '0' :: code.take (Scheme.payloadLength .upcA) := rfl
  have hdrop : ('0' :: code).drop (Scheme.payloadLength .ean13) =
      code.drop (Scheme.payloadLength .upcA) := rfl
  simp only [Scheme.verify, if_congr hlength rfl rfl, htake, hdrop, digitValues_zero_cons]
  split_ifs
  · cases digitValues (code.take (Scheme.payloadLength .upcA)) with
    | error f => rfl
    | ok ds =>
      cases digitValues (code.drop (Scheme.payloadLength .upcA)) with
      | error f => rfl
      | ok last =>
        simp only [Except.map, checkDigit_leadingZero]
        split_ifs <;> rfl
  · rfl

theorem kind_of_complete_error {s : Scheme} {payload : List Char} {f : Fault}
    (h : s.complete payload = .error f) : f.kind = .value := by
  rw [Scheme.complete] at h
  split_ifs at h
  split at h
  next => cases h
  next hdigits =>
    obtain rfl := Except.error.inj h
    exact kind_of_digitValues_error hdigits

theorem kind_of_verify_error {s : Scheme} {code : List Char} {f : Fault}
    (h : s.verify code = .error f) : f.kind = .value := by
  rw [Scheme.verify] at h
  split_ifs at h
  cases hpayload : digitValues (code.take s.payloadLength) with
  | error g =>
    simp only [hpayload] at h
    obtain rfl := Except.error.inj h
    exact kind_of_digitValues_error hpayload
  | ok ds =>
    cases hlast : digitValues (code.drop s.payloadLength) with
    | error g =>
      simp only [hpayload, hlast] at h
      obtain rfl := Except.error.inj h
      exact kind_of_digitValues_error hlast
    | ok last =>
      simp only [hpayload, hlast] at h
      split_ifs at h

/-- What commutes with the zero is a zero apart, unless it fails for another reason. -/
theorem zeroApart_map {r : Except Fault (Option (List Char))}
    (h : ∀ f, r = .error f → f.kind = .value) :
    ZeroApart (r.map (Option.map ('0' :: ·))) r := by
  rcases r with f | (_ | code)
  · exact .failed (h f rfl)
  · exact .nothing
  · exact .code code

/-- **A text is to UPC-A what it is to EAN-13 with a zero in front.** Completing the two texts, and
verifying them, ends in the same fault over a value, in nothing for both, or in codes that differ by
the zero. -/
theorem ean13_leadingZero (digits : List Char) :
    ZeroApart (Scheme.complete .ean13 ('0' :: digits)) (Scheme.complete .upcA digits) ∧
      ZeroApart (Scheme.corrected .ean13 ('0' :: digits)) (Scheme.corrected .upcA digits) := by
  constructor
  · rw [complete_leadingZero]
    exact zeroApart_map fun f hf => kind_of_complete_error hf
  · have hcorrected : Scheme.corrected .ean13 ('0' :: digits) =
        (Scheme.corrected .upcA digits).map (Option.map ('0' :: ·)) := by
      rw [Scheme.corrected, Scheme.corrected, verify_leadingZero]
      rcases Scheme.verify .upcA digits with f | (_ | v)
      · rfl
      · rfl
      · simp [Except.map]
    rw [hcorrected]
    refine zeroApart_map fun f hf => ?_
    rw [Scheme.corrected] at hf
    cases hverify : Scheme.verify .upcA digits with
    | error g =>
      rw [hverify] at hf
      obtain rfl := Except.error.inj hf
      exact kind_of_verify_error hverify
    | ok v =>
      rw [hverify] at hf
      cases hf

end LabelPress.CheckDigit
