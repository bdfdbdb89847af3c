import LabelPress.Proofs.Numeral
import LabelPress.Proofs.Outcome
import Mathlib.Data.List.Basic
import Mathlib.Tactic.IntervalCases

/-!
# Normalising as a projection onto valid codes

A code of EAN-13 or UPC-A is valid if it has the right number of digits and their weighted sum is a
multiple of ten. Normalising takes every payload that can be encoded to a valid code with the same
digits before the check digit, leaves a valid code as it is, and gives the same code for any two
payloads that need a check digit and have the same digits before it.

The weights are stated here by places, independently of the recursion that computes the sum. The
check digit has weight one under both schemes, which is why one argument serves for both.

## Main definitions

* `Scheme.weight`, `Scheme.total` — the weight of a place, and the sum of digits so weighted
* `Scheme.Valid` — a full code whose sum is a multiple of ten
* `Scheme.repaired` — a text made into a valid code

## Main results

* `Scheme.valid_repaired`, `Scheme.repaired_eq_self_iff` — repairing projects onto valid codes
* `yields_iff` — what normalising yields
* `normalise_projection` — when it yields a code, a fault or a warning, and what the code is
-/

namespace LabelPress.CheckDigit

open LabelPress.Text

/-! ### Digits -/

theorem digitValue_lt_ten {c : Char} (h : isDecimalDigit c = true) : digitValue c < 10 := by
  obtain ⟨d, hd⟩ := Option.isSome_iff_exists.mp h
  rw [digitValue, hd]
  exact digitValue?_lt_ten hd

theorem digitValue?_asciiDigit {d : Nat} (h : d < 10) : digitValue? (asciiDigit d) = some d := by
  interval_cases d <;> decide

theorem isDecimalDigit_asciiDigit {d : Nat} (h : d < 10) :
    isDecimalDigit (asciiDigit d) = true := by
  rw [isDecimalDigit, digitValue?_asciiDigit h]
  rfl

theorem digitValue_asciiDigit {d : Nat} (h : d < 10) : digitValue (asciiDigit d) = d := by
  rw [digitValue, digitValue?_asciiDigit h]
  rfl

/-! ### Weighted sums by places -/

/-- The weight of the digit in a place; the first place is zero. -/
def Scheme.weight : Scheme → Nat → Nat
  | ean13, i => if i % 2 = 0 then 1 else 3
  | upcA, i => if i % 2 = 0 then 3 else 1

/-- The sum of the digits of a text, each with the weight of its place. -/
def Scheme.total (s : Scheme) (text : List Char) : Nat :=
  ((text.map digitValue).mapIdx fun i d => s.weight i * d).sum

/-- A sum with alternating weights is one with weights that repeat every two places. -/
theorem weightedSum_eq {f : Nat → Nat} (hf : ∀ i, f (i + 2) = f i) (ds : List Nat) :
    weightedSum (f 0) (f 1) ds = (ds.mapIdx fun i d => f i * d).sum := by
  induction ds generalizing f with
  | nil => rfl
  | cons d ds ih =>
    have hshift := ih (f := fun i => f (i + 1)) fun i => hf (i + 1)
    have htwo : f (1 + 1) = f 0 := hf 0
    rw [List.mapIdx_cons, List.sum_cons, ← hshift, weightedSum, Nat.mul_comm, htwo]

variable {s : Scheme} {text : List Char}

theorem Scheme.weight_add_two (s : Scheme) (i : Nat) : s.weight (i + 2) = s.weight i := by
  cases s <;> simp [weight]

theorem Scheme.sum_eq_total (s : Scheme) (text : List Char) :
    s.sum (text.map digitValue) = s.total text := by
  have hweights : s.weights = (s.weight 0, s.weight 1) := by cases s <;> rfl
  rw [sum, hweights, weightedSum_eq s.weight_add_two, total]

theorem Scheme.total_concat (s : Scheme) (text : List Char) (c : Char) :
    s.total (text ++ [c]) = s.total text + s.weight text.length * digitValue c := by
  rw [total, List.map_append, List.map_singleton, List.mapIdx_concat, List.sum_append,
    List.sum_singleton, List.length_map, total]

/-- The check digit has weight one. -/
theorem Scheme.weight_payloadLength (s : Scheme) : s.weight s.payloadLength = 1 := by
  cases s <;> rfl

theorem complement_lt_ten (n : Nat) : complement n < 10 :=
  Nat.mod_lt _ (by decide)

theorem Scheme.checkDigit_lt_ten (s : Scheme) (digits : List Nat) : s.checkDigit digits < 10 := by
  rw [checkDigit_eq]
  exact complement_lt_ten _

/-- The complement is the only digit that leads to a multiple of ten. -/
theorem add_mod_ten_eq_zero_iff {n d : Nat} (h : d < 10) :
    (n + d) % 10 = 0 ↔ d = complement n := by
  rw [complement]
  omega

/-! ### Valid codes -/

/-- A full code: digits only, as many as the scheme has, with a weighted sum that is a multiple of
ten. -/
structure Scheme.Valid (s : Scheme) (text : List Char) : Prop where
  /-- It has a check digit. -/
  length : text.length = s.codeLength
  /-- It has digits only. -/
  digits : ∀ c ∈ text, isDecimalDigit c = true
  /-- The check digit is right. -/
  total : s.total text % 10 = 0

/-- The digits before the check digit. -/
def Scheme.payload (s : Scheme) (text : List Char) : List Char :=
  text.take s.payloadLength

/-- Digits followed by their check digit. -/
def Scheme.completed (s : Scheme) (payload : List Char) : List Char :=
  payload ++ [asciiDigit (s.checkDigit (payload.map digitValue))]

/-- Whether a text is a valid code can be found out. -/
instance Scheme.decidableValid (s : Scheme) (text : List Char) : Decidable (s.Valid text) :=
  decidable_of_iff (text.length = s.codeLength ∧ text.all isDecimalDigit = true ∧
    s.total text % 10 = 0)
    ⟨fun h => ⟨h.1, List.all_eq_true.mp h.2.1, h.2.2⟩,
      fun h => ⟨h.1, List.all_eq_true.mpr h.2, h.3⟩⟩

/-- A text made into a valid code: it is left as it is if it is one, and gets a new check digit
otherwise. -/
def Scheme.repaired (s : Scheme) (text : List Char) : List Char :=
  if s.Valid text then text else s.completed (s.payload text)

/-- Digits of which there are as many as before the check digit become a valid code. -/
theorem Scheme.valid_completed {payload : List Char} (hlength : payload.length = s.payloadLength)
    (hdigits : ∀ c ∈ payload, isDecimalDigit c = true) : s.Valid (s.completed payload) where
  length := by rw [completed, List.length_append, hlength, codeLength, List.length_singleton]
  digits := by
    rw [completed, List.forall_mem_append, List.forall_mem_singleton]
    exact ⟨hdigits, isDecimalDigit_asciiDigit (checkDigit_lt_ten s _)⟩
  total := by
    have hlt : s.checkDigit (payload.map digitValue) < 10 := checkDigit_lt_ten s _
    rw [completed, total_concat, hlength, weight_payloadLength, Nat.one_mul,
      digitValue_asciiDigit hlt, add_mod_ten_eq_zero_iff hlt, checkDigit_eq, sum_eq_total]

theorem Scheme.length_payload (h : s.FitsLength text.length) :
    (s.payload text).length = s.payloadLength := by
  rw [payload, List.length_take]
  rcases h with h | h <;> rw [h]
  · exact Nat.min_self _
  · exact Nat.min_eq_left (Nat.le_succ _)

theorem Scheme.payload_append {payload : List Char} (h : payload.length = s.payloadLength)
    (rest : List Char) : s.payload (payload ++ rest) = payload := by
  rw [Scheme.payload, ← h, List.take_left]

/-- **Repairing leads to a valid code.** -/
theorem Scheme.valid_repaired (hfits : s.FitsLength text.length)
    (hdigits : ∀ c ∈ text, isDecimalDigit c = true) : s.Valid (s.repaired text) := by
  rw [repaired]
  split_ifs with h
  · exact h
  · exact valid_completed (length_payload hfits) fun c hc => hdigits c (List.mem_of_mem_take hc)

/-- **A text is left as it is iff it is valid.** -/
theorem Scheme.repaired_eq_self_iff (hfits : s.FitsLength text.length)
    (hdigits : ∀ c ∈ text, isDecimalDigit c = true) : s.repaired text = text ↔ s.Valid text := by
  constructor
  · intro h
    rw [← h]
    exact valid_repaired hfits hdigits
  · intro h
    rw [repaired, if_pos h]

theorem Scheme.payload_repaired (hfits : s.FitsLength text.length) :
    s.payload (s.repaired text) = s.payload text := by
  rw [repaired]
  split_ifs with h
  · rfl
  · rw [completed, payload_append (length_payload hfits)]

/-- Texts that are not valid are repaired alike if they agree before the check digit. -/
theorem Scheme.repaired_congr {other : List Char} (h : ¬ s.Valid text) (hother : ¬ s.Valid other)
    (hpayload : s.payload text = s.payload other) : s.repaired text = s.repaired other := by
  rw [repaired, repaired, if_neg h, if_neg hother, hpayload]

/-- Digits with a check digit are a valid code iff it is the right one. -/
theorem Scheme.valid_iff_checkDigit {payload : List Char} {c : Char}
    (hlength : payload.length = s.payloadLength)
    (hdigits : ∀ d ∈ payload ++ [c], isDecimalDigit d = true) :
    s.Valid (payload ++ [c]) ↔ digitValue c = s.checkDigit (payload.map digitValue) := by
  have hc : digitValue c < 10 := digitValue_lt_ten (hdigits c (by simp))
  have htotal : s.total (payload ++ [c]) = s.total payload + digitValue c := by
    rw [total_concat, hlength, weight_payloadLength, Nat.one_mul]
  rw [checkDigit_eq, sum_eq_total, ← add_mod_ten_eq_zero_iff hc, ← htotal]
  refine ⟨Valid.total, fun h => ⟨?_, hdigits, h⟩⟩
  rw [List.length_append, hlength, codeLength, List.length_singleton]

end LabelPress.CheckDigit

namespace LabelPress.Barcode

open LabelPress.Text LabelPress.CheckDigit

variable {r : Request} {s : Scheme}

/-! ### What normalising yields -/

/-- Normalising a request yields this payload to encode. -/
def Yields (r : Request) (code : String) : Prop :=
  ∃ n, normalise r = .ok n ∧ n.payload = .ok code

/-- Normalising a request leads to this warning. -/
def Warns (r : Request) (w : LengthWarning) : Prop :=
  ∃ n, normalise r = .ok n ∧ n.payload = .error w

theorem complete_of_length {payload : List Char} (hlength : payload.length = s.payloadLength)
    (hdigits : ∀ c ∈ payload, isDecimalDigit c = true) :
    s.complete payload = .ok (some (s.completed payload)) := by
  rw [Scheme.complete, if_pos hlength, digitValues_eq_ok hdigits]
  rfl

theorem complete_eq_none_iff {text : List Char} :
    s.complete text = .ok none ↔ text.length ≠ s.payloadLength := by
  rw [Scheme.complete]
  split_ifs with h
  · cases digitValues text <;> simp [h]
  · simp [h]

theorem verify_eq_none_iff {text : List Char} :
    s.verify text = .ok none ↔ text.length ≠ s.codeLength := by
  rw [Scheme.verify]
  split_ifs with h
  · simp only [h, ne_eq, not_true_eq_false, iff_false]
    intro hverdict
    split at hverdict
    · cases hverdict
    · split at hverdict
      · cases hverdict
      · split_ifs at hverdict <;> cases hverdict
  · simp [h]

theorem verify_of_length {text : List Char} (hlength : text.length = s.codeLength)
    (hdigits : ∀ c ∈ text, isDecimalDigit c = true) :
    ∃ verdict, s.verify text = .ok (some verdict) ∧ verdict.code = s.repaired text := by
  have hfits : s.FitsLength text.length := Or.inr hlength
  obtain ⟨c, hlast⟩ : ∃ c, text.drop s.payloadLength = [c] := by
    refine List.length_eq_one_iff.mp ?_
    rw [List.length_drop, hlength, Scheme.codeLength]
    omega
  have hsplit : s.payload text ++ [c] = text := by
    rw [Scheme.payload, ← hlast, List.take_append_drop]
  have hvalid := Scheme.valid_iff_checkDigit (c := c) (Scheme.length_payload hfits)
    (by rwa [hsplit])
  rw [hsplit] at hvalid
  have hpayload : digitValues (text.take s.payloadLength) = .ok ((s.payload text).map digitValue) :=
    digitValues_eq_ok fun d hd => hdigits d (List.mem_of_mem_take hd)
  have hcheck : digitValues [c] = .ok [digitValue c] :=
    digitValues_eq_ok fun d hd => hdigits d (hsplit ▸ List.mem_append_right _ hd)
  rw [Scheme.verify, if_pos hlength, Scheme.repaired]
  simp only [hpayload, hlast, hcheck]
  by_cases h : s.Valid text
  · rw [if_pos (congrArg ([·]) (hvalid.mp h)), if_pos h]
    exact ⟨_, rfl, rfl⟩
  · rw [if_neg fun heq => h (hvalid.mpr (List.singleton_injective heq)), if_neg h]
    exact ⟨_, rfl, rfl⟩

/-- **Digits that can be encoded become the repaired code.** -/
theorem yields_repaired (h : HasScheme r s) (hfits : s.FitsLength r.data.length)
    (hdigits : ∀ c ∈ r.data.toList, isDecimalDigit c = true) :
    Yields r (String.ofList (s.repaired r.data.toList)) := by
  rw [← String.length_toList] at hfits
  rw [Yields, normalise_of_hasScheme h, normaliseFor]
  rcases hfits with hlength | hlength
  · have hnot : ¬ s.Valid r.data.toList := fun hvalid => by
      have hcode := hvalid.length
      rw [hlength, Scheme.codeLength] at hcode
      omega
    have hwhole : s.payload r.data.toList = r.data.toList := by
      rw [Scheme.payload, ← hlength, List.take_length]
    rw [complete_of_length hlength hdigits, Scheme.repaired, if_neg hnot, hwhole]
    exact ⟨_, rfl, rfl⟩
  · have hne : ¬ r.data.toList.length = s.payloadLength := by
      rw [hlength, Scheme.codeLength]
      omega
    obtain ⟨verdict, hverdict, hcode⟩ := verify_of_length hlength hdigits
    rw [Scheme.complete, if_neg hne, hverdict, ← hcode]
    cases verdict with
    | sound code => exact ⟨_, rfl, rfl⟩
    | repaired given corrected => exact ⟨_, rfl, rfl⟩

/-- The three things that normalising can lead to, by the length and the characters. -/
theorem normalise_cases (h : HasScheme r s) :
    (¬ s.FitsLength r.data.length ∧ normalise r = .ok (.rejected ⟨s, r.data⟩)) ∨
      (s.FitsLength r.data.length ∧ (∃ c ∈ r.data.toList, isDecimalDigit c = false) ∧
        ∃ c, normalise r = .error (.notAnInteger (String.singleton c))) ∨
      (s.FitsLength r.data.length ∧ (∀ c ∈ r.data.toList, isDecimalDigit c = true) ∧
        Yields r (String.ofList (s.repaired r.data.toList))) := by
  rw [normalise_of_hasScheme h]
  by_cases hfits : s.FitsLength r.data.length
  · rcases digits_or_firstNonDigit r.data.toList with hdigits | ⟨c, hc⟩
    · exact Or.inr (Or.inr ⟨hfits, hdigits, yields_repaired h hfits hdigits⟩)
    · refine Or.inr (Or.inl ⟨hfits, ?_, c, normaliseFor_of_firstNonDigit hfits hc⟩)
      obtain ⟨before, after, hsplit, -, hnot⟩ := hc
      exact ⟨c, by simp [hsplit], hnot⟩
  · exact Or.inl ⟨hfits, normaliseFor_of_not_fitsLength hfits⟩

theorem Yields.unique {a b : String} (ha : Yields r a) (hb : Yields r b) : a = b := by
  obtain ⟨n, hn, ha⟩ := ha
  obtain ⟨m, hm, hb⟩ := hb
  rw [hn] at hm
  obtain rfl := Except.ok.inj hm
  rw [ha] at hb
  exact Except.ok.inj hb

/-- **A code comes of digits that can be encoded,** and it is the repaired one. -/
theorem yields_iff (h : HasScheme r s) {code : String} :
    Yields r code ↔ s.FitsLength r.data.length ∧
      (∀ c ∈ r.data.toList, isDecimalDigit c = true) ∧
      code.toList = s.repaired r.data.toList := by
  constructor
  · intro hcode
    rcases normalise_cases h with ⟨-, hnormal⟩ | ⟨-, -, c, hnormal⟩ | ⟨hfits, hdigits, hrepaired⟩
    · obtain ⟨n, hn, hpayload⟩ := hcode
      rw [hnormal] at hn
      obtain rfl := Except.ok.inj hn
      cases hpayload
    · obtain ⟨n, hn, -⟩ := hcode
      rw [hnormal] at hn
      cases hn
    · rw [hcode.unique hrepaired, String.toList_ofList]
      exact ⟨hfits, hdigits, rfl⟩
  · rintro ⟨hfits, hdigits, hcode⟩
    rw [← String.ofList_toList (s := code), hcode]
    exact yields_repaired h hfits hdigits

/-- **A fault comes of a character that is not a digit,** if the length fits. -/
theorem exists_error_iff (h : HasScheme r s) :
    (∃ f, normalise r = .error f) ↔
      s.FitsLength r.data.length ∧ ∃ c ∈ r.data.toList, isDecimalDigit c = false := by
  rcases normalise_cases h with ⟨hunfit, hnormal⟩ | ⟨hfits, hletter, c, hnormal⟩ |
    ⟨-, hdigits, n, hnormal, -⟩
  · rw [hnormal]
    exact iff_of_false (fun ⟨f, hf⟩ => nomatch hf) fun hfits => hunfit hfits.1
  · exact iff_of_true ⟨_, hnormal⟩ ⟨hfits, hletter⟩
  · rw [hnormal]
    refine iff_of_false (fun ⟨f, hf⟩ => nomatch hf) ?_
    rintro ⟨-, c, hc, hletter⟩
    rw [hdigits c hc] at hletter
    cases hletter

theorem kind_of_error (h : HasScheme r s) {f : Fault} (hf : normalise r = .error f) :
    f.kind = .value := by
  rcases normalise_cases h with ⟨-, hnormal⟩ | ⟨-, -, c, hnormal⟩ | ⟨-, -, n, hnormal, -⟩
  · rw [hnormal] at hf
    cases hf
  · rw [hnormal] at hf
    obtain rfl := Except.error.inj hf
    rfl
  · rw [hnormal] at hf
    cases hf

/-- **A warning comes of a length that does not fit,** whatever the characters are. -/
theorem exists_warns_iff (h : HasScheme r s) :
    (∃ w, Warns r w) ↔ ¬ s.FitsLength r.data.length := by
  rcases normalise_cases h with ⟨hunfit, hnormal⟩ | ⟨hfits, -, c, hnormal⟩ |
    ⟨hfits, -, n, hnormal, hpayload⟩
  · exact iff_of_true ⟨_, _, hnormal, rfl⟩ hunfit
  · refine iff_of_false ?_ (not_not.mpr hfits)
    rintro ⟨w, n, hn, -⟩
    rw [hnormal] at hn
    cases hn
  · refine iff_of_false ?_ (not_not.mpr hfits)
    rintro ⟨w, m, hm, hw⟩
    rw [hnormal] at hm
    obtain rfl := Except.ok.inj hm
    rw [hpayload] at hw
    cases hw

/-! ### The projection -/

/-- What is yielded is a valid code that begins with the digits of the payload. -/
theorem valid_of_yields (h : HasScheme r s) {code : String} (hcode : Yields r code) :
    s.Valid code.toList ∧ s.payload code.toList = s.payload r.data.toList := by
  obtain ⟨hfits, hdigits, heq⟩ := (yields_iff h).mp hcode
  rw [← String.length_toList] at hfits
  rw [heq]
  exact ⟨Scheme.valid_repaired hfits hdigits, Scheme.payload_repaired hfits⟩

/-- A full code is left as it is iff its own sum is a multiple of ten. -/
theorem yields_eq_self_iff (h : HasScheme r s) {code : String} (hcode : Yields r code)
    (hlength : r.data.length = s.codeLength) :
    code = r.data ↔ s.total r.data.toList % 10 = 0 := by
  obtain ⟨hfits, hdigits, heq⟩ := (yields_iff h).mp hcode
  rw [← String.length_toList] at hfits hlength
  rw [← String.toList_inj, heq, Scheme.repaired_eq_self_iff hfits hdigits]
  exact ⟨Scheme.Valid.total, fun htotal => ⟨hlength, hdigits, htotal⟩⟩

/-- **Normalising twice is normalising once:** a request with a valid code yields that code. -/
theorem yields_of_valid {code : String} (h : HasScheme r s) (hcode : s.Valid code.toList)
    {again : String} : Yields { r with data := code } again ↔ again = code := by
  have hself : Yields { r with data := code } code := by
    have hscheme : HasScheme { r with data := code } s := h
    refine (yields_iff hscheme).mpr ⟨?_, hcode.digits, ?_⟩
    · exact Or.inr (String.length_toList ▸ hcode.length)
    · rw [Scheme.repaired, if_pos hcode]
  exact ⟨fun hagain => hagain.unique hself, fun heq => heq ▸ hself⟩

/-- A text without a check digit, or with a wrong one, is not a valid code. -/
theorem not_valid_of_incomplete_or_wrong {text : List Char}
    (h : text.length = s.payloadLength ∨ s.total text % 10 ≠ 0) : ¬ s.Valid text := by
  intro hvalid
  rcases h with h | h
  · have hcode := hvalid.length
    rw [h, Scheme.codeLength] at hcode
    omega
  · exact h hvalid.total

/-- **Normalising is a projection onto valid codes.** For a request whose symbology has check
digits:

* It yields a code iff the payload can be encoded, that is, its length fits and it has digits only;
  it fails, over a value, iff the length fits and some character is not a digit; and it warns iff
  the length does not fit. Completing and verifying come to nothing only where they are not called
  for.
* The code is valid and begins with the digits of the payload. A full code is left as it is iff its
  own sum is a multiple of ten, and normalising the code yields the code.
* Payloads that have no check digit or a wrong one, and agree before it, lead to the same code. -/
theorem normalise_projection (h : HasScheme r s) :
    ((∃ code, Yields r code) ↔
      s.FitsLength r.data.length ∧ ∀ c ∈ r.data.toList, isDecimalDigit c = true) ∧
    ((∃ f, normalise r = .error f) ↔
      s.FitsLength r.data.length ∧ ∃ c ∈ r.data.toList, isDecimalDigit c = false) ∧
    (∀ f, normalise r = .error f → f.kind = .value) ∧
    ((∃ w, Warns r w) ↔ ¬ s.FitsLength r.data.length) ∧
    (s.complete r.data.toList = .ok none ↔ r.data.length ≠ s.payloadLength) ∧
    (s.verify r.data.toList = .ok none ↔ r.data.length ≠ s.codeLength) ∧
    (∀ code, Yields r code →
      s.Valid code.toList ∧ s.payload code.toList = s.payload r.data.toList ∧
      (r.data.length = s.codeLength → (code = r.data ↔ s.total r.data.toList % 10 = 0)) ∧
      ∀ again, Yields { r with data := code } again ↔ again = code) ∧
    ∀ other code otherCode, HasScheme other s → Yields r code → Yields other otherCode →
      s.payload r.data.toList = s.payload other.data.toList →
      (r.data.toList.length = s.payloadLength ∨ s.total r.data.toList % 10 ≠ 0) →
      (other.data.toList.length = s.payloadLength ∨ s.total other.data.toList % 10 ≠ 0) →
      code = otherCode := by
  refine ⟨?_, exists_error_iff h, fun f hf => kind_of_error h hf, exists_warns_iff h,
    ?_, ?_, ?_, ?_⟩
  · constructor
    · rintro ⟨code, hcode⟩
      obtain ⟨hfits, hdigits, -⟩ := (yields_iff h).mp hcode
      exact ⟨hfits, hdigits⟩
    · rintro ⟨hfits, hdigits⟩
      exact ⟨_, yields_repaired h hfits hdigits⟩
  · rw [complete_eq_none_iff, String.length_toList]
  · rw [verify_eq_none_iff, String.length_toList]
  · intro code hcode
    obtain ⟨hvalid, hpayload⟩ := valid_of_yields h hcode
    exact ⟨hvalid, hpayload, yields_eq_self_iff h hcode, fun again => yields_of_valid h hvalid⟩
  · intro other code otherCode hother hcode hotherCode hpayload hneeds hotherNeeds
    obtain ⟨-, -, heq⟩ := (yields_iff h).mp hcode
    obtain ⟨-, -, hotherEq⟩ := (yields_iff hother).mp hotherCode
    rw [← String.toList_inj, heq, hotherEq]
    exact Scheme.repaired_congr (not_valid_of_incomplete_or_wrong hneeds)
      (not_valid_of_incomplete_or_wrong hotherNeeds) hpayload

/-- A full code with a digit of another script and a wrong check digit: the check digit is replaced,
the other digits stay, and the code is yielded again. -/
theorem normalise_projection_mixedScripts :
    HasScheme ⟨typeOfSymbology .ean13, "\u0664006381333930", none⟩ .ean13 ∧
      Yields ⟨typeOfSymbology .ean13, "\u0664006381333930", none⟩ "\u0664006381333931" ∧
      Scheme.Valid .ean13 "\u0664006381333931".toList ∧
      Yields ⟨typeOfSymbology .ean13, "\u0664006381333931", none⟩ "\u0664006381333931" := by
  have hscheme : HasScheme ⟨typeOfSymbology .ean13, "\u0664006381333930", none⟩ .ean13 :=
    hasScheme_iff.mpr (Or.inl ⟨by decide, rfl⟩)
  have hyields : Yields ⟨typeOfSymbology .ean13, "\u0664006381333930", none⟩
      "\u0664006381333931" := ⟨_, rfl, rfl⟩
  obtain ⟨-, -, -, -, -, -, hcode, -⟩ := normalise_projection hscheme
  obtain ⟨hvalid, -, -, hagain⟩ := hcode _ hyields
  exact ⟨hscheme, hyields, hvalid, (hagain _).mpr rfl⟩

end LabelPress.Barcode
