import LabelPress.Proofs.Unpaired
import LabelPress.Proofs.ValidCode

/-!
# What is drawn for a code with check digits

For a symbology with check digits the raster engine is asked for nothing but valid codes. The
characters of a payload survive normalising as they are, only a check digit is written anew, so each
digit of such a code stands in the payload or is an ASCII digit. A payload with anything but digits
in it never gets as far as the engine.

The digits are those of any script. So a code is in ASCII if the digits of its payload are, and need
not be otherwise: nothing on the way looks at more than the value of a digit.

## Main definitions

* `engineId` — the identifier under which the raster engine draws the codes of a scheme

## Main results

* `Scheme.mem_repaired` — where the characters of a repaired code come from
* `generate_draws_validCode` — what the raster engine is asked to draw, and when
* `generate_draws_otherScript` — a digit of another script that reaches the engine
-/

namespace LabelPress.CheckDigit

open LabelPress.Text

theorem isAsciiDigit_asciiDigit {d : Nat} (h : d < 10) : isAsciiDigit (asciiDigit d) = true := by
  interval_cases d <;> decide

/-- A character of a repaired code stands in the text, or it is the new check digit. -/
theorem Scheme.mem_repaired {s : Scheme} {text : List Char} {ch : Char}
    (h : ch ∈ s.repaired text) : ch ∈ text ∨ isAsciiDigit ch = true := by
  rw [repaired] at h
  split_ifs at h
  · exact Or.inl h
  · rw [completed, List.mem_append, List.mem_singleton] at h
    rcases h with h | rfl
    · exact Or.inl (List.mem_of_mem_take h)
    · exact Or.inr (isAsciiDigit_asciiDigit (Scheme.checkDigit_lt_ten s _))

end LabelPress.CheckDigit

namespace LabelPress.Barcode

open LabelPress.Json LabelPress.Render LabelPress.Text LabelPress.CheckDigit

variable {c : Context} {engines : Engines} {r : Request} {s : Scheme}

/-! ### Queries for codes with check digits -/

/-- The identifier under which the raster engine draws the codes of a scheme. -/
def engineId : Scheme → String
  | .ean13 => "ean13"
  | .upcA => "upca"

theorem rendererId_of_hasScheme (h : HasScheme r s) : r.designator.rendererId = engineId s := by
  rw [r.rendererId_eq]
  rcases hasScheme_iff.mp h with ⟨hs, rfl⟩ | ⟨hs, rfl⟩
  · rw [hs]
    rfl
  · rw [hs]
    rfl

theorem ne_empty_of_valid {text : List Char} (h : s.Valid text) : String.ofList text ≠ "" := by
  intro hempty
  have hlength : s.payloadLength + 1 = 0 := by
    rw [← Scheme.codeLength, ← h.length, ← String.toList_ofList (l := text), hempty]
    rfl
  omega

/-- **Digits that can be encoded** are one query for the repaired code. -/
theorem queries_of_digits (c : Context) (engines : Engines) (h : HasScheme r s)
    (hfits : s.FitsLength r.data.length)
    (hdigits : ∀ ch ∈ r.data.toList, isDecimalDigit ch = true) :
    ∃ settings, (generate c r).queries engines =
      [.raster ⟨.string (engineId s), .string (String.ofList (s.repaired r.data.toList)),
        settings, 2⟩] := by
  obtain ⟨n, hnormal, hpayload⟩ := yields_repaired h hfits hdigits
  have hvalid : s.Valid (s.repaired r.data.toList) :=
    Scheme.valid_repaired (String.length_toList ▸ hfits) hdigits
  obtain ⟨settings, hquery⟩ := r.rasterQuery_of_ne_empty (ne_empty_of_valid hvalid)
  refine ⟨settings, ?_⟩
  rw [queries_generate, dispatch_of_hasScheme h, generateRaster, hnormal]
  simp only [Job.queries_logAll, hpayload]
  rw [(drawRaster_of_query engines r hquery).2, rendererId_of_hasScheme h]

/-- **Any other payload** ends with a warning or a failure, and no engine is asked. -/
theorem queries_of_not_digits (c : Context) (engines : Engines) (h : HasScheme r s)
    (hother : ¬ (s.FitsLength r.data.length ∧
      ∀ ch ∈ r.data.toList, isDecimalDigit ch = true)) :
    (generate c r).queries engines = [] ∧
      ((∃ w, (generate c r).result engines = .warning w) ∨
        ∃ f, (generate c r).result engines = .failure f) := by
  rw [result_generate, queries_generate, dispatch_of_hasScheme h, generateRaster]
  rcases normalise_cases h with ⟨-, hnormal⟩ | ⟨-, -, ch, hnormal⟩ | ⟨hfits, hdigits, -⟩
  · rw [hnormal]
    exact ⟨rfl, Or.inl ⟨_, rfl⟩⟩
  · rw [hnormal]
    exact ⟨rfl, Or.inr ⟨_, rfl⟩⟩
  · exact absurd ⟨hfits, hdigits⟩ hother

theorem queries_of_unpaired (c : Context) (engines : Engines) {raw : RawRequest}
    (h : HasScheme raw.shown s) (htext : RawText.isText raw.data = false) :
    (raw.generate c).queries engines = [] ∧
      ((∃ w, (raw.generate c).result engines = .warning w) ∨
        ∃ f, (raw.generate c).result engines = .failure f) := by
  rw [RawRequest.queries_generate_of_unpaired c engines htext,
    RawRequest.result_generate_of_unpaired c engines htext,
    RawRequest.dispatchUnpaired_of_hasScheme c h htext, RawRequest.queries_refuse]
  refine ⟨rfl, ?_⟩
  rcases RawRequest.result_refuse engines s ⟨raw.data, htext⟩ with ⟨-, hw⟩ | ⟨-, hf⟩
  · exact .inl ⟨_, hw⟩
  · exact .inr ⟨_, hf⟩

theorem query_of_hasScheme (h : HasScheme r s) {q : Query}
    (hq : q ∈ (generate c r).queries engines) :
    s.Valid (s.repaired r.data.toList) ∧ ∃ settings,
      q = .raster ⟨.string (engineId s), .string (String.ofList (s.repaired r.data.toList)),
        settings, 2⟩ := by
  by_cases hencodable :
      s.FitsLength r.data.length ∧ ∀ ch ∈ r.data.toList, isDecimalDigit ch = true
  · obtain ⟨hfits, hdigits⟩ := hencodable
    obtain ⟨settings, hqueries⟩ := queries_of_digits c engines h hfits hdigits
    rw [hqueries, List.mem_singleton] at hq
    exact ⟨Scheme.valid_repaired (String.length_toList ▸ hfits) hdigits, settings, hq⟩
  · rw [(queries_of_not_digits c engines h hencodable).1] at hq
    cases hq

/-- **Only valid codes are drawn.** For a request whose symbology has check digits, and whatever the
engines answer:

* Every query asks the raster engine, under the identifier of the symbology, for a valid code: as
  many decimal digits as the symbology has, the last of which is the right check digit. It is the
  repaired payload, and each of its digits stands in the payload or is an ASCII digit.
* If the payload has no digits of other scripts, the code has ASCII digits only.
* A payload with a character that is not a decimal digit ends with a warning or a failure, and no
  engine is asked.
* The engine is asked once at most, and it is asked iff the payload has digits only and its length
  fits.
* A payload that is no text at all ends with a warning or a failure, too, and no engine is asked. -/
theorem generate_draws_validCode (c : Context) (engines : Engines) (h : HasScheme r s) :
    (∀ q ∈ (generate c r).queries engines, ∃ p text, q = .raster p ∧
      p.rendererId = .string (engineId s) ∧ p.data = .string text ∧
      s.Valid text.toList ∧ text.toList = s.repaired r.data.toList ∧
      (∀ ch ∈ text.toList, ch ∈ r.data.toList ∨ isAsciiDigit ch = true) ∧
      ((∀ ch ∈ r.data.toList, isDecimalDigit ch = true → isAsciiDigit ch = true) →
        ∀ ch ∈ text.toList, isAsciiDigit ch = true)) ∧
    ((∃ ch ∈ r.data.toList, isDecimalDigit ch = false) →
      (generate c r).queries engines = [] ∧
        ((∃ w, (generate c r).result engines = .warning w) ∨
          ∃ f, (generate c r).result engines = .failure f)) ∧
    (((generate c r).queries engines).length ≤ 1 ∧
      ((generate c r).queries engines ≠ [] ↔
        s.FitsLength r.data.length ∧ ∀ ch ∈ r.data.toList, isDecimalDigit ch = true)) ∧
    ∀ raw : RawRequest, HasScheme raw.shown s → RawText.isText raw.data = false →
      (raw.generate c).queries engines = [] ∧
        ((∃ w, (raw.generate c).result engines = .warning w) ∨
          ∃ f, (raw.generate c).result engines = .failure f) := by
  refine ⟨fun q hq => ?_, ?_, ?_, fun raw => queries_of_unpaired c engines⟩
  · obtain ⟨hvalid, settings, rfl⟩ := query_of_hasScheme h hq
    have hmem : ∀ ch ∈ s.repaired r.data.toList, ch ∈ r.data.toList ∨ isAsciiDigit ch = true :=
      fun ch hch => Scheme.mem_repaired hch
    refine ⟨_, String.ofList (s.repaired r.data.toList), rfl, rfl, rfl, ?_⟩
    rw [String.toList_ofList]
    refine ⟨hvalid, rfl, hmem, fun hascii ch hch => ?_⟩
    rcases hmem ch hch with hdata | hdigit
    · exact hascii ch hdata (hvalid.digits ch hch)
    · exact hdigit
  · rintro ⟨ch, hch, hletter⟩
    refine queries_of_not_digits c engines h ?_
    rintro ⟨-, hdigits⟩
    rw [hdigits ch hch] at hletter
    cases hletter
  · by_cases hencodable :
        s.FitsLength r.data.length ∧ ∀ ch ∈ r.data.toList, isDecimalDigit ch = true
    · obtain ⟨settings, hqueries⟩ := queries_of_digits c engines h hencodable.1 hencodable.2
      rw [hqueries]
      exact ⟨Nat.le_refl 1, iff_of_true (List.cons_ne_nil _ _) hencodable⟩
    · rw [(queries_of_not_digits c engines h hencodable).1]
      exact ⟨Nat.zero_le 1, iff_of_false (fun hne => hne rfl) hencodable⟩

/-- Eleven digits are drawn as twelve; a letter among them is not drawn at all. -/
theorem generate_draws_validCode_upcA :
    (generate ⟨⟨.int 200, .int 2, .low, ⟨0, 0, 0⟩, ⟨255, 255, 255⟩⟩, true⟩
        ⟨typeOfSymbology .upcA, "03600029145", none⟩).queries failingEncoder =
      [.raster ⟨.string "upca", .string "036000291452",
        ⟨.string "FFFFFF", none, some "0.394", none, none⟩, 2⟩] ∧
    Scheme.Valid .upcA "036000291452".toList ∧
    (∀ ch ∈ "036000291452".toList, isAsciiDigit ch = true) ∧
    (generate ⟨⟨.int 200, .int 2, .low, ⟨0, 0, 0⟩, ⟨255, 255, 255⟩⟩, true⟩
        ⟨typeOfSymbology .upcA, "0360002914x", none⟩).queries failingEncoder = [] := by
  have hscheme : ∀ data, HasScheme ⟨typeOfSymbology .upcA, data, none⟩ .upcA := fun data =>
    hasScheme_iff.mpr (Or.inr ⟨Symbology.parse?_name .upcA, rfl⟩)
  have hqueries : (generate ⟨⟨.int 200, .int 2, .low, ⟨0, 0, 0⟩, ⟨255, 255, 255⟩⟩, true⟩
      ⟨typeOfSymbology .upcA, "03600029145", none⟩).queries failingEncoder =
      [.raster ⟨.string "upca", .string "036000291452",
        ⟨.string "FFFFFF", none, some "0.394", none, none⟩, 2⟩] := rfl
  have hdrawn := (generate_draws_validCode
    ⟨⟨.int 200, .int 2, .low, ⟨0, 0, 0⟩, ⟨255, 255, 255⟩⟩, true⟩ failingEncoder
    (hscheme "03600029145")).1
  rw [hqueries, List.forall_mem_singleton] at hdrawn
  obtain ⟨p, text, hp, -, htext, hvalid, -, -, hascii⟩ := hdrawn
  obtain rfl := Query.raster.inj hp
  obtain rfl := Value.string.inj htext
  refine ⟨hqueries, hvalid, hascii ?_, ?_⟩
  · exact fun ch hch _ => List.all_eq_true.mp (by decide) ch hch
  · exact ((generate_draws_validCode _ _ (hscheme "0360002914x")).2.1
      ⟨'x', by decide, by decide⟩).1

/-- **A digit of another script reaches the engine:** a valid code that begins with an Arabic four
is drawn as it stands. -/
theorem generate_draws_otherScript :
    HasScheme ⟨typeOfSymbology .ean13, "\u0664006381333931", none⟩ .ean13 ∧
      '\u0664' ∈ "\u0664006381333931".toList ∧ isAsciiDigit '\u0664' = false ∧
      (generate ⟨⟨.int 200, .int 2, .low, ⟨0, 0, 0⟩, ⟨255, 255, 255⟩⟩, true⟩
          ⟨typeOfSymbology .ean13, "\u0664006381333931", none⟩).queries failingEncoder =
        [.raster ⟨.string "ean13", .string "\u0664006381333931",
          ⟨.string "FFFFFF", none, some "0.394", none, none⟩, 2⟩] ∧
      ∃ d, (generate ⟨⟨.int 200, .int 2, .low, ⟨0, 0, 0⟩, ⟨255, 255, 255⟩⟩, true⟩
        ⟨typeOfSymbology .ean13, "\u0664006381333931", none⟩).result failingEncoder =
          .success d := by
  have hscheme : HasScheme ⟨typeOfSymbology .ean13, "\u0664006381333931", none⟩ .ean13 :=
    hasScheme_iff.mpr (Or.inl ⟨Symbology.parse?_name .ean13, rfl⟩)
  exact ⟨hscheme, by decide, by decide, rfl, _, rfl⟩

end LabelPress.Barcode
