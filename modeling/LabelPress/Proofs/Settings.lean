import LabelPress.Settings.Store
import Mathlib.Tactic.Common

/-!
# Settings that were accepted

What every record of settings satisfies that comes out of a load, whatever the sources said, and
what that means for the renderers made from it.

Fields are checked side by side, so a record is accepted only if every field is. A field that no
source gives has its default, and all defaults are within the bounds.

## Main definitions

* `Settings.Valid` — the bounds of the fields, and the rules that concern several of them

## Main results

* `Settings.valid_of_load` — settings that were loaded are valid
* `Settings.qr_of_context` — the QR renderer made from settings has their values
-/

namespace LabelPress

open LabelPress.Json LabelPress.Validation

/-! ### Accepted fields -/

namespace Validation

variable {α β : Type}

theorem Checked.both_eq_ok_iff {a : Checked α} {b : Checked β} {p : α × β} :
    Checked.both a b = .ok p ↔ a = .ok p.1 ∧ b = .ok p.2 := by
  cases a <;> cases b <;> simp [Checked.both, Prod.ext_iff]

/-- What the default and every accepted value satisfy, the field satisfies. -/
theorem optional_induction {P : α → Prop} {ms : Members} {name : String} {fallback : α}
    {check : Value → Checked α} {x : α} (hfallback : P fallback)
    (hcheck : ∀ v y, check v = .ok y → P y) (h : optional ms name fallback check = .ok x) :
    P x := by
  rw [optional] at h
  split at h
  next v _ =>
    cases hv : check v with
    | error es => rw [hv] at h; cases h
    | ok y =>
      rw [hv] at h
      obtain rfl : y = x := by simpa [Checked.under] using h
      exact hcheck v y hv
  next =>
    obtain rfl : fallback = x := by simpa using h
    exact hfallback

theorem bounds_of_integerWithin {least most : Option Int} {v : Value} {n : Int}
    (h : integerWithin least most v = .ok n) :
    (∀ m, least = some m → m ≤ n) ∧ ∀ m, most = some m → n ≤ m := by
  rw [integerWithin] at h
  split at h
  · cases h
  split at h
  · cases h
  · cases h
  next hmost hleast =>
    obtain rfl := Except.ok.inj h
    rw [Option.filter_eq_none_iff] at hmost hleast
    exact ⟨fun m hm => by simpa using hleast m hm, fun m hm => by simpa using hmost m hm⟩

end Validation

/-! ### Accepted settings -/

namespace Settings

/-- The bounds of the fields, and the rules for settings outside development. -/
structure Valid (s : Settings) : Prop where
  /-- The image of a QR symbol has a side from 21 to 4000 pixels. -/
  qrSize : 21 ≤ s.qrSize ∧ s.qrSize ≤ 4000
  /-- Its margin has at most sixteen modules. -/
  qrMargin : 0 ≤ s.qrMargin ∧ s.qrMargin ≤ 16
  /-- Dark modules have a colour. -/
  qrForeground : isColour s.qrForeground.toList = true
  /-- Light modules have a colour. -/
  qrBackground : isColour s.qrBackground.toList = true
  /-- A batch may have a barcode. -/
  batchMaxItems : 1 ≤ s.batchMaxItems
  /-- A label document may have a character. -/
  zplMaxLength : 1 ≤ s.zplMaxLength
  /-- Outside development there is no debug mode, and the origins are named. -/
  deployed : s.environment ≠ .development → s.debug = false ∧ s.corsOrigins ≠ defaultOrigins

theorem isColour_of_checkColour {v : Value} {c : String} (h : checkColour v = .ok c) :
    isColour c.toList = true := by
  rw [checkColour] at h
  split at h
  · cases h
  · split_ifs at h with hc
    · obtain rfl := Except.ok.inj h
      exact hc
    · cases h

theorem deployed_of_checkTogether {s t : Settings} (h : checkTogether s = .ok t) :
    s = t ∧ (t.environment ≠ .development → t.debug = false ∧ t.corsOrigins ≠ defaultOrigins) := by
  rw [checkTogether] at h
  split_ifs at h with henv hdebug horigins
  · obtain rfl := Except.ok.inj h
    exact ⟨rfl, fun hne => absurd henv hne⟩
  · cases h
  · cases h
  · obtain rfl := Except.ok.inj h
    exact ⟨rfl, fun _ => ⟨by simpa using hdebug, horigins⟩⟩

/-- **Settings read from members are valid.** -/
theorem valid_of_ofMembers {ms : Members} {s : Settings} (h : ofMembers ms = .ok s) : s.Valid := by
  rw [ofMembers] at h
  split at h
  · cases h
  next fields hfields =>
    obtain ⟨rfl, hdeployed⟩ := deployed_of_checkTogether h
    rw [checkFields] at hfields
    generalize hall : Checked.both _ _ = all at hfields
    cases all with
    | error es => cases hfields
    | ok p =>
      simp only [Checked.both_eq_ok_iff] at hall
      obtain rfl := Except.ok.inj hfields
      obtain ⟨-, -, -, -, -, -, -, hsize, hmargin, -, hfore, hback, hitems, hlength⟩ := hall
      have hwithin : ∀ {least most : Int} {v : Value} {n : Int},
          integerWithin (some least) (some most) v = .ok n → least ≤ n ∧ n ≤ most := fun hv =>
        ⟨(bounds_of_integerWithin hv).1 _ rfl, (bounds_of_integerWithin hv).2 _ rfl⟩
      have hleast : ∀ {v : Value} {n : Int}, integerWithin (some 1) none v = .ok n → 1 ≤ n :=
        fun hv => (bounds_of_integerWithin hv).1 _ rfl
      exact
        { qrSize := optional_induction (P := fun n => 21 ≤ n ∧ n ≤ 4000) (by decide)
            (fun _ _ hv => hwithin hv) hsize
          qrMargin := optional_induction (P := fun n => 0 ≤ n ∧ n ≤ 16) (by decide)
            (fun _ _ hv => hwithin hv) hmargin
          qrForeground := optional_induction (P := fun c => isColour c.toList = true) (by decide)
            (fun _ _ hv => isColour_of_checkColour hv) hfore
          qrBackground := optional_induction (P := fun c => isColour c.toList = true) (by decide)
            (fun _ _ hv => isColour_of_checkColour hv) hback
          batchMaxItems := optional_induction (by decide) (fun _ _ hv => hleast hv) hitems
          zplMaxLength := optional_induction (by decide) (fun _ _ hv => hleast hv) hlength
          deployed := hdeployed }

/-- **Settings that were loaded are valid,** whatever the sources are. -/
theorem valid_of_load {explicit : Members} {environment : Variables} {file : Option String}
    {s : Settings} (h : load explicit environment file = .ok s) : s.Valid := by
  rw [load] at h
  split at h
  · cases h
  split at h
  · cases h
  split at h
  · cases h
  next hs =>
    obtain rfl := Except.ok.inj h
    exact valid_of_ofMembers hs

/-! ### The renderers made from settings -/

/-- **The renderers made from settings** have the size and the margin of the settings, and the Data
Matrix encoder is there if it was said to be. -/
theorem qr_of_context {s : Settings} {available : Bool} {c : Barcode.Context}
    (h : s.context available = .ok c) :
    c.qr.size = .int s.qrSize ∧ c.qr.margin = .int s.qrMargin ∧
      c.encoderAvailable = available := by
  rw [context, qrRenderer, Qr.Renderer.make] at h
  split at h
  · cases h
  split at h
  · cases h
  split at h
  · cases h
  split at h
  · cases h
  cases hback : Image.Colour.ofValue (.string s.qrBackground) with
  | error f => rw [hback] at h; cases h
  | ok bg =>
    rw [hback] at h
    obtain rfl := Except.ok.inj h
    exact ⟨rfl, rfl, rfl⟩

end Settings

end LabelPress
