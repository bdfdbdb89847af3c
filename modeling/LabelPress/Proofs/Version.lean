import LabelPress.Qr.Version
import Mathlib.Tactic.Common

/-!
# The version of a payload

The search for a version measures a payload with the length fields of one size class at a time,
and is repeated when the version found belongs to another one. What it finds is nevertheless the
smallest version that holds the payload measured with its own length fields.

The reason is that length fields only grow with the class. What a version refuses with the fields of
a smaller class it refuses with its own, so nothing that was passed over has to be looked at again;
and every repetition moves to a larger class, of which there are three.

## Main definitions

* `Holds` — a version holds the segments of a payload
* `Smallest` — what a search for the smallest version has to find

## Main results

* `searchVersion?_spec`, `versionFor?_spec` — that is what the search finds
* `versionFor?_eq_none_iff` — no version is found iff none holds the payload
-/

namespace LabelPress.Qr

/-! ### Size classes -/

/-- The place of a size class among the three. -/
def SizeClass.index : SizeClass → Nat
  | .small => 0
  | .medium => 1
  | .large => 2

theorem SizeClass.index_lt (c : SizeClass) : c.index < 3 := by
  cases c <;> decide

theorem SizeClass.index_injective {c d : SizeClass} (h : c.index = d.index) : c = d := by
  revert h
  cases c <;> cases d <;> decide

theorem index_sizeClass_mono {u v : Nat} (h : u ≤ v) :
    (sizeClass u).index ≤ (sizeClass v).index := by
  unfold sizeClass
  split_ifs <;> first | omega | decide

theorem lengthBits_mono {c d : SizeClass} (h : c.index ≤ d.index) (m : Mode) :
    lengthBits c m ≤ lengthBits d m := by
  revert h
  cases c <;> cases d <;> cases m <;> decide

theorem totalBits_mono {c d : SizeClass} (h : c.index ≤ d.index) (parts : List Segment) :
    totalBits c parts ≤ totalBits d parts := by
  induction parts with
  | nil => exact Nat.le_refl _
  | cons s rest ih =>
    have hlength := lengthBits_mono h s.mode
    rw [totalBits, totalBits, Segment.bits, Segment.bits]
    omega

/-! ### The smallest version -/

/-- A version holds segments: their bits, with the length fields of the version, do not exceed its
capacity. -/
def Holds (level : Level) (parts : List Segment) (version : Nat) : Prop :=
  totalBits (sizeClass version) parts ≤ 8 * capacity level version

/-- What a search from `start` has to find: the smallest version from there on that holds the
segments, and nothing only if there is none. -/
def Smallest (level : Level) (parts : List Segment) (start : Nat) : Option Nat → Prop
  | some v => start ≤ v ∧ v ≤ maxVersion ∧ Holds level parts v ∧
      ∀ u, start ≤ u → u < v → ¬ Holds level parts u
  | none => ∀ u, start ≤ u → u ≤ maxVersion → ¬ Holds level parts u

variable {level : Level} {parts : List Segment} {start : Nat}

/-- A search may begin later if nothing in between holds the segments. -/
theorem Smallest.of_later {v : Nat} {found : Option Nat} (h : Smallest level parts v found)
    (hv : start ≤ v) (hbelow : ∀ u, start ≤ u → u < v → ¬ Holds level parts u) :
    Smallest level parts start found := by
  cases found with
  | none =>
    intro u hu hmax
    by_cases huv : u < v
    · exact hbelow u hu huv
    · exact h u (Nat.le_of_not_lt huv) hmax
  | some w =>
    obtain ⟨hvw, hmax, hholds, hmin⟩ := h
    refine ⟨Nat.le_trans hv hvw, hmax, hholds, fun u hu huw => ?_⟩
    by_cases huv : u < v
    · exact hbelow u hu huv
    · exact hmin u (Nat.le_of_not_lt huv) huw

theorem smallestFrom?_eq (level : Level) (bits start : Nat) :
    smallestFrom? level bits start = (List.range' start (maxVersion + 1 - start)).find? fun v =>
      decide (bits ≤ 8 * capacity level v) := by
  rw [smallestFrom?, List.range_eq_range', List.drop_range', Nat.zero_add, Nat.mul_one]

/-- A version too small with the length fields of an earlier one is too small with its own. -/
theorem not_holds_of_lt {u : Nat} (hu : start ≤ u)
    (h : ¬ totalBits (sizeClass start) parts ≤ 8 * capacity level u) :
    ¬ Holds level parts u :=
  fun hholds => h (Nat.le_trans (totalBits_mono (index_sizeClass_mono hu) parts) hholds)

/-- **The search finds the smallest version,** if there are rounds left for the larger classes. The
induction is on the rounds; each one that does not end the search moves to a larger class. -/
theorem searchVersion?_spec {rounds : Nat} (h : 3 ≤ rounds + (sizeClass start).index) :
    Smallest level parts start (searchVersion? level parts rounds start) := by
  induction rounds generalizing start with
  | zero =>
    have := (sizeClass start).index_lt
    omega
  | succ rounds ih =>
    rw [searchVersion?, smallestFrom?_eq]
    split
    next hnone =>
      rw [List.find?_range'_eq_none] at hnone
      intro u hu hmax
      refine not_holds_of_lt hu ?_
      simpa using hnone u hu (by omega)
    next v hsome =>
      rw [List.find?_range'_eq_some, List.mem_range'_1] at hsome
      obtain ⟨hfits, ⟨hv, hmax⟩, hmin⟩ := hsome
      have hbelow : ∀ u, start ≤ u → u < v → ¬ Holds level parts u := fun u hu huv =>
        not_holds_of_lt hu (by simpa using hmin u hu huv)
      split_ifs with hclass
      · refine ⟨hv, by omega, ?_, hbelow⟩
        rw [Holds, hclass]
        simpa using hfits
      · have hle := index_sizeClass_mono hv
        have hne : (sizeClass start).index ≠ (sizeClass v).index := fun heq =>
          hclass (SizeClass.index_injective heq).symm
        exact (ih (by omega)).of_later hv hbelow

/-- **The version of a payload** is the smallest one that holds it. -/
theorem versionFor?_spec (level : Level) (payload : List UInt8) :
    Smallest level (segments payload) 1 (versionFor? level payload) :=
  searchVersion?_spec (by decide)

/-- The version of a payload is one of the forty. -/
theorem version_bounds {payload : List UInt8} {v : Nat} (h : versionFor? level payload = some v) :
    1 ≤ v ∧ v ≤ maxVersion := by
  have hspec := versionFor?_spec level payload
  rw [h] at hspec
  exact ⟨hspec.1, hspec.2.1⟩

/-- A payload has no version iff none of the forty holds it. -/
theorem versionFor?_eq_none_iff {payload : List UInt8} :
    versionFor? level payload = none ↔
      ∀ v, 1 ≤ v → v ≤ maxVersion → ¬ Holds level (segments payload) v := by
  have hspec := versionFor?_spec level payload
  constructor
  · intro h
    rwa [h] at hspec
  · intro h
    cases hfound : versionFor? level payload with
    | none => rfl
    | some v =>
      rw [hfound] at hspec
      obtain ⟨hv, hmax, hholds, -⟩ := hspec
      exact absurd hholds (h v hv hmax)

end LabelPress.Qr
