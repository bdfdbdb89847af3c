import LabelPress.Fault
import LabelPress.Json.Display
import LabelPress.Text.Integer

/-!
# Values used for other values

Render settings may come from callers as values of any kind. This module says what such a value
counts as where a whole number, a truth value, a place in an order or a string is needed, and which
fault it is otherwise.

* Where a whole number is needed, numbers lose their fraction, truth values count as zero and one,
  and strings are read by the generous rules for integers.
* Every value counts as true but null, false, zero and what is empty.
* Numbers and truth values compare with integers, other values do not.
* Every value can be written as a string, unless an integer in it is too long, and every string can
  be encoded, unless it is no text.
-/

namespace LabelPress.Json

open LabelPress.Text LabelPress.Number

/-- A text as a whole number. -/
def readWholeNumber (s : String) : Except Fault Int :=
  match readInteger 10 s.toList with
  | .value n => .ok n
  | .tooLong digits => .error (.tooManyDigits digits)
  | .malformed => .error (.notAnInteger s)

/-- A string that is no text as a whole number, which it never is. Only the digits that it begins
with can be too many. -/
def readUnpaired (t : Unpaired) : Except Fault Int :=
  match readInteger 10 (RawText.chars t.points) with
  | .tooLong digits => .error (.tooManyDigits digits)
  | _ => .error (.unpairedInteger t)

/-- A floating point number without its fraction. -/
def wholePart (x : Binary64) : Except Fault Int :=
  match x.toInt? with
  | some n => .ok n
  | none => .error (if x = .notANumber then .undefinedNumber else .infiniteNumber)

namespace Value

/-- A value as a whole number. -/
def toInteger : Value → Except Fault Int
  | .int n => .ok n
  | .bool b => .ok (if b then 1 else 0)
  | .float x => wholePart x
  | .string s => readWholeNumber s
  | .unpaired t => readUnpaired t
  | v => .error (.notNumeric v.kindName)

/-- A value as a count of something, for which only integers and truth values will do. -/
def toCount : Value → Except Fault Int
  | .int n => .ok n
  | .bool b => .ok (if b then 1 else 0)
  | v => .error (.notWhole v.kindName)

/-- Whether a value counts as true. -/
def isTruthy : Value → Bool
  | .null => false
  | .bool b => b
  | .int n => n != 0
  | .float x => !x.isZero
  | .string s => !s.isEmpty
  | .unpaired _ => true
  | .list items => !items.isEmpty
  | .object members => !members.isEmpty

/-- How a value compares with an integer. The relation that is asked for appears in the fault of a
value that does not compare. -/
def compareInt (relation : String) (n : Int) : Value → Except Fault (Option Ordering)
  | .int k => .ok (some (compare k n))
  | .bool b => .ok (some (compare (if b then 1 else 0) n))
  | .float x => .ok (x.compareInt n)
  | v => .error (.incomparable relation v.kindName)

/-- Whether a value is less than an integer. -/
def isBelow (n : Int) (v : Value) : Except Fault Bool :=
  (v.compareInt "<" n).map (· == some .lt)

theorem isBelow_int (n k : Int) : (Value.int k).isBelow n = .ok (decide (k < n)) := by
  simp only [isBelow, compareInt, Except.map, Except.ok.injEq]
  rw [Bool.eq_iff_iff, beq_iff_eq, Option.some.injEq, Int.compare_eq_lt, decide_eq_true_eq]

/-- Whether a value is at most an integer. -/
def isAtMost (n : Int) (v : Value) : Except Fault Bool :=
  (v.compareInt "<=" n).map fun o => o == some .lt || o == some .eq

/-- An integer is at most another one iff it is not above it. -/
theorem isAtMost_int (n k : Int) : (Value.int k).isAtMost n = .ok (decide (k ≤ n)) := by
  simp only [isAtMost, compareInt, Except.map, Except.ok.injEq]
  rcases Int.lt_trichotomy k n with h | rfl | h
  · rw [Int.compare_eq_lt.mpr h, decide_eq_true (Int.le_of_lt h)]
    rfl
  · rw [Int.compare_eq_eq.mpr rfl, decide_eq_true (Int.le_refl k)]
    rfl
  · rw [Int.compare_eq_gt.mpr h, decide_eq_false (Int.not_le.mpr h)]
    rfl

/-- Whether a value is greater than an integer. -/
def isAbove (n : Int) (v : Value) : Except Fault Bool :=
  (v.compareInt ">" n).map (· == some .gt)

theorem isAbove_int (n k : Int) : (Value.int k).isAbove n = .ok (decide (n < k)) := by
  simp only [isAbove, compareInt, Except.map, Except.ok.injEq]
  rw [Bool.eq_iff_iff, beq_iff_eq, Option.some.injEq, Int.compare_eq_gt, decide_eq_true_eq]

/-- A string, for which only strings will do: other values lack the attribute that is asked for. One
that is no text is taken as it is shown. -/
def toText (wanted : String) : Value → Except Fault String
  | .string s => .ok s
  | .unpaired t => .ok t.shown
  | v => .error (.lacksAttribute v.kindName wanted)

/-- A value written as a string. -/
def written : Value → Except Fault RawText
  | .string s => .ok (.ofText s)
  | .unpaired t => .ok t.points
  | v => if v.isWritable then .ok (.ofText v.shown) else .error .unwritableInteger

@[simp]
theorem written_string (s : String) : (Value.string s).written = .ok (.ofText s) :=
  rfl

/-- A value is written as a string iff no integer in it is too long. -/
theorem exists_written_iff (v : Value) : (∃ t, v.written = .ok t) ↔ v.isWritable = true := by
  cases v with
  | string | unpaired => exact iff_of_true ⟨_, rfl⟩ rfl
  | null | bool | float => exact iff_of_true ⟨_, rfl⟩ rfl
  | int | list | object =>
    simp only [written]
    split
    next h => exact iff_of_true ⟨_, rfl⟩ h
    next h => exact iff_of_false (fun ⟨_, hwritten⟩ => nomatch hwritten) h

/-- The octets of a value that is written as a string. -/
def encoded : Value → Except Fault (List UInt8)
  | .string s => .ok (utf8Bytes s)
  | .unpaired t => .error (.unencodable t.firstRun)
  | v => if v.isWritable then .ok (utf8Bytes v.shown) else .error .unwritableInteger

@[simp]
theorem encoded_string (s : String) : (Value.string s).encoded = .ok (utf8Bytes s) :=
  rfl

end Value

end LabelPress.Json
