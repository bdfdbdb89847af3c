import LabelPress.Proofs.Command
import LabelPress.Proofs.Numeral
import LabelPress.Zpl.State

/-!
# Lines as they come

The lines of a document have no newline in them, but a single line may be passed to the reader as it
comes, with newlines anywhere. A field must not cross a newline, so a field mark may then be one
that no field follows, and the search goes on behind it. The one newline that does not count is the
last character of the line.

This module describes what the searches for field data and for a field origin find in every line,
and what is done with it.

## Main definitions

* `FirstField` — the first field of a line

## Main results

* `fieldData?_eq_some_iff_firstField` — the search for field data decides this relation
* `coordinate_eq` — a coordinate is what the reader of integers makes of its digits
* `State.applyData_applyPosition` — what a line does to the data and to the position of a state
-/

namespace LabelPress.Zpl

open LabelPress.Text

/-! ### The first field -/

/-- A text begins with a field mark and a field. -/
def FieldAt (s field : List Char) : Prop :=
  ∃ body, Follows dataMark s body ∧ FieldOf body field

/-- `field` follows the leftmost field mark of the line that a field follows. It may be empty. -/
def FirstField (line field : List Char) : Prop :=
  ∃ before, Leftmost FieldAt line before field

/-- **The first field of a line** is the one that is found in it. -/
theorem fieldData?_eq_some_iff_firstField {line field : List Char} :
    fieldData? line = some field ↔ FirstField line field := by
  refine search_eq_some_iff rfl fieldData?_cons (fun s f => ?_) (fun f => ?_) line field
  · rw [fieldHere_eq_some_iff, FieldAt]
    simp only [fieldText?_eq_some_iff_fieldOf]
  · rintro ⟨body, hbody, -⟩
    cases hbody

namespace FirstField

variable {line field : List Char}

theorem exists_fieldOf (h : FirstField line field) : ∃ body, FieldOf body field := by
  obtain ⟨before, ⟨rest, -, body, -, hfield⟩, -⟩ := h
  exact ⟨body, hfield⟩

theorem newline_notMem (h : FirstField line field) : '\n' ∉ field := by
  obtain ⟨body, hfield⟩ := h.exists_fieldOf
  exact fun hmem => newline_notMem_firstLine body (hfield.text.isPrefix.subset hmem)

theorem not_isInfix (h : FirstField line field) : ¬ separatorMark <:+: field := by
  obtain ⟨body, hfield⟩ := h.exists_fieldOf
  exact hfield.text.not_isInfix (by simp [separatorMark])

end FirstField

theorem lineData?_eq_some_iff_firstField {line : List Char} {data : String} :
    State.lineData? line = some data ↔ data ≠ "" ∧ FirstField line data.toList := by
  rw [lineData?_eq_some_iff_fieldData?, fieldData?_eq_some_iff_firstField]

/-! ### Coordinates -/

/-- **A coordinate is the number that its digits denote,** and zero where they are too many for the
reader of integers. -/
theorem coordinate_eq {digits : List Char} (h : IsDigitRun digits) :
    (coordinate digits : Int) = (readInteger 10 digits).value?.getD 0 := by
  rw [readInteger_of_digits h.1 h.2, coordinate]
  split <;> rfl

/-! ### What is done with the finds -/

/-- **What a line does to the data and to the position of a state.** The first field of the line
decides about the data, also when it is empty: it is remembered if it is not empty and a command is
waiting. A line without a field leaves the data as it is. The leftmost field origin of the line
decides about the position, whatever stands in front of it, and a line without one leaves the
position as it is. Nothing else changes, and there is no line for which this fails: a coordinate
that cannot be read counts as zero. -/
theorem State.applyData_applyPosition (s : State) (line : List Char) :
    ((∀ field, FirstField line field → s.applyData line =
        if field ≠ [] ∧ s.pendingType ≠ none
        then { s with pendingData := some (String.ofList field) } else s) ∧
      ((∀ field, ¬ FirstField line field) → s.applyData line = s)) ∧
    ((∀ x y, PlacesOrigin line (x, y) → s.applyPosition line = { s with x := x, y := y }) ∧
      ((∀ p, ¬ PlacesOrigin line p) → s.applyPosition line = s)) ∧
    ∀ digits, IsDigitRun digits →
      (coordinate digits : Int) = (readInteger 10 digits).value?.getD 0 := by
  refine ⟨⟨fun field hfield => ?_, fun hnone => ?_⟩, ⟨fun x y hp => ?_, fun hnone => ?_⟩,
    fun digits hdigits => coordinate_eq hdigits⟩
  · have hfound := fieldData?_eq_some_iff_firstField.mpr hfield
    cases field with
    | nil =>
      have hdata : lineData? line = none := by rw [lineData?, hfound]
      rw [applyData, hdata, if_neg fun h => h.1 rfl]
    | cons c cs =>
      have hdata : lineData? line = some (String.ofList (c :: cs)) := by rw [lineData?, hfound]
      rw [applyData, hdata]
      cases htype : s.pendingType <;> simp
  · have hfound : fieldData? line = none := Option.eq_none_iff_forall_ne_some.mpr fun field h =>
      hnone field (fieldData?_eq_some_iff_firstField.mp h)
    have hdata : lineData? line = none := by rw [lineData?, hfound]
    rw [applyData, hdata]
  · rw [applyPosition, fieldOrigin?_eq_some_iff.mpr hp]
  · have hfound : fieldOrigin? line = none := Option.eq_none_iff_forall_ne_some.mpr fun p h =>
      hnone p (fieldOrigin?_eq_some_iff.mp h)
    rw [applyPosition, hfound]

/-- A field mark that a newline cuts off, an origin without digits, and a newline at the end. -/
theorem State.applyData_applyPosition_cutOff :
    FirstField "^FO,^FO1,2^FDa\nb^FDc\n".toList ['c'] ∧
      PlacesOrigin "^FO,^FO1,2^FDa\nb^FDc\n".toList (1, 2) ∧
      State.applyData { pendingType := some .qr } "^FO,^FO1,2^FDa\nb^FDc\n".toList =
        { pendingType := some .qr, pendingData := some "c" } ∧
      State.applyPosition { pendingType := some .qr } "^FO,^FO1,2^FDa\nb^FDc\n".toList =
        { x := 1, y := 2, pendingType := some .qr } := by
  have hfield : FirstField "^FO,^FO1,2^FDa\nb^FDc\n".toList ['c'] :=
    fieldData?_eq_some_iff_firstField.mp rfl
  have horigin : PlacesOrigin "^FO,^FO1,2^FDa\nb^FDc\n".toList (1, 2) :=
    fieldOrigin?_eq_some_iff.mp rfl
  obtain ⟨⟨hdata, -⟩, ⟨hposition, -⟩, -⟩ := State.applyData_applyPosition { pendingType := some .qr }
    "^FO,^FO1,2^FDa\nb^FDc\n".toList
  exact ⟨hfield, horigin, hdata _ hfield, hposition _ _ horigin⟩

end LabelPress.Zpl
