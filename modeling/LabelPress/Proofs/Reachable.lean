import LabelPress.Proofs.Template
import Mathlib.Data.List.Forall2

/-!
# Between two lines

What holds of the state whenever a line has been read, for lines as they come, with newlines
anywhere. The state never holds data: data is taken up only if a command is waiting for it, and then
both are given to a directive before the line is over. So no data can outlive its line, and a later
command never meets any.

A step leaves no directive waiting whatever the state before it, since it ends by completing what is
complete. Everything else is an invariant of runs: it holds at first, and a step keeps it.

## Main definitions

* `State.Settled` — the invariant
* `Directive.CompletedBy` — what a directive has from the line that completes it
* `State.trace` — the state after each line, with the directive that the line completes

## Main results

* `State.phase_step` — no step leaves a complete directive behind
* `State.Settled.step` — a step keeps the invariant, and its directive is one of its line
* `State.run_eq_trace`, `State.trace_settled` — a run is its trace, and what holds along it
-/

namespace LabelPress.Zpl

open LabelPress.Text

/-- A directive has its data from the line and its position from the state after the line. -/
structure Directive.CompletedBy (line : List Char) (next : State) (d : Directive) : Prop where
  /-- The data is the first field of the line. -/
  data : FirstField line d.data.toList
  /-- It is not empty, and no newline and no separator is in it. -/
  stays : StaysInField d.data
  /-- The distance from the left edge is that of the state. -/
  x : d.x = next.x
  /-- The distance from the top edge is that of the state. -/
  y : d.y = next.y

theorem barcodeCommand?_mem {line : List Char} {t : Symbology} (h : barcodeCommand? line = some t) :
    t ∈ barcodeCommands.map (·.2) := by
  obtain ⟨earlier, mark, later, htable, -⟩ := barcodeCommand?_eq_some_iff.mp h
  rw [htable]
  simp

namespace State

variable {s : State}

/-! ### Any state -/

theorem phase_emit (s : State) : s.emit.1.phase ≠ .ready := by
  obtain ⟨x, y, type, data⟩ := s
  cases type <;> cases data <;> simp [emit, phase]

/-- **No step leaves a complete directive behind,** whatever the state before it. -/
theorem phase_step (s : State) (line : List Char) : (s.step line).1.phase ≠ .ready :=
  phase_emit _

/-! ### The invariant -/

/-- What holds between two lines. -/
structure Settled (s : State) : Prop where
  /-- No data is left over. -/
  noData : s.pendingData = none
  /-- The distance from the left edge is not negative. -/
  x_nonneg : 0 ≤ s.x
  /-- The distance from the top edge is not negative. -/
  y_nonneg : 0 ≤ s.y
  /-- A waiting command is one of the table. -/
  command : ∀ t, s.pendingType = some t → t ∈ barcodeCommands.map (·.2)

theorem settled_initial : initial.Settled where
  noData := rfl
  x_nonneg := Int.le_refl 0
  y_nonneg := Int.le_refl 0
  command := fun t ht => by cases ht

namespace Settled

/-- Without data a directive is at most half complete. -/
theorem phase (h : s.Settled) : s.phase = .idle ∨ s.phase = .typePending := by
  rw [State.phase, h.noData]
  cases s.pendingType with
  | none => exact Or.inl rfl
  | some t => exact Or.inr rfl

theorem beforeData (h : s.Settled) (line : List Char) : (s.beforeData line).Settled where
  noData := by rw [beforeData_pendingData, h.noData]
  x_nonneg := by
    rw [beforeData_eq]
    cases fieldOrigin? line with
    | none => exact h.x_nonneg
    | some p => exact Int.natCast_nonneg p.1
  y_nonneg := by
    rw [beforeData_eq]
    cases fieldOrigin? line with
    | none => exact h.y_nonneg
    | some p => exact Int.natCast_nonneg p.2
  command := by
    intro t ht
    rw [beforeData_pendingType, Option.or_eq_some_iff] at ht
    rcases ht with ht | ⟨-, ht⟩
    · exact barcodeCommand?_mem ht
    · exact h.command t ht

/-- Completing a directive gives up the command. -/
theorem cleared (h : s.Settled) :
    ({ s with pendingType := none, pendingData := none } : State).Settled where
  noData := rfl
  x_nonneg := h.x_nonneg
  y_nonneg := h.y_nonneg
  command := fun t ht => by cases ht

/-- **A step keeps the invariant,** and a directive that it completes is one of its line. -/
theorem step (h : s.Settled) (line : List Char) :
    (s.step line).1.Settled ∧ ∀ d, (s.step line).2 = some d → d.CompletedBy line (s.step line).1 := by
  have hbefore := h.beforeData line
  obtain hkept | ⟨data, t, hdata, -, hemitted⟩ := step_cases h.noData line
  · rw [hkept]
    exact ⟨hbefore, fun d hd => by cases hd⟩
  · rw [hemitted]
    refine ⟨hbefore.cleared, fun d hd => ?_⟩
    obtain rfl := Option.some.inj hd
    obtain ⟨hne, hfirst⟩ := lineData?_eq_some_iff_firstField.mp hdata
    exact ⟨hfirst, hfirst.staysInField hne, rfl, rfl⟩

end Settled

/-! ### Runs line by line -/

/-- The state after each line, and the directive that the line completes. -/
def trace (s : State) : List (List Char) → List (State × Option Directive)
  | [] => []
  | line :: rest => s.step line :: (s.step line).1.trace rest

/-- A run ends in the last state of its trace, with the directives of the trace. -/
theorem run_eq_trace (s : State) (lines : List (List Char)) :
    s.run lines =
      (((s.trace lines).getLast?.map (·.1)).getD s, (s.trace lines).filterMap (·.2)) := by
  induction lines generalizing s with
  | nil => rfl
  | cons line rest ih =>
    rw [run_cons, ih, trace, List.getLast?_cons, List.filterMap_cons]
    cases (s.step line).2 <;> cases ((s.step line).1.trace rest).getLast? <;> simp

/-- **What holds after each line** of a run from a settled state. The induction is on the lines,
over all such states. -/
theorem Settled.trace (h : s.Settled) (lines : List (List Char)) :
    List.Forall₂ (fun line after => after.1.Settled ∧
      ∀ d, after.2 = some d → d.CompletedBy line after.1) lines (s.trace lines) := by
  induction lines generalizing s with
  | nil => exact List.Forall₂.nil
  | cons line rest ih =>
    have hstep := h.step line
    exact List.Forall₂.cons hstep (ih hstep.1)

/-- **What holds after each line,** from the initial state and whatever the lines are: no data is
left over, so that a directive is at most half complete; the position is not negative; a waiting
command is one of the table; and a directive that the line completes has the first field of that
line for its data, which is not empty and has no newline and no separator in it, and stands at the
position of the state after the line. The directives of the run are those that its lines complete.
From any state at all, a step leaves no complete directive behind. -/
theorem trace_settled (lines : List (List Char)) :
    List.Forall₂ (fun line after =>
        after.1.Settled ∧ (after.1.phase = .idle ∨ after.1.phase = .typePending) ∧
          ∀ d, after.2 = some d → d.CompletedBy line after.1)
      lines (initial.trace lines) ∧
    initial.run lines =
      (((initial.trace lines).getLast?.map (·.1)).getD initial,
        (initial.trace lines).filterMap (·.2)) ∧
    ∀ (s : State) (line : List Char), (s.step line).1.phase ≠ .ready := by
  refine ⟨?_, run_eq_trace initial lines, phase_step⟩
  refine (settled_initial.trace lines).imp ?_
  rintro line after ⟨hsettled, hcompleted⟩
  exact ⟨hsettled, hsettled.phase, hcompleted⟩

/-- The field that the newline cuts off is not kept for the command of the next line. -/
example : (initial.trace ["^FDa\nb".toList, "^BQ^FO3,4".toList, "^FDc\n".toList]).map (·.2) =
    [none, none, some { symbology := .qr, data := "c", x := 3, y := 4 }] := rfl

end State

end LabelPress.Zpl
