import LabelPress.Zpl.State
import Mathlib.Data.List.Basic

/-!
# What a step does

The effect of one line on the state, told once: the position follows the field origin of the line,
the barcode command of the line takes the place of one that was waiting, and data that finds a
command waiting makes a directive. Everything that is proved about whole documents goes through
`step_eq_emitted` and `step_eq_kept`, and none of it opens the definitions of the parts of a step.

## Main results

* `beforeData_eq` — what the field origin and the barcode command of a line do
* `step_eq_emitted`, `step_eq_kept`, `step_cases` — the two things that a step can do
* `run_append` — a run over two groups of lines
* `data_of_mem_run` — every directive of a run has the data of one of its lines
-/

namespace LabelPress.Zpl.State

variable {s : State} {line : List Char} {t : Symbology} {data : String}

/-! ### Position and command -/

/-- The position follows the field origin of the line, and a barcode command takes the place of one
that was waiting. -/
theorem beforeData_eq (s : State) (line : List Char) :
    s.beforeData line =
      { s with
        x := ((fieldOrigin? line).map fun p => (p.1 : Int)).getD s.x
        y := ((fieldOrigin? line).map fun p => (p.2 : Int)).getD s.y
        pendingType := (barcodeCommand? line).or s.pendingType } := by
  rw [beforeData, applyType, applyPosition]
  cases barcodeCommand? line <;> cases fieldOrigin? line <;> rfl

@[simp] theorem beforeData_pendingData (s : State) (line : List Char) :
    (s.beforeData line).pendingData = s.pendingData := by rw [beforeData_eq]

@[simp] theorem beforeData_pendingType (s : State) (line : List Char) :
    (s.beforeData line).pendingType = (barcodeCommand? line).or s.pendingType := by
  rw [beforeData_eq]

/-! ### A whole step -/

/-- **A line completes a directive** if it has data and a command is waiting, its own or an earlier
one. Afterwards nothing is waiting, and the position stays. -/
theorem step_eq_emitted (hdata : lineData? line = some data)
    (htype : (s.beforeData line).pendingType = some t) :
    s.step line =
      ({ s.beforeData line with pendingType := none, pendingData := none },
        some { symbology := t, data := data, x := (s.beforeData line).x,
               y := (s.beforeData line).y }) := by
  rw [step, applyData, hdata, htype]
  rfl

/-- **A line without data, or one for whose data no command is waiting,** completes nothing, if no
data is left over from before. -/
theorem step_eq_kept (hs : s.pendingData = none)
    (h : lineData? line = none ∨ (s.beforeData line).pendingType = none) :
    s.step line = (s.beforeData line, none) := by
  have hkept : (s.beforeData line).applyData line = s.beforeData line := by
    rw [applyData]
    rcases h with h | h
    · rw [h]
    · rw [h]
      split <;> simp_all
  have hnone : (s.beforeData line).pendingData = none := by rw [beforeData_pendingData, hs]
  rw [step, hkept, emit, hnone]
  split <;> simp_all

/-- **The two things that a step can do,** told as a case distinction: it keeps what the position
and the command of the line have made of the state, or it completes a directive and clears it. -/
theorem step_cases (hs : s.pendingData = none) (line : List Char) :
    s.step line = (s.beforeData line, none) ∨
      ∃ data t, lineData? line = some data ∧ (s.beforeData line).pendingType = some t ∧
        s.step line =
          ({ s.beforeData line with pendingType := none, pendingData := none },
            some { symbology := t, data := data, x := (s.beforeData line).x,
                   y := (s.beforeData line).y }) := by
  cases hdata : lineData? line with
  | none => exact Or.inl (step_eq_kept hs (Or.inl hdata))
  | some data =>
    cases htype : (s.beforeData line).pendingType with
    | none => exact Or.inl (step_eq_kept hs (Or.inr htype))
    | some t => exact Or.inr ⟨data, t, rfl, rfl, step_eq_emitted hdata htype⟩

theorem pendingData_step (hs : s.pendingData = none) : (s.step line).1.pendingData = none := by
  obtain hkept | ⟨data, t, -, -, hemitted⟩ := step_cases hs line
  · rw [hkept, beforeData_pendingData, hs]
  · rw [hemitted]

/-- A directive has the data of the line that completes it. -/
theorem data_of_step (hs : s.pendingData = none) {d : Directive} (h : (s.step line).2 = some d) :
    lineData? line = some d.data := by
  obtain hkept | ⟨data, t, hdata, -, hemitted⟩ := step_cases hs line
  · rw [hkept] at h
    cases h
  · rw [hemitted, Option.some.injEq] at h
    rw [hdata, ← h]

/-! ### Runs -/

theorem run_cons (s : State) (line : List Char) (rest : List (List Char)) :
    s.run (line :: rest) =
      (((s.step line).1.run rest).1, (s.step line).2.toList ++ ((s.step line).1.run rest).2) :=
  rfl

/-- A run over two groups of lines is a run over the first and one over the second. -/
theorem run_append (s : State) (xs ys : List (List Char)) :
    s.run (xs ++ ys) =
      (((s.run xs).1.run ys).1, (s.run xs).2 ++ ((s.run xs).1.run ys).2) := by
  induction xs generalizing s with
  | nil => simp [run]
  | cons x xs ih => rw [List.cons_append, run_cons, ih, run_cons, List.append_assoc]

theorem pendingData_run {lines : List (List Char)} (hs : s.pendingData = none) :
    (s.run lines).1.pendingData = none := by
  induction lines generalizing s with
  | nil => exact hs
  | cons line rest ih =>
    rw [run_cons]
    exact ih (pendingData_step hs)

theorem data_of_mem_run {lines : List (List Char)} {d : Directive} (hs : s.pendingData = none)
    (h : d ∈ (s.run lines).2) : ∃ line ∈ lines, lineData? line = some d.data := by
  induction lines generalizing s with
  | nil => simp [run] at h
  | cons line rest ih =>
    rw [run_cons, List.mem_append, Option.mem_toList] at h
    rcases h with h | h
    · exact ⟨line, List.mem_cons_self, data_of_step hs h⟩
    · obtain ⟨l, hl, hdata⟩ := ih (pendingData_step hs) h
      exact ⟨l, List.mem_cons_of_mem _ hl, hdata⟩

end LabelPress.Zpl.State
