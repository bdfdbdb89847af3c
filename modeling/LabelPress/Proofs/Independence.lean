import LabelPress.Proofs.Command
import LabelPress.Proofs.Step
import LabelPress.Zpl.Document

/-!
# Labels that stand on their own

When two documents are joined, the second one is read from the state that the first one leaves: a
position, and maybe a barcode command whose data never came. This module says when that makes no
difference to what is read.

The position and the command are overwritten separately, each by its own line, and only the first
line with data shows either of them. So a document stands on its own iff it has no data at all, or
sets both before its first data is looked at, be it on the line of that data. What comes after is
read from one state whatever came before.

## Main definitions

* `HasData` — a line has a field that is not empty
* `SelfContained` — the lines up to the first one with data set the position and the command
* `State.AgreeOn` — two states agree on what has been set so far

## Main results

* `State.run_eq_foldl` — lines without data only move the position and the command
* `State.AgreeOn.foldl` — such lines bring two states together
* `State.run_congr_of_selfContained` — what is read does not depend on the state before
* `directives_append_newline_iff` — the documents that nothing in front of them disturbs
-/

namespace LabelPress.Zpl

open LabelPress.Text

/-- A line has data: its first field is not empty. -/
def HasData (line : List Char) : Prop :=
  ∃ field, HoldsField line field

/-- A position is set, and a symbology is named. -/
structure SetsUp (L : List (List Char)) : Prop where
  /-- Some line has a field origin. -/
  position : ∃ line ∈ L, ∃ p, PlacesOrigin line p
  /-- Some line has a barcode command. -/
  command : ∃ line ∈ L, ∃ t, NamesSymbology line t

/-- There is no data, or the lines up to and including the first one with data set up what it
needs. -/
def SelfContained (L : List (List Char)) : Prop :=
  (∀ line ∈ L, ¬ HasData line) ∨
    ∃ before first after, L = before ++ first :: after ∧ (∀ line ∈ before, ¬ HasData line) ∧
      HasData first ∧ SetsUp (before ++ [first])

theorem lineData?_eq_none_iff {line : List Char} (h : '\n' ∉ line) :
    State.lineData? line = none ↔ ¬ HasData line := by
  rw [Option.eq_none_iff_forall_ne_some]
  constructor
  · rintro hnone ⟨field, hfield⟩
    rw [← String.toList_ofList (l := field)] at hfield
    exact hnone _ ((lineData?_eq_some_iff h).mpr hfield)
  · intro hno data hdata
    exact hno ⟨_, (lineData?_eq_some_iff h).mp hdata⟩

namespace State

variable {s s' : State} {L before after : List (List Char)} {first : List Char}

/-! ### Lines without data -/

@[simp] theorem foldl_pendingData (s : State) (L : List (List Char)) :
    (L.foldl beforeData s).pendingData = s.pendingData := by
  induction L generalizing s with
  | nil => rfl
  | cons line rest ih => rw [List.foldl_cons, ih, beforeData_pendingData]

/-- Lines without data complete nothing. All they do is to move the position and the command. -/
theorem run_eq_foldl (hs : s.pendingData = none) (hL : ∀ line ∈ L, lineData? line = none) :
    s.run L = (L.foldl beforeData s, []) := by
  induction L generalizing s with
  | nil => rfl
  | cons line rest ih =>
    have hline : lineData? line = none := hL line List.mem_cons_self
    have hnext : (s.beforeData line).pendingData = none := by rw [beforeData_pendingData, hs]
    have hrest := ih hnext fun l hl => hL l (List.mem_cons_of_mem line hl)
    rw [run_cons, step_eq_kept hs (Or.inl hline), hrest]
    rfl

/-- The first line with data is read from the state that the lines before it have built up. -/
theorem run_to_first (hs : s.pendingData = none) (hL : ∀ line ∈ before, lineData? line = none) :
    (s.run (before ++ first :: after)).2 =
      ((before.foldl beforeData s).step first).2.toList ++
        (((before.foldl beforeData s).step first).1.run after).2 := by
  rw [run_append, run_eq_foldl hs hL, run_cons]
  rfl

theorem foldl_position (h : ∀ line ∈ L, fieldOrigin? line = none) :
    (L.foldl beforeData s).x = s.x ∧ (L.foldl beforeData s).y = s.y := by
  induction L generalizing s with
  | nil => exact ⟨rfl, rfl⟩
  | cons line rest ih =>
    have hrest := ih (s := s.beforeData line) fun l hl => h l (List.mem_cons_of_mem line hl)
    have hline : fieldOrigin? line = none := h line List.mem_cons_self
    rw [List.foldl_cons, hrest.1, hrest.2, beforeData_eq, hline]
    exact ⟨rfl, rfl⟩

theorem foldl_pendingType (h : ∀ line ∈ L, barcodeCommand? line = none) :
    (L.foldl beforeData s).pendingType = s.pendingType := by
  induction L generalizing s with
  | nil => rfl
  | cons line rest ih =>
    have hrest := ih (s := s.beforeData line) fun l hl => h l (List.mem_cons_of_mem line hl)
    have hline : barcodeCommand? line = none := h line List.mem_cons_self
    rw [List.foldl_cons, hrest, beforeData_pendingType, hline, Option.none_or]

/-! ### Two states that come together -/

/-- Two states between lines that agree on the position if one has been set, and on the waiting
command if one has been named. -/
structure AgreeOn (placed named : Prop) (s s' : State) : Prop where
  /-- No data is left over in either of them. -/
  noData : s.pendingData = s'.pendingData
  /-- Once a position has been set it is that of both. -/
  position : placed → s.x = s'.x ∧ s.y = s'.y
  /-- Once a command has been named it waits in both. -/
  command : named → s.pendingType = s'.pendingType

namespace AgreeOn

variable {placed named : Prop}

theorem eq (h : AgreeOn placed named s s') (hplaced : placed) (hnamed : named) : s = s' := by
  obtain ⟨hx, hy⟩ := h.position hplaced
  have hparts : s = ⟨s.x, s.y, s.pendingType, s.pendingData⟩ := rfl
  rw [hparts, hx, hy, h.command hnamed, h.noData]

/-- Two states with one position are the same when nothing waits in either of them. -/
theorem cleared_eq (h : AgreeOn placed named s s') (hplaced : placed)
    (htype : s'.pendingType = none) (hdata : s'.pendingData = none) :
    { s with pendingType := none, pendingData := none } = s' := by
  obtain ⟨hx, hy⟩ := h.position hplaced
  rw [hx, hy, ← htype, ← hdata]

theorem beforeData (h : AgreeOn placed named s s') (line : List Char) :
    AgreeOn (placed ∨ ∃ p, PlacesOrigin line p) (named ∨ ∃ t, NamesSymbology line t)
      (s.beforeData line) (s'.beforeData line) where
  noData := by rw [beforeData_pendingData, beforeData_pendingData, h.noData]
  position := by
    rw [beforeData_eq, beforeData_eq]
    rintro (hplaced | ⟨p, hp⟩)
    · obtain ⟨hx, hy⟩ := h.position hplaced
      simp [hx, hy]
    · simp [fieldOrigin?_eq_some_iff.mpr hp]
  command := by
    rw [beforeData_pendingType, beforeData_pendingType]
    rintro (hnamed | ⟨t, ht⟩)
    · rw [h.command hnamed]
    · simp [barcodeCommand?_eq_some_iff.mpr ht]

/-- **Several lines.** What any of them sets is set in both states. -/
theorem foldl (h : AgreeOn placed named s s') (L : List (List Char)) :
    AgreeOn (placed ∨ ∃ line ∈ L, ∃ p, PlacesOrigin line p)
      (named ∨ ∃ line ∈ L, ∃ t, NamesSymbology line t)
      (L.foldl State.beforeData s) (L.foldl State.beforeData s') := by
  induction L generalizing s s' placed named with
  | nil => simpa using h
  | cons line rest ih =>
    have hrest := ih (h.beforeData line)
    simpa only [List.foldl_cons, List.exists_mem_cons_iff, or_assoc] using hrest

end AgreeOn

/-- **What is read does not depend on the state before,** if the lines are self-contained. -/
theorem run_congr_of_selfContained (hs : s.pendingData = none) (hs' : s'.pendingData = none)
    (hL : ∀ line ∈ L, '\n' ∉ line) (h : SelfContained L) : (s.run L).2 = (s'.run L).2 := by
  rcases h with hquiet | ⟨before, first, after, rfl, hquiet, -, hsets⟩
  · have hnone : ∀ line ∈ L, lineData? line = none := fun line hl =>
      (lineData?_eq_none_iff (hL line hl)).mpr (hquiet line hl)
    rw [run_eq_foldl hs hnone, run_eq_foldl hs' hnone]
  · have hnone : ∀ line ∈ before, lineData? line = none := fun line hl =>
      (lineData?_eq_none_iff (hL line (List.mem_append_left _ hl))).mpr (hquiet line hl)
    have hstart : AgreeOn False False s s' := ⟨by rw [hs, hs'], False.elim, False.elim⟩
    have hagree := (hstart.foldl (before ++ [first])).eq (Or.inr hsets.position)
      (Or.inr hsets.command)
    rw [List.foldl_concat, List.foldl_concat] at hagree
    rw [run_to_first hs hnone, run_to_first hs' hnone, step, step, hagree]

/-! ### Lines that are not self-contained -/

/-- Either no line has data, or one of them is the first that has. -/
theorem firstData_cases (L : List (List Char)) :
    (∀ line ∈ L, lineData? line = none) ∨
      ∃ before first after data, L = before ++ first :: after ∧
        (∀ line ∈ before, lineData? line = none) ∧ lineData? first = some data := by
  cases hfind : L.find? fun line => (lineData? line).isSome with
  | none => exact Or.inl fun line hl => by simpa using List.find?_eq_none.mp hfind line hl
  | some first =>
    obtain ⟨hfirst, before, after, rfl, hbefore⟩ := List.find?_eq_some_iff_append.mp hfind
    obtain ⟨data, hdata⟩ := Option.isSome_iff_exists.mp hfirst
    exact Or.inr ⟨before, first, after, data, rfl, fun line hl => by simpa using hbefore line hl,
      hdata⟩

theorem isSome_foldl_pendingType (L : List (List Char)) (h : s.pendingType.isSome = true) :
    (L.foldl beforeData s).pendingType.isSome = true := by
  induction L generalizing s with
  | nil => exact h
  | cons line rest ih =>
    refine ih ?_
    rw [beforeData_pendingType, Option.isSome_or, h, Bool.or_true]

/-- A command waits after lines that name one, since after them it is all the same whether one was
waiting before. -/
theorem exists_foldl_pendingType (hs : s.pendingData = none)
    (h : ∃ line ∈ L, ∃ t, NamesSymbology line t) :
    ∃ t, (L.foldl beforeData s).pendingType = some t := by
  have hstart : AgreeOn False False s { pendingType := some .code128 } :=
    ⟨hs, False.elim, False.elim⟩
  rw [(hstart.foldl L).command (Or.inr h)]
  exact Option.isSome_iff_exists.mp (isSome_foldl_pendingType L rfl)

theorem run_to_first_of_waiting {data : String} {t : Symbology} (hs : s.pendingData = none)
    (hL : ∀ line ∈ before, lineData? line = none) (hdata : lineData? first = some data)
    (ht : ((before ++ [first]).foldl beforeData s).pendingType = some t) :
    (s.run (before ++ first :: after)).2 =
      { symbology := t, data := data, x := ((before ++ [first]).foldl beforeData s).x,
        y := ((before ++ [first]).foldl beforeData s).y } ::
        (State.run { (before ++ [first]).foldl beforeData s with
          pendingType := none, pendingData := none } after).2 := by
  rw [List.foldl_concat] at ht ⊢
  rw [run_to_first hs hL, step_eq_emitted hdata ht]
  rfl

theorem run_to_first_of_idle (hs : s.pendingData = none)
    (hL : ∀ line ∈ before, lineData? line = none)
    (ht : ((before ++ [first]).foldl beforeData s).pendingType = none) :
    (s.run (before ++ first :: after)).2 =
      (((before ++ [first]).foldl beforeData s).run after).2 := by
  rw [List.foldl_concat] at ht ⊢
  have hs' : (before.foldl beforeData s).pendingData = none := by rw [foldl_pendingData, hs]
  rw [run_to_first hs hL, step_eq_kept hs' (Or.inr ht)]
  rfl

/-- A waiting command is given the first data if no other command comes before it. -/
theorem exists_command_of_run_eq {t : Symbology} (hL : ∀ line ∈ before, lineData? line = none)
    {data : String} (hdata : lineData? first = some data)
    (h : (State.run { pendingType := some t } (before ++ first :: after)).2 =
      (initial.run (before ++ first :: after)).2) :
    ∃ line ∈ before ++ [first], ∃ u, NamesSymbology line u := by
  by_contra hno
  have hnone : ∀ line ∈ before ++ [first], barcodeCommand? line = none := by
    intro line hl
    refine Option.eq_none_iff_forall_ne_some.mpr fun u hu => hno ⟨line, hl, u, ?_⟩
    exact barcodeCommand?_eq_some_iff.mp hu
  have hidle := foldl_pendingType (s := initial) hnone
  have hwaiting := foldl_pendingType (s := { pendingType := some t }) hnone
  have hstart : AgreeOn True False { pendingType := some t } initial :=
    ⟨rfl, fun _ => ⟨rfl, rfl⟩, False.elim⟩
  -- apart from the command the two states are the same, so the first run has one directive more
  have hsame := (hstart.foldl (before ++ [first])).cleared_eq (Or.inl trivial) hidle
    (foldl_pendingData initial _)
  rw [run_to_first_of_waiting rfl hL hdata hwaiting, run_to_first_of_idle rfl hL hidle, hsame] at h
  exact absurd h (List.cons_ne_self _ _)

/-- The position is shown by the first directive if no other position is set before it. -/
theorem exists_origin_of_run_eq (hL : ∀ line ∈ before, lineData? line = none)
    {data : String} (hdata : lineData? first = some data)
    (hcommand : ∃ line ∈ before ++ [first], ∃ u, NamesSymbology line u)
    (h : (State.run { x := 1 } (before ++ first :: after)).2 =
      (initial.run (before ++ first :: after)).2) :
    ∃ line ∈ before ++ [first], ∃ p, PlacesOrigin line p := by
  by_contra hno
  have hnone : ∀ line ∈ before ++ [first], fieldOrigin? line = none := by
    intro line hl
    refine Option.eq_none_iff_forall_ne_some.mpr fun p hp => hno ⟨line, hl, p, ?_⟩
    exact fieldOrigin?_eq_some_iff.mp hp
  obtain ⟨t, ht⟩ := exists_foldl_pendingType (s := { x := 1 }) rfl hcommand
  obtain ⟨t0, ht0⟩ := exists_foldl_pendingType (s := initial) rfl hcommand
  rw [run_to_first_of_waiting rfl hL hdata ht, run_to_first_of_waiting rfl hL hdata ht0,
    List.cons.injEq, Directive.mk.injEq, (foldl_position hnone).1, (foldl_position hnone).1] at h
  exact absurd h.1.2.2.1 (by decide)

end State

/-! ### Joined documents -/

theorem directives_append_newline (a b : String) :
    directives (a ++ "\n" ++ b) =
      directives a ++ ((readDocument a.toList).1.run (documentLines b.toList)).2 := by
  rw [directives, readDocument, documentLines_append, State.run_append]
  rfl

/-- **A label that stands on its own** is read in the same way whatever is in front of it, position
or dangling command, and no other label is. -/
theorem directives_append_newline_iff (b : String) :
    (∀ a : String, directives (a ++ "\n" ++ b) = directives a ++ directives b) ↔
      SelfContained (documentLines b.toList) := by
  have hlines : ∀ line ∈ documentLines b.toList, '\n' ∉ line := fun line hl =>
    (documentLines_spec hl).2
  simp only [directives_append_newline, List.append_cancel_left_eq]
  constructor
  · intro h
    have hread : ∀ a : String, ((readDocument a.toList).1.run (documentLines b.toList)).2 =
        (State.initial.run (documentLines b.toList)).2 := h
    -- one document that leaves a command waiting, and one that leaves another position
    have hcommand : (readDocument "^BC".toList).1 = { pendingType := some .code128 } := rfl
    have horigin : (readDocument "^FO1,0".toList).1 = { x := 1 } := rfl
    rcases State.firstData_cases (documentLines b.toList) with
      hquiet | ⟨before, first, after, data, hsplit, hquiet, hdata⟩
    · exact Or.inl fun line hl => (lineData?_eq_none_iff (hlines line hl)).mp (hquiet line hl)
    · rw [hsplit] at hread hlines
      have hnamed := State.exists_command_of_run_eq hquiet hdata (hcommand ▸ hread "^BC")
      have hplaced := State.exists_origin_of_run_eq hquiet hdata hnamed (horigin ▸ hread "^FO1,0")
      refine Or.inr ⟨before, first, after, hsplit, fun line hl => ?_, ?_, hplaced, hnamed⟩
      · exact (lineData?_eq_none_iff (hlines line (List.mem_append_left _ hl))).mp (hquiet line hl)
      · by_contra hno
        have hnone := (lineData?_eq_none_iff (hlines first (by simp))).mpr hno
        rw [hnone] at hdata
        cases hdata
  · intro h a
    exact State.run_congr_of_selfContained (State.pendingData_run rfl) rfl hlines h

/-- The label in front leaves a position and a command, and the next one sets its own on lines of
their own. -/
example : directives ("^FO9,9^BQ" ++ "\n" ++ "^BC\n^FO1,2\n^FDx^FS") =
    [{ symbology := .code128, data := "x", x := 1, y := 2 }] := rfl

end LabelPress.Zpl
