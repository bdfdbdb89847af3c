import LabelPress.Proofs.Command
import LabelPress.Proofs.Step
import LabelPress.Zpl.Document
import LabelPress.Zpl.Submission
import Mathlib.Data.List.Forall2

/-!
# The directives of a document

Which lines of a document complete a directive, and what that directive is, said of the lines alone:
without states, and by positions in the list of lines.

A line completes a directive when it holds data and a barcode command is waiting for it. A command
waits from its own line to the next line that completes a directive, unless another command takes
its place. The position of a directive is that of the last field origin at or before its line;
completing a directive does not reset it.

## Main definitions

* `FoundAt` — a search finds something in the line of a given number
* `Completes` — a line completes a directive
* `DirectiveOf` — the directive that a line completes
* `Summary` — what the state says about the lines read so far, the invariant of a run

## Main results

* `directives_iff_completes` — the directives of a document are those of its completing lines, in
  their order
-/

namespace LabelPress.Zpl

open LabelPress.Text

/-! ### Lines by their numbers -/

/-- Line `i` is there, and the search `R` finds `a` in it. -/
def FoundAt {α : Type} (R : List Char → α → Prop) (L : List (List Char)) (i : Nat) (a : α) :
    Prop :=
  ∃ line, L[i]? = some line ∧ R line a

/-- Line `i` completes a directive: it holds data, and a line at or before it names a symbology and
stands after every earlier line that completes one. -/
def Completes (L : List (List Char)) (i : Nat) : Prop :=
  (∃ field, FoundAt HoldsField L i field) ∧
    ∃ j ≤ i, (∃ t, FoundAt NamesSymbology L j t) ∧ ∀ k < i, Completes L k → k < j
termination_by i

/-- The barcode command of line `j` is still waiting when line `n` is read: no line from `j` up to
but not including `n` completes a directive. -/
def Waits (L : List (List Char)) (n j : Nat) (t : Symbology) : Prop :=
  FoundAt NamesSymbology L j t ∧ ∀ k < n, Completes L k → k < j

/-- `R` finds `a` in line `j`, which is the last one before `n` in which it finds anything. -/
def LastBefore {α : Type} (R : List Char → α → Prop) (L : List (List Char)) (n j : Nat) (a : α) :
    Prop :=
  j < n ∧ FoundAt R L j a ∧ ∀ k, j < k → k < n → ∀ b, ¬ FoundAt R L k b

/-- The position after `n` lines: that of their last field origin, and zero without any. -/
def PositionAfter (L : List (List Char)) (n : Nat) (x y : Int) : Prop :=
  (∃ j p, LastBefore PlacesOrigin L n j p ∧ x = (p.1 : Int) ∧ y = (p.2 : Int)) ∨
    ((∀ k < n, ∀ p, ¬ FoundAt PlacesOrigin L k p) ∧ x = 0 ∧ y = 0)

/-- `d` is the directive that line `i` completes. -/
structure DirectiveOf (L : List (List Char)) (i : Nat) (d : Directive) : Prop where
  /-- The data is that of the line. -/
  data : FoundAt HoldsField L i d.data.toList
  /-- The symbology is that of the last barcode command at or before the line, and that command is
  still waiting. -/
  symbology : ∃ j, LastBefore NamesSymbology L (i + 1) j d.symbology ∧ Waits L i j d.symbology
  /-- The position is that of the last field origin at or before the line. -/
  position : PositionAfter L (i + 1) d.x d.y
  /-- The width is fixed. -/
  width : d.width = 2
  /-- The height is fixed. -/
  height : d.height = 100
  /-- There are no further settings. -/
  options : d.options = []

section

variable {α : Type} {R : List Char → α → Prop} {L : List (List Char)} {n i j : Nat} {a : α}
  {line : List Char}

theorem foundAt_iff (h : L[i]? = some line) : FoundAt R L i a ↔ R line a := by
  simp [FoundAt, h]

/-- With one more line the last find is in that line, or it is the last one of before. -/
theorem lastBefore_succ_iff :
    LastBefore R L (n + 1) j a ↔
      (j = n ∧ FoundAt R L n a) ∨ ((∀ b, ¬ FoundAt R L n b) ∧ LastBefore R L n j a) := by
  constructor
  · rintro ⟨hj, hfound, hlast⟩
    rcases Nat.lt_succ_iff_lt_or_eq.mp hj with hlt | rfl
    · exact Or.inr ⟨hlast n hlt (Nat.lt_succ_self n), hlt, hfound,
        fun k hk hkn => hlast k hk (Nat.lt_succ_of_lt hkn)⟩
    · exact Or.inl ⟨rfl, hfound⟩
  · rintro (⟨rfl, hfound⟩ | ⟨hno, hlt, hfound, hlast⟩)
    · exact ⟨Nat.lt_succ_self j, hfound, fun k hk hkn => by omega⟩
    · refine ⟨Nat.lt_succ_of_lt hlt, hfound, fun k hk hkn => ?_⟩
      rcases Nat.lt_succ_iff_lt_or_eq.mp hkn with hkn | rfl
      · exact hlast k hk hkn
      · exact hno

/-- A line completes a directive iff it holds data and some command is waiting at it. -/
theorem completes_iff :
    Completes L i ↔ (∃ field, FoundAt HoldsField L i field) ∧ ∃ j ≤ i, ∃ t, Waits L i j t := by
  rw [Completes]
  simp only [Waits, exists_and_right]

/-- A command that waits for one more line was waiting before, and the line in between did not
complete anything, unless the command is its own. -/
theorem waits_succ_iff {t : Symbology} (hj : j ≤ n) :
    Waits L (n + 1) j t ↔ Waits L n j t ∧ ¬ Completes L n := by
  constructor
  · rintro ⟨hfound, hwait⟩
    exact ⟨⟨hfound, fun k hk => hwait k (Nat.lt_succ_of_lt hk)⟩, fun hn =>
      absurd (hwait n (Nat.lt_succ_self n) hn) (Nat.not_lt.mpr hj)⟩
  · rintro ⟨⟨hfound, hwait⟩, hn⟩
    refine ⟨hfound, fun k hk hc => ?_⟩
    rcases Nat.lt_succ_iff_lt_or_eq.mp hk with hk | rfl
    · exact hwait k hk hc
    · exact absurd hc hn

end

/-! ### The invariant of a run -/

/-- What the state `s` says about the first `n` lines. -/
structure Summary (L : List (List Char)) (n : Nat) (s : State) : Prop where
  /-- No data is left over. -/
  noData : s.pendingData = none
  /-- A symbology in the state is that of the last command, which is still waiting. -/
  waiting : ∀ t, s.pendingType = some t →
    ∃ j, LastBefore NamesSymbology L n j t ∧ Waits L n j t
  /-- Without a symbology in the state no command is waiting. -/
  idle : s.pendingType = none → ∀ j < n, ∀ t, ¬ Waits L n j t
  /-- The position is that of the last field origin. -/
  position : PositionAfter L n s.x s.y

theorem summary_initial (L : List (List Char)) : Summary L 0 State.initial where
  noData := rfl
  waiting := fun t h => by simp [State.initial] at h
  idle := fun _ j hj => absurd hj (Nat.not_lt_zero j)
  position := Or.inr ⟨fun k hk => absurd hk (Nat.not_lt_zero k), rfl, rfl⟩

section

variable {L : List (List Char)} {n : Nat} {s : State} {line : List Char}

theorem Summary.position_beforeData (h : Summary L n s) (hline : L[n]? = some line) :
    PositionAfter L (n + 1) (s.beforeData line).x (s.beforeData line).y := by
  rw [State.beforeData_eq]
  cases horigin : fieldOrigin? line with
  | some p =>
    have hp : FoundAt PlacesOrigin L n p :=
      (foundAt_iff hline).mpr (fieldOrigin?_eq_some_iff.mp horigin)
    exact Or.inl ⟨n, p, lastBefore_succ_iff.mpr (Or.inl ⟨rfl, hp⟩), rfl, rfl⟩
  | none =>
    have hno : ∀ p, ¬ FoundAt PlacesOrigin L n p := fun p hp => by
      rw [foundAt_iff hline, ← fieldOrigin?_eq_some_iff, horigin] at hp
      simp at hp
    rcases h.position with ⟨j, p, hlast, hx, hy⟩ | ⟨hnone, hx, hy⟩
    · exact Or.inl ⟨j, p, lastBefore_succ_iff.mpr (Or.inr ⟨hno, hlast⟩), hx, hy⟩
    · refine Or.inr ⟨fun k hk => ?_, hx, hy⟩
      rcases Nat.lt_succ_iff_lt_or_eq.mp hk with hk | rfl
      · exact hnone k hk
      · exact hno

/-- Once its command has been read, a symbology in the state is that of the last command up to and
including the next line, and it is waiting for the data of that line. -/
theorem Summary.waiting_beforeData (h : Summary L n s) (hline : L[n]? = some line) {t : Symbology}
    (ht : (s.beforeData line).pendingType = some t) :
    ∃ j, LastBefore NamesSymbology L (n + 1) j t ∧ Waits L n j t := by
  rw [State.beforeData_pendingType] at ht
  cases hcommand : barcodeCommand? line with
  | some u =>
    obtain rfl : u = t := by simpa [hcommand] using ht
    have hu : FoundAt NamesSymbology L n u :=
      (foundAt_iff hline).mpr (barcodeCommand?_eq_some_iff.mp hcommand)
    exact ⟨n, lastBefore_succ_iff.mpr (Or.inl ⟨rfl, hu⟩), hu, fun k hk _ => hk⟩
  | none =>
    have hno : ∀ u, ¬ FoundAt NamesSymbology L n u := fun u hu => by
      rw [foundAt_iff hline, ← barcodeCommand?_eq_some_iff, hcommand] at hu
      simp at hu
    obtain ⟨j, hlast, hwait⟩ := h.waiting t (by simpa [hcommand] using ht)
    exact ⟨j, lastBefore_succ_iff.mpr (Or.inr ⟨hno, hlast⟩), hwait⟩

theorem Summary.idle_beforeData (h : Summary L n s) (hline : L[n]? = some line)
    (ht : (s.beforeData line).pendingType = none) : ∀ j ≤ n, ∀ t, ¬ Waits L n j t := by
  rw [State.beforeData_pendingType, Option.or_eq_none_iff] at ht
  intro j hj t hwait
  rcases Nat.lt_or_eq_of_le hj with hlt | rfl
  · exact h.idle ht.2 j hlt t hwait
  · have hfound := (foundAt_iff hline).mp hwait.1
    rw [← barcodeCommand?_eq_some_iff, ht.1] at hfound
    simp at hfound

theorem Summary.kept (h : Summary L n s) (hline : L[n]? = some line) (hn : ¬ Completes L n) :
    Summary L (n + 1) (s.beforeData line) where
  noData := by rw [State.beforeData_pendingData, h.noData]
  waiting := fun t ht => by
    obtain ⟨j, hlast, hwait⟩ := h.waiting_beforeData hline ht
    exact ⟨j, hlast, (waits_succ_iff (Nat.lt_succ_iff.mp hlast.1)).mpr ⟨hwait, hn⟩⟩
  idle := fun ht j hj t hwait => by
    have hjn := Nat.lt_succ_iff.mp hj
    exact h.idle_beforeData hline ht j hjn t ((waits_succ_iff hjn).mp hwait).1
  position := h.position_beforeData hline

theorem Summary.emitted (h : Summary L n s) (hline : L[n]? = some line) (hn : Completes L n) :
    Summary L (n + 1) { s.beforeData line with pendingType := none, pendingData := none } where
  noData := rfl
  waiting := fun t ht => by simp at ht
  idle := fun _ j hj _ hwait => ((waits_succ_iff (Nat.lt_succ_iff.mp hj)).mp hwait).2 hn
  position := h.position_beforeData hline

/-- **One line.** The invariant is kept, and the line yields its directive if it completes one and
nothing otherwise. -/
theorem Summary.step (h : Summary L n s) (hline : L[n]? = some line) (hnl : '\n' ∉ line) :
    Summary L (n + 1) (s.step line).1 ∧
      ((∃ d, (s.step line).2 = some d ∧ Completes L n ∧ DirectiveOf L n d) ∨
        ((s.step line).2 = none ∧ ¬ Completes L n)) := by
  cases htype : (s.beforeData line).pendingType with
  | none =>
    have hn : ¬ Completes L n := fun hn => by
      obtain ⟨-, j, hj, t, hwait⟩ := completes_iff.mp hn
      exact h.idle_beforeData hline htype j hj t hwait
    rw [State.step_eq_kept h.noData (Or.inr htype)]
    exact ⟨h.kept hline hn, Or.inr ⟨rfl, hn⟩⟩
  | some t =>
    cases hdata : State.lineData? line with
    | none =>
      have hn : ¬ Completes L n := fun hn => by
        obtain ⟨⟨field, hfield⟩, -⟩ := completes_iff.mp hn
        rw [foundAt_iff hline, ← String.toList_ofList (l := field), ← lineData?_eq_some_iff hnl,
          hdata] at hfield
        simp at hfield
      rw [State.step_eq_kept h.noData (Or.inl hdata)]
      exact ⟨h.kept hline hn, Or.inr ⟨rfl, hn⟩⟩
    | some data =>
      obtain ⟨j, hlast, hwait⟩ := h.waiting_beforeData hline htype
      have hfield : FoundAt HoldsField L n data.toList :=
        (foundAt_iff hline).mpr ((lineData?_eq_some_iff hnl).mp hdata)
      have hn : Completes L n :=
        completes_iff.mpr ⟨⟨_, hfield⟩, j, Nat.lt_succ_iff.mp hlast.1, t, hwait⟩
      rw [State.step_eq_emitted hdata htype]
      exact ⟨h.emitted hline hn, Or.inl ⟨_, rfl, hn, hfield, ⟨j, hlast, hwait⟩,
        h.position_beforeData hline, rfl, rfl, rfl⟩⟩

end

/-! ### Whole documents -/

/-- **A run.** The first `n` lines yield the directives of the completing lines among them, in
order. The induction is on the number of lines read, with the list of lines fixed. -/
theorem run_spec {L : List (List Char)} (hL : ∀ line ∈ L, '\n' ∉ line) {n : Nat}
    (hn : n ≤ L.length) :
    Summary L n (State.initial.run (L.take n)).1 ∧
      ∃ indices : List Nat, indices.Pairwise (· < ·) ∧
        (∀ i, i ∈ indices ↔ i < n ∧ Completes L i) ∧
        List.Forall₂ (DirectiveOf L) indices (State.initial.run (L.take n)).2 := by
  induction n with
  | zero => exact ⟨summary_initial L, [], by simp, by simp, List.Forall₂.nil⟩
  | succ n ih =>
    obtain ⟨hsum, indices, hsorted, hmem, hall⟩ := ih (Nat.le_of_succ_le hn)
    have hlt : n < L.length := hn
    have hline : L[n]? = some L[n] := List.getElem?_eq_getElem hlt
    obtain ⟨hnext, hstep⟩ := hsum.step hline (hL _ (List.getElem_mem hlt))
    rw [List.take_succ_eq_append_getElem hlt, State.run_append, State.run_cons]
    refine ⟨hnext, ?_⟩
    rcases hstep with ⟨d, hd, hcomplete, hof⟩ | ⟨hnone, hno⟩
    · refine ⟨indices ++ [n], ?_, fun i => ?_, ?_⟩
      · refine List.pairwise_append.mpr ⟨hsorted, List.pairwise_singleton _ _, ?_⟩
        intro i hi k hk
        rw [List.mem_singleton.mp hk]
        exact ((hmem i).mp hi).1
      · rw [List.mem_append, List.mem_singleton, hmem, Nat.lt_succ_iff_lt_or_eq, or_and_right]
        exact or_congr_right ⟨fun hi => ⟨hi, hi ▸ hcomplete⟩, And.left⟩
      · rw [hd]
        exact List.rel_append hall (List.Forall₂.cons hof List.Forall₂.nil)
    · refine ⟨indices, hsorted, fun i => ?_, ?_⟩
      · rw [hmem, Nat.lt_succ_iff_lt_or_eq, or_and_right]
        exact ⟨Or.inl, fun hi => hi.resolve_right fun hi => hno (hi.1 ▸ hi.2)⟩
      · rw [hnone]
        simpa [State.run] using hall

theorem checkSymbology_name (s : Symbology) : checkSymbology (.string s.name) = .ok s := by
  cases s <;> rfl

/-- Every directive passes the check of directives: building one from its parts cannot fail. -/
theorem check_entries (d : Directive) : Directive.check (.object d.entries) = .ok d := by
  simp [Directive.check, RawDirective.check, RawDirective.ofMembers, Directive.entries,
    Validation.object, Validation.required, Validation.optional, Validation.anyText,
    Validation.integer, Validation.Checked.under, Validation.Checked.both, Json.Members.get?,
    List.lookup_cons, checkSymbology_name, checkOptions, Except.map]

theorem Completes.lt_length {L : List (List Char)} {i : Nat} (h : Completes L i) :
    i < L.length := by
  obtain ⟨⟨field, line, hline, -⟩, -⟩ := completes_iff.mp h
  exact (List.getElem?_eq_some_iff.mp hline).1

/-- **The directives of a document are those of its completing lines,** one for each in their order.
Reading a document never fails: each directive is one that the check of directives accepts. -/
theorem directives_iff_completes (text : String) :
    (∃ indices : List Nat, indices.Pairwise (· < ·) ∧
        (∀ i, i ∈ indices ↔ Completes (documentLines text.toList) i) ∧
        List.Forall₂ (DirectiveOf (documentLines text.toList)) indices (directives text)) ∧
      ∀ d ∈ directives text, Directive.check (.object d.entries) = .ok d := by
  refine ⟨?_, fun d _ => check_entries d⟩
  have hL : ∀ line ∈ documentLines text.toList, '\n' ∉ line := fun line hline =>
    (documentLines_spec hline).2
  obtain ⟨-, indices, hsorted, hmem, hall⟩ := run_spec hL (Nat.le_refl _)
  rw [List.take_length] at hall
  refine ⟨indices, hsorted, fun i => ?_, hall⟩
  rw [hmem]
  exact and_iff_right_of_imp Completes.lt_length

/-- Of three lines with data only the second completes a directive: no command is waiting at the
others. -/
example : directives "^FDa^FS\n^BQN^FO7,8\n^BCN\n^FDb\n^FDc^FS" =
    [{ symbology := .code128, data := "b", x := 7, y := 8 }] := rfl

end LabelPress.Zpl
