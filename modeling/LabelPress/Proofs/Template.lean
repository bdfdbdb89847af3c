import LabelPress.Proofs.RawLine
import LabelPress.Proofs.Step
import LabelPress.Zpl.Document
import LabelPress.Zpl.Template
import Mathlib.Data.List.Find

/-!
# Templates read back

A template takes its data as it is, so commands in the data are commands of the label. This module
says exactly which data survives: templates are read back as the directives they were written for
iff no data ends its own field, breaks its line, or names another symbology or position.

The marks of commands begin with a caret and have no other one in them, so a mark never reaches
across the caret that follows a text. All that is said about the edges of the data comes from that.

## Main definitions

* `labelSheet` — the templates of several labels, one after the other
* `templateDirective` — the directive that a template is written for
* `Carried` — what is required of data to be read back

## Main results

* `directives_labelSheet` — what is read from a sheet whose data stays in its fields
* `directives_labelSheet_iff` — when that is what was written
-/

namespace LabelPress.Zpl

open LabelPress.Text

/-! ### Searches at a caret -/

theorem isPrefixOf_append_of_notMem {p : List Char} {x : Char} (h : x ∉ p) (s t : List Char) :
    p.isPrefixOf (s ++ x :: t) = p.isPrefixOf s := by
  induction p generalizing s with
  | nil => simp
  | cons a as ih =>
    have ha : a ≠ x := fun hax => h (by simp [hax])
    cases s with
    | nil => simp [List.isPrefixOf, ha]
    | cons c cs => simp [List.isPrefixOf, ih fun has => h (List.mem_cons_of_mem _ has)]

/-- A mark never reaches across a caret. -/
theorem isPrefixOf_append_caret {p : List Char} (h : '^' ∉ p) (c : Char) (cs t : List Char) :
    ('^' :: p).isPrefixOf (c :: (cs ++ '^' :: t)) = ('^' :: p).isPrefixOf (c :: cs) := by
  simp only [List.isPrefixOf_cons_cons, isPrefixOf_append_of_notMem h]

theorem occursIn_append_caret {p : List Char} (h : '^' ∉ p) (s t : List Char) :
    occursIn ('^' :: p) (s ++ '^' :: t) =
      (occursIn ('^' :: p) s || occursIn ('^' :: p) ('^' :: t)) := by
  induction s with
  | nil => simp [occursIn]
  | cons c cs ih =>
    have hstep : ∀ c : Char, ∀ cs : List Char, occursIn ('^' :: p) (c :: cs) =
        (('^' :: p).isPrefixOf (c :: cs) || occursIn ('^' :: p) cs) := fun _ _ => rfl
    rw [List.cons_append, hstep c, isPrefixOf_append_caret h, ih, hstep c, Bool.or_assoc]

theorem digitRun_append_caret {s xs rest : List Char} (h : digitRun s = (xs, rest))
    (t : List Char) : digitRun (s ++ '^' :: t) = (xs, rest ++ '^' :: t) := by
  obtain ⟨rfl, hxs, hrest⟩ := digitRun_spec h
  rw [List.append_assoc]
  refine digitRun_append hxs ?_
  cases rest with
  | nil => simp [show isDecimalDigit '^' = false by decide]
  | cons c cs => exact fun d hd => hrest d hd

/-- Coordinates end before a caret. -/
theorem coordinates?_append_caret (s t : List Char) :
    coordinates? (s ++ '^' :: t) = coordinates? s := by
  obtain ⟨xs, rest, hrun⟩ : ∃ xs rest, digitRun s = (xs, rest) := ⟨_, _, rfl⟩
  rw [coordinates?, coordinates?, digitRun_append_caret hrun, hrun]
  rcases xs with _ | ⟨x, xs⟩
  · rfl
  rcases rest with _ | ⟨c, rest⟩
  · simp
  by_cases hc : c = ','
  · obtain ⟨ys, after, hrun'⟩ : ∃ ys after, digitRun rest = (ys, after) := ⟨_, _, rfl⟩
    subst hc
    simp only [List.cons_append, digitRun_append_caret hrun', hrun']
    cases ys <;> rfl
  · simp [hc]

theorem fieldOrigin?_append_caret (s t : List Char) :
    fieldOrigin? (s ++ '^' :: t) = (fieldOrigin? s).or (fieldOrigin? ('^' :: t)) := by
  induction s with
  | nil => simp [fieldOrigin?]
  | cons c cs ih =>
    have hhere : originHere (c :: (cs ++ '^' :: t)) = originHere (c :: cs) := by
      rw [originHere, originHere, originMark, isPrefixOf_append_caret (by decide)]
      split
      next hpre =>
        obtain ⟨rest, hrest⟩ := List.isPrefixOf_iff_prefix.mp hpre
        obtain ⟨rfl, rfl⟩ := List.cons_eq_cons.mp hrest.symm
        exact coordinates?_append_caret rest t
      next => rfl
    rw [List.cons_append, fieldOrigin?_cons c, hhere, ih, fieldOrigin?_cons c, Option.or_assoc]

/-- Text without a newline and without a separator reaches up to a separator that follows it. -/
theorem fieldText?_append_separator {s : List Char} (hline : '\n' ∉ s)
    (hopen : ¬ separatorMark <:+: s) (rest : List Char) :
    fieldText? (s ++ (separatorMark ++ rest)) = some s := by
  induction s with
  | nil => rfl
  | cons c cs ih =>
    rw [List.mem_cons, not_or] at hline
    rw [List.infix_cons_iff, not_or, ← List.isPrefixOf_iff_prefix] at hopen
    have hpre : ¬ separatorMark.isPrefixOf (c :: (cs ++ (separatorMark ++ rest))) = true := by
      rw [separatorMark, List.cons_append, isPrefixOf_append_caret (by decide)]
      exact hopen.1
    rw [List.cons_append, fieldText?, if_neg hpre, if_neg (Ne.symm hline.1), ih hline.2 hopen.2]
    rfl

/-! ### Data in its frame -/

/-- Data that does not end the field it is put into. -/
structure StaysInField (data : String) : Prop where
  /-- Fields without data are not read. -/
  ne_empty : data ≠ ""
  /-- Lines end at a newline. -/
  no_newline : '\n' ∉ data.toList
  /-- Fields end at a separator. -/
  no_separator : ¬ separatorMark <:+: data.toList

/-- The first field of a line stays in its field, if it is not empty. -/
theorem FirstField.staysInField {line : List Char} {data : String} (hne : data ≠ "")
    (h : FirstField line data.toList) : StaysInField data :=
  ⟨hne, h.newline_notMem, h.not_isInfix⟩

/-- The line of a template that holds the data. -/
def dataLine (data : List Char) : List Char := dataMark ++ data ++ separatorMark

theorem barcodeCommands_shape :
    ∀ e ∈ barcodeCommands, ∃ b : Char, b ≠ '^' ∧ e.1 = ['^', 'B', b] := by
  simp [barcodeCommands]

/-- The frame adds no barcode command to those of the data. -/
theorem barcodeCommand?_dataLine (data : List Char) :
    barcodeCommand? (dataLine data) = barcodeCommand? data := by
  rw [barcodeCommand?, barcodeCommand?]
  congr 1
  refine List.find?_congr fun e he => ?_
  obtain ⟨b, hb, hmark⟩ := barcodeCommands_shape e he
  have hfront : occursIn ['^', 'B', b] (dataLine data) =
      occursIn ['^', 'B', b] (data ++ separatorMark) := by
    simp [dataLine, dataMark, occursIn, List.isPrefixOf]
  rw [hmark, hfront, separatorMark, occursIn_append_caret (by simp [Ne.symm hb])]
  simp [occursIn, List.isPrefixOf]

/-- The frame adds no field origin to those of the data. -/
theorem fieldOrigin?_dataLine (data : List Char) :
    fieldOrigin? (dataLine data) = fieldOrigin? data := by
  have hfront : fieldOrigin? (dataLine data) = fieldOrigin? (data ++ separatorMark) := by
    simp [dataLine, dataMark, fieldOrigin?, originMark]
  rw [hfront, separatorMark, fieldOrigin?_append_caret]
  simp [fieldOrigin?, originMark]

theorem lineData?_dataLine {data : String} (h : StaysInField data) :
    State.lineData? (dataLine data.toList) = some data := by
  have hfield : fieldData? (dataLine data.toList) = some data.toList := by
    have htext := fieldText?_append_separator h.no_newline h.no_separator []
    rw [List.append_nil] at htext
    rw [dataLine, dataMark, List.append_assoc]
    simp [fieldData?, dataMark, htext]
  obtain ⟨c, cs, hcs⟩ := List.exists_cons_of_ne_nil (l := data.toList) (by simpa using h.ne_empty)
  rw [State.lineData?, hfield, hcs]
  simp [← hcs]

/-! ### One label -/

/-- The line of a template with its position and its barcode command. -/
def commandLine (t : Symbology) : List Char :=
  "^FO50,50".toList ++ ((templateCommand? t).getD "").toList

theorem documentLines_commandLine (t : Symbology) :
    documentLines (commandLine t) = [commandLine t] := by
  cases t <;> decide

theorem documentLines_dataLine {data : List Char} (hline : '\n' ∉ data) :
    documentLines (dataLine data) = [dataLine data] := by
  refine documentLines_of_line (by simp [dataLine, dataMark]) ?_ ?_ ?_
  · simp [dataLine, dataMark, separatorMark, hline]
  · simp [dataLine, dataMark, show isBlank '^' = false by decide]
  · simp [dataLine, separatorMark, show isBlank 'S' = false by decide]

theorem documentLines_labelWith (t : Symbology) {data : String} (hline : '\n' ∉ data.toList) :
    documentLines (labelWith t data).toList =
      ["^XA".toList, commandLine t, dataLine data.toList, "^XZ".toList] := by
  have hparts : (labelWith t data).toList =
      "^XA".toList ++ '\n' :: (commandLine t ++ '\n' ::
        (dataLine data.toList ++ '\n' :: "^XZ".toList)) := by
    unfold labelWith commandLine
    generalize templateCommand? t = command
    simp [dataLine, dataMark, separatorMark]
  rw [hparts, documentLines_append_newline, documentLines_append_newline,
    documentLines_append_newline, documentLines_commandLine, documentLines_dataLine hline]
  rfl

theorem lineData?_commandLine (t : Symbology) : State.lineData? (commandLine t) = none := by
  cases t <;> decide

theorem fieldOrigin?_commandLine (t : Symbology) :
    fieldOrigin? (commandLine t) = some (50, 50) := by
  cases t <;> decide

theorem barcodeCommand?_commandLine {t : Symbology} (h : (templateCommand? t).isSome = true) :
    barcodeCommand? (commandLine t) = some t := by
  cases t <;> revert h <;> decide

/-- The symbology that a template is made for has a template. -/
theorem templateCommand?_templateSymbology (d : Designator) :
    (templateCommand? (templateSymbology d)).isSome = true := by
  rw [templateSymbology]
  split
  next s _ =>
    split
    · assumption
    · rfl
  next => rfl

/-! ### Reading one label -/

/-- The directive that is read from the template of a symbology. Commands in the data take the place
of those of the template. -/
def readBack (t : Symbology) (data : String) : Directive where
  symbology := (barcodeCommand? data.toList).getD t
  data := data
  x := ((fieldOrigin? data.toList).getD (50, 50)).1
  y := ((fieldOrigin? data.toList).getD (50, 50)).2

namespace State

/-- No command and no data is waiting. -/
structure Idle (s : State) : Prop where
  /-- No command is waiting. -/
  noType : s.pendingType = none
  /-- No data is waiting. -/
  noData : s.pendingData = none

theorem idle_initial : initial.Idle := ⟨rfl, rfl⟩

theorem step_eq_self {s : State} (hs : s.Idle) {line : List Char}
    (hcommand : barcodeCommand? line = none) (horigin : fieldOrigin? line = none)
    (hdata : lineData? line = none) : s.step line = (s, none) := by
  rw [step_eq_kept hs.noData (Or.inl hdata), beforeData_eq, hcommand, horigin]
  rfl

/-- The command line moves to the position of the template and leaves its command waiting. -/
theorem step_commandLine {s : State} (hs : s.Idle) {t : Symbology}
    (ht : (templateCommand? t).isSome = true) :
    s.step (commandLine t) = ({ s with x := 50, y := 50, pendingType := some t }, none) := by
  rw [step_eq_kept hs.noData (Or.inl (lineData?_commandLine t)), beforeData_eq,
    barcodeCommand?_commandLine ht, fieldOrigin?_commandLine]
  rfl

/-- The data line completes the directive. Commands in the data come before those of the template,
since they are read before the data is. -/
theorem step_dataLine {s : State} {t : Symbology} {data : String} (ht : s.pendingType = some t)
    (hx : s.x = 50) (hy : s.y = 50) (hdata : StaysInField data) :
    (s.step (dataLine data.toList)).1.Idle ∧
      (s.step (dataLine data.toList)).2 = some (readBack t data) := by
  have htype : (s.beforeData (dataLine data.toList)).pendingType =
      some ((barcodeCommand? data.toList).getD t) := by
    rw [beforeData_pendingType, barcodeCommand?_dataLine, ht, Option.or_some]
  rw [step_eq_emitted (lineData?_dataLine hdata) htype]
  refine ⟨⟨rfl, rfl⟩, ?_⟩
  rw [beforeData_eq, fieldOrigin?_dataLine, hx, hy, readBack]
  cases fieldOrigin? data.toList <;> rfl

/-- **A template read from an idle state** yields one directive and leaves the state idle. -/
theorem run_labelWith {s : State} (hs : s.Idle) {t : Symbology} {data : String}
    (ht : (templateCommand? t).isSome = true) (hdata : StaysInField data) :
    (s.run (documentLines (labelWith t data).toList)).1.Idle ∧
      (s.run (documentLines (labelWith t data).toList)).2 = [readBack t data] := by
  obtain ⟨hidle, hread⟩ := step_dataLine (s := { s with x := 50, y := 50, pendingType := some t })
    rfl rfl rfl hdata
  rw [documentLines_labelWith t hdata.no_newline, run_cons, run_cons, run_cons, run_cons,
    step_eq_self hs rfl rfl rfl, step_commandLine hs ht, step_eq_self hidle rfl rfl rfl, hread]
  exact ⟨hidle, rfl⟩

end State

/-! ### Sheets of labels -/

/-- The templates of several labels, one after the other. -/
def labelSheet (labels : List (Designator × String)) : String :=
  "\n".intercalate (labels.map fun l => template l.1 l.2)

/-- The directive that a template is written for. -/
def templateDirective (l : Designator × String) : Directive :=
  { symbology := templateSymbology l.1, data := l.2, x := 50, y := 50,
    width := 2, height := 100, options := [] }

/-- **What data has to satisfy to be read back as written:** it stays in its field, and any barcode
command and any field origin in it say what the template says. -/
structure Carried (d : Designator) (data : String) : Prop extends StaysInField data where
  /-- The data names no symbology, or that of the template. -/
  symbology : barcodeCommand? data.toList = none ∨
    barcodeCommand? data.toList = some (templateSymbology d)
  /-- The first field origin in the data, if there is one, is at the position of the template. -/
  position : ∀ p, PlacesOrigin data.toList p → p = (50, 50)

theorem documentLines_labelSheet (labels : List (Designator × String)) :
    documentLines (labelSheet labels).toList =
      labels.flatMap fun l => documentLines (template l.1 l.2).toList := by
  rw [labelSheet, String.toList_intercalate, show "\n".toList = ['\n'] from rfl,
    documentLines_intercalate, List.flatMap_map, List.flatMap_map]

/-- **Labels one after the other** are read one by one: what one leaves behind does not disturb the
next. The induction is on the labels, over all idle states. -/
theorem State.run_labels {s : State} (hs : s.Idle) {labels : List (Designator × String)}
    (h : ∀ l ∈ labels, StaysInField l.2) :
    (s.run (labels.flatMap fun l => documentLines (template l.1 l.2).toList)).2 =
      labels.map fun l => readBack (templateSymbology l.1) l.2 := by
  induction labels generalizing s with
  | nil => rfl
  | cons l rest ih =>
    obtain ⟨hidle, hread⟩ := run_labelWith hs (templateCommand?_templateSymbology l.1)
      (h l List.mem_cons_self)
    rw [List.flatMap_cons, run_append, template, hread, List.map_cons,
      ih hidle fun l hl => h l (List.mem_cons_of_mem _ hl)]
    rfl

theorem directives_labelSheet {labels : List (Designator × String)}
    (h : ∀ l ∈ labels, StaysInField l.2) :
    directives (labelSheet labels) = labels.map fun l => readBack (templateSymbology l.1) l.2 := by
  rw [directives, readDocument, documentLines_labelSheet]
  exact State.run_labels State.idle_initial h

/-- The data of every directive stays in its field. -/
theorem staysInField_of_mem_directives {text : String} {d : Directive} (h : d ∈ directives text) :
    StaysInField d.data := by
  obtain ⟨line, -, hdata⟩ := State.data_of_mem_run rfl h
  obtain ⟨hne, hfirst⟩ := lineData?_eq_some_iff_firstField.mp hdata
  exact hfirst.staysInField hne

/-- A directive is read back as it was written iff the commands in its data say what the template
says. -/
theorem readBack_eq_iff {d : Designator} {data : String} :
    readBack (templateSymbology d) data = templateDirective (d, data) ↔
      (barcodeCommand? data.toList = none ∨
        barcodeCommand? data.toList = some (templateSymbology d)) ∧
      ∀ p, PlacesOrigin data.toList p → p = (50, 50) := by
  have hcast : ∀ n : Nat, (n : Int) = 50 ↔ n = 50 := fun n => by omega
  simp only [← fieldOrigin?_eq_some_iff, readBack, templateDirective, Directive.mk.injEq]
  cases barcodeCommand? data.toList <;> cases fieldOrigin? data.toList <;>
    simp [Prod.ext_iff, hcast, directiveWidth, directiveHeight]

theorem not_isInfix_of_notMem {mark s : List Char} (hs : '^' ∉ s) (hmark : '^' ∈ mark) :
    ¬ mark <:+: s :=
  fun h => hs (h.subset hmark)

/-- Data without a caret and a newline says nothing about the label. -/
theorem carried_of_notMem (d : Designator) {data : String} (hne : data ≠ "")
    (hcaret : '^' ∉ data.toList) (hline : '\n' ∉ data.toList) : Carried d data where
  ne_empty := hne
  no_newline := hline
  no_separator := not_isInfix_of_notMem hcaret (by simp [separatorMark])
  symbology := by
    refine Or.inl (Option.eq_none_iff_forall_ne_some.mpr fun t ht => ?_)
    obtain ⟨earlier, mark, later, htable, hmark, -⟩ := barcodeCommand?_eq_some_iff.mp ht
    obtain ⟨b, -, hshape⟩ := barcodeCommands_shape (mark, t) (by simp [htable])
    exact not_isInfix_of_notMem hcaret (by simp [show mark = _ from hshape]) hmark
  position := by
    rintro p ⟨before, ⟨rest, hrest, body, hbody, -⟩, -⟩
    exact absurd (by simp [hrest, show rest = originMark ++ body from hbody, originMark]) hcaret

/-- **Templates are read back as they were written** iff all their data is carried, and in
particular when it is not empty and has no caret and no newline. -/
theorem directives_labelSheet_iff (labels : List (Designator × String)) :
    (directives (labelSheet labels) = labels.map templateDirective ↔
        ∀ l ∈ labels, Carried l.1 l.2) ∧
      ((∀ l ∈ labels, l.2 ≠ "" ∧ '^' ∉ l.2.toList ∧ '\n' ∉ l.2.toList) →
        directives (labelSheet labels) = labels.map templateDirective) := by
  have hiff : directives (labelSheet labels) = labels.map templateDirective ↔
      ∀ l ∈ labels, Carried l.1 l.2 := by
    constructor
    · intro heq l hl
      have hstays : ∀ l ∈ labels, StaysInField l.2 := fun l hl => by
        have hmem : templateDirective l ∈ directives (labelSheet labels) := by
          rw [heq]
          exact List.mem_map_of_mem hl
        exact staysInField_of_mem_directives hmem
      rw [directives_labelSheet hstays] at heq
      obtain ⟨hsymbology, hposition⟩ := readBack_eq_iff.mp (List.map_inj_left.mp heq l hl)
      exact ⟨hstays l hl, hsymbology, hposition⟩
    · intro h
      rw [directives_labelSheet fun l hl => (h l hl).toStaysInField]
      refine List.map_congr_left fun l hl => ?_
      exact readBack_eq_iff.mpr ⟨(h l hl).symbology, (h l hl).position⟩
  refine ⟨hiff, fun h => hiff.mpr fun l hl => ?_⟩
  obtain ⟨hne, hcaret, hline⟩ := h l hl
  exact carried_of_notMem l.1 hne hcaret hline

/-- Commands in the data of the second label that say what its template says. -/
theorem directives_labelSheet_two :
    (∀ l ∈ [(Designator.ofText "qr", "one"), (.symbology .ean8, "^BC^FO050,50")],
        Carried l.1 l.2) ∧
      directives (labelSheet [(.ofText "qr", "one"), (.symbology .ean8, "^BC^FO050,50")]) =
        [{ symbology := .qr, data := "one", x := 50, y := 50 },
         { symbology := .code128, data := "^BC^FO050,50", x := 50, y := 50 }] := by
  have hcarried : ∀ l ∈ [(Designator.ofText "qr", "one"), (.symbology .ean8, "^BC^FO050,50")],
      Carried l.1 l.2 := by
    rintro l hl
    rcases List.mem_pair.mp hl with rfl | rfl
    · exact carried_of_notMem _ (by decide) (by decide) (by decide)
    · refine ⟨⟨by decide, by decide, by decide⟩, Or.inr (by decide), fun p hp => ?_⟩
      have horigin : fieldOrigin? "^BC^FO050,50".toList = some (50, 50) := by decide
      rw [← fieldOrigin?_eq_some_iff, horigin] at hp
      exact (Option.some.inj hp).symm
  exact ⟨hcarried, (directives_labelSheet_iff _).1.mpr hcarried⟩

end LabelPress.Zpl
