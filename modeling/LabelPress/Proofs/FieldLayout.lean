import LabelPress.Proofs.Template

/-!
# Fields that share a line

A field of a label has a position, a barcode command and data, and a separator ends it. Commands of
a label need no newline between them, so several fields may share a line. The reader takes one
directive from a line at most: it finds the position and the data of the first field there, and the
command that comes first in its table, whichever field that belongs to. So the directives of a label
are those of its rows, and they are the directives of its fields iff a newline follows every field
but the last.

The mark of a command has a caret in front and no other one in it, and a field has carets only where
its own marks begin. A search therefore passes over everything that stands between two marks.

## Main definitions

* `Field`, `Field.text`, `Field.directive` — a field, its text, and the directive written there
* `layoutText` — fields one after the other, some of them followed by a newline
* `rows`, `rowDirectives` — the fields of each line, and what is read from them

## Main results

* `State.run_row` — what one row does to an idle state
* `directives_layout` — what is read from a layout, and when that is what was written
* `directives_layout_shared` — a field that is lost to its neighbour
-/

namespace LabelPress.Zpl

open LabelPress.Text

/-- A field of a label. -/
structure Field where
  /-- The digits of the distance from the left edge. -/
  x : List Char
  /-- The digits of the distance from the top edge. -/
  y : List Char
  /-- The barcode command. -/
  mark : List Char
  /-- The symbology that the command stands for. -/
  symbology : Symbology
  /-- The payload. -/
  data : List Char
  /-- There are such digits. -/
  x_digits : IsDigitRun x
  /-- There are such digits. -/
  y_digits : IsDigitRun y
  /-- The command is one of the table. -/
  command_mem : (mark, symbology) ∈ barcodeCommands
  /-- Fields without data are not read. -/
  data_ne_nil : data ≠ []
  /-- The payload has no commands in it. -/
  data_caret : '^' ∉ data
  /-- The payload stands on one line. -/
  data_newline : '\n' ∉ data

namespace Field

/-- The text of a field. -/
def text (f : Field) : List Char :=
  originMark ++ (f.x ++ ',' :: (f.y ++ (f.mark ++ (dataMark ++ (f.data ++ separatorMark)))))

/-- The directive that a field is written for. -/
def directive (f : Field) : Directive where
  symbology := f.symbology
  data := String.ofList f.data
  x := coordinate f.x
  y := coordinate f.y

end Field

/-- Fields one after the other, each with whether a newline follows it. -/
def layoutText (layout : List (Field × Bool)) : List Char :=
  layout.flatMap fun p => p.1.text ++ if p.2 then ['\n'] else []

/-- The fields of each line, if those of `row` stand on the first line already. -/
def rowsFrom (row : List Field) : List (Field × Bool) → List (List Field)
  | [] => [row]
  | (f, true) :: rest => (row ++ [f]) :: rowsFrom [] rest
  | (f, false) :: rest => rowsFrom (row ++ [f]) rest

/-- The fields of each line. After a newline at the end there is a line without fields. -/
def rows (layout : List (Field × Bool)) : List (List Field) :=
  rowsFrom [] layout

/-- The text of a line. -/
def rowText (row : List Field) : List Char :=
  row.flatMap Field.text

/-- The symbology of a line: that of the first command in the table that one of its fields has. -/
def rowSymbology? (row : List Field) : Option Symbology :=
  (barcodeCommands.find? fun entry => row.any fun f => f.mark == entry.1).map (·.2)

/-- What is read from a line: the first field, with the symbology of the line. -/
def rowDirectives : List Field → List Directive
  | [] => []
  | f :: others =>
    [{ f.directive with symbology := (rowSymbology? (f :: others)).getD f.symbology }]

/-! ### Searches pass over text without a caret -/

section Passing

variable {s : List Char} (hs : '^' ∉ s) (rest : List Char)

include hs

theorem occursIn_append_of_notMem (p : List Char) :
    occursIn ('^' :: p) (s ++ rest) = occursIn ('^' :: p) rest := by
  induction s with
  | nil => rfl
  | cons c cs ih =>
    rw [List.mem_cons, not_or] at hs
    have hpre : ('^' :: p).isPrefixOf (c :: (cs ++ rest)) = false := by
      simp [List.isPrefixOf, hs.1]
    rw [List.cons_append, occursIn, hpre, Bool.false_or, ih hs.2]

theorem fieldData?_append_of_notMem : fieldData? (s ++ rest) = fieldData? rest := by
  induction s with
  | nil => rfl
  | cons c cs ih =>
    rw [List.mem_cons, not_or] at hs
    have hhere : fieldHere (c :: (cs ++ rest)) = none := by
      simp [fieldHere, dataMark, List.isPrefixOf, hs.1]
    rw [List.cons_append, fieldData?_cons, hhere, Option.none_or, ih hs.2]

end Passing

theorem notMem_of_isDigitRun {xs : List Char} (h : IsDigitRun xs) {c : Char}
    (hc : isDecimalDigit c = false) : c ∉ xs := by
  intro hmem
  rw [h.2 c hmem] at hc
  cases hc

/-! ### Searches in a field -/

namespace Field

variable (f : Field) (rest : List Char)

/-- What follows the position of a field. -/
def tail : List Char := f.mark ++ (dataMark ++ (f.data ++ (separatorMark ++ rest)))

theorem text_append :
    f.text ++ rest = originMark ++ (f.x ++ ([','] ++ (f.y ++ f.tail rest))) := by
  simp [text, tail]

theorem exists_mark : ∃ b : Char, b ≠ '^' ∧ f.mark = ['^', 'B', b] :=
  barcodeCommands_shape _ f.command_mem

theorem x_caret : '^' ∉ f.x := notMem_of_isDigitRun f.x_digits (by decide)

theorem y_caret : '^' ∉ f.y := notMem_of_isDigitRun f.y_digits (by decide)

/-- A barcode command occurs in a field if it is the one of the field. -/
theorem occursIn_text {entry : List Char × Symbology} (h : entry ∈ barcodeCommands) :
    occursIn entry.1 (f.text ++ rest) = (f.mark == entry.1 || occursIn entry.1 rest) := by
  obtain ⟨a, -, hmark⟩ := f.exists_mark
  obtain ⟨b, -, hentry⟩ := barcodeCommands_shape entry h
  have htail : occursIn ['^', 'B', b] (f.tail rest) =
      (a == b || occursIn ['^', 'B', b] (f.data ++ (separatorMark ++ rest))) := by
    simp [tail, hmark, dataMark, occursIn, List.isPrefixOf, BEq.comm (a := b)]
  have hrest : occursIn ['^', 'B', b] (separatorMark ++ rest) = occursIn ['^', 'B', b] rest := by
    simp [separatorMark, occursIn, List.isPrefixOf]
  have horigin : ∀ t, occursIn ['^', 'B', b] (originMark ++ t) = occursIn ['^', 'B', b] t := by
    simp [originMark, occursIn, List.isPrefixOf]
  have hequal : (f.mark == entry.1) = (a == b) := by simp [hmark, hentry]
  rw [hequal, hentry, text_append, horigin, occursIn_append_of_notMem f.x_caret,
    occursIn_append_of_notMem (by decide), occursIn_append_of_notMem f.y_caret, htail,
    occursIn_append_of_notMem f.data_caret, hrest]

theorem fieldOrigin?_text :
    fieldOrigin? (f.text ++ rest) = some (coordinate f.x, coordinate f.y) := by
  obtain ⟨a, -, hmark⟩ := f.exists_mark
  have hcoordinates : CoordinatesAt (f.x ++ ',' :: (f.y ++ f.tail rest))
      (coordinate f.x, coordinate f.y) := by
    refine ⟨f.x, f.y, f.tail rest, rfl, f.x_digits, f.y_digits, ?_, rfl⟩
    simp [tail, hmark, show isDecimalDigit '^' = false by decide]
  have hhere : originHere (originMark ++ (f.x ++ ([','] ++ (f.y ++ f.tail rest)))) =
      some (coordinate f.x, coordinate f.y) :=
    originHere_eq_some_iff.mpr ⟨_, rfl, hcoordinates⟩
  rw [text_append]
  rw [originMark] at hhere ⊢
  rw [List.cons_append, fieldOrigin?_cons, ← List.cons_append, hhere, Option.some_or]

theorem lineData?_text : State.lineData? (f.text ++ rest) = some (String.ofList f.data) := by
  obtain ⟨a, -, hmark⟩ := f.exists_mark
  have hopen : ¬ separatorMark <:+: f.data :=
    not_isInfix_of_notMem f.data_caret (by simp [separatorMark])
  have htail : fieldData? (f.tail rest) = some f.data := by
    have htext := fieldText?_append_separator f.data_newline hopen rest
    simp [tail, hmark, fieldData?, dataMark, htext]
  have horigin : ∀ t, fieldData? (originMark ++ t) = fieldData? t := by
    simp [originMark, fieldData?, dataMark]
  have hdata : fieldData? (f.text ++ rest) = some f.data := by
    rw [text_append, horigin, fieldData?_append_of_notMem f.x_caret,
      fieldData?_append_of_notMem (by decide), fieldData?_append_of_notMem f.y_caret, htail]
  obtain ⟨c, cs, hcs⟩ := List.exists_cons_of_ne_nil f.data_ne_nil
  rw [State.lineData?, hdata, hcs]

theorem newline_notMem_text : '\n' ∉ f.text := by
  obtain ⟨b, -, hmark⟩ := f.exists_mark
  have hb : b ≠ '\n' := by
    rintro rfl
    have hcommand := f.command_mem
    simp [hmark, barcodeCommands] at hcommand
  have hx : '\n' ∉ f.x := notMem_of_isDigitRun f.x_digits (by decide)
  have hy : '\n' ∉ f.y := notMem_of_isDigitRun f.y_digits (by decide)
  simp [text, originMark, dataMark, separatorMark, hmark, hx, hy, hb.symm, f.data_newline]

end Field

/-! ### Searches in a row -/

theorem barcodeCommand?_rowText (row : List Field) :
    barcodeCommand? (rowText row) = rowSymbology? row := by
  have hoccurs : ∀ entry ∈ barcodeCommands,
      occursIn entry.1 (rowText row) = row.any fun f => f.mark == entry.1 := by
    intro entry hentry
    induction row with
    | nil =>
      obtain ⟨b, -, hmark⟩ := barcodeCommands_shape entry hentry
      simp [rowText, hmark, occursIn]
    | cons f others ih =>
      rw [rowText, List.flatMap_cons, f.occursIn_text _ hentry, List.any_cons, ← ih]
      rfl
  rw [barcodeCommand?, rowSymbology?, List.find?_congr hoccurs]

/-- The field at the front of a row has a command, so the row has a symbology. -/
theorem isSome_rowSymbology? (f : Field) (others : List Field) :
    (rowSymbology? (f :: others)).isSome = true := by
  rw [rowSymbology?, Option.isSome_map, List.find?_isSome]
  exact ⟨_, f.command_mem, by simp⟩

/-- A field that has its line to itself keeps its symbology, since no command is listed twice. -/
theorem rowSymbology?_singleton (f : Field) : rowSymbology? [f] = some f.symbology := by
  have htable : ∀ e ∈ barcodeCommands,
      (barcodeCommands.find? fun entry => e.1 == entry.1).map (·.2) = some e.2 := by decide
  have hfound := htable _ f.command_mem
  simpa only [rowSymbology?, List.any_cons, List.any_nil, Bool.or_false] using hfound

theorem rowDirectives_singleton (f : Field) : rowDirectives [f] = [f.directive] := by
  rw [rowDirectives, rowSymbology?_singleton]
  rfl

theorem documentLines_rowText {row : List Field} (h : row ≠ []) :
    documentLines (rowText row) = [rowText row] := by
  have hnewline : '\n' ∉ rowText row := by
    rw [rowText, List.mem_flatMap]
    rintro ⟨f, -, hf⟩
    exact f.newline_notMem_text hf
  obtain ⟨f, others, rfl⟩ := List.exists_cons_of_ne_nil h
  obtain ⟨before, last, hrow⟩ := List.eq_nil_or_concat' (f :: others) |>.resolve_left h
  have hhead : (rowText (f :: others)).head? = some '^' := by
    simp [rowText, Field.text, originMark]
  have hlast : (rowText (f :: others)).getLast? = some 'S' := by
    simp [hrow, rowText, Field.text, separatorMark, List.getLast?_append, List.getLast?_cons]
  refine documentLines_of_line ?_ hnewline ?_ ?_
  · intro hnil
    rw [hnil] at hhead
    cases hhead
  · rw [hhead]
    rintro c ⟨⟩
    decide
  · rw [hlast]
    rintro c ⟨⟩
    decide

theorem documentLines_layoutText (row : List Field) (layout : List (Field × Bool)) :
    documentLines (rowText row ++ layoutText layout) =
      (rowsFrom row layout).flatMap fun row => documentLines (rowText row) := by
  have hconcat : ∀ row : List Field, ∀ f t, rowText row ++ (f.text ++ t) =
      rowText (row ++ [f]) ++ t := by
    simp [rowText]
  induction layout generalizing row with
  | nil => simp [layoutText, rowsFrom]
  | cons p rest ih =>
    obtain ⟨f, newline⟩ := p
    cases newline with
    | true =>
      have hrest : documentLines (layoutText rest) = _ := ih []
      have hsplit : layoutText ((f, true) :: rest) = f.text ++ '\n' :: layoutText rest := by
        simp [layoutText]
      rw [hsplit, hconcat, documentLines_append_newline, hrest, rowsFrom, List.flatMap_cons]
    | false =>
      have hsplit : layoutText ((f, false) :: rest) = f.text ++ layoutText rest := by
        simp [layoutText]
      rw [hsplit, hconcat, ih, rowsFrom]

/-! ### Reading rows -/

namespace State

/-- **What a row does to an idle state:** one directive is read, from its first field and with the
symbology of the row, and the state is idle again. -/
theorem run_row {s : State} (hs : s.Idle) (row : List Field) :
    (s.run (documentLines (rowText row))).1.Idle ∧
      (s.run (documentLines (rowText row))).2 = rowDirectives row := by
  cases row with
  | nil => exact ⟨hs, rfl⟩
  | cons f others =>
    obtain ⟨t, ht⟩ := Option.isSome_iff_exists.mp (isSome_rowSymbology? f others)
    have htype : (s.beforeData (rowText (f :: others))).pendingType = some t := by
      rw [beforeData_pendingType, barcodeCommand?_rowText, ht, Option.some_or]
    have hdata : lineData? (rowText (f :: others)) = some (String.ofList f.data) := by
      rw [rowText, List.flatMap_cons, f.lineData?_text]
    have horigin : fieldOrigin? (rowText (f :: others)) =
        some (coordinate f.x, coordinate f.y) := by
      rw [rowText, List.flatMap_cons, f.fieldOrigin?_text]
    rw [documentLines_rowText (List.cons_ne_nil f others), run_cons,
      step_eq_emitted hdata htype, rowDirectives, ht]
    refine ⟨⟨rfl, rfl⟩, ?_⟩
    rw [beforeData_eq, horigin]
    rfl

/-- Rows are read one by one. The induction is on the rows, over all idle states. -/
theorem run_rows {s : State} (hs : s.Idle) (rows : List (List Field)) :
    (s.run (rows.flatMap fun row => documentLines (rowText row))).2 =
      rows.flatMap rowDirectives := by
  induction rows generalizing s with
  | nil => rfl
  | cons row rest ih =>
    obtain ⟨hidle, hread⟩ := run_row hs row
    rw [List.flatMap_cons, run_append, hread, ih hidle, List.flatMap_cons]

end State

/-- **The directives of a layout are those of its rows.** -/
theorem directives_layoutText (layout : List (Field × Bool)) :
    directives (String.ofList (layoutText layout)) = (rows layout).flatMap rowDirectives := by
  have hlines : documentLines (layoutText layout) = _ := documentLines_layoutText [] layout
  rw [directives, readDocument, String.toList_ofList, hlines, State.run_rows State.idle_initial,
    rows]

/-! ### Directives of rows and of fields -/

theorem length_rowDirectives_le (row : List Field) : (rowDirectives row).length ≤ 1 := by
  cases row <;> simp [rowDirectives]

/-- No more directives are read than there are fields, not counting the fields of a row that is
continued. -/
theorem length_rowsFrom_le (row : List Field) {layout : List (Field × Bool)}
    (h : row = [] ∨ layout ≠ []) :
    ((rowsFrom row layout).flatMap rowDirectives).length ≤ layout.length := by
  induction layout generalizing row with
  | nil =>
    obtain rfl := h.resolve_right fun hne => hne rfl
    exact Nat.le_refl 0
  | cons p rest ih =>
    obtain ⟨f, newline⟩ := p
    cases newline with
    | true =>
      have hrow := length_rowDirectives_le (row ++ [f])
      have hrest := ih [] (Or.inl rfl)
      rw [rowsFrom, List.flatMap_cons, List.length_append, List.length_cons]
      omega
    | false =>
      rw [rowsFrom, List.length_cons]
      by_cases hnil : rest = []
      · subst hnil
        simpa [rowsFrom] using length_rowDirectives_le (row ++ [f])
      · exact Nat.le_succ_of_le (ih (row ++ [f]) (Or.inr hnil))

/-- Directives for all fields are read only if the fields do not share lines. -/
theorem newlines_of_length {layout : List (Field × Bool)}
    (h : ((rows layout).flatMap rowDirectives).length = layout.length) :
    ∀ p ∈ layout.dropLast, p.2 = true := by
  induction layout with
  | nil => simp
  | cons p rest ih =>
    by_cases hnil : rest = []
    · subst hnil
      simp
    obtain ⟨f, newline⟩ := p
    cases newline with
    | true =>
      rw [rows, rowsFrom, List.flatMap_cons, List.nil_append, rowDirectives_singleton,
        List.length_append, List.length_cons, List.length_nil, List.length_cons, Nat.zero_add,
        Nat.add_comm, Nat.add_right_cancel_iff] at h
      rw [List.dropLast_cons_of_ne_nil hnil, List.forall_mem_cons]
      exact ⟨rfl, ih h⟩
    | false =>
      have hle := length_rowsFrom_le [f] (Or.inr hnil)
      rw [rows, rowsFrom, List.nil_append, List.length_cons] at h
      omega

/-- With every field on a line of its own the directives are those of the fields. -/
theorem rowDirectives_of_newlines {layout : List (Field × Bool)}
    (h : ∀ p ∈ layout.dropLast, p.2 = true) :
    (rows layout).flatMap rowDirectives = layout.map fun p => p.1.directive := by
  induction layout with
  | nil => rfl
  | cons p rest ih =>
    obtain ⟨f, newline⟩ := p
    by_cases hnil : rest = []
    · subst hnil
      have hsingle : rowDirectives ([] ++ [f]) = [f.directive] := rowDirectives_singleton f
      cases newline with
      | true => rw [rows, rowsFrom, List.flatMap_cons, hsingle]; rfl
      | false => rw [rows, rowsFrom, rowsFrom, List.flatMap_singleton, hsingle]; rfl
    · rw [List.dropLast_cons_of_ne_nil hnil, List.forall_mem_cons] at h
      obtain ⟨rfl : newline = true, hrest⟩ := h
      rw [rows, rowsFrom, List.flatMap_cons, List.nil_append, rowDirectives_singleton,
        List.map_cons, ← ih hrest]
      rfl

/-- **What is read from a layout.** The directives of fields, with or without newlines between them,
are those of the rows that the newlines make, in order: each has the data and the position of the
first field of its row, and the symbology of the first command in the table that a field of the row
has. They are one for each field, with the symbology, the data and the position of that field, iff a
newline follows every field but the last. -/
theorem directives_layout (layout : List (Field × Bool)) :
    directives (String.ofList (layoutText layout)) = (rows layout).flatMap rowDirectives ∧
      (directives (String.ofList (layoutText layout)) = (layout.map fun p => p.1.directive) ↔
        ∀ p ∈ layout.dropLast, p.2 = true) := by
  refine ⟨directives_layoutText layout, ?_⟩
  rw [directives_layoutText]
  constructor
  · intro h
    refine newlines_of_length ?_
    rw [h, List.length_map]
  · exact rowDirectives_of_newlines

/-- **A field is lost to its neighbour:** of two fields for Code 128 on one line only the first is
read. -/
theorem directives_layout_shared :
    ∃ first second : Field,
      layoutText [(first, false), (second, false)] =
        "^FO1,2^BC^FDa^FS^FO3,4^BC^FDb^FS".toList ∧
      [first.directive, second.directive] =
        [{ symbology := .code128, data := "a", x := 1, y := 2 },
         { symbology := .code128, data := "b", x := 3, y := 4 }] ∧
      directives "^FO1,2^BC^FDa^FS^FO3,4^BC^FDb^FS" = [first.directive] := by
  have hdigit : ∀ c : Char, isDecimalDigit c = true → IsDigitRun [c] := fun c hc =>
    ⟨List.cons_ne_nil c [], by simpa using hc⟩
  refine ⟨⟨['1'], ['2'], ['^', 'B', 'C'], .code128, ['a'], hdigit _ (by decide),
      hdigit _ (by decide), by decide, by decide, by decide, by decide⟩,
    ⟨['3'], ['4'], ['^', 'B', 'C'], .code128, ['b'], hdigit _ (by decide),
      hdigit _ (by decide), by decide, by decide, by decide, by decide⟩, rfl, rfl, rfl⟩

end LabelPress.Zpl
