import LabelPress.Proofs.Scanning
import LabelPress.Zpl.Document
import Mathlib.Data.List.Forall2
import Mathlib.Data.List.TakeWhile

/-!
# The form of a document

Between the lines of a document there may be empty lines, carriage returns and any indentation, and
none of it is seen: the lines come out stripped, and only newlines divide them. Some blanks end a
line elsewhere, such as the line separator or the next-line character. Here they are stripped at the
ends of a line like any other blank, and inside a line they are text.

All of this goes line by line. The lines of a document are those of its lines taken alone, and a
line taken alone keeps what stands between its blanks.

## Main definitions

* `TidyLine` — a line as it comes out
* `Indented` — a line with more blanks around it
* `Rewritten` — a document in another form

## Main results

* `strip_append` — blanks around a text are not seen
* `documentLines_eq_flatMap` — a document line by line
* `filter_flatten_documentLines` — nothing but blanks is lost
* `documentLines_laws` — the lines of a document, and of the same document in another form
-/

namespace LabelPress.Text

/-! ### Stripping -/

section Stripping

variable {p : Char → Bool} {s front back : List Char}

theorem dropEnd_append (h : ∀ c ∈ back, p c = true) (s : List Char) :
    dropEnd p (s ++ back) = dropEnd p s := by
  have hback : ∀ c ∈ back.reverse, p c = true := fun c hc => h c (List.mem_reverse.mp hc)
  rw [dropEnd, List.reverse_append, List.dropWhile_append_of_pos hback, dropEnd]

/-- What is dropped at the ends of a text may as well be put there. -/
theorem stripBy_append (hfront : ∀ c ∈ front, p c = true) (hback : ∀ c ∈ back, p c = true)
    (s : List Char) : stripBy p (front ++ s ++ back) = stripBy p s := by
  have hnil : back.dropWhile p = [] := List.dropWhile_eq_nil_iff.mpr hback
  rw [List.append_assoc, stripBy, List.dropWhile_append_of_pos hfront, List.dropWhile_append,
    hnil, stripBy]
  split
  next hempty => rw [List.isEmpty_iff.mp hempty]
  next => exact dropEnd_append hback _

theorem head?_stripBy {c : Char} (h : c ∈ (stripBy p s).head?) : p c = false := by
  obtain ⟨rest, hrest⟩ := dropEnd_isPrefix p (s.dropWhile p)
  have hhead : (s.dropWhile p).head? = some c := by
    obtain ⟨tail, htail⟩ := List.head?_eq_some_iff.mp h
    rw [← hrest, show dropEnd p (s.dropWhile p) = c :: tail from htail]
    rfl
  have hnot := List.head?_dropWhile_not p s
  rw [hhead] at hnot
  simpa using hnot

theorem getLast?_stripBy {c : Char} (h : c ∈ (stripBy p s).getLast?) : p c = false := by
  rw [stripBy, dropEnd, List.getLast?_reverse] at h
  have hnot := List.head?_dropWhile_not p (s.dropWhile p).reverse
  rw [show _ = some c from h] at hnot
  simpa using hnot

/-- What is kept of a text wherever it stands is not lost by dropping at the front. -/
theorem filter_dropWhile (p : Char → Bool) (s : List Char) :
    (s.dropWhile p).filter (fun c => !p c) = s.filter fun c => !p c := by
  induction s with
  | nil => rfl
  | cons c cs ih =>
    by_cases hc : p c = true
    · simp [hc, ih]
    · simp [hc]

theorem filter_stripBy (p : Char → Bool) (s : List Char) :
    (stripBy p s).filter (fun c => !p c) = s.filter fun c => !p c := by
  rw [stripBy, dropEnd, List.filter_reverse, filter_dropWhile, ← List.filter_reverse,
    List.reverse_reverse, filter_dropWhile]

end Stripping

/-! ### Lines -/

/-- A text is its lines, joined by newlines. -/
theorem intercalate_lines (s : List Char) : ['\n'].intercalate (lines s) = s := by
  induction s with
  | nil => rfl
  | cons c cs ih =>
    obtain ⟨line, rest, hlines⟩ := List.exists_cons_of_ne_nil (lines_ne_nil cs)
    rw [hlines] at ih
    by_cases hc : c = '\n'
    · subst hc
      rw [lines_cons, if_pos rfl, hlines, List.intercalate_cons_cons, ih]
      rfl
    · rw [lines_cons, if_neg hc, hlines]
      cases rest with
      | nil => simpa using ih
      | cons next rest =>
        rw [List.intercalate_cons_cons] at ih ⊢
        simp [← ih]

theorem flatten_lines (s : List Char) : (lines s).flatten = s.filter (· ≠ '\n') := by
  induction s with
  | nil => rfl
  | cons c cs ih =>
    obtain ⟨line, rest, hlines⟩ := List.exists_cons_of_ne_nil (lines_ne_nil cs)
    by_cases hc : c = '\n'
    · simp [lines_cons, hc, ih]
    · rw [hlines] at ih
      rw [lines_cons, if_neg hc, hlines, List.filter_cons_of_pos (by simpa using hc), ← ih]
      rfl

end LabelPress.Text

namespace LabelPress.Zpl

open LabelPress.Text

/-- A line as it comes out of a document. -/
structure TidyLine (line : List Char) : Prop where
  /-- It is not empty. -/
  ne_nil : line ≠ []
  /-- It has no newline in it. -/
  newline : '\n' ∉ line
  /-- It does not begin with a blank. -/
  head : ∀ c ∈ line.head?, isBlank c = false
  /-- It does not end with a blank. -/
  last : ∀ c ∈ line.getLast?, isBlank c = false

/-- A line with blanks put in front of it and behind it. -/
def Indented (line wider : List Char) : Prop :=
  ∃ front back, (∀ c ∈ front ++ back, isBlank c = true ∧ c ≠ '\n') ∧ wider = front ++ line ++ back

/-- A document with a carriage return in front of every newline. -/
def withReturns (text : List Char) : List Char :=
  text.flatMap fun c => if c = '\n' then ['\r', '\n'] else [c]

/-- The other forms of a document. -/
inductive Rewritten (text : List Char) : List Char → Prop where
  /-- Nothing but its lines is left. -/
  | joined : Rewritten text (['\n'].intercalate (documentLines text))
  /-- Its lines end with a carriage return and a newline. -/
  | returns : Rewritten text (withReturns text)
  /-- Blanks are added at the ends of its lines, to each line its own. -/
  | indented {wider : List (List Char)} (h : List.Forall₂ Indented (lines text) wider) :
    Rewritten text (['\n'].intercalate wider)

/-! ### Line by line -/

theorem tidyLine_of_mem {text line : List Char} (h : line ∈ documentLines text) :
    TidyLine line := by
  obtain ⟨hne, hnewline⟩ := documentLines_spec h
  obtain ⟨piece, -, rfl⟩ := List.mem_map.mp (List.mem_filter.mp h).1
  exact ⟨hne, hnewline, fun c hc => head?_stripBy hc, fun c hc => getLast?_stripBy hc⟩

/-- The lines of a document are those of its lines taken alone. -/
theorem documentLines_eq_flatMap (text : List Char) :
    documentLines text = (lines text).flatMap documentLines := by
  rw [← documentLines_intercalate, intercalate_lines]

/-- A line taken alone is seen without the blanks around it. -/
theorem documentLines_of_indented {line wider : List Char} (hline : '\n' ∉ line)
    (h : Indented line wider) : documentLines wider = documentLines line := by
  obtain ⟨front, back, hblank, rfl⟩ := h
  have hfront : ∀ c ∈ front, isBlank c = true := fun c hc =>
    (hblank c (List.mem_append_left back hc)).1
  have hback : ∀ c ∈ back, isBlank c = true := fun c hc =>
    (hblank c (List.mem_append_right front hc)).1
  have hwider : '\n' ∉ front ++ line ++ back := by
    intro hmem
    rw [List.append_assoc, List.mem_append, List.mem_append] at hmem
    rcases hmem with hmem | hmem | hmem
    · exact (hblank _ (List.mem_append_left back hmem)).2 rfl
    · exact hline hmem
    · exact (hblank _ (List.mem_append_right front hmem)).2 rfl
  have hstrip : strip (front ++ line ++ back) = strip line := stripBy_append hfront hback line
  rw [documentLines, documentLines, lines_of_notMem hwider, lines_of_notMem hline,
    List.map_singleton, List.map_singleton, hstrip]

/-- **Nothing but blanks is lost,** and what is left comes in the order in which it was written. -/
theorem filter_flatten_documentLines (text : List Char) :
    ((documentLines text).flatten.filter fun c => !isBlank c) =
      text.filter fun c => !isBlank c := by
  have hline : ∀ line, (strip line).filter (fun c => !isBlank c) = line.filter fun c => !isBlank c :=
    filter_stripBy isBlank
  have hnewline : ∀ c, (!isBlank c && decide (c ≠ '\n')) = !isBlank c := by
    intro c
    by_cases hc : c = '\n'
    · subst hc
      decide
    · simp [hc]
  calc ((documentLines text).flatten.filter fun c => !isBlank c)
      = ((lines text).map strip).flatten.filter (fun c => !isBlank c) := by
        rw [documentLines, List.flatten_filter_not_isEmpty]
    _ = (lines text).flatten.filter (fun c => !isBlank c) := by
        rw [List.filter_flatten, List.map_map, List.filter_flatten]
        simp only [Function.comp_def, hline]
    _ = text.filter fun c => !isBlank c := by
        rw [flatten_lines, List.filter_filter]
        simp only [hnewline]

/-! ### Other forms -/

theorem withReturns_append (s t : List Char) : withReturns (s ++ t) = withReturns s ++ withReturns t :=
  List.flatMap_append

theorem withReturns_of_notMem {s : List Char} (h : '\n' ∉ s) : withReturns s = s := by
  induction s with
  | nil => rfl
  | cons c cs ih =>
    rw [List.mem_cons, not_or] at h
    have hcs := ih h.2
    rw [withReturns] at hcs ⊢
    rw [List.flatMap_cons, if_neg (Ne.symm h.1), hcs]
    rfl

/-- A carriage return at the end of a line is a blank like any other. The induction is on the lines
of the document. -/
theorem documentLines_withReturns {ls : List (List Char)} (h : ∀ line ∈ ls, '\n' ∉ line) :
    documentLines (withReturns (['\n'].intercalate ls)) = ls.flatMap documentLines := by
  induction ls with
  | nil => rfl
  | cons line rest ih =>
    have hline : '\n' ∉ line := h line List.mem_cons_self
    have hrest := ih fun l hl => h l (List.mem_cons_of_mem line hl)
    cases rest with
    | nil => simp [withReturns_of_notMem hline]
    | cons next rest =>
      have hsplit : withReturns (['\n'].intercalate (line :: next :: rest)) =
          (line ++ ['\r']) ++ '\n' :: withReturns (['\n'].intercalate (next :: rest)) := by
        rw [List.intercalate_cons_cons, withReturns_append, withReturns_append,
          withReturns_of_notMem hline]
        simp [withReturns]
      have hreturn : isBlank '\r' = true := by decide
      have hwider : Indented line (line ++ ['\r']) := ⟨[], ['\r'], by simp [hreturn], rfl⟩
      rw [hsplit, documentLines_append_newline, documentLines_of_indented hline hwider, hrest]
      rfl

theorem flatMap_documentLines_of_indented {ls wider : List (List Char)}
    (hls : ∀ line ∈ ls, '\n' ∉ line) (h : List.Forall₂ Indented ls wider) :
    wider.flatMap documentLines = ls.flatMap documentLines := by
  induction h with
  | nil => rfl
  | cons hindented _ ih =>
    have hline := documentLines_of_indented (hls _ List.mem_cons_self) hindented
    have hrest := ih fun l hl => hls l (List.mem_cons_of_mem _ hl)
    rw [List.flatMap_cons, List.flatMap_cons, hline, hrest]

/-- **A document in another form has the same lines.** -/
theorem documentLines_of_rewritten {text other : List Char} (h : Rewritten text other) :
    documentLines other = documentLines text := by
  cases h with
  | joined =>
    have hself : ∀ line ∈ documentLines text, documentLines line = [line] := by
      intro line hline
      have htidy := tidyLine_of_mem hline
      exact documentLines_of_line htidy.ne_nil htidy.newline htidy.head htidy.last
    rw [documentLines_intercalate, List.flatMap_congr hself, List.flatMap_singleton']
  | returns =>
    have hlines : ∀ line ∈ lines text, '\n' ∉ line := fun line => newline_notMem_of_mem_lines
    rw [← intercalate_lines text, documentLines_withReturns hlines, documentLines_intercalate]
  | indented hwider =>
    have hlines : ∀ line ∈ lines text, '\n' ∉ line := fun line => newline_notMem_of_mem_lines
    rw [documentLines_intercalate, documentLines_eq_flatMap text]
    exact flatMap_documentLines_of_indented hlines hwider

theorem directives_congr {a b : String} (h : documentLines a.toList = documentLines b.toList) :
    directives a = directives b := by
  rw [directives, readDocument, h]
  rfl

/-- **The lines of a document.** Documents joined by a newline have the lines of the first and then
those of the second. Every line is tidy, and the lines together hold every character of the document
that is not a blank, once and in order. A document whose lines are joined again, that has carriage
returns at the ends of its lines, or whose lines are indented in any way has the same lines, and the
same directives. -/
theorem documentLines_laws (a b : String) :
    documentLines (a ++ "\n" ++ b).toList = documentLines a.toList ++ documentLines b.toList ∧
      (∀ line ∈ documentLines a.toList, TidyLine line) ∧
      (((documentLines a.toList).flatten.filter fun c => !isBlank c) =
        a.toList.filter fun c => !isBlank c) ∧
      ∀ other, Rewritten a.toList other →
        documentLines other = documentLines a.toList ∧
          directives (String.ofList other) = directives a := by
  refine ⟨documentLines_append a b, fun line => tidyLine_of_mem,
    filter_flatten_documentLines a.toList, fun other hother => ?_⟩
  have hlines := documentLines_of_rewritten hother
  exact ⟨hlines, directives_congr (by rw [String.toList_ofList, hlines])⟩

/-- A line separator inside a line is text. At its end it is stripped, like an information separator
on a line of its own. -/
example : documentLines " a\u2028b\u2028\r\n\x1c\n\tc".toList = ["a\u2028b".toList, ['c']] := by
  decide

end LabelPress.Zpl
