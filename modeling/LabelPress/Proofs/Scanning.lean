import LabelPress.Zpl.Line
import Mathlib.Data.List.Infix

/-!
# What searches, lines and stripping find

The searches of this library walk a text once from the left. The statements here describe what such
a walk finds without the walk: as an infix, as the leftmost place where a pattern matches, or as the
pieces between newlines.

## Main definitions

* `Leftmost` — what a pattern finds at its leftmost match in a text

## Main results

* `occursIn_iff` — a text occurs in another iff it is an infix of it
* `search_eq_some_iff` — a walk that tries every place finds the leftmost match
* `lines_append_newline` — the lines of two texts joined by a newline
* `documentLines_append_newline`, `documentLines_spec` — the same for the lines of a document, and
  what every one of them satisfies
* `documentLines_intercalate` — the lines of several documents joined by newlines
-/

namespace LabelPress.Text

/-! ### Occurrences

A pattern is a relation `M`: `M rest a` says that a match begins at the front of `rest` and
yields `a`. -/

theorem occursIn_iff (p s : List Char) : occursIn p s = true ↔ p <:+: s := by
  induction s with
  | nil => simp [occursIn]
  | cons c cs ih =>
    rw [occursIn, Bool.or_eq_true, List.isPrefixOf_iff_prefix, ih, List.infix_cons_iff]

/-- `a` is what `M` yields at its leftmost match in `s`, and `before` is what precedes that
match. -/
def Leftmost {α : Type} (M : List Char → α → Prop) (s before : List Char) (a : α) : Prop :=
  (∃ rest, s = before ++ rest ∧ M rest a) ∧
    ∀ other rest b, s = other ++ rest → M rest b → before.length ≤ other.length

variable {α : Type} {M : List Char → α → Prop}

theorem leftmost_nil_iff {before : List Char} {a : α} :
    Leftmost M [] before a ↔ before = [] ∧ M [] a := by
  constructor
  · rintro ⟨⟨rest, hs, hM⟩, -⟩
    obtain ⟨rfl, rfl⟩ := List.append_eq_nil_iff.mp hs.symm
    exact ⟨rfl, hM⟩
  · rintro ⟨rfl, hM⟩
    exact ⟨⟨[], rfl, hM⟩, fun _ _ _ _ _ => Nat.zero_le _⟩

/-- **One step of a search.** The leftmost match stands at the front if there is one there, and is
the leftmost match of the rest otherwise. -/
theorem leftmost_cons_iff {c : Char} {cs before : List Char} {a : α} :
    Leftmost M (c :: cs) before a ↔
      (before = [] ∧ M (c :: cs) a) ∨
        ((∀ b, ¬ M (c :: cs) b) ∧ ∃ tail, before = c :: tail ∧ Leftmost M cs tail a) := by
  constructor
  · rintro ⟨⟨rest, hs, hM⟩, hmin⟩
    cases before with
    | nil => exact Or.inl ⟨rfl, by rwa [show c :: cs = rest from hs]⟩
    | cons d tail =>
      obtain ⟨rfl, rfl⟩ := List.cons_eq_cons.mp hs
      refine Or.inr ⟨fun b hb => ?_, tail, rfl, ⟨rest, rfl, hM⟩, fun other rest' b h hb => ?_⟩
      · have := hmin [] _ b rfl hb
        simp at this
      · have := hmin (c :: other) rest' b (by rw [h, List.cons_append]) hb
        simpa using this
  · rintro (⟨rfl, hM⟩ | ⟨hnone, tail, rfl, ⟨rest, rfl, hM⟩, hmin⟩)
    · exact ⟨⟨_, rfl, hM⟩, fun _ _ _ _ _ => Nat.zero_le _⟩
    · refine ⟨⟨rest, rfl, hM⟩, fun other rest' b h hb => ?_⟩
      cases other with
      | nil => exact absurd (show M (c :: (tail ++ rest)) b by rwa [h]) (hnone b)
      | cons d other =>
        obtain ⟨-, h⟩ := List.cons_eq_cons.mp h
        simpa using hmin other rest' b h hb

/-- **Trying every place from the left finds the leftmost match.** -/
theorem search_eq_some_iff {search here : List Char → Option α} (hnil : search [] = none)
    (hcons : ∀ c cs, search (c :: cs) = (here (c :: cs)).or (search cs))
    (hM : ∀ s a, here s = some a ↔ M s a) (hM_nil : ∀ a, ¬ M [] a) (s : List Char) (a : α) :
    search s = some a ↔ ∃ before, Leftmost M s before a := by
  induction s with
  | nil => simp [hnil, leftmost_nil_iff, hM_nil]
  | cons c cs ih =>
    rw [hcons]
    simp only [leftmost_cons_iff]
    cases hh : here (c :: cs) with
    | some b =>
      have hb : M (c :: cs) b := (hM _ _).mp hh
      have hba : M (c :: cs) a ↔ b = a := by rw [← hM, hh, Option.some.injEq]
      constructor
      · intro h
        exact ⟨[], Or.inl ⟨rfl, hba.mpr (by simpa using h)⟩⟩
      · rintro ⟨before, ⟨-, ha⟩ | ⟨hnone, -⟩⟩
        · simpa using hba.mp ha
        · exact absurd hb (hnone b)
    | none =>
      have hnone : ∀ b, ¬ M (c :: cs) b := fun b hb => by simp [(hM _ _).mpr hb] at hh
      rw [Option.none_or, ih]
      constructor
      · rintro ⟨tail, h⟩
        exact ⟨c :: tail, Or.inr ⟨hnone, tail, rfl, h⟩⟩
      · rintro ⟨before, ⟨-, ha⟩ | ⟨-, tail, -, h⟩⟩
        · exact absurd ha (hnone a)
        · exact ⟨tail, h⟩

/-! ### Lines -/

theorem lines_ne_nil (s : List Char) : lines s ≠ [] := by
  cases s with
  | nil => simp [lines_nil]
  | cons c cs =>
    rw [lines_cons]
    split
    · simp
    · split <;> simp

/-- Two texts joined by a newline have the lines of the first and then those of the second. -/
theorem lines_append_newline (a b : List Char) : lines (a ++ '\n' :: b) = lines a ++ lines b := by
  induction a with
  | nil => simp [lines_nil, lines_cons]
  | cons c cs ih =>
    by_cases hc : c = '\n'
    · simp [lines_cons, hc, ih]
    · cases h : lines cs with
      | nil => exact absurd h (lines_ne_nil cs)
      | cons line rest => simp [lines_cons, hc, ih, h]

theorem lines_of_notMem {s : List Char} (h : '\n' ∉ s) : lines s = [s] := by
  induction s with
  | nil => rfl
  | cons c cs ih =>
    have hc : c ≠ '\n' := fun hc => h (by simp [hc])
    simp [lines_cons, hc, ih fun hcs => h (List.mem_cons_of_mem _ hcs)]

theorem newline_notMem_of_mem_lines {s line : List Char} (h : line ∈ lines s) : '\n' ∉ line := by
  induction s generalizing line with
  | nil => simp_all [lines_nil]
  | cons c cs ih =>
    by_cases hc : c = '\n'
    · rw [lines_cons, if_pos hc, List.mem_cons] at h
      rcases h with rfl | h
      · simp
      · exact ih h
    · cases hl : lines cs with
      | nil => exact absurd hl (lines_ne_nil cs)
      | cons first rest =>
        simp only [lines_cons, if_neg hc, hl, List.mem_cons] at h
        rcases h with rfl | h
        · have hfirst : '\n' ∉ first := ih (by simp [hl])
          simp [hfirst, Ne.symm hc]
        · exact ih (by simp [hl, h])

/-! ### Stripping -/

theorem dropEnd_isPrefix (p : α → Bool) (s : List α) : dropEnd p s <+: s := by
  rw [dropEnd, ← List.reverse_suffix, List.reverse_reverse]
  exact List.dropWhile_suffix p

theorem stripBy_isInfix (p : α → Bool) (s : List α) : stripBy p s <:+: s :=
  (dropEnd_isPrefix p _).isInfix.trans (List.dropWhile_suffix p).isInfix

/-- A text is left as it is if neither end of it is to be dropped. -/
theorem stripBy_eq_self {p : Char → Bool} {s : List Char} (hhead : ∀ c ∈ s.head?, p c = false)
    (hlast : ∀ c ∈ s.getLast?, p c = false) : stripBy p s = s := by
  have hdrop : ∀ t : List Char, (∀ c ∈ t.head?, p c = false) → t.dropWhile p = t := by
    intro t ht
    cases t with
    | nil => rfl
    | cons c cs => rw [List.dropWhile_cons_of_neg (by simp [ht c rfl])]
  rw [stripBy, hdrop s hhead, dropEnd, hdrop, List.reverse_reverse]
  rwa [List.head?_reverse]

theorem strip_eq_self {s : List Char} (hhead : ∀ c ∈ s.head?, isBlank c = false)
    (hlast : ∀ c ∈ s.getLast?, isBlank c = false) : strip s = s :=
  stripBy_eq_self hhead hlast

end LabelPress.Text

namespace LabelPress.Zpl

open LabelPress.Text

/-! ### The lines of a document -/

/-- Two documents joined by a newline have the lines of the first and then those of the second. -/
theorem documentLines_append_newline (a b : List Char) :
    documentLines (a ++ '\n' :: b) = documentLines a ++ documentLines b := by
  rw [documentLines, lines_append_newline, List.map_append, List.filter_append]
  rfl

theorem documentLines_append (a b : String) :
    documentLines (a ++ "\n" ++ b).toList = documentLines a.toList ++ documentLines b.toList := by
  have hjoined : (a ++ "\n" ++ b).toList = a.toList ++ '\n' :: b.toList := by simp
  rw [hjoined, documentLines_append_newline]

/-- No line of a document is empty, and none contains a newline. -/
theorem documentLines_spec {text line : List Char} (h : line ∈ documentLines text) :
    line ≠ [] ∧ '\n' ∉ line := by
  obtain ⟨hmem, hne⟩ := List.mem_filter.mp h
  obtain ⟨piece, hpiece, rfl⟩ := List.mem_map.mp hmem
  refine ⟨by simpa using hne, fun hnl => ?_⟩
  exact newline_notMem_of_mem_lines hpiece ((stripBy_isInfix isBlank piece).subset hnl)

/-- A text that could be a line of a document is the only line of itself. -/
theorem documentLines_of_line {s : List Char} (hne : s ≠ []) (hline : '\n' ∉ s)
    (hhead : ∀ c ∈ s.head?, isBlank c = false) (hlast : ∀ c ∈ s.getLast?, isBlank c = false) :
    documentLines s = [s] := by
  rw [documentLines, lines_of_notMem hline, List.map_singleton, strip_eq_self hhead hlast]
  simp [hne]

/-- The lines of texts joined by newlines are those of the texts. -/
theorem documentLines_intercalate (texts : List (List Char)) :
    documentLines (['\n'].intercalate texts) = texts.flatMap documentLines := by
  induction texts with
  | nil => rfl
  | cons text rest ih =>
    cases rest with
    | nil => simp
    | cons next rest =>
      rw [List.intercalate_cons_cons, List.append_assoc, List.singleton_append,
        documentLines_append_newline, ih]
      rfl

end LabelPress.Zpl
