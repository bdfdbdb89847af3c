import LabelPress.Proofs.Scanning
import LabelPress.Zpl.State
import Mathlib.Data.List.TakeWhile

/-!
# What a line says

A line of a label document is searched for a barcode command, for a field origin and for field data.
Each search is described here by a relation between the line and what is found, stated through
occurrences in the line alone, and the search is proved to decide that relation.

## Scope

The field data of a line is described for lines without a newline, which is what the lines of a
document are. There every field mark begins a field, so the first one decides. The field that a text
begins with is described for every text, since what holds without newlines follows from that.

## Main definitions

* `NamesSymbology` — a line contains a barcode command
* `firstLine`, `FieldOf` — a text up to its first newline, and the field that it begins with
* `HoldsField` — a line has field data that is not empty
* `OriginAt`, `PlacesOrigin` — a text begins with a field origin, a line contains one

## Main results

* `barcodeCommand?_eq_some_iff`, `lineData?_eq_some_iff`, `fieldOrigin?_eq_some_iff` — the searches
  decide these relations
* `fieldText?_eq_some_iff_fieldOf` — what is found after a field mark, newlines or not
-/

namespace LabelPress.Zpl

open LabelPress.Text

/-! ### Barcode commands -/

/-- `t` belongs to the first entry of the table of barcode commands that occurs in the line. -/
def NamesSymbology (line : List Char) (t : Symbology) : Prop :=
  ∃ earlier mark later, barcodeCommands = earlier ++ (mark, t) :: later ∧ mark <:+: line ∧
    ∀ e ∈ earlier, ¬ e.1 <:+: line

theorem barcodeCommand?_eq_some_iff {line : List Char} {t : Symbology} :
    barcodeCommand? line = some t ↔ NamesSymbology line t := by
  rw [barcodeCommand?, Option.map_eq_some_iff]
  constructor
  · rintro ⟨⟨mark, t⟩, hfind, rfl⟩
    obtain ⟨hmark, earlier, later, htable, hearlier⟩ := List.find?_eq_some_iff_append.mp hfind
    refine ⟨earlier, mark, later, htable, (occursIn_iff _ _).mp hmark, fun e he hocc => ?_⟩
    simpa [(occursIn_iff _ _).mpr hocc] using hearlier e he
  · rintro ⟨earlier, mark, later, htable, hmark, hearlier⟩
    refine ⟨(mark, t), List.find?_eq_some_iff_append.mpr ⟨(occursIn_iff _ _).mpr hmark, earlier,
      later, htable, fun e he => ?_⟩, rfl⟩
    have hno : ¬ occursIn e.1 line = true := fun hocc =>
      hearlier e he ((occursIn_iff _ _).mp hocc)
    simpa using hno

/-! ### Marks and the text around them -/

/-- A text is a mark followed by `rest`. -/
def Follows (mark s rest : List Char) : Prop := s = mark ++ rest

theorem follows_iff {mark s rest : List Char} :
    Follows mark s rest ↔ mark.isPrefixOf s = true ∧ rest = s.drop mark.length := by
  rw [Follows, List.isPrefixOf_iff_prefix]
  constructor
  · rintro rfl
    simp
  · rintro ⟨⟨t, rfl⟩, rfl⟩
    simp

/-- `field` reaches from the front of `s` to the first occurrence of a mark, or to the end of `s`
if the mark does not occur in it. -/
def UpTo (mark s field : List Char) : Prop :=
  (∃ rest, Leftmost (Follows mark) s field rest) ∨ (¬ mark <:+: s ∧ field = s)

theorem upTo_nil_iff {mark field : List Char} (hmark : mark ≠ []) :
    UpTo mark [] field ↔ field = [] := by
  have hno : ∀ rest, ¬ Follows mark [] rest := fun rest h =>
    hmark (List.append_eq_nil_iff.mp h.symm).1
  simp [UpTo, leftmost_nil_iff, hno, hmark]

theorem upTo_cons_iff {mark cs field : List Char} {c : Char} :
    UpTo mark (c :: cs) field ↔
      (mark <+: c :: cs ∧ field = []) ∨
        (¬ mark <+: c :: cs ∧ ∃ tail, field = c :: tail ∧ UpTo mark cs tail) := by
  simp only [UpTo, leftmost_cons_iff, List.infix_cons_iff]
  by_cases hpre : mark <+: c :: cs
  · obtain ⟨rest, hrest⟩ := hpre
    have hfollows : Follows mark (c :: cs) rest := hrest.symm
    constructor
    · rintro (⟨_, ⟨rfl, -⟩ | ⟨hnone, -⟩⟩ | ⟨hno, -⟩)
      · exact Or.inl ⟨⟨rest, hrest⟩, rfl⟩
      · exact absurd hfollows (hnone rest)
      · exact absurd (Or.inl ⟨rest, hrest⟩) hno
    · rintro (⟨-, rfl⟩ | ⟨hno, -⟩)
      · exact Or.inl ⟨rest, Or.inl ⟨rfl, hfollows⟩⟩
      · exact absurd ⟨rest, hrest⟩ hno
  · have hnone : ∀ rest, ¬ Follows mark (c :: cs) rest := fun rest h => hpre ⟨rest, h.symm⟩
    constructor
    · rintro (⟨rest, ⟨-, h⟩ | ⟨-, tail, rfl, h⟩⟩ | ⟨hno, rfl⟩)
      · exact absurd h (hnone rest)
      · exact Or.inr ⟨hpre, tail, rfl, Or.inl ⟨rest, h⟩⟩
      · exact Or.inr ⟨hpre, cs, rfl, Or.inr ⟨fun h => hno (Or.inr h), rfl⟩⟩
    · rintro (⟨h, -⟩ | ⟨-, tail, rfl, ⟨rest, h⟩ | ⟨hno, rfl⟩⟩)
      · exact absurd h hpre
      · exact Or.inl ⟨rest, Or.inr ⟨hnone, tail, rfl, h⟩⟩
      · exact Or.inr ⟨fun h => h.elim hpre hno, rfl⟩

/-- What reaches up to a mark is the beginning of the text. -/
theorem UpTo.isPrefix {mark s field : List Char} (h : UpTo mark s field) : field <+: s := by
  rcases h with ⟨rest, ⟨⟨r, hr, -⟩, -⟩⟩ | ⟨-, rfl⟩
  · exact ⟨r, hr.symm⟩
  · exact List.prefix_rfl

/-- What reaches up to a mark does not contain it. -/
theorem UpTo.not_isInfix {mark s field : List Char} (hmark : mark ≠ []) (h : UpTo mark s field) :
    ¬ mark <:+: field := by
  induction s generalizing field with
  | nil =>
    rw [(upTo_nil_iff hmark).mp h]
    simpa using hmark
  | cons c cs ih =>
    rcases upTo_cons_iff.mp h with ⟨-, rfl⟩ | ⟨hpre, tail, rfl, htail⟩
    · simpa using hmark
    · rw [List.infix_cons_iff, not_or]
      exact ⟨fun hp => hpre (hp.trans h.isPrefix), ih htail⟩

/-! ### Fields and newlines -/

/-- A text up to its first newline, or the whole of it if there is none. -/
def firstLine (s : List Char) : List Char := s.takeWhile (· ≠ '\n')

/-- `field` is the field that `body` begins with. -/
structure FieldOf (body field : List Char) : Prop where
  /-- It reaches up to the first separator before any newline, and up to the newline if there is
  none. -/
  text : UpTo separatorMark (firstLine body) field
  /-- There is such a separator, or the text ends where its first line does, or a newline is all
  that follows. -/
  ends : separatorMark <:+: firstLine body ∨ body = firstLine body ∨ body = firstLine body ++ ['\n']

theorem firstLine_newline (cs : List Char) : firstLine ('\n' :: cs) = [] := by
  simp [firstLine]

theorem firstLine_cons {c : Char} (h : c ≠ '\n') (cs : List Char) :
    firstLine (c :: cs) = c :: firstLine cs := by
  simp [firstLine, h]

theorem newline_notMem_firstLine (s : List Char) : '\n' ∉ firstLine s := by
  intro hmem
  have hall := List.all_eq_true.mp (List.all_takeWhile (l := s) (p := fun c => c ≠ '\n')) _ hmem
  simp at hall

/-- A mark has no newline in it, so it begins a text iff it begins its first line. -/
theorem isPrefix_firstLine_iff {mark s : List Char} (h : '\n' ∉ mark) :
    mark <+: firstLine s ↔ mark <+: s := by
  constructor
  · exact fun hmark => hmark.trans (List.takeWhile_prefix _)
  · rintro ⟨rest, rfl⟩
    have hmark : ∀ c ∈ mark, decide (c ≠ '\n') = true := by
      rintro c hc
      simpa using fun hnl : c = '\n' => h (hnl ▸ hc)
    rw [firstLine, List.takeWhile_append_of_pos hmark]
    exact List.prefix_append mark _

/-- At a newline there is a field iff nothing follows, and it is empty. -/
theorem fieldOf_newline_iff {cs field : List Char} :
    FieldOf ('\n' :: cs) field ↔ cs = [] ∧ field = [] := by
  have hmark : separatorMark ≠ [] := by simp [separatorMark]
  constructor
  · rintro ⟨htext, hends⟩
    rw [firstLine_newline] at htext hends
    have hcs : cs = [] := by simpa [hmark] using hends
    exact ⟨hcs, (upTo_nil_iff hmark).mp htext⟩
  · rintro ⟨rfl, rfl⟩
    refine ⟨?_, ?_⟩ <;> rw [firstLine_newline]
    · exact (upTo_nil_iff hmark).mpr rfl
    · exact Or.inr (Or.inr rfl)

/-- At any other character a field ends if a separator stands there, and goes on otherwise. -/
theorem fieldOf_cons_iff {c : Char} (hc : c ≠ '\n') {cs field : List Char} :
    FieldOf (c :: cs) field ↔
      (separatorMark <+: c :: cs ∧ field = []) ∨
        (¬ separatorMark <+: c :: cs ∧ ∃ tail, field = c :: tail ∧ FieldOf cs tail) := by
  have hpre : separatorMark <+: c :: firstLine cs ↔ separatorMark <+: c :: cs := by
    rw [← firstLine_cons hc, isPrefix_firstLine_iff (by decide)]
  constructor
  · rintro ⟨htext, hends⟩
    rw [firstLine_cons hc] at htext hends
    rw [upTo_cons_iff, hpre] at htext
    rcases htext with ⟨hsep, rfl⟩ | ⟨hsep, tail, rfl, htail⟩
    · exact Or.inl ⟨hsep, rfl⟩
    · rw [List.infix_cons_iff, hpre] at hends
      refine Or.inr ⟨hsep, tail, rfl, htail, ?_⟩
      simpa [hsep] using hends
  · rintro (⟨hsep, rfl⟩ | ⟨hsep, tail, rfl, ⟨htail, hends⟩⟩)
    · refine ⟨?_, Or.inl ?_⟩ <;> rw [firstLine_cons hc]
      · exact upTo_cons_iff.mpr (Or.inl ⟨hpre.mpr hsep, rfl⟩)
      · exact (hpre.mpr hsep).isInfix
    · refine ⟨?_, ?_⟩ <;> rw [firstLine_cons hc]
      · exact upTo_cons_iff.mpr (Or.inr ⟨fun h => hsep (hpre.mp h), tail, rfl, htail⟩)
      · rw [List.infix_cons_iff, List.cons_append, List.cons.injEq, List.cons.injEq]
        simpa [hpre, hsep] using hends

/-- **The field that a text begins with** is the one that is found there. -/
theorem fieldText?_eq_some_iff_fieldOf {body field : List Char} :
    fieldText? body = some field ↔ FieldOf body field := by
  induction body generalizing field with
  | nil =>
    have hmark : separatorMark ≠ [] := by simp [separatorMark]
    rw [fieldText?, Option.some.injEq]
    constructor
    · rintro rfl
      exact ⟨(upTo_nil_iff hmark).mpr rfl, Or.inr (Or.inl rfl)⟩
    · rintro ⟨htext, -⟩
      exact ((upTo_nil_iff hmark).mp htext).symm
  | cons c cs ih =>
    by_cases hc : c = '\n'
    · subst hc
      have hsep : ¬ separatorMark.isPrefixOf ('\n' :: cs) = true := by simp [separatorMark]
      rw [fieldOf_newline_iff, fieldText?, if_neg hsep, if_pos rfl]
      cases cs <;> simp [eq_comm]
    · rw [fieldOf_cons_iff hc, fieldText?, if_neg hc, ← List.isPrefixOf_iff_prefix]
      split
      next hsep => simp [hsep, eq_comm]
      next hsep =>
        simp only [Option.map_eq_some_iff, ih]
        simp [hsep, and_comm, eq_comm]

/-- Without a newline in the way a field always ends where it should. -/
theorem fieldOf_iff_of_notMem {body field : List Char} (h : '\n' ∉ body) :
    FieldOf body field ↔ UpTo separatorMark body field := by
  have hbody : firstLine body = body := by
    refine List.takeWhile_eq_self_iff.mpr fun c hc => ?_
    simpa using fun hnl : c = '\n' => h (hnl ▸ hc)
  constructor
  · rintro ⟨htext, -⟩
    rwa [hbody] at htext
  · intro htext
    exact ⟨by rwa [hbody], Or.inr (Or.inl hbody.symm)⟩

/-! ### Field data -/

/-- `field` is not empty and stands in the line between the first field mark and the next separator
after it, or the end of the line if there is none. -/
def HoldsField (line field : List Char) : Prop :=
  field ≠ [] ∧ ∃ before body, Leftmost (Follows dataMark) line before body ∧
    UpTo separatorMark body field

theorem fieldText?_eq_some_iff {body field : List Char} (h : '\n' ∉ body) :
    fieldText? body = some field ↔ UpTo separatorMark body field := by
  rw [fieldText?_eq_some_iff_fieldOf, fieldOf_iff_of_notMem h]

theorem exists_fieldText? {body : List Char} (h : '\n' ∉ body) :
    ∃ field, fieldText? body = some field := by
  induction body with
  | nil => exact ⟨[], rfl⟩
  | cons c cs ih =>
    have hc : c ≠ '\n' := fun hc => h (by simp [hc])
    obtain ⟨tail, htail⟩ := ih fun hcs => h (List.mem_cons_of_mem _ hcs)
    rw [fieldText?, if_neg hc, htail]
    split
    · exact ⟨[], rfl⟩
    · exact ⟨c :: tail, rfl⟩

/-- What the search for field data finds if a field mark stands at the front. -/
def fieldHere (s : List Char) : Option (List Char) :=
  if dataMark.isPrefixOf s then fieldText? (s.drop 3) else none

theorem fieldHere_eq_some_iff {s field : List Char} :
    fieldHere s = some field ↔ ∃ body, Follows dataMark s body ∧ fieldText? body = some field := by
  simp only [fieldHere, follows_iff]
  split <;> simp_all [dataMark]

theorem fieldData?_cons (c : Char) (cs : List Char) :
    fieldData? (c :: cs) = (fieldHere (c :: cs)).or (fieldData? cs) := by
  rw [fieldData?, fieldHere]
  split <;> simp_all

theorem fieldData?_eq_some_iff {line field : List Char} (h : '\n' ∉ line) :
    fieldData? line = some field ↔
      ∃ before body, Leftmost (Follows dataMark) line before body ∧
        UpTo separatorMark body field := by
  rw [search_eq_some_iff (M := fun s f => fieldHere s = some f) rfl fieldData?_cons
    (fun _ _ => Iff.rfl) (fun _ => by simp [fieldHere, dataMark])]
  have hbody : ∀ {before rest body : List Char}, line = before ++ rest →
      Follows dataMark rest body → '\n' ∉ body := by
    rintro before rest body rfl hrest hnl
    exact h (by simp [show rest = dataMark ++ body from hrest, hnl])
  constructor
  · rintro ⟨before, ⟨rest, hline, hhere⟩, hmin⟩
    obtain ⟨body, hrest, htext⟩ := fieldHere_eq_some_iff.mp hhere
    refine ⟨before, body, ⟨⟨rest, hline, hrest⟩, fun other rest' body' hl hf => ?_⟩,
      (fieldText?_eq_some_iff (hbody hline hrest)).mp htext⟩
    obtain ⟨field', hfield'⟩ := exists_fieldText? (hbody hl hf)
    exact hmin other rest' field' hl (fieldHere_eq_some_iff.mpr ⟨body', hf, hfield'⟩)
  · rintro ⟨before, body, ⟨⟨rest, hline, hrest⟩, hmin⟩, hup⟩
    refine ⟨before, ⟨rest, hline, fieldHere_eq_some_iff.mpr ⟨body, hrest,
      (fieldText?_eq_some_iff (hbody hline hrest)).mpr hup⟩⟩, fun other rest' field' hl hf => ?_⟩
    obtain ⟨body', hf', -⟩ := fieldHere_eq_some_iff.mp hf
    exact hmin other rest' body' hl hf'

/-- The data of a line is what the search for a field finds, if that is not empty. -/
theorem lineData?_eq_some_iff_fieldData? {line : List Char} {data : String} :
    State.lineData? line = some data ↔ data ≠ "" ∧ fieldData? line = some data.toList := by
  rw [State.lineData?]
  split
  next c cs hfield =>
    rw [hfield, Option.some.injEq, Option.some.injEq]
    constructor
    · rintro rfl
      simp [← String.toList_eq_nil_iff]
    · rintro ⟨-, hdata⟩
      rw [hdata, String.ofList_toList]
  next hno =>
    constructor
    · simp
    · rintro ⟨hne, hfield⟩
      obtain ⟨c, cs, hcs⟩ := List.exists_cons_of_ne_nil (l := data.toList) (by simpa using hne)
      exact absurd (hcs ▸ hfield) (hno c cs)

/-- The data of a line is its field, if that is not empty. -/
theorem lineData?_eq_some_iff {line : List Char} {data : String} (h : '\n' ∉ line) :
    State.lineData? line = some data ↔ HoldsField line data.toList := by
  rw [lineData?_eq_some_iff_fieldData?, fieldData?_eq_some_iff h, HoldsField]
  simp

/-! ### Field origins -/

/-- One or more decimal digits. -/
def IsDigitRun (xs : List Char) : Prop := xs ≠ [] ∧ ∀ c ∈ xs, isDecimalDigit c = true

/-- A text begins with two runs of digits separated by a comma, the second one as long as it can be,
and `p` is what they denote. -/
def CoordinatesAt (s : List Char) (p : Nat × Nat) : Prop :=
  ∃ xs ys rest, s = xs ++ ',' :: (ys ++ rest) ∧ IsDigitRun xs ∧ IsDigitRun ys ∧
    (∀ c ∈ rest.head?, isDecimalDigit c = false) ∧ p = (coordinate xs, coordinate ys)

/-- A text begins with a field origin, and `p` is what its coordinates denote. -/
def OriginAt (s : List Char) (p : Nat × Nat) : Prop :=
  ∃ body, Follows originMark s body ∧ CoordinatesAt body p

/-- `p` are the coordinates of the leftmost field origin of the line. -/
def PlacesOrigin (line : List Char) (p : Nat × Nat) : Prop :=
  ∃ before, Leftmost OriginAt line before p

theorem digitRun_append {xs rest : List Char} (hxs : ∀ c ∈ xs, isDecimalDigit c = true)
    (hrest : ∀ c ∈ rest.head?, isDecimalDigit c = false) : digitRun (xs ++ rest) = (xs, rest) := by
  rw [digitRun, List.takeWhile_append_of_pos hxs, List.dropWhile_append_of_pos hxs]
  cases rest with
  | nil => simp
  | cons c cs => simp [hrest c rfl]

/-- A text is its run of digits and the rest, which does not begin with one. -/
theorem digitRun_spec {s xs rest : List Char} (h : digitRun s = (xs, rest)) :
    s = xs ++ rest ∧ (∀ c ∈ xs, isDecimalDigit c = true) ∧
      ∀ c ∈ rest.head?, isDecimalDigit c = false := by
  obtain ⟨rfl, rfl⟩ := Prod.mk.inj h
  refine ⟨List.takeWhile_append_dropWhile.symm,
    fun c hc => List.all_eq_true.mp (List.all_takeWhile ..) c hc, fun c hc => ?_⟩
  have := List.head?_dropWhile_not isDecimalDigit s
  rw [hc] at this
  simpa using this

theorem comma_not_digit : isDecimalDigit ',' = false := by decide

theorem coordinates?_eq_some_iff {s : List Char} {p : Nat × Nat} :
    coordinates? s = some p ↔ CoordinatesAt s p := by
  constructor
  · intro h
    rw [coordinates?] at h
    split at h
    · simp at h
    next xs rest hxs hrun =>
      split at h
      · simp at h
      next ys after hys hrun' =>
        obtain ⟨rfl, hxs', -⟩ := digitRun_spec hrun
        obtain ⟨rfl, hys', hafter⟩ := digitRun_spec hrun'
        exact ⟨xs, ys, after, rfl, ⟨hxs, hxs'⟩, ⟨hys, hys'⟩, hafter, by simpa using h.symm⟩
    · simp at h
  · rintro ⟨xs, ys, rest, rfl, ⟨hxs, hxs'⟩, ⟨hys, hys'⟩, hrest, rfl⟩
    rw [coordinates?, digitRun_append hxs' (by simp [comma_not_digit])]
    obtain ⟨x, xs, rfl⟩ := List.exists_cons_of_ne_nil hxs
    obtain ⟨y, ys, rfl⟩ := List.exists_cons_of_ne_nil hys
    simp only [digitRun_append hys' hrest]

/-- What the search for a field origin finds if its mark stands at the front. -/
def originHere (s : List Char) : Option (Nat × Nat) :=
  if originMark.isPrefixOf s then coordinates? (s.drop 3) else none

theorem originHere_eq_some_iff {s : List Char} {p : Nat × Nat} :
    originHere s = some p ↔ OriginAt s p := by
  simp only [originHere, OriginAt, follows_iff, ← coordinates?_eq_some_iff]
  split <;> simp_all [originMark]

theorem fieldOrigin?_cons (c : Char) (cs : List Char) :
    fieldOrigin? (c :: cs) = (originHere (c :: cs)).or (fieldOrigin? cs) := by
  rw [fieldOrigin?, originHere]
  split <;> simp_all

theorem fieldOrigin?_eq_some_iff {line : List Char} {p : Nat × Nat} :
    fieldOrigin? line = some p ↔ PlacesOrigin line p :=
  search_eq_some_iff rfl fieldOrigin?_cons (fun _ _ => originHere_eq_some_iff)
    (fun p h => by simp [← originHere_eq_some_iff, originHere, originMark] at h) line p

end LabelPress.Zpl
