import LabelPress.Proofs.DocumentForm
import LabelPress.Symbology
import Mathlib.Data.Bool.AllAny

/-!
# How the name of a symbology may be written

A name is read in any case and with blanks around it. The reader strips the text, takes it to upper
case and compares; this module says which texts come out as a name. Upper case is that of all of
Unicode, where letters outside ASCII may become letters of ASCII and one letter may become several.
For the ten names it comes to little: the dotless i may stand for the letter I, and that is all.

Two facts about the table of upper case are behind this, and both are settled by going through it.
No run of letters but the small ones of ASCII and the dotless i leads to a letter or digit of a
name. And what a letter becomes, if it becomes several, is not a part of any name.

## Main definitions

* `Spells` — what may be written for a letter or digit of a name
* `Spelled` — the texts that are read as a name

## Main results

* `upperCase_eq_iff` — which texts have a name, or the end of one, for their upper case
* `parse?_spelled` — which texts are read as a symbology
-/

namespace LabelPress

open LabelPress.Text

namespace Text

theorem exists_strip (s : List Char) :
    ∃ front back, s = front ++ strip s ++ back ∧ ∀ c ∈ front ++ back, isBlank c = true := by
  refine ⟨s.takeWhile isBlank, ((s.dropWhile isBlank).reverse.takeWhile isBlank).reverse, ?_, ?_⟩
  · have hback := congrArg List.reverse
      (List.takeWhile_append_dropWhile (p := isBlank) (l := (s.dropWhile isBlank).reverse))
    rw [List.reverse_append, List.reverse_reverse] at hback
    rw [List.append_assoc, strip, stripBy, dropEnd, hback, List.takeWhile_append_dropWhile]
  · intro c hc
    rw [List.mem_append, List.mem_reverse] at hc
    rcases hc with hc | hc <;> exact List.mem_takeWhile_imp hc

/-- Upper case goes by a run of letters or by the list of expansions, and leaves all else. -/
theorem upperCodes_cases (n : Nat) :
    (∃ r ∈ caseRuns, r.covers n = true ∧ upperCodes n = [((n : Int) + r.shift).toNat]) ∨
      (∃ e ∈ expansions, upperCodes n = e.2) ∨ upperCodes n = [n] := by
  rw [upperCodes]
  cases hrun : caseRuns.find? (·.covers n) with
  | some r =>
    have hcovers : r.covers n = true := List.find?_some (p := fun r : CaseRun => r.covers n) hrun
    exact .inl ⟨r, List.mem_of_find?_eq_some hrun, hcovers, rfl⟩
  | none =>
    cases hlookup : expansions.lookup n with
    | none => exact .inr (.inr rfl)
    | some codes =>
      obtain ⟨front, back, hsplit, -⟩ := List.lookup_eq_some_iff.mp hlookup
      exact .inr (.inl ⟨(n, codes), by simp [hsplit], rfl⟩)

/-- Only the null character may stand for a number that is no code point. -/
theorem eq_toNat_ofNat {n : Nat} (h : 0 < (Char.ofNat n).toNat) : n = (Char.ofNat n).toNat := by
  by_cases hvalid : n.isValidChar
  · have hcode : Char.ofNat n = Char.ofNatAux n hvalid := dif_pos hvalid
    rw [hcode]
    rfl
  · have hnull : Char.ofNat n = '\x00' := dif_neg hvalid
    rw [hnull] at h
    cases h

end Text

namespace Symbology

/-! ### Letters -/

/-- What may be written for a letter or digit of a name: the character itself, the small letter, and
for the letter I the dotless i. -/
def Spells (c n : Char) : Prop :=
  c = n ∨ c = n.toLower ∨ (n = 'I' ∧ c = 'ı')

instance (c n : Char) : Decidable (Spells c n) :=
  inferInstanceAs (Decidable (c = n ∨ c = n.toLower ∨ (n = 'I' ∧ c = 'ı')))

/-- The letters and digits of names. -/
def nameCharacters : List Char :=
  "ACDEFIMNOPQRTUX1234789".toList

variable {y : Symbology} {c n : Char} {s t : List Char}

theorem mem_nameCharacters (h : n ∈ y.name.toList) : n ∈ nameCharacters := by
  have htable : ∀ y ∈ all, y.name.toList.all (· ∈ nameCharacters) = true := by decide
  exact List.all_iff_forall_prop.mp (htable y y.mem_all) n h

/-- **No run of letters leads to a name** but from its own letters and the dotless i. -/
theorem spells_of_covers {r : CaseRun} (hr : r ∈ caseRuns) (hn : n ∈ nameCharacters)
    (h : r.covers c.toNat = true) (hupper : (c.toNat : Int) + r.shift = n.toNat) : Spells c n := by
  have htable : ∀ n ∈ nameCharacters, ∀ r ∈ caseRuns,
      r.covers ((n.toNat : Int) - r.shift).toNat = true →
        Spells (Char.ofNat ((n.toNat : Int) - r.shift).toNat) n :=
    List.all_iff_forall_prop.mp (by decide +kernel)
  have hcode : ((n.toNat : Int) - r.shift).toNat = c.toNat := by omega
  have hspells := htable n hn r hr
  rw [hcode, Char.ofNat_toNat] at hspells
  exact hspells h

/-- **No expansion is a part of a name.** -/
theorem expansion_not_isInfix {e : Nat × List Nat} (he : e ∈ expansions) (y : Symbology) :
    ¬ e.2.map Char.ofNat <:+: y.name.toList := by
  have htable : ∀ e ∈ expansions, ∀ y ∈ all, ¬ e.2.map Char.ofNat <:+: y.name.toList := by
    decide +kernel
  exact htable e he y y.mem_all

/-- What may be written for a character of a name has that character for its upper case, and is no
blank. -/
theorem upperCaseChar_of_spells (hn : n ∈ nameCharacters) (h : Spells c n) :
    upperCaseChar c = [n] ∧ isBlank c = false := by
  have hself : ∀ n ∈ nameCharacters, upperCaseChar n = [n] ∧ isBlank n = false :=
    List.all_iff_forall_prop.mp (by decide +kernel)
  have hsmall : ∀ n ∈ nameCharacters, upperCaseChar n.toLower = [n] ∧ isBlank n.toLower = false :=
    List.all_iff_forall_prop.mp (by decide +kernel)
  rcases h with rfl | rfl | ⟨rfl, rfl⟩
  · exact hself c hn
  · exact hsmall n hn
  · decide +kernel

/-- **A character whose upper case begins the end of a name** may be written for the first character
of that end. -/
theorem spells_of_isPrefix (ht : t <:+ y.name.toList) (h : upperCaseChar c <+: t) :
    ∃ n, upperCaseChar c = [n] ∧ Spells c n := by
  have hname : ∀ {n}, upperCaseChar c = [n] → n ∈ nameCharacters := by
    intro n hupper
    rw [hupper] at h
    exact mem_nameCharacters (ht.subset (h.subset (List.mem_singleton_self n)))
  have hpos : ∀ n ∈ nameCharacters, 0 < n.toNat := List.all_iff_forall_prop.mp (by decide)
  rcases upperCodes_cases c.toNat with ⟨r, hr, hcovers, hupper⟩ | ⟨e, he, hupper⟩ | hupper <;>
    rw [upperCaseChar, hupper] at hname ⊢
  · have hn := hname rfl
    refine ⟨_, rfl, spells_of_covers hr hn hcovers ?_⟩
    have hcode := eq_toNat_ofNat (hpos _ hn)
    have := hpos _ hn
    omega
  · rw [upperCaseChar, hupper] at h
    exact absurd (h.isInfix.trans ht.isInfix) (expansion_not_isInfix he y)
  · exact ⟨c, by rw [List.map_singleton, Char.ofNat_toNat], .inl rfl⟩

/-! ### Names -/

/-- **The texts whose upper case is the end of a name.** The induction is on the text, over all ends
of the name, and each step takes one character from both. -/
theorem upperCase_eq_iff (s : List Char) (ht : t <:+ y.name.toList) :
    upperCase s = t ↔ List.Forall₂ Spells s t := by
  induction s generalizing t with
  | nil => rw [List.forall₂_nil_left_iff, eq_comm]; rfl
  | cons c cs ih =>
    have hcons : upperCase (c :: cs) = upperCaseChar c ++ upperCase cs := List.flatMap_cons
    rw [hcons]
    constructor
    · rintro rfl
      obtain ⟨n, hupper, hspells⟩ := spells_of_isPrefix ht (List.prefix_append _ _)
      rw [hupper, List.singleton_append] at ht ⊢
      exact .cons hspells ((ih ((List.suffix_cons n _).trans ht)).mp rfl)
    · rintro (_ | @⟨_, n, _, rest, hspells, hrest⟩)
      have hn : n ∈ nameCharacters := mem_nameCharacters (ht.subset List.mem_cons_self)
      rw [(upperCaseChar_of_spells hn hspells).1, List.singleton_append,
        (ih ((List.suffix_cons n _).trans ht)).mpr hrest]

theorem ofName?_eq_some_iff : ofName? s = some y ↔ s = y.name.toList := by
  constructor
  · intro h
    have hname := List.find?_some (p := fun y : Symbology => y.name.toList == s) h
    exact (eq_of_beq hname).symm
  · rintro rfl
    cases y <;> decide

/-- A text that is read as the name of a symbology: blanks, what may be written for each character
of the name, and blanks. -/
def Spelled (s : String) (y : Symbology) : Prop :=
  ∃ front core back, s.toList = front ++ core ++ back ∧ (∀ c ∈ front ++ back, isBlank c = true) ∧
    List.Forall₂ Spells core y.name.toList

theorem isBlank_of_forall₂ (ht : ∀ n ∈ t, n ∈ nameCharacters) (h : List.Forall₂ Spells s t) :
    ∀ c ∈ s, isBlank c = false := by
  induction h with
  | nil => simp
  | cons hspells _ ih =>
    rw [List.forall_mem_cons] at ht ⊢
    exact ⟨(upperCaseChar_of_spells ht.1 hspells).2, ih ht.2⟩

theorem spelled_iff_strip {text : String} :
    Spelled text y ↔ List.Forall₂ Spells (strip text.toList) y.name.toList := by
  constructor
  · rintro ⟨front, core, back, hs, hblank, hspells⟩
    have hcore := isBlank_of_forall₂ (fun _ => mem_nameCharacters) hspells
    have hself : strip core = core :=
      strip_eq_self (fun c hc => hcore c (List.mem_of_mem_head? hc))
        (fun c hc => hcore c (List.mem_of_mem_getLast? hc))
    rw [hs, strip, stripBy_append (fun c hc => hblank c (List.mem_append_left back hc))
      (fun c hc => hblank c (List.mem_append_right front hc)), ← strip, hself]
    exact hspells
  · intro h
    obtain ⟨front, back, hs, hblank⟩ := exists_strip text.toList
    exact ⟨front, _, back, hs, hblank, h⟩

/-- **A text is read as a symbology** iff it is the name of it, written as it may be. -/
theorem parse?_eq_some_iff {text : String} : parse? text = some y ↔ Spelled text y := by
  rw [parse?, ofName?_eq_some_iff, upperCase_eq_iff _ List.suffix_rfl, spelled_iff_strip]

/-- **How a symbology may be named.** A text is read as a symbology iff it is, after stripping, as
long as the name and each of its characters may be written for the one in its place: the same letter
in either case, the same digit, or the dotless i for the letter I. No text names two symbologies,
and in none that names one does a blank stand between other characters. -/
theorem parse?_spelled (text : String) :
    (∀ y, parse? text = some y ↔ Spelled text y) ∧
      (∀ y, Spelled text y ↔ List.Forall₂ Spells (strip text.toList) y.name.toList) ∧
      (∀ y z, Spelled text y → Spelled text z → y = z) ∧
      ∀ y, Spelled text y → ∀ c ∈ strip text.toList, isBlank c = false := by
  refine ⟨fun y => parse?_eq_some_iff, fun y => spelled_iff_strip, fun y z hy hz => ?_,
    fun y h => isBlank_of_forall₂ (fun _ => mem_nameCharacters) (spelled_iff_strip.mp h)⟩
  rw [← parse?_eq_some_iff] at hy hz
  exact Option.some.inj (hy.symm.trans hz)

/-- A dotless i and small letters, between blanks. -/
theorem parse?_spelled_dotless :
    Spelled "\u3000ıtf14 \n" .itf14 ∧ parse? "\u3000ıtf14 \n" = some .itf14 ∧
      ∀ c ∈ strip "\u3000ıtf14 \n".toList, isBlank c = false := by
  have hspelled : Spelled "\u3000ıtf14 \n" .itf14 :=
    ⟨['\u3000'], ['ı', 't', 'f', '1', '4'], [' ', '\n'], by decide,
      List.all_iff_forall_prop.mp (by decide), by decide⟩
  obtain ⟨hparse, -, -, hblank⟩ := parse?_spelled "\u3000ıtf14 \n"
  exact ⟨hspelled, (hparse .itf14).mpr hspelled, hblank .itf14 hspelled⟩

end Symbology

end LabelPress
