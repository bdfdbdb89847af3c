import LabelPress.Proofs.Framing
import LabelPress.Proofs.Resampling

/-!
# The finder pattern in the image of a symbol

The modules in the top left corner of a symbol are the same in every symbol: a square of seven by
seven modules around a centre, and a light border on the two sides that face the other modules. They
do not depend on the payload, so what an image shows of them is known without computing the symbol.

A row of the image is cut at the first pixels of modules. The pixels between two cuts show the
modules between them; if these have one colour, so has the strip. Strips that abut glue together, so
a list of bands, each next to the one before it, gives the runs of the row.

## Main definitions

* `Symbol.row`, `Symbol.strip` — a row of the image, and a part of it between two modules
* `Abut` — bands that follow each other without a gap
* `BeginsWith` — the first runs of equal pixels in a row

## Main results

* `modules_finder` — the modules of the finder pattern
* `Symbol.corner_eq`, `Symbol.finderRow?_spec` — what is known of the image is seen in it
-/

namespace LabelPress.Qr

open LabelPress.Image

/-! ### The modules of the finder pattern -/

theorem Square.get_ofFn {α : Type} {side row column : Nat} (f : Nat → Nat → α) (fallback : α)
    (hrow : row < side) (hcolumn : column < side) :
    (Square.ofFn side f).get row column fallback = f row column := by
  simp [Square.get, Square.ofFn, hrow, hcolumn]

/-- The pattern in the corner is found before all others. -/
theorem patternModule?_finder (version : Nat) (alignments : List (Nat × Nat)) {row column : Nat}
    (h : squareAt row column 3 3 ≤ 4) :
    patternModule? (finderCentres version) alignments row column =
      some (squareAt row column 3 3 ≠ 2 && squareAt row column 3 3 ≠ 4) := by
  have hfinder : finderModule? (squareAt row column 3 3) =
      some (squareAt row column 3 3 ≠ 2 && squareAt row column 3 3 ≠ 4) :=
    if_neg (Nat.not_lt.mpr h)
  simp only [patternModule?, finderCentres, List.findSome?_cons, hfinder, Option.some_or]

/-- **The modules of the finder pattern** are dark or light by their distance from its centre. -/
theorem modules_finder (level : Level) (version : Nat) (payload : List UInt8) {row column : Nat}
    (hrow : row < Symbol.finderSide) (hcolumn : column < Symbol.finderSide) :
    (modules level version payload).get row column false =
      (squareAt row column 3 3 ≠ 2 && squareAt row column 3 3 ≠ 4) := by
  have hdistance : squareAt row column 3 3 ≤ 4 := by
    simp only [squareAt, distance, Symbol.finderSide] at *
    omega
  have hside : Symbol.finderSide ≤ symbolSide version := by
    simp only [Symbol.finderSide, symbolSide]
    omega
  have hrowSide : row < symbolSide version := Nat.lt_of_lt_of_le hrow hside
  have hcolumnSide : column < symbolSide version := Nat.lt_of_lt_of_le hcolumn hside
  have hcell : (cells version).get row column .marker =
      .pattern (squareAt row column 3 3 ≠ 2 && squareAt row column 3 3 ≠ 4) := by
    rw [cells, Square.get_ofFn _ _ hrowSide hcolumnSide, cellAt,
      patternModule?_finder version _ hdistance]
  rw [modules, modulesWith, Square.get_ofFn _ _ hrowSide hcolumnSide, hcell]

namespace Symbol

variable (s : Symbol) {a b c y : Nat}

/-! ### The corner of the image -/

theorem diagonalIsDark_eq (i : Nat) :
    s.diagonalIsDark i = (modules s.level s.version s.payload).get i i false := by
  have hfinder : ∀ j, j < finderSide →
      (squareAt j j 3 3 ≠ 2 && squareAt j j 3 3 ≠ 4 : Bool) =
        (j = 0 || j = 6 || (2 ≤ j && j ≤ 4) : Bool) := by decide
  rw [diagonalIsDark]
  by_cases h : i < finderSide
  · rw [if_pos h, modules_finder _ _ _ h h, hfinder i h]
  · rw [if_neg h]

/-- **The corner** is the first pixel of the image. -/
theorem corner_eq : s.corner = s.pixel 0 0 := by
  simp [corner, pixel, isDark, diagonalIsDark_eq]

theorem cell?_image {x : Nat} (hx : x < s.size) (hy : y < s.size) :
    s.image.cell? x y = some (s.pixel x y) := by
  rw [image, Grid.cell?_ofFn, dif_pos ⟨hx, hy⟩]

/-! ### Strips of a row -/

theorem modulesAcross_pos : 0 < s.modulesAcross := by
  rw [modulesAcross, symbolSide]
  omega

/-- The first pixel of a module of the symbol. -/
def start (j : Nat) : Nat :=
  firstPixel s.modulesAcross s.size j

/-- The pixels that show neighbouring modules, the first one and those before the last one. -/
def shows (first last : Nat) : Nat :=
  pixelsShowing s.modulesAcross s.size first last

/-- A row of the image. -/
def row (y : Nat) : List Rgb :=
  (List.range s.size).map (s.pixel · y)

/-- The part of a row that shows the modules from `a` up to but not including `b`. -/
def strip (y a b : Nat) : List Rgb :=
  (List.range' (s.start a) (s.start b - s.start a)).map (s.pixel · y)

theorem row_eq_strip (y : Nat) : s.row y = s.strip y 0 s.modulesAcross := by
  rw [row, strip, start, start, firstPixel_zero s.modulesAcross_pos,
    firstPixel_modules s.modulesAcross_pos, Nat.sub_zero, List.range_eq_range']

theorem strip_self (y a : Nat) : s.strip y a a = [] := by
  rw [strip, Nat.sub_self]
  rfl

/-- Strips that abut glue together. -/
theorem strip_glue (hab : a ≤ b) (hbc : b ≤ c) :
    s.strip y a b ++ s.strip y b c = s.strip y a c := by
  have hleft : s.start a ≤ s.start b := firstPixel_mono hab
  have hright : s.start b ≤ s.start c := firstPixel_mono hbc
  have hmiddle : s.start a + 1 * (s.start b - s.start a) = s.start b := by omega
  have hlength : s.start c - s.start a =
      (s.start b - s.start a) + (s.start c - s.start b) := by omega
  rw [strip, strip, strip, hlength, ← List.map_append, ← List.range'_append, hmiddle]

/-- The colour of dark or of light modules. -/
def colour (isDark : Bool) : Rgb :=
  if isDark then s.dark else s.light

/-- A strip over modules of one colour has this colour. -/
theorem strip_eq_replicate (hs : 0 < s.size) (hab : a ≤ b) (hb : b ≤ s.modulesAcross)
    {isDark : Bool} (h : ∀ j, a ≤ j → j < b → s.isDark j (s.shownModule y) = isDark) :
    s.strip y a b = List.replicate (s.shows a b) (s.colour isDark) := by
  rw [strip, shows, pixelsShowing_eq s.modulesAcross_pos hs hb, List.eq_replicate_iff]
  refine ⟨by rw [List.length_map, List.length_range']; rfl, fun p hp => ?_⟩
  obtain ⟨x, hx, rfl⟩ := List.mem_map.mp hp
  rw [List.mem_range'_1] at hx
  have hfirst : a ≤ s.shownModule x := (le_moduleShown_iff s.modulesAcross_pos hs).mpr hx.1
  have hlast : s.shownModule x < b := by
    refine (moduleShown_lt_iff s.modulesAcross_pos hs).mpr ?_
    have hend : x < s.start a + (s.start b - s.start a) := hx.2
    have hstart : s.start a ≤ s.start b := firstPixel_mono hab
    change x < s.start b
    omega
  rw [pixel, h _ hfirst hlast, colour]

end Symbol

/-! ### Bands -/

/-- Bands from module `a` to module `b`: each begins where the one before it ends, and none is
empty. -/
def Abut : Nat → List (Bool × Nat × Nat) → Nat → Prop
  | a, [], b => a = b
  | a, (_, first, last) :: bands, b => first = a ∧ first < last ∧ Abut last bands b

theorem Abut.le : ∀ {bands : List (Bool × Nat × Nat)} {a b : Nat}, Abut a bands b → a ≤ b
  | [], _, _, h => Nat.le_of_eq h
  | (_, _, _) :: _, _, _, ⟨rfl, hband, hrest⟩ => Nat.le_trans (Nat.le_of_lt hband) hrest.le

theorem Abut.forall_lt : ∀ {bands : List (Bool × Nat × Nat)} {a b : Nat}, Abut a bands b →
    ∀ band ∈ bands, band.2.1 < band.2.2 ∧ band.2.2 ≤ b
  | [], _, _, _ => fun _ hband => nomatch hband
  | (_, _, _) :: _, _, _, ⟨rfl, hband, hrest⟩ =>
    List.forall_mem_cons.mpr ⟨⟨hband, hrest.le⟩, hrest.forall_lt⟩

namespace Symbol

variable (s : Symbol) {y : Nat}

/-- The run of pixels that a band comes to. -/
def runOf (band : Bool × Nat × Nat) : Rgb × Nat :=
  (s.colour band.1, s.shows band.2.1 band.2.2)

/-- **Bands of one colour give runs.** The induction is on the bands, each of which is glued to the
strip over those that follow it. -/
theorem strip_of_abut (hs : 0 < s.size) {bands : List (Bool × Nat × Nat)} {a b : Nat}
    (h : Abut a bands b) (hb : b ≤ s.modulesAcross)
    (hbands : ∀ band ∈ bands, ∀ j, band.2.1 ≤ j → j < band.2.2 →
      s.isDark j (s.shownModule y) = band.1) :
    s.strip y a b = (bands.map s.runOf).flatMap fun run => List.replicate run.2 run.1 := by
  induction bands generalizing a with
  | nil =>
    obtain rfl : a = b := h
    exact s.strip_self y a
  | cons band bands ih =>
    obtain ⟨isDark, first, last⟩ := band
    obtain ⟨rfl, hband, hrest⟩ := h
    have hlast : last ≤ s.modulesAcross := Nat.le_trans hrest.le hb
    rw [List.forall_mem_cons] at hbands
    rw [← s.strip_glue (Nat.le_of_lt hband) hrest.le,
      s.strip_eq_replicate hs (Nat.le_of_lt hband) hlast hbands.1, ih hrest hbands.2]
    rfl

/-! ### The middle row of the finder pattern -/

/-- The module in the middle row of the finder pattern that is `i` modules from its left edge. -/
theorem isDark_finder {i : Nat} (h : i < finderSide) :
    s.isDark (s.margin + i) (s.margin + 3) = (i = 0 || i = 6 || (2 ≤ i && i ≤ 4) : Bool) := by
  have hmiddle : 3 < finderSide := by decide
  have hfinder : ∀ j, j < finderSide →
      (squareAt 3 j 3 3 ≠ 2 && squareAt 3 j 3 3 ≠ 4 : Bool) =
        (j = 0 || j = 6 || (2 ≤ j && j ≤ 4) : Bool) := by decide
  simp only [isDark, Nat.le_add_right, decide_true, Bool.true_and, Nat.add_sub_cancel_left]
  rw [modules_finder _ _ _ hmiddle h, hfinder i h]

theorem isDark_margin {j row : Nat} (h : j < s.margin) : s.isDark j row = false := by
  rw [isDark, decide_eq_false (Nat.not_le.mpr h), Bool.false_and, Bool.false_and]

theorem abut_finderBands : Abut 0 s.finderBands (s.margin + 7) := by
  rw [finderBands]
  split_ifs with h
  · simp [Abut, h]
  · simp [Abut, Nat.pos_of_ne_zero h]

/-- The bands have the colours of their modules. -/
theorem isDark_finderBands (hy : s.shownModule y = s.margin + 3) :
    ∀ band ∈ s.finderBands, ∀ j, band.2.1 ≤ j → j < band.2.2 →
      s.isDark j (s.shownModule y) = band.1 := by
  have hfinder : ∀ j, s.margin ≤ j → j < s.margin + 8 → s.isDark j (s.shownModule y) =
      (j = s.margin || j = s.margin + 6 || (s.margin + 2 ≤ j && j ≤ s.margin + 4) : Bool) := by
    intro j hj hend
    obtain ⟨i, rfl⟩ := Nat.exists_eq_add_of_le hj
    rw [hy, s.isDark_finder (Nat.lt_of_add_lt_add_left hend)]
    simp
  have hmargin : ∀ j, j < s.margin → s.isDark j (s.shownModule y) = false := fun j hj =>
    s.isDark_margin hj
  have hbands : ∀ band ∈ s.finderBands, band = (false, 0, s.margin) ∨
      band = (true, s.margin, s.margin + 1) ∨ band = (false, s.margin + 1, s.margin + 2) ∨
      band = (true, s.margin + 2, s.margin + 5) ∨ band = (false, s.margin + 5, s.margin + 6) ∨
      band = (true, s.margin + 6, s.margin + 7) := by
    rw [finderBands]
    split_ifs <;> simp
  -- The margin is light by itself; all other bands lie inside the finder pattern.
  intro band hband j hfirst hlast
  rcases hbands band hband with rfl | rfl | rfl | rfl | rfl | rfl
  · exact hmargin j hlast
  all_goals
    dsimp only at hfirst hlast
    rw [hfinder j (by omega) (by omega)]
    simp
    omega

/-! ### The first runs of a row -/

/-- The row ends, or goes on with the light border, after the finder pattern. -/
theorem head?_strip_finder (hs : 0 < s.size) (hfits : s.modulesAcross ≤ s.size)
    (hy : s.shownModule y = s.margin + 3) :
    (s.strip y (s.margin + 7) s.modulesAcross).head? = some s.light := by
  have hinside : s.margin + 7 < s.modulesAcross := by
    rw [modulesAcross, symbolSide]
    omega
  have hnext : s.start (s.margin + 7) < s.start (s.margin + 8) :=
    firstPixel_lt_succ s.modulesAcross_pos hfits _
  have hend : s.start (s.margin + 7) < s.start s.modulesAcross :=
    firstPixel_strictMono s.modulesAcross_pos hfits hinside
  have hshown : s.shownModule (s.start (s.margin + 7)) = s.margin + 7 :=
    (moduleShown_eq_iff s.modulesAcross_pos hs).mpr ⟨Nat.le_refl _, hnext⟩
  have hlight : s.isDark (s.margin + 7) (s.margin + 3) = false := s.isDark_finder (by decide)
  rw [strip, List.head?_map, List.head?_range', if_neg (by omega), Option.map_some, pixel, hshown,
    hy, hlight]
  rfl

end Symbol

/-- A row begins with runs of equal pixels. The runs are maximal: their colours alternate, and what
follows the last one has another colour. -/
structure BeginsWith (row : List Rgb) (runs : List (Rgb × Nat)) : Prop where
  /-- The row is made of the runs and of what follows them. -/
  split : ∃ rest, row = (runs.flatMap fun run => List.replicate run.2 run.1) ++ rest ∧
    ∀ run ∈ runs.getLast?, rest.head? ≠ some run.1
  /-- Neighbouring runs differ in colour. -/
  alternate : runs.IsChain fun a b => a.1 ≠ b.1
  /-- No run is empty. -/
  nonempty : ∀ run ∈ runs, 0 < run.2

namespace Symbol

variable (s : Symbol) {y : Nat}

theorem finderRow?_of_ne (hfits : s.modulesAcross ≤ s.size) (hne : s.dark ≠ s.light) :
    s.finderRow? = some (s.finderBands.map s.runOf) := by
  rw [finderRow?, if_neg (Nat.not_lt.mpr hfits), if_neg hne]
  rfl

/-- **The runs of the finder pattern,** if dark and light can be told apart and no module is left
out. -/
theorem beginsWith_finderBands (hs : 0 < s.size) (hfits : s.modulesAcross ≤ s.size)
    (hne : s.dark ≠ s.light) (hy : s.shownModule y = s.margin + 3) :
    BeginsWith (s.row y) (s.finderBands.map s.runOf) where
  split := by
    have hinside : s.margin + 7 ≤ s.modulesAcross := by
      rw [modulesAcross, symbolSide]
      omega
    -- The row is cut after the finder pattern, so what follows begins with its light border.
    have hlast : (s.finderBands.map s.runOf).getLast? =
        some (s.dark, s.shows (s.margin + 6) (s.margin + 7)) := by
      rw [finderBands, List.map_append, List.getLast?_append]
      rfl
    refine ⟨s.strip y (s.margin + 7) s.modulesAcross, ?_, ?_⟩
    · rw [← s.strip_of_abut hs s.abut_finderBands hinside (s.isDark_finderBands hy),
        s.strip_glue (Nat.zero_le _) hinside, s.row_eq_strip]
    · rw [hlast, s.head?_strip_finder hs hfits hy]
      rintro run hrun
      obtain rfl := Option.mem_some.mp hrun
      simpa using hne.symm
  alternate := by
    rw [finderBands]
    split_ifs <;> simp [runOf, colour, hne, hne.symm]
  nonempty := by
    intro run hrun
    obtain ⟨band, hband, rfl⟩ := List.mem_map.mp hrun
    obtain ⟨hlt, hle⟩ := s.abut_finderBands.forall_lt band hband
    have hlast : band.2.2 ≤ s.modulesAcross := by
      rw [modulesAcross, symbolSide]
      omega
    have hstart := firstPixel_strictMono s.modulesAcross_pos hfits hlt
    rw [runOf, shows, pixelsShowing_eq s.modulesAcross_pos hs hlast]
    exact Nat.sub_pos_of_lt hstart

/-- **The first runs of a row** through the middle of the finder pattern are as they are said to
be. -/
theorem finderRow?_spec (hs : 0 < s.size) {runs : List (Rgb × Nat)} (h : s.finderRow? = some runs)
    (hy : s.shownModule y = s.margin + 3) : BeginsWith (s.row y) runs := by
  by_cases hfits : s.modulesAcross ≤ s.size
  · by_cases hne : s.dark = s.light
    · rw [finderRow?, if_neg (Nat.not_lt.mpr hfits), if_pos hne] at h
      obtain rfl := Option.some.inj h
      have hpixel : ∀ x, s.pixel x y = s.dark := fun x => by
        rw [pixel, hne, ite_self]
      refine ⟨⟨[], ?_, by simp⟩, List.isChain_singleton _, by simpa using hs⟩
      simp [row, hpixel, List.map_const']
    · rw [s.finderRow?_of_ne hfits hne] at h
      obtain rfl := Option.some.inj h
      exact s.beginsWith_finderBands hs hfits hne hy
  · rw [finderRow?, if_pos (Nat.not_le.mp hfits)] at h
    cases h

end Symbol

end LabelPress.Qr
