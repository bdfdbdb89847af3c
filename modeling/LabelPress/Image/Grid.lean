/-!
# Grids of pixels

A rectangular image is a grid of cells: `height` rows of `width` cells each. A cell is addressed by
its column and its row, the first of each being zero.

## Main definitions

* `Grid.ofFn`: the grid with given cells.
* `Grid.cell`, `Grid.cell?`: the cell at a column and a row.
* `Grid.map`: a change of every cell.
* `Grid.enlarge k`: every cell becomes a square of `k` by `k` cells.
* `Grid.frame p c`: a border of `p` cells of content `c` on every side.
-/

namespace LabelPress.Image

/-- A rectangle of cells. -/
structure Grid (α : Type) where
  /-- The number of columns. -/
  width : Nat
  /-- The number of rows. -/
  height : Nat
  /-- The rows from top to bottom, each from left to right. -/
  cells : Vector (Vector α width) height

namespace Grid

variable {α β : Type}

/-- The grid whose cell in column `x` and row `y` is `f x y`. -/
def ofFn (width height : Nat) (f : Fin width → Fin height → α) : Grid α where
  width := width
  height := height
  cells := Vector.ofFn fun y => Vector.ofFn fun x => f x y

/-- The cell in column `x` and row `y`. -/
def cell (g : Grid α) (x y : Nat) (hx : x < g.width) (hy : y < g.height) : α :=
  (g.cells[y])[x]

/-- The cell in column `x` and row `y`, if the grid has one there. -/
def cell? (g : Grid α) (x y : Nat) : Option α :=
  if h : x < g.width ∧ y < g.height then some (g.cell x y h.1 h.2) else none

@[simp]
theorem width_ofFn (w h : Nat) (f : Fin w → Fin h → α) : (ofFn w h f).width = w := rfl

@[simp]
theorem height_ofFn (w h : Nat) (f : Fin w → Fin h → α) : (ofFn w h f).height = h := rfl

@[simp]
theorem cell_ofFn (w h : Nat) (f : Fin w → Fin h → α) (x y : Nat)
    (hx : x < (ofFn w h f).width) (hy : y < (ofFn w h f).height) :
    (ofFn w h f).cell x y hx hy = f ⟨x, hx⟩ ⟨y, hy⟩ := by
  simp [cell, ofFn]

/-- Grids of the same size with the same cells are equal. -/
theorem ext_cell {g h : Grid α} (hw : g.width = h.width) (hh : g.height = h.height)
    (hc : ∀ x y (hx : x < g.width) (hy : y < g.height),
      g.cell x y hx hy = h.cell x y (hw ▸ hx) (hh ▸ hy)) : g = h := by
  obtain ⟨w, n, c⟩ := g
  obtain ⟨w', n', c'⟩ := h
  cases hw
  cases hh
  congr
  apply Vector.ext
  intro y hy
  apply Vector.ext
  intro x hx
  exact hc x y hx hy

/-- Applies a function to every cell. -/
def map (f : α → β) (g : Grid α) : Grid β :=
  ofFn g.width g.height fun x y => f (g.cell x y x.isLt y.isLt)

/-- Replaces every cell by a square of `k` by `k` copies of it. -/
def enlarge (k : Nat) (g : Grid α) : Grid α :=
  ofFn (g.width * k) (g.height * k) fun x y =>
    g.cell (x / k) (y / k)
      (Nat.div_lt_of_lt_mul (Nat.mul_comm g.width k ▸ x.isLt))
      (Nat.div_lt_of_lt_mul (Nat.mul_comm g.height k ▸ y.isLt))

/-- Surrounds a grid with `p` cells of content `c` on every side. -/
def frame (p : Nat) (c : α) (g : Grid α) : Grid α :=
  ofFn (g.width + 2 * p) (g.height + 2 * p) fun x y =>
    if h : (p ≤ x.val ∧ x.val - p < g.width) ∧ (p ≤ y.val ∧ y.val - p < g.height) then
      g.cell (x - p) (y - p) h.1.2 h.2.2
    else c

/-! ### The cells of derived grids -/

@[simp]
theorem width_map (f : α → β) (g : Grid α) : (g.map f).width = g.width := rfl

@[simp]
theorem height_map (f : α → β) (g : Grid α) : (g.map f).height = g.height := rfl

/-- A changed grid has the changed cells. -/
@[simp]
theorem cell_map (f : α → β) (g : Grid α) (x y : Nat) (hx : x < (g.map f).width)
    (hy : y < (g.map f).height) : (g.map f).cell x y hx hy = f (g.cell x y hx hy) :=
  cell_ofFn g.width g.height _ x y hx hy

@[simp]
theorem width_enlarge (k : Nat) (g : Grid α) : (g.enlarge k).width = g.width * k := rfl

@[simp]
theorem height_enlarge (k : Nat) (g : Grid α) : (g.enlarge k).height = g.height * k := rfl

/-- A cell of an enlarged grid copies the cell whose square it lies in. -/
theorem cell_enlarge (k : Nat) (g : Grid α) (x y : Nat) (hx : x < (g.enlarge k).width)
    (hy : y < (g.enlarge k).height) :
    (g.enlarge k).cell x y hx hy =
      g.cell (x / k) (y / k) (Nat.div_lt_of_lt_mul (Nat.mul_comm g.width k ▸ hx))
        (Nat.div_lt_of_lt_mul (Nat.mul_comm g.height k ▸ hy)) :=
  cell_ofFn (g.width * k) (g.height * k) _ x y hx hy

@[simp]
theorem width_frame (p : Nat) (c : α) (g : Grid α) : (g.frame p c).width = g.width + 2 * p := rfl

@[simp]
theorem height_frame (p : Nat) (c : α) (g : Grid α) :
    (g.frame p c).height = g.height + 2 * p := rfl

/-- A cell of a framed grid is a cell of the grid or belongs to the frame. -/
theorem cell_frame (p : Nat) (c : α) (g : Grid α) (x y : Nat) (hx : x < (g.frame p c).width)
    (hy : y < (g.frame p c).height) :
    (g.frame p c).cell x y hx hy =
      if h : (p ≤ x ∧ x - p < g.width) ∧ (p ≤ y ∧ y - p < g.height) then
        g.cell (x - p) (y - p) h.1.2 h.2.2
      else c :=
  cell_ofFn (g.width + 2 * p) (g.height + 2 * p) _ x y hx hy

end Grid

end LabelPress.Image
