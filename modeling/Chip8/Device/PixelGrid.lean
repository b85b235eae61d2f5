import Chip8.Error

/-!
# Grids of pixels

A grid of monochrome pixels that are addressed by column and row. Coordinates wrap around the
edges, so any two integers address a pixel of a grid that has one.

## Main definitions

* `Chip8.PixelGrid`, `Chip8.PixelGrid.lit`
* `Chip8.PixelGrid.toggle` : the grid with one pixel inverted.
* `Chip8.PixelGrid.lines`, `Chip8.PixelGrid.text` : the grid as text.

## Main statements

* `Chip8.PixelGrid.lit_invert` : exactly the inverted pixel changes.
* `Chip8.PixelGrid.toggleAll_failure` : on a grid with a pixel every pixel can be inverted.
-/

namespace Chip8

/-- A grid of pixels. -/
structure PixelGrid where
  /-- The number of columns. -/
  width : Nat
  /-- The number of rows. -/
  height : Nat
  /-- Whether the pixels are lit, by column and row. -/
  columns : Vector (Vector Bool height) width
  deriving DecidableEq

namespace PixelGrid

/-- A dark grid. -/
def dark (width height : Nat) : PixelGrid where
  width := width
  height := height
  columns := Vector.replicate width (Vector.replicate height false)

/-- The pixel in column `p` and row `q` is lit. Outside the grid nothing is. -/
def lit (g : PixelGrid) (p q : Nat) : Bool :=
  (g.columns[p]?.bind fun column => column[q]?).getD false

/-- The grid with the pixel in column `p` and row `q` inverted. -/
def invert (g : PixelGrid) (p q : Nat) : PixelGrid :=
  if h : p < g.width ∧ q < g.height then
    { g with columns := g.columns.set p (g.columns[p].set q (!g.columns[p][q])) }
  else g

/-- Inverts the pixel that two coordinates address, each taken modulo the size of the grid. Returns
whether the pixel was lit. -/
def toggle (g : PixelGrid) (x y : Int) : Except Error (Bool × PixelGrid) :=
  if g.width = 0 ∨ g.height = 0 then .error (.misuse .emptyScreen)
  else
    let p := (x % g.width).toNat
    let q := (y % g.height).toNat
    .ok (g.lit p q, g.invert p q)

/-- The grid has a pixel, so that every two coordinates address one. -/
def HasPixels (g : PixelGrid) : Prop :=
  0 < g.width ∧ 0 < g.height

/-- What inverting several pixels leaves behind. -/
structure Strokes where
  /-- Why a pixel could not be inverted, if there was one. -/
  failure : Option Error := none
  /-- Whether the pixels that were inverted had been lit. -/
  erased : List Bool := []
  /-- The pixels afterwards. -/
  grid : PixelGrid

/-- Inverts several pixels in turn, until one cannot be inverted. The pixels before it stay
inverted. -/
def toggleAll (g : PixelGrid) : List (Int × Int) → Strokes
  | [] => { grid := g }
  | (x, y) :: l =>
    match g.toggle x y with
    | .error e => { failure := some e, grid := g }
    | .ok (erased, g) =>
      let rest := g.toggleAll l
      { rest with erased := erased :: rest.erased }

/-- The number of lit pixels. -/
def litCount (g : PixelGrid) : Nat :=
  (g.columns.toList.flatMap Vector.toList).count true

/-- A row of the grid as text, with `#` for a lit pixel and `.` for a dark one. -/
def line (g : PixelGrid) (q : Nat) : String :=
  String.ofList ((List.range g.width).map fun p => if g.lit p q then '#' else '.')

/-- The rows of the grid as text, the top one first. -/
def lines (g : PixelGrid) : List String :=
  (List.range g.height).map g.line

/-- The rows of the grid as one text, with a line break between two rows. -/
def text (g : PixelGrid) : String :=
  "\n".intercalate g.lines

/-- The grid of the given size with the listed pixels lit. -/
def ofLit (width height : Nat) (l : List (Nat × Nat)) : PixelGrid where
  width := width
  height := height
  columns := Vector.ofFn fun p => Vector.ofFn fun q => l.contains (p.val, q.val)

/-! ### Pixels of a changed grid -/

theorem lit_dark (width height p q : Nat) : (dark width height).lit p q = false := by
  change ((Vector.replicate width (Vector.replicate height false))[p]?.bind
    fun column => column[q]?).getD false = false
  rw [Vector.getElem?_replicate]
  split
  · rw [Option.bind_some, Vector.getElem?_replicate]
    split <;> rfl
  · rfl

theorem lit_eq_getElem (g : PixelGrid) {p q : Nat} (hp : p < g.width) (hq : q < g.height) :
    g.lit p q = g.columns[p][q] := by
  simp [lit, hp, hq]

theorem lit_invert (g : PixelGrid) {p q : Nat} (hp : p < g.width) (hq : q < g.height) (r s : Nat) :
    (g.invert p q).lit r s = (g.lit r s ^^ decide (r = p ∧ s = q)) := by
  rw [invert, dif_pos ⟨hp, hq⟩]
  simp only [lit, Vector.getElem?_set]
  by_cases hr : r = p
  · subst hr
    by_cases hs : s = q
    · subst hs; simp [hp, hq]
    · simp [hp, hs, Ne.symm hs]
  · simp [hr, Ne.symm hr]

/-! ### Inverting several pixels -/

@[simp] theorem width_invert (g : PixelGrid) (p q : Nat) : (g.invert p q).width = g.width := by
  unfold invert
  split <;> rfl

@[simp] theorem height_invert (g : PixelGrid) (p q : Nat) : (g.invert p q).height = g.height := by
  unfold invert
  split <;> rfl

@[simp] theorem hasPixels_invert (g : PixelGrid) (p q : Nat) :
    (g.invert p q).HasPixels ↔ g.HasPixels := by
  simp [HasPixels]

/-- On a grid with a pixel every two coordinates address one. -/
theorem toggle_of_hasPixels {g : PixelGrid} (hg : g.HasPixels) (x y : Int) :
    g.toggle x y = .ok (g.lit (x % g.width).toNat (y % g.height).toNat,
      g.invert (x % g.width).toNat (y % g.height).toNat) := by
  have h : ¬(g.width = 0 ∨ g.height = 0) := by
    have := hg.1
    have := hg.2
    omega
  simp [toggle, h]

theorem toggle_of_not_hasPixels {g : PixelGrid} (hg : ¬g.HasPixels) (x y : Int) :
    g.toggle x y = .error (.misuse .emptyScreen) := by
  have h : g.width = 0 ∨ g.height = 0 := by
    simp only [HasPixels] at hg
    omega
  simp [toggle, h]

theorem toggleAll_failure {g : PixelGrid} (hg : g.HasPixels) (l : List (Int × Int)) :
    (g.toggleAll l).failure = none := by
  induction l generalizing g with
  | nil => rfl
  | cons p l ih =>
    obtain ⟨x, y⟩ := p
    simp only [toggleAll, toggle_of_hasPixels hg]
    exact ih ((hasPixels_invert ..).2 hg)

/-- Where a pixel cannot be inverted, none is. -/
theorem toggleAll_of_failure {g : PixelGrid} {l : List (Int × Int)} {e : Error}
    (h : (g.toggleAll l).failure = some e) :
    g.toggleAll l = { failure := some e, grid := g } := by
  by_cases hg : g.HasPixels
  · rw [toggleAll_failure hg] at h
    cases h
  · cases l with
    | nil => cases h
    | cons p l =>
      obtain ⟨x, y⟩ := p
      simp only [toggleAll, toggle_of_not_hasPixels hg] at h ⊢
      rw [h]

theorem eq_emptyScreen_of_failure {g : PixelGrid} {l : List (Int × Int)} {e : Error}
    (h : (g.toggleAll l).failure = some e) : e = .misuse .emptyScreen := by
  by_cases hg : g.HasPixels
  · rw [toggleAll_failure hg] at h
    cases h
  · cases l with
    | nil => cases h
    | cons p l =>
      obtain ⟨x, y⟩ := p
      simp only [toggleAll, toggle_of_not_hasPixels hg] at h
      cases h
      rfl

theorem hasPixels_toggleAll {g : PixelGrid} (hg : g.HasPixels) (l : List (Int × Int)) :
    (g.toggleAll l).grid.HasPixels := by
  induction l generalizing g with
  | nil => exact hg
  | cons p l ih =>
    obtain ⟨x, y⟩ := p
    simp only [toggleAll, toggle_of_hasPixels hg]
    exact ih ((hasPixels_invert ..).2 hg)

end PixelGrid

end Chip8
