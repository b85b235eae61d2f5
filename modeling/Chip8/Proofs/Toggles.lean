import Mathlib.Algebra.Ring.Parity
import Chip8.Device.PixelGrid

/-!
# Inverting several pixels

Several pixels are inverted in turn. A pixel changes if it is hit an odd number of times, so the
order of the hits makes no difference to the picture. A lit pixel is turned off on the way exactly
if some pixel is hit twice, or is lit at first and hit.

## Main definitions

* `Chip8.PixelGrid.Addresses` : two coordinates address a pixel.
* `Chip8.PixelGrid.hits` : how often a pixel is hit.
* `Chip8.PixelGrid.IsErased` : a pixel is turned off at some point.

## Main results

* `Chip8.PixelGrid.lit_toggleAll` : the pixels afterwards.
* `Chip8.PixelGrid.any_erased_toggleAll` : whether a lit pixel was turned off.
* `Chip8.PixelGrid.eq_of_lit` : a grid is known by its lit pixels.
-/

namespace Chip8.PixelGrid

variable {g h : PixelGrid} {p q : Nat} {l : List (Int × Int)}

/-- The coordinates address the pixel in column `p` and row `q`. -/
def Addresses (g : PixelGrid) (p q : Nat) (c : Int × Int) : Prop :=
  c.1 % g.width = p ∧ c.2 % g.height = q

instance (g : PixelGrid) (p q : Nat) (c : Int × Int) : Decidable (g.Addresses p q c) :=
  inferInstanceAs (Decidable (_ ∧ _))

/-- How often the listed coordinates hit the pixel in column `p` and row `q`. -/
def hits (g : PixelGrid) (l : List (Int × Int)) (p q : Nat) : Nat :=
  l.countP fun c => g.Addresses p q c

/-- The pixel is turned off at some point: it is hit twice, or it is lit and hit. -/
def IsErased (g : PixelGrid) (l : List (Int × Int)) (p q : Nat) : Prop :=
  2 ≤ g.hits l p q ∨ g.lit p q = true ∧ 1 ≤ g.hits l p q

theorem hits_cons (c : Int × Int) :
    g.hits (c :: l) p q = g.hits l p q + if g.Addresses p q c then 1 else 0 := by
  simp [hits, List.countP_cons]

theorem toNat_emod {size : Nat} (hsize : 0 < size) (x : Int) :
    (x % size).toNat < size ∧ ((x % size).toNat : Int) = x % size := by
  have hnonneg := Int.emod_nonneg x (b := size) (by omega)
  have hlt := Int.emod_lt_of_pos x (b := size) (by omega)
  omega

/-- On a grid with a pixel coordinates address the pixel that they are taken to. -/
theorem addresses_iff (hg : g.HasPixels) (c : Int × Int) :
    g.Addresses p q c ↔ p = (c.1 % g.width).toNat ∧ q = (c.2 % g.height).toNat := by
  have hx := (toNat_emod hg.1 c.1).2
  have hy := (toNat_emod hg.2 c.2).2
  unfold Addresses
  omega

theorem addresses_natCast (x y : Nat) :
    g.Addresses p q (x, y) ↔ x % g.width = p ∧ y % g.height = q := by
  simp only [Addresses, ← Int.natCast_emod, Int.natCast_inj]

/-- The grid after the pixel that two coordinates address is inverted. -/
def inverted (g : PixelGrid) (c : Int × Int) : PixelGrid :=
  g.invert (c.1 % g.width).toNat (c.2 % g.height).toNat

@[simp] theorem width_inverted (g : PixelGrid) (c : Int × Int) :
    (g.inverted c).width = g.width :=
  width_invert ..

@[simp] theorem height_inverted (g : PixelGrid) (c : Int × Int) :
    (g.inverted c).height = g.height :=
  height_invert ..

theorem hasPixels_inverted (hg : g.HasPixels) (c : Int × Int) : (g.inverted c).HasPixels :=
  (hasPixels_invert ..).2 hg

@[simp] theorem addresses_inverted (c d : Int × Int) :
    (g.inverted c).Addresses p q d ↔ g.Addresses p q d := by
  simp only [Addresses, width_inverted, height_inverted]

@[simp] theorem hits_inverted (c : Int × Int) : (g.inverted c).hits l p q = g.hits l p q := by
  simp only [hits, addresses_inverted]

theorem lit_inverted (hg : g.HasPixels) (c : Int × Int) :
    (g.inverted c).lit p q = (g.lit p q ^^ decide (g.Addresses p q c)) := by
  rw [inverted, lit_invert g (toNat_emod hg.1 c.1).1 (toNat_emod hg.2 c.2).1]
  exact congrArg _ (decide_eq_decide.2 (addresses_iff hg c).symm)

/-! ### The first pixel and the others -/

theorem toggleAll_cons (hg : g.HasPixels) (c : Int × Int) (l : List (Int × Int)) :
    g.toggleAll (c :: l) =
      { (g.inverted c).toggleAll l with
        erased := g.lit (c.1 % g.width).toNat (c.2 % g.height).toNat ::
          ((g.inverted c).toggleAll l).erased } := by
  obtain ⟨x, y⟩ := c
  simp only [toggleAll, toggle_of_hasPixels hg, inverted]

theorem grid_toggleAll_concat (hg : g.HasPixels) (l : List (Int × Int)) (c : Int × Int) :
    (g.toggleAll (l ++ [c])).grid = (g.toggleAll l).grid.inverted c := by
  induction l generalizing g with
  | nil => exact congrArg Strokes.grid (toggleAll_cons hg c [])
  | cons d l ih =>
    rw [List.cons_append, toggleAll_cons hg, toggleAll_cons hg]
    exact ih (hasPixels_inverted hg d)

theorem size_toggleAll (hg : g.HasPixels) (l : List (Int × Int)) :
    (g.toggleAll l).grid.width = g.width ∧ (g.toggleAll l).grid.height = g.height := by
  induction l generalizing g with
  | nil => exact ⟨rfl, rfl⟩
  | cons c l ih =>
    rw [toggleAll_cons hg]
    simpa using ih (hasPixels_inverted hg c)

/-- **The pixels afterwards.** A pixel changes if it is hit an odd number of times. -/
theorem lit_toggleAll (hg : g.HasPixels) (l : List (Int × Int)) (p q : Nat) :
    (g.toggleAll l).grid.lit p q = (g.lit p q ^^ decide (Odd (g.hits l p q))) := by
  induction l generalizing g with
  | nil => simp [toggleAll, hits]
  | cons c l ih =>
    rw [toggleAll_cons hg, hits_cons]
    change ((g.inverted c).toggleAll l).grid.lit p q = _
    rw [ih (hasPixels_inverted hg c), lit_inverted hg, hits_inverted, Bool.xor_assoc]
    congr 1
    by_cases hc : g.Addresses p q c
    · by_cases hodd : Odd (g.hits l p q) <;> simp [hc, hodd, Nat.odd_add_one]
    · simp [hc]

theorem isErased_cons (hg : g.HasPixels) (c : Int × Int) :
    g.IsErased (c :: l) p q ↔
      g.Addresses p q c ∧ g.lit p q = true ∨ (g.inverted c).IsErased l p q := by
  unfold IsErased
  rw [hits_cons, hits_inverted, lit_inverted hg]
  by_cases hc : g.Addresses p q c
  · cases hlit : g.lit p q with
    | false =>
      simp only [hc, if_true, decide_true, Bool.xor_true, Bool.not_false, Bool.false_eq_true,
        true_and, false_and, and_false, or_false, false_or]
      omega
    | true => simp [hc]
  · simp [hc]

/-- **Whether a lit pixel was turned off.** -/
theorem any_erased_toggleAll (hg : g.HasPixels) (l : List (Int × Int)) :
    (g.toggleAll l).erased.any id = true ↔ ∃ p q, g.IsErased l p q := by
  induction l generalizing g with
  | nil => simp [toggleAll, IsErased, hits]
  | cons c l ih =>
    rw [toggleAll_cons hg]
    simp [isErased_cons hg, exists_or, ih (hasPixels_inverted hg c), addresses_iff hg, and_assoc]

/-- **A grid is known by its lit pixels.** -/
theorem eq_of_lit (hw : g.width = h.width) (hh : g.height = h.height)
    (hlit : ∀ p q, p < g.width → q < g.height → g.lit p q = h.lit p q) : g = h := by
  obtain ⟨width, height, columns⟩ := g
  obtain ⟨width', height', columns'⟩ := h
  obtain rfl : width = width' := hw
  obtain rfl : height = height' := hh
  congr 1
  ext p hp q hq
  have hpq := hlit p q hp hq
  rwa [lit_eq_getElem _ hp hq, lit_eq_getElem _ hp hq] at hpq

/-- The order of the hits makes no difference to the picture. -/
theorem grid_toggleAll_of_perm (hg : g.HasPixels) {l' : List (Int × Int)} (hl : l.Perm l') :
    (g.toggleAll l).grid = (g.toggleAll l').grid := by
  obtain ⟨hw, hh⟩ := size_toggleAll hg l
  obtain ⟨hw', hh'⟩ := size_toggleAll hg l'
  refine eq_of_lit (hw.trans hw'.symm) (hh.trans hh'.symm) fun p q _ _ => ?_
  rw [lit_toggleAll hg, lit_toggleAll hg, hits, hits, hl.countP_eq]

end Chip8.PixelGrid
