import Chip8.Device.PixelGrid
import Chip8.Picture.Color

/-!
# Images

An image is a rectangle of colors. A grid of pixels is drawn as an image in which every pixel is a
square of as many dots as the scale says. The columns of the grid are turned to rows, the lit and
then the dark pixels are colored, and the dots are repeated row by row and column by column.

## Main definitions

* `Chip8.Image`, `Chip8.Image.cover`
* `Chip8.Image.enlarge` : every dot repeated.
* `Chip8.PixelGrid.draw` : the image of a grid.

## Main statements

* `Chip8.Image.eq_of_at?` : an image is known by its size and its dots.
* `Chip8.Image.at?_enlarge` : the dots of an enlarged image.
* `Chip8.PixelGrid.at?_paint` : the dots of the image of a grid.
-/

namespace Chip8

/-- A table with its rows and its columns exchanged. -/
def transposed {α : Type} {m n : Nat} (table : Vector (Vector α n) m) : Vector (Vector α m) n :=
  Vector.ofFn fun j => Vector.ofFn fun i => table[i][j]

/-- A rectangle of colors. -/
structure Image where
  /-- The number of columns. -/
  width : Nat
  /-- The number of rows. -/
  height : Nat
  /-- The rows, the top one first. -/
  rows : Vector (Vector Color width) height
  deriving DecidableEq

namespace Image

/-- A black image. -/
def black (width height : Nat) : Image where
  width := width
  height := height
  rows := Vector.replicate height (Vector.replicate width ⟨0, 0, 0⟩)

/-- The image with a color at every dot that a mask selects. -/
def cover (i : Image) (mask : Vector (Vector Bool i.width) i.height) (color : Color) : Image :=
  let coverRow (row : Vector Color i.width) (selected : Vector Bool i.width) :=
    row.zipWith (fun c b => if b then color else c) selected
  { i with rows := i.rows.zipWith coverRow mask }

/-- The image with a function applied to every color. -/
def mapColors (i : Image) (f : Color → Color) : Image :=
  { i with rows := i.rows.map fun row => row.map f }

/-- The image with every row repeated. -/
def repeatRows (i : Image) (times : Nat) : Image where
  width := i.width
  height := i.height * times
  rows := i.rows.flatMap fun row => Vector.replicate times row

/-- The image with every column repeated. -/
def repeatColumns (i : Image) (times : Nat) : Image where
  width := i.width * times
  height := i.height
  rows := i.rows.map fun row => row.flatMap fun c => Vector.replicate times c

/-- The image with every dot repeated to a square of `scale` by `scale` dots. -/
def enlarge (i : Image) (scale : Nat) : Image :=
  (i.repeatRows scale).repeatColumns scale

/-- The color at a row and a column, if the image has them. -/
def at? (i : Image) (r c : Nat) : Option Color :=
  i.rows[r]?.bind fun row => row[c]?

/-! ### Dots -/

variable {i j : Image} {r c scale : Nat}

theorem at?_eq_some (hr : r < i.height) (hc : c < i.width) : i.at? r c = some i.rows[r][c] := by
  simp [at?, hr, hc]

theorem eq_of_at? (hwidth : i.width = j.width) (hheight : i.height = j.height)
    (h : ∀ r < i.height, ∀ c < i.width, i.at? r c = j.at? r c) : i = j := by
  obtain ⟨width, height, rows⟩ := i
  obtain ⟨width', height', rows'⟩ := j
  cases hwidth
  cases hheight
  refine congrArg (mk width height) (Vector.ext fun r hr => Vector.ext fun c hc => ?_)
  have hdot := h r hr c hc
  rw [at?_eq_some hr hc, at?_eq_some hr hc] at hdot
  exact Option.some.inj hdot

theorem at?_cover (mask : Vector (Vector Bool i.width) i.height) (color : Color)
    (hr : r < i.height) (hc : c < i.width) :
    (i.cover mask color).at? r c = if mask[r][c] then some color else i.at? r c := by
  rw [at?_eq_some hr hc]
  refine (at?_eq_some (i := i.cover mask color) hr hc).trans ?_
  simp only [cover, Vector.getElem_zipWith]
  split <;> rfl

theorem at?_mapColors (f : Color → Color) (hr : r < i.height) (hc : c < i.width) :
    (i.mapColors f).at? r c = (i.at? r c).map f := by
  rw [at?_eq_some hr hc, Option.map_some]
  refine (at?_eq_some (i := i.mapColors f) hr hc).trans (congrArg some ?_)
  change (i.rows.map fun row => row.map f)[r][c] = f i.rows[r][c]
  rw [Vector.getElem_map, Vector.getElem_map]

/-- A place among `n * scale` dots belongs to one of `n` squares. -/
theorem div_scale_lt {k n scale : Nat} (h : k < n * scale) : k / scale < n :=
  Nat.div_lt_of_lt_mul (by rwa [Nat.mul_comm])

theorem at?_repeatRows (hr : r < i.height * scale) (hc : c < i.width) :
    (i.repeatRows scale).at? r c = i.at? (r / scale) c := by
  rw [at?_eq_some (div_scale_lt hr) hc]
  refine (at?_eq_some (i := i.repeatRows scale) hr hc).trans (congrArg some ?_)
  simp only [repeatRows, Vector.getElem_flatMap, Vector.getElem_replicate]

theorem at?_repeatColumns (hr : r < i.height) (hc : c < i.width * scale) :
    (i.repeatColumns scale).at? r c = i.at? r (c / scale) := by
  rw [at?_eq_some hr (div_scale_lt hc)]
  refine (at?_eq_some (i := i.repeatColumns scale) hr hc).trans (congrArg some ?_)
  simp only [repeatColumns, Vector.getElem_map, Vector.getElem_flatMap, Vector.getElem_replicate]

/-- **A dot of an enlarged image belongs to the square of a dot.** -/
theorem at?_enlarge (hr : r < i.height * scale) (hc : c < i.width * scale) :
    (i.enlarge scale).at? r c = i.at? (r / scale) (c / scale) := by
  have hrows : c / scale < (i.repeatRows scale).width := div_scale_lt hc
  rw [enlarge, at?_repeatColumns (i := i.repeatRows scale) hr hc, at?_repeatRows hr hrows]

theorem enlarge_one (i : Image) : i.enlarge 1 = i := by
  refine eq_of_at? (Nat.mul_one _) (Nat.mul_one _) fun r hr c hc => ?_
  rw [at?_enlarge hr hc, Nat.div_one, Nat.div_one]

end Image

namespace PixelGrid

/-- The image of a grid with one dot for each pixel. -/
def picture (g : PixelGrid) (scheme : ColorScheme) : Image :=
  let lit := transposed g.columns
  let dark := lit.map fun row => row.map (!·)
  ((Image.black g.width g.height).cover lit scheme.on).cover dark scheme.off

/-- The image of a grid with squares of `scale` by `scale` dots. Only a scale above one enlarges
it. -/
def paint (g : PixelGrid) (scale : Nat) (scheme : ColorScheme) : Image :=
  if 1 < scale then (g.picture scheme).enlarge scale else g.picture scheme

theorem at?_picture (g : PixelGrid) (scheme : ColorScheme) {r c : Nat} (hr : r < g.height)
    (hc : c < g.width) :
    (g.picture scheme).at? r c = some (if g.lit c r then scheme.on else scheme.off) := by
  have hlit : (transposed g.columns)[r][c] = g.lit c r := by
    simp [transposed, g.lit_eq_getElem hc hr]
  have hdark : ((transposed g.columns).map fun row => row.map (!·))[r][c] = !g.lit c r := by
    rw [Vector.getElem_map, Vector.getElem_map, hlit]
  let covered := (Image.black g.width g.height).cover (transposed g.columns) scheme.on
  have hcovered : covered.at? r c =
      if g.lit c r then some scheme.on else (Image.black g.width g.height).at? r c := by
    rw [← hlit]
    exact Image.at?_cover _ scheme.on hr hc
  have hpicture : (g.picture scheme).at? r c =
      if !g.lit c r then some scheme.off else covered.at? r c := by
    rw [← hdark]
    exact Image.at?_cover (i := covered) _ scheme.off hr hc
  rw [hpicture, hcovered]
  cases g.lit c r <;> rfl

/-- The image at a scale is the enlarged image with one dot for each pixel. -/
theorem paint_eq (g : PixelGrid) (scheme : ColorScheme) {scale : Nat} (hscale : 1 ≤ scale) :
    g.paint scale scheme = (g.picture scheme).enlarge scale := by
  rw [paint]
  split
  · rfl
  · obtain rfl : scale = 1 := by omega
    rw [Image.enlarge_one]

theorem enlarge_paint (g : PixelGrid) (scheme : ColorScheme) {scale : Nat} (hscale : 1 ≤ scale) :
    (g.paint 1 scheme).enlarge scale = g.paint scale scheme := by
  rw [g.paint_eq scheme (Nat.le_refl 1), Image.enlarge_one, g.paint_eq scheme hscale]

theorem size_paint (g : PixelGrid) (scheme : ColorScheme) {scale : Nat} (hscale : 1 ≤ scale) :
    (g.paint scale scheme).width = g.width * scale ∧
      (g.paint scale scheme).height = g.height * scale := by
  rw [g.paint_eq scheme hscale]
  exact ⟨rfl, rfl⟩

/-- **A dot of the image belongs to the square of a pixel.** -/
theorem at?_paint (g : PixelGrid) (scheme : ColorScheme) {scale r c : Nat} (hscale : 1 ≤ scale)
    (hr : r < g.height * scale) (hc : c < g.width * scale) :
    (g.paint scale scheme).at? r c =
      some (if g.lit (c / scale) (r / scale) then scheme.on else scheme.off) := by
  have hrow : r / scale < g.height := Image.div_scale_lt hr
  have hcolumn : c / scale < g.width := Image.div_scale_lt hc
  rw [g.paint_eq scheme hscale, Image.at?_enlarge (i := g.picture scheme) hr hc,
    g.at?_picture scheme hrow hcolumn]

/-- Refuses a scale below one. -/
def checkScale (scale : Int) : Except Error Unit :=
  if scale < 1 then .error (.misuse (.scaleNotPositive scale)) else .ok ()

/-- The image of a grid at a scale of at least one. -/
def draw (g : PixelGrid) (scale : Int) (scheme : ColorScheme) : Except Error Image := do
  checkScale scale
  return g.paint scale.toNat scheme

/-- The image of a grid in colors mixed by the host. -/
def drawMixed (g : PixelGrid) (scale : Int) (on off : Mixture) : Except Error Image := do
  checkScale scale
  let scheme := ⟨← on.toColor, ← off.toColor⟩
  g.draw scale scheme

end PixelGrid

end Chip8
