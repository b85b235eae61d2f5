import Mathlib.Data.List.Forall2
import Chip8.Picture.Video
import Chip8.Proofs.Glow

/-!
# Films

What a video writer is handed. It is opened once, handed one image for each picture up to the first
picture that does not fit, and released. Without persistence these images are the pictures drawn at
the scale of the video, as long as the scale is at least one and the pictures have the size of the
screen. A smaller scale and a picture with a single column or row are not refused, and then the
images have another size than the writer was opened for, or than the pictures.

## Main definitions

* `Chip8.filmed` : the calls of a writer that was handed images.
* `Chip8.VideoSettings.screens` : the glow of the screen in the frames of a video.
* `Chip8.Image.Shows` : an image shows the pixels of a grid as squares of dots.
* `Chip8.Image.Reverses` : an image has the dots of another, written blue channel first.
* `Chip8.Recorder.CanFilm` : the pictures, the colors and the rate of a recorder make a video.
* `Chip8.IsFaithful` : the images of a video are its pictures, enlarged to its size.

## Main results

* `Chip8.VideoSettings.frames_fst_eq_ok_iff` : the pictures that make a video.
* `Chip8.Recorder.film_eq` : the calls of a writer.
* `Chip8.drawn_and_filmed` : still pictures and videos show the same.
* `Chip8.Recorder.film_isFaithful_iff` : the videos that keep their size and their pictures.
-/

namespace Chip8

open Decimal

/-! ### The screen -/

namespace Phosphor

variable {s : Phosphor} {p q : Nat}

/-- The glow of a pixel. Outside the screen nothing glows. -/
def glow (s : Phosphor) (p q : Nat) : Glow :=
  (s.columns[p]?.bind fun column => column[q]?).getD Glow.zero

theorem glow_eq_getElem (hp : p < screenWidth) (hq : q < screenHeight) :
    s.glow p q = s.columns[p][q] := by
  simp [glow, hp, hq]

theorem glow_dark (p q : Nat) : dark.glow p q = Glow.zero := by
  by_cases h : p < screenWidth ∧ q < screenHeight
  · rw [glow_eq_getElem h.1 h.2]
    simp [dark]
  · by_cases hp : p < screenWidth
    · have hq : screenHeight ≤ q := by omega
      simp [glow, hp, hq]
    · simp [glow, Nat.not_lt.1 hp]

theorem glow_expose (hp : p < screenWidth) (hq : q < screenHeight) (g : PixelGrid) :
    (s.expose g).glow p q = (s.glow p q).next (g.litOnScreen p q) := by
  rw [glow_eq_getElem hp hq, glow_eq_getElem hp hq]
  simp [expose]

theorem glow_ofPicture (hp : p < screenWidth) (hq : q < screenHeight) (g : PixelGrid) :
    (ofPicture g).glow p q = Glow.ofPixel (g.litOnScreen p q) := by
  rw [glow_eq_getElem hp hq]
  simp [ofPicture]

theorem at?_image (colors : ColorScheme) (hp : p < screenWidth) (hq : q < screenHeight) :
    (s.image colors).at? q p = some ((s.glow p q).color colors) := by
  rw [glow_eq_getElem hp hq]
  refine (Image.at?_eq_some (i := s.image colors) hq hp).trans (congrArg some ?_)
  simp only [image, transposed, Vector.getElem_map, Vector.getElem_ofFn, Fin.getElem_fin]

end Phosphor

theorem PixelGrid.litOnScreen_eq {g : PixelGrid} (hwidth : g.width = screenWidth)
    (hheight : g.height = screenHeight) (p q : Nat) : g.litOnScreen p q = g.lit p q := by
  simp [litOnScreen, hwidth, hheight]

/-! ### The frames of a video -/

namespace VideoSettings

variable {v : VideoSettings} {colors : ColorScheme} {l : List PixelGrid}

/-- The glow of the screen in the frames of a video, from a screen that glows already. -/
def screens (v : VideoSettings) (screen : Phosphor) : List PixelGrid → List Phosphor
  | [] => []
  | g :: l =>
    let shown := if v.persistence then screen.expose g else .ofPicture g
    shown :: v.screens shown l

theorem length_screens (v : VideoSettings) (screen : Phosphor) (l : List PixelGrid) :
    (v.screens screen l).length = l.length := by
  induction l generalizing screen with
  | nil => rfl
  | cons g l ih => rw [screens, List.length_cons, ih, List.length_cons]

theorem expose_of_coversScreen {g : PixelGrid} (h : g.CoversScreen) (screen : Phosphor) :
    v.expose screen g = .ok (if v.persistence then screen.expose g else .ofPicture g) := by
  unfold expose
  cases v.persistence <;> simp [h]

theorem exists_expose_eq_error {g : PixelGrid} (h : ¬g.CoversScreen) (screen : Phosphor) :
    ∃ e, v.expose screen g = .error e := by
  unfold expose
  cases v.persistence <;> simp [h]

theorem frames_of_coversScreen (h : ∀ g ∈ l, g.CoversScreen) (screen : Phosphor) :
    v.frames colors screen l = (.ok (), (v.screens screen l).map (v.frame colors)) := by
  induction l generalizing screen with
  | nil => rfl
  | cons g l ih =>
    have hl : ∀ g ∈ l, g.CoversScreen := fun g hg => h g (List.mem_cons_of_mem _ hg)
    rw [frames, expose_of_coversScreen (h g (List.mem_cons_self ..))]
    simp only [ih hl, screens, List.map_cons]

/-- **The pictures make a video** if and only if all of them cover the screen. -/
theorem frames_fst_eq_ok_iff (v : VideoSettings) (colors : ColorScheme) (screen : Phosphor) :
    (v.frames colors screen l).1 = .ok () ↔ ∀ g ∈ l, g.CoversScreen := by
  refine ⟨fun h => ?_, fun h => by rw [frames_of_coversScreen h]⟩
  induction l generalizing screen with
  | nil => simp
  | cons g l ih =>
    by_cases hg : g.CoversScreen
    · rw [frames, expose_of_coversScreen hg] at h
      exact List.forall_mem_cons.2 ⟨hg, ih _ h⟩
    · obtain ⟨e, he⟩ := exists_expose_eq_error (v := v) hg screen
      rw [frames, he] at h
      cases h

theorem screens_of_not_persistence (h : v.persistence = false) (screen : Phosphor)
    (l : List PixelGrid) : v.screens screen l = l.map .ofPicture := by
  induction l generalizing screen with
  | nil => rfl
  | cons g l ih =>
    rw [screens, ih, h]
    rfl

/-- The number of dots along the side of a pixel. -/
def magnification (v : VideoSettings) : Nat :=
  max 1 v.scale.toNat

theorem magnification_eq (h : 1 ≤ v.scale) : v.magnification = v.scale.toNat := by
  rw [magnification]
  omega

theorem frame_eq (v : VideoSettings) (colors : ColorScheme) (screen : Phosphor) :
    v.frame colors screen =
      ((screen.image colors).enlarge v.magnification).mapColors Color.swapRedBlue := by
  rw [frame]
  by_cases h : 1 < v.scale
  · rw [if_pos h, magnification_eq h.le]
  · have hm : v.magnification = 1 := by
      rw [magnification]
      omega
    rw [if_neg h, hm, Image.enlarge_one]

/-- A dot of a frame has the color of the glow of its pixel, with two channels exchanged. -/
theorem at?_frame (colors : ColorScheme) (screen : Phosphor) {row column : Nat}
    (hrow : row < screenHeight * v.magnification)
    (hcolumn : column < screenWidth * v.magnification) :
    (v.frame colors screen).at? row column =
      some ((screen.glow (column / v.magnification) (row / v.magnification)).color
        colors).swapRedBlue := by
  have hp := Image.div_scale_lt hcolumn
  have hq := Image.div_scale_lt hrow
  rw [frame_eq, Image.at?_mapColors _ hrow hcolumn, Image.at?_enlarge hrow hcolumn,
    Phosphor.at?_image colors hp hq, Option.map_some]

theorem size_frame (v : VideoSettings) (colors : ColorScheme) (screen : Phosphor) :
    (v.frame colors screen).width = screenWidth * v.magnification ∧
      (v.frame colors screen).height = screenHeight * v.magnification := by
  rw [frame_eq]
  exact ⟨rfl, rfl⟩

theorem size_frame_of_le (h : 1 ≤ v.scale) (colors : ColorScheme) (screen : Phosphor) :
    (v.frame colors screen).width = screenWidth * v.scale ∧
      (v.frame colors screen).height = screenHeight * v.scale := by
  have hscale : (v.magnification : Int) = v.scale := by
    rw [magnification_eq h, Int.toNat_of_nonneg (by omega)]
  obtain ⟨hwidth, hheight⟩ := v.size_frame colors screen
  rw [hwidth, hheight, Nat.cast_mul, Nat.cast_mul, hscale]
  exact ⟨rfl, rfl⟩

/-- At a scale below one a frame has another size, since it is never smaller than the screen. -/
theorem one_le_scale_of_width_frame {screen : Phosphor}
    (h : (v.frame colors screen).width = screenWidth * v.scale) : 1 ≤ v.scale := by
  rw [(v.size_frame colors screen).1, magnification] at h
  simp only [screenWidth] at h
  omega

end VideoSettings

/-! ### The calls of a writer -/

/-- The calls of a writer that is opened, handed images, and released. -/
def filmed (name : String) (rate : Float) (width height : Int) (images : List Image) :
    List VideoCall :=
  .opened name rate width height :: images.map .wrote ++ [.released]

/-- The number is zero. -/
def Number.IsZero : Number → Prop
  | .int n => n = 0
  | .real x => (x == 0) = true

instance : (n : Number) → Decidable n.IsZero
  | .int n => inferInstanceAs (Decidable (n = 0))
  | .real x => inferInstanceAs (Decidable ((x == 0) = true))

theorem VideoSettings.exists_duration_eq_ok_iff (v : VideoSettings) (count : Nat) :
    (∃ seconds, v.duration count = .ok seconds) ↔ ¬v.rate.IsZero := by
  unfold duration
  split
  · rename_i hrate
    simp [hrate, Number.IsZero]
  · rename_i n hn hrate
    have hne : n ≠ 0 := by
      rintro rfl
      exact hn rfl
    simp [hrate, Number.IsZero, hne]
  · rename_i x hrate
    by_cases h : (x == 0) = true <;> simp [hrate, Number.IsZero, h]

namespace Recorder

variable {r : Recorder} {v : VideoSettings} {colors : ColorScheme} {rate : Float}

theorem checked_eq_ok_iff {scheme : String} :
    (do r.checkNonempty; ColorScheme.ofName scheme) = .ok colors ↔
      r.frames ≠ [] ∧ ColorScheme.ofName scheme = .ok colors := by
  by_cases h : r.frames = []
  · rw [checkNonempty, h]
    simp [bind, Except.bind]
  · rw [checkNonempty, if_neg (by simpa using h)]
    simp [bind, Except.bind, h]

/-- A video is refused before its writer is opened, or it has pictures, colors and a rate. -/
theorem film_refused_or_opens (r : Recorder) (v : VideoSettings) (name : String) (now : Float) :
    (∃ e, r.film v name now = { result := .error e }) ∨
      r.frames ≠ [] ∧ (∃ colors, ColorScheme.ofName v.scheme = .ok colors) ∧
        ∃ rate, v.rate.toFloat? = some rate := by
  cases hcheck : (do r.checkNonempty; ColorScheme.ofName v.scheme) with
  | error e =>
    refine .inl ⟨e, ?_⟩
    simp only [film, hcheck]
  | ok colors =>
    cases hrate : v.rate.toFloat? with
    | none =>
      refine .inl ⟨.misuse .numberTooLarge, ?_⟩
      simp only [film, hcheck, hrate]
    | some rate =>
      obtain ⟨hne, hcolors⟩ := checked_eq_ok_iff.1 hcheck
      exact .inr ⟨hne, ⟨colors, hcolors⟩, rate, rfl⟩

/-- **The video of a recorder** that has pictures, colors and a rate: the writer is opened, handed
the frames, and released, whatever happens. It is made if every picture covers the screen and the
rate is not zero. -/
theorem film_eq (name : String) (now : Float) (hne : r.frames ≠ [])
    (hcolors : ColorScheme.ofName v.scheme = .ok colors) (hrate : v.rate.toFloat? = some rate) :
    (r.film v name now).calls =
        filmed name rate (screenWidth * v.scale) (screenHeight * v.scale)
          (v.frames colors .dark r.frames).2 ∧
      ((r.film v name now).result = .ok () ↔
        (∀ g ∈ r.frames, g.CoversScreen) ∧ ¬v.rate.IsZero) := by
  have hcheck : (do r.checkNonempty; ColorScheme.ofName v.scheme) = .ok colors :=
    checked_eq_ok_iff.2 ⟨hne, hcolors⟩
  rw [← v.frames_fst_eq_ok_iff colors .dark, ← v.exists_duration_eq_ok_iff r.frames.length]
  simp only [film, hcheck, hrate]
  cases (v.frames colors .dark r.frames).1 with
  | error e => exact ⟨rfl, by simp [bind, Except.bind]⟩
  | ok u =>
    cases v.duration r.frames.length with
    | error e => exact ⟨rfl, by simp [bind, Except.bind]⟩
    | ok seconds => exact ⟨rfl, by simp [bind, Except.bind]⟩

theorem film_of_coversScreen (name : String) (now : Float) (hne : r.frames ≠ [])
    (hcolors : ColorScheme.ofName v.scheme = .ok colors) (hrate : v.rate.toFloat? = some rate)
    (hcovers : ∀ g ∈ r.frames, g.CoversScreen) :
    (r.film v name now).calls =
        filmed name rate (screenWidth * v.scale) (screenHeight * v.scale)
          ((v.screens .dark r.frames).map (v.frame colors)) ∧
      ((r.film v name now).result = .ok () ↔ ¬v.rate.IsZero) := by
  obtain ⟨hcalls, hresult⟩ := film_eq name now hne hcolors hrate
  rw [VideoSettings.frames_of_coversScreen hcovers] at hcalls
  exact ⟨hcalls, hresult.trans (and_iff_right hcovers)⟩

end Recorder

/-! ### Still pictures -/

/-- The color as the host mixes it. -/
def Mixture.ofColor (c : Color) : Mixture :=
  ⟨c.red.toNat, c.green.toNat, c.blue.toNat⟩

theorem toByte_toNat (b : UInt8) : toByte b.toNat = .ok b := by
  have hlt := b.toNat_lt
  have hbyte : isByte b.toNat := isByte_iff.2 (by omega)
  have hint : UInt8.ofInt b.toNat = b := by
    rw [UInt8.ofInt, ← UInt8.toNat_inj]
    simp only [UInt8.toNat_ofNat']
    omega
  rw [toByte, if_pos hbyte, hint]

theorem Mixture.toColor_ofColor (c : Color) : (ofColor c).toColor = .ok c := by
  simp only [toColor, ofColor, toByte_toNat]
  rfl

/-- The image shows the pixels of a grid in two colors, each pixel as a square of dots. -/
structure Image.Shows (i : Image) (g : PixelGrid) (scale : Nat) (scheme : ColorScheme) : Prop where
  /-- The columns of dots. -/
  width_eq : i.width = g.width * scale
  /-- The rows of dots. -/
  height_eq : i.height = g.height * scale
  /-- A dot has the color of the pixel in whose square it lies. -/
  at?_eq : ∀ row < i.height, ∀ column < i.width, i.at? row column =
    some (if g.lit (column / scale) (row / scale) then scheme.on else scheme.off)

/-- The image as a video writer expects it: the channels of every dot are blue, green and red. -/
structure Image.Reverses (written image : Image) : Prop where
  /-- The columns of dots. -/
  width_eq : written.width = image.width
  /-- The rows of dots. -/
  height_eq : written.height = image.height
  /-- The first channel of a dot is the blue one, and the last the red one. -/
  at?_eq : ∀ row < image.height, ∀ column < image.width,
    written.at? row column = (image.at? row column).map fun c => ⟨c.blue, c.green, c.red⟩

theorem Image.reverses_mapColors (image : Image) :
    (image.mapColors Color.swapRedBlue).Reverses image where
  width_eq := rfl
  height_eq := rfl
  at?_eq _ hrow _ hcolumn := at?_mapColors _ hrow hcolumn

namespace PixelGrid

theorem shows_paint (g : PixelGrid) {scale : Nat} (hscale : 1 ≤ scale) (scheme : ColorScheme) :
    (g.paint scale scheme).Shows g scale scheme := by
  obtain ⟨hwidth, hheight⟩ := g.size_paint scheme hscale
  refine ⟨hwidth, hheight, fun row hrow column hcolumn => ?_⟩
  rw [hheight] at hrow
  rw [hwidth] at hcolumn
  exact g.at?_paint scheme hscale hrow hcolumn

theorem drawMixed_eq (g : PixelGrid) {scale : Int} (hscale : 1 ≤ scale) (on off : Color) :
    g.drawMixed scale (.ofColor on) (.ofColor off) = .ok (g.paint scale.toNat ⟨on, off⟩) := by
  have hcheck : checkScale scale = .ok () := if_neg (by omega)
  simp only [drawMixed, draw, hcheck, Mixture.toColor_ofColor]
  rfl

end PixelGrid

/-! ### Videos without persistence -/

theorem Glow.color_ofPixel (scheme : ColorScheme) (lit : Bool) :
    (ofPixel lit).color scheme = if lit then scheme.on else scheme.off := by
  cases lit
  · exact color_zero scheme
  · exact color_full scheme

theorem VideoSettings.magnification_pos (v : VideoSettings) : 1 ≤ v.magnification :=
  Nat.le_max_left _ _

theorem VideoSettings.frame_ofPicture (v : VideoSettings) (colors : ColorScheme) {g : PixelGrid}
    (hwidth : g.width = screenWidth) (hheight : g.height = screenHeight) :
    v.frame colors (.ofPicture g) =
      (g.paint v.magnification colors).mapColors Color.swapRedBlue := by
  obtain ⟨hw, hh⟩ := v.size_frame colors (.ofPicture g)
  obtain ⟨hpw, hph⟩ := g.size_paint colors v.magnification_pos
  refine Image.eq_of_at? ?_ ?_ fun row hrow column hcolumn => ?_
  · rw [hw, ← hwidth]
    exact hpw.symm
  · rw [hh, ← hheight]
    exact hph.symm
  · rw [hh] at hrow
    rw [hw] at hcolumn
    have hrow' : row < g.height * v.magnification := by rwa [hheight]
    have hcolumn' : column < g.width * v.magnification := by rwa [hwidth]
    rw [v.at?_frame colors _ hrow hcolumn,
      Image.at?_mapColors _ (by rwa [hph]) (by rwa [hpw]),
      g.at?_paint colors v.magnification_pos hrow' hcolumn',
      Phosphor.glow_ofPicture (Image.div_scale_lt hcolumn) (Image.div_scale_lt hrow),
      PixelGrid.litOnScreen_eq hwidth hheight, Glow.color_ofPixel, Option.map_some]

/-- The recorder has pictures of the size of the screen, and the settings have a scale of at least
one, known colors, and a rate that is a double. -/
structure Recorder.CanFilm (r : Recorder) (v : VideoSettings) (colors : ColorScheme)
    (rate : Float) : Prop where
  /-- There is a picture. -/
  nonempty : r.frames ≠ []
  /-- All pictures have the size of the screen. -/
  size : ∀ g ∈ r.frames, g.width = screenWidth ∧ g.height = screenHeight
  /-- The scale is one that pictures are drawn at. -/
  scale : 1 ≤ v.scale
  /-- The scheme has a name. -/
  colors : ColorScheme.ofName v.scheme = .ok colors
  /-- The rate is a double. -/
  rate : v.rate.toFloat? = some rate

namespace Recorder.CanFilm

variable {r : Recorder} {v : VideoSettings} {colors : ColorScheme} {rate : Float}

theorem coversScreen (h : r.CanFilm v colors rate) : ∀ g ∈ r.frames, g.CoversScreen :=
  fun g hg => ⟨.inr (h.size g hg).1, .inr (h.size g hg).2⟩

/-- The writer is handed a frame for every picture, and only a rate of zero ends in an error. -/
theorem film_eq (h : r.CanFilm v colors rate) (name : String) (now : Float) :
    (r.film v name now).calls =
        filmed name rate (screenWidth * v.scale) (screenHeight * v.scale)
          ((v.screens .dark r.frames).map (v.frame colors)) ∧
      ((r.film v name now).result = .ok () ↔ ¬v.rate.IsZero) :=
  film_of_coversScreen name now h.nonempty h.colors h.rate h.coversScreen

end Recorder.CanFilm

/-- **Still pictures and videos show the same.** A grid of any size is drawn at every scale of at
least one, and the image shows its pixels. A video without persistence has exactly one frame for
each picture, in order, and that is the image of the picture with the channels in the order blue,
green, red. -/
theorem drawn_and_filmed :
    (∀ (g : PixelGrid) (scale : Int) (on off : Color), 1 ≤ scale →
      ∃ image, g.drawMixed scale (.ofColor on) (.ofColor off) = .ok image ∧
        image.Shows g scale.toNat ⟨on, off⟩) ∧
    ∀ (r : Recorder) (v : VideoSettings) (colors : ColorScheme) (rate : Float) (name : String)
      (now : Float), r.CanFilm v colors rate → v.persistence = false →
      ∃ images written,
        List.Forall₂ (fun g image =>
          g.drawMixed v.scale (.ofColor colors.on) (.ofColor colors.off) = .ok image)
          r.frames images ∧
        List.Forall₂ Image.Reverses written images ∧
        (r.film v name now).calls =
          filmed name rate (screenWidth * v.scale) (screenHeight * v.scale) written ∧
        ((r.film v name now).result = .ok () ↔ ¬v.rate.IsZero) := by
  refine ⟨fun g scale on off hscale =>
    ⟨_, g.drawMixed_eq hscale on off, g.shows_paint (by omega) _⟩, ?_⟩
  intro r v colors rate name now h hpersistence
  obtain ⟨hcalls, hresult⟩ := h.film_eq name now
  let images := r.frames.map fun g => g.paint v.scale.toNat colors
  refine ⟨images, images.map (·.mapColors Color.swapRedBlue), ?_, ?_, ?_, hresult⟩
  · rw [List.forall₂_map_right_iff, List.forall₂_same]
    exact fun g _ => g.drawMixed_eq h.scale colors.on colors.off
  · rw [List.forall₂_map_left_iff, List.forall₂_same]
    exact fun image _ => image.reverses_mapColors
  · have hframes : (v.screens .dark r.frames).map (v.frame colors) =
        images.map (·.mapColors Color.swapRedBlue) := by
      rw [VideoSettings.screens_of_not_persistence hpersistence, List.map_map, List.map_map]
      refine List.map_congr_left fun g hg => ?_
      obtain ⟨hwidth, hheight⟩ := h.size g hg
      rw [Function.comp_apply, Function.comp_apply, v.frame_ofPicture colors hwidth hheight,
        VideoSettings.magnification_eq h.scale]
    rw [hcalls, hframes]

/-- Two pictures in yellow on purple, whose blue channel is brighter in the dark. The pixel in
column 3 and row 5 is yellow, and the writer is handed its blue channel, which is dark, first. -/
theorem drawn_and_filmed_retro :
    let g := (PixelGrid.dark 64 32).invert 3 5
    let r : Recorder := { frames := [g, .dark 64 32] }
    let v : VideoSettings :=
      { rate := .int 30, scale := 2, scheme := "retro", persistence := false }
    ∃ image written written',
      g.drawMixed 2 (.ofColor ColorScheme.retro.on) (.ofColor ColorScheme.retro.off) = .ok image ∧
      image.Shows g 2 .retro ∧ image.at? 11 7 = some ⟨255, 255, 0⟩ ∧
      (r.film v "run.mp4" 0).calls = filmed "run.mp4" 30 128 64 [written, written'] ∧
      written.Reverses image ∧ written.at? 11 7 = some ⟨0, 255, 255⟩ ∧
      (r.film v "run.mp4" 0).result = .ok () := by
  intro g r v
  have hcan : r.CanFilm v .retro 30 :=
    { nonempty := List.cons_ne_nil _ _
      size := by decide
      scale := by decide
      colors := rfl
      rate := rfl }
  have hrate : ¬v.rate.IsZero := by decide
  obtain ⟨image, himage, hshows⟩ :=
    drawn_and_filmed.1 g 2 ColorScheme.retro.on ColorScheme.retro.off (by decide)
  obtain ⟨images, written, hdrawn, hwritten, hcalls, hresult⟩ :=
    drawn_and_filmed.2 r v .retro 30 "run.mp4" 0 hcan rfl
  obtain _ | ⟨hfirst, _ | ⟨hsecond, _ | _⟩⟩ := hdrawn
  obtain _ | @⟨w, _, _, _, hw, _ | @⟨w', _, _, _, hw', _ | _⟩⟩ := hwritten
  obtain rfl := Except.ok.inj (himage.symm.trans hfirst)
  have hrow : 11 < image.height := by
    rw [hshows.height_eq]
    decide
  have hcolumn : 7 < image.width := by
    rw [hshows.width_eq]
    decide
  have hdot : image.at? 11 7 = some ⟨255, 255, 0⟩ := by
    rw [hshows.at?_eq 11 hrow 7 hcolumn]
    decide
  refine ⟨image, w, w', himage, hshows, hdot, hcalls, hw, ?_, hresult.2 hrate⟩
  rw [hw.at?_eq 11 hrow 7 hcolumn, hdot]
  rfl

/-! ### Videos that keep their size -/

/-- The images of a video have the size that the writer was opened for, and they are the pictures,
enlarged by the scale, with two channels exchanged. -/
structure IsFaithful (frames : List PixelGrid) (colors : ColorScheme) (scale : Int)
    (images : List Image) : Prop where
  /-- All images have the size of the video. -/
  size : ∀ image ∈ images, image.width = screenWidth * scale ∧ image.height = screenHeight * scale
  /-- They are the enlarged pictures, in order. -/
  eq_map : images = frames.map fun g =>
    ((g.paint 1 colors).enlarge scale.toNat).mapColors Color.swapRedBlue

theorem VideoSettings.frame_ofPicture_eq_iff (v : VideoSettings) (colors : ColorScheme)
    (g : PixelGrid) :
    v.frame colors (.ofPicture g) = (g.paint v.magnification colors).mapColors Color.swapRedBlue ↔
      g.width = screenWidth ∧ g.height = screenHeight := by
  refine ⟨fun hframe => ?_, fun h => v.frame_ofPicture colors h.1 h.2⟩
  obtain ⟨hw, hh⟩ := v.size_frame colors (.ofPicture g)
  obtain ⟨hpw, hph⟩ := g.size_paint colors v.magnification_pos
  rw [hframe] at hw hh
  exact ⟨Nat.eq_of_mul_eq_mul_right v.magnification_pos (hpw.symm.trans hw),
    Nat.eq_of_mul_eq_mul_right v.magnification_pos (hph.symm.trans hh)⟩

/-- The frames of a video without persistence are faithful to the pictures for every scale of at
least one and pictures of the size of the screen, and for no others: a frame is never smaller than
the screen, and its size does not depend on the picture. -/
theorem VideoSettings.isFaithful_frames_iff {v : VideoSettings}
    (hpersistence : v.persistence = false) {frames : List PixelGrid} (hne : frames ≠ [])
    (colors : ColorScheme) :
    IsFaithful frames colors v.scale ((v.screens .dark frames).map (v.frame colors)) ↔
      1 ≤ v.scale ∧ ∀ g ∈ frames, g.width = screenWidth ∧ g.height = screenHeight := by
  rw [screens_of_not_persistence hpersistence, List.map_map]
  constructor
  · rintro ⟨hsize, hmap⟩
    obtain ⟨g, hg⟩ := List.exists_mem_of_ne_nil frames hne
    have hscale : 1 ≤ v.scale :=
      one_le_scale_of_width_frame (hsize _ (List.mem_map_of_mem hg)).1
    refine ⟨hscale, fun g hg => ?_⟩
    have hframe := List.map_inj_left.1 hmap g hg
    rw [Function.comp_apply, g.enlarge_paint colors (by omega), ← magnification_eq hscale] at hframe
    exact (v.frame_ofPicture_eq_iff colors g).1 hframe
  · rintro ⟨hscale, hframes⟩
    constructor
    · intro image himage
      obtain ⟨g, hg, rfl⟩ := List.mem_map.1 himage
      exact size_frame_of_le hscale colors _
    · refine List.map_congr_left fun g hg => ?_
      rw [Function.comp_apply, g.enlarge_paint colors (by omega), ← magnification_eq hscale]
      exact (v.frame_ofPicture_eq_iff colors g).2 (hframes g hg)

namespace Recorder

/-- **The videos that keep their size and their pictures.** Either no writer is opened and there is
an error, or the writer is opened, handed images, and released once, after the last image. A picture
that does not cover the screen ends in an error. A video without persistence that is made has one
image for each picture. They are faithful exactly if the scale is at least one and every picture has
the size of the screen: neither a smaller scale nor a picture with a single column or row is
refused. -/
theorem film_isFaithful_iff (r : Recorder) (v : VideoSettings) (name : String) (now : Float) :
    (((r.film v name now).calls = [] ∧ ∃ e, (r.film v name now).result = .error e) ∨
      ∃ rate images, (r.film v name now).calls =
        filmed name rate (screenWidth * v.scale) (screenHeight * v.scale) images) ∧
    ((∃ g ∈ r.frames, ¬g.CoversScreen) → ∃ e, (r.film v name now).result = .error e) ∧
    (v.persistence = false → (r.film v name now).result = .ok () →
      ∃ rate colors images,
        (r.film v name now).calls =
          filmed name rate (screenWidth * v.scale) (screenHeight * v.scale) images ∧
        ColorScheme.ofName v.scheme = .ok colors ∧ images.length = r.frames.length ∧
        (IsFaithful r.frames colors v.scale images ↔
          1 ≤ v.scale ∧ ∀ g ∈ r.frames, g.width = screenWidth ∧ g.height = screenHeight)) := by
  rcases r.film_refused_or_opens v name now with ⟨e, he⟩ | ⟨hne, ⟨colors, hcolors⟩, rate, hrate⟩
  · rw [he]
    exact ⟨.inl ⟨rfl, e, rfl⟩, fun _ => ⟨e, rfl⟩, fun _ hok => nomatch hok⟩
  · obtain ⟨hcalls, hresult⟩ := film_eq name now hne hcolors hrate
    refine ⟨.inr ⟨rate, _, hcalls⟩, ?_, fun hpersistence hok => ?_⟩
    · rintro ⟨g, hg, hsmall⟩
      cases h : (r.film v name now).result with
      | error e => exact ⟨e, rfl⟩
      | ok u => exact absurd ((hresult.1 h).1 g hg) hsmall
    · rw [VideoSettings.frames_of_coversScreen (hresult.1 hok).1] at hcalls
      refine ⟨rate, colors, _, hcalls, hcolors, ?_,
        VideoSettings.isFaithful_frames_iff hpersistence hne colors⟩
      rw [List.length_map, v.length_screens]

/-- A dark screen is filmed faithfully at scale two, and a picture of four columns and three rows is
refused. -/
theorem film_isFaithful_iff_darkScreen :
    let r : Recorder := { frames := [.dark 64 32] }
    let v : VideoSettings := { scale := 2, persistence := false }
    (∃ rate colors images, (r.film v "run.mp4" 0).calls = filmed "run.mp4" rate 128 64 images ∧
      IsFaithful r.frames colors 2 images) ∧
    ∃ e, (film { frames := [.dark 4 3] } v "run.mp4" 0).result = .error e := by
  intro r v
  have hcolors : ColorScheme.ofName v.scheme = .ok .classic := rfl
  have hok : (r.film v "run.mp4" 0).result = .ok () :=
    (film_of_coversScreen "run.mp4" 0 (List.cons_ne_nil _ _) hcolors rfl (by decide)).2.2
      (by decide)
  obtain ⟨rate, colors, images, hcalls, -, -, hfaithful⟩ :=
    (film_isFaithful_iff r v "run.mp4" 0).2.2 rfl hok
  refine ⟨⟨rate, colors, images, hcalls, hfaithful.2 (by decide)⟩, ?_⟩
  exact (film_isFaithful_iff { frames := [.dark 4 3] } v "run.mp4" 0).2.1
    ⟨_, List.mem_singleton_self _, by decide⟩

/-- At scale zero a writer for frames without dots is handed a frame of the size of the screen. At
scale two a picture of a single lit pixel fills the whole frame. -/
theorem film_not_isFaithful :
    let screen : Recorder := { frames := [.dark 64 32] }
    let pixel : Recorder := { frames := [(PixelGrid.dark 1 1).invert 0 0] }
    let v : VideoSettings := { scale := 0, persistence := false }
    let w : VideoSettings := { scale := 2, persistence := false }
    ((screen.film v "run.mp4" 0).result = .ok () ∧
      ∃ image, (screen.film v "run.mp4" 0).calls = filmed "run.mp4" 60 0 0 [image] ∧
        image.width = 64 ∧ image.height = 32 ∧ ¬IsFaithful screen.frames .classic 0 [image]) ∧
    ((pixel.film w "run.mp4" 0).result = .ok () ∧
      ∃ image, (pixel.film w "run.mp4" 0).calls = filmed "run.mp4" 60 128 64 [image] ∧
        image.width = 128 ∧ image.height = 64 ∧ ¬IsFaithful pixel.frames .classic 2 [image]) := by
  intro screen pixel v w
  have hcolors : ColorScheme.ofName "classic" = .ok .classic := rfl
  have hrate : Number.toFloat? (.real 60) = some 60 := rfl
  obtain ⟨hcalls, hresult⟩ : _ ∧ ((screen.film v "run.mp4" 0).result = .ok () ↔ _) :=
    film_of_coversScreen "run.mp4" 0 (List.cons_ne_nil _ _) hcolors hrate (by decide)
  obtain ⟨hcalls', hresult'⟩ : _ ∧ ((pixel.film w "run.mp4" 0).result = .ok () ↔ _) :=
    film_of_coversScreen "run.mp4" 0 (List.cons_ne_nil _ _) hcolors hrate (by decide)
  refine ⟨⟨hresult.2 (by decide), _, hcalls, ?_⟩, hresult'.2 (by decide), _, hcalls', ?_⟩
  · obtain ⟨hw, hh⟩ := v.size_frame .classic (.ofPicture (.dark 64 32))
    refine ⟨hw, hh, fun hfaithful => ?_⟩
    have hscale := (VideoSettings.isFaithful_frames_iff (v := v) rfl
      (List.cons_ne_nil _ _) .classic).1 hfaithful
    exact absurd hscale.1 (by decide)
  · obtain ⟨hw, hh⟩ := w.size_frame .classic (.ofPicture ((PixelGrid.dark 1 1).invert 0 0))
    refine ⟨hw, hh, fun hfaithful => ?_⟩
    have hsize := (VideoSettings.isFaithful_frames_iff (v := w) rfl
      (List.cons_ne_nil _ _) .classic).1 hfaithful
    exact absurd hsize.2 (by decide)

end Recorder

end Chip8
