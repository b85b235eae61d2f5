import Chip8.Proofs.Film

/-!
# Afterglow

What a video with persistence shows. The glow of a pixel in a frame depends on the pixel in the
pictures up to that frame only, and every dot of the frame has the color of the glow of its pixel.
So a pixel is seen in the color of lit pixels when it is lit and in the color of dark pixels until
it is lit, and while it stays dark its color moves from the one towards the other.

## Main definitions

* `Chip8.glowIn` : the glow of a pixel in a frame.
* `Chip8.IsAfterglow` : what the colors of the glow have to do with the pictures.

## Main results

* `Chip8.isAfterglow_glowIn` : the glow is an afterglow of the pictures.
* `Chip8.Recorder.film_afterglow` : a video with persistence shows it.
-/

namespace Chip8

variable {frames : List PixelGrid} {colors : ColorScheme} {j k p q : Nat}

/-! ### The glow in a frame -/

/-- The glow of a pixel in a frame of a video: it was lit or dark in the pictures up to this one. -/
def glowIn (frames : List PixelGrid) (k p q : Nat) : Glow :=
  .after ((frames.take (k + 1)).map fun g => g.lit p q)

theorem glowIn_le_full : glowIn frames k p q ≤ Glow.full :=
  (Glow.isStrength_after _).le_full

theorem glowIn_of_lit (hk : k < frames.length) (hlit : frames[k].lit p q = true) :
    glowIn frames k p q = Glow.full := by
  rw [glowIn, List.take_succ_eq_append_getElem hk, List.map_append, List.map_singleton, hlit,
    Glow.after_concat, Glow.next_true]

theorem glowIn_of_dark (hdark : ∀ g ∈ frames.take (k + 1), g.lit p q = false) :
    glowIn frames k p q = Glow.zero := by
  refine Glow.after_eq_zero fun lit hlit => ?_
  obtain ⟨g, hg, rfl⟩ := List.mem_map.1 hlit
  exact hdark g hg

theorem glowIn_le_glowIn (hjk : j ≤ k) (hk : k < frames.length)
    (hdark : ∀ i (hi : i ≤ k), j < i → frames[i].lit p q = false) :
    glowIn frames k p q ≤ glowIn frames j p q := by
  have hsplit : frames.take (k + 1) =
      frames.take (j + 1) ++ (frames.take (k + 1)).drop (j + 1) := by
    conv_lhs => rw [← List.take_append_drop (j + 1) (frames.take (k + 1))]
    rw [List.take_take, Nat.min_eq_left (Nat.succ_le_succ hjk)]
  rw [glowIn, hsplit, List.map_append]
  refine Glow.after_append_le fun lit hlit => ?_
  obtain ⟨g, hg, rfl⟩ := List.mem_map.1 hlit
  obtain ⟨i, hi, rfl⟩ := List.mem_iff_getElem.1 hg
  rw [List.length_drop, List.length_take] at hi
  rw [List.getElem_drop, List.getElem_take]
  exact hdark (j + 1 + i) (by omega) (by omega)

/-- The glow of the pixels in the frames of a video is an afterglow of its pictures, in given
colors. -/
structure IsAfterglow (frames : List PixelGrid) (colors : ColorScheme)
    (glow : Nat → Nat → Nat → Glow) : Prop where
  /-- A pixel that is lit in a picture has the color of lit pixels in its frame. -/
  lit : ∀ k p q, ∀ hk : k < frames.length, frames[k].lit p q = true →
    (glow k p q).color colors = colors.on
  /-- A pixel that was never lit has the color of dark pixels. -/
  dark : ∀ k p q, (∀ g ∈ frames.take (k + 1), g.lit p q = false) →
    (glow k p q).color colors = colors.off
  /-- The values of the channels are not taken modulo 256. -/
  byte : ∀ k p q channel, (((glow k p q).color colors).get channel).toNat =
    (glow k p q).channel (colors.on.get channel) (colors.off.get channel)
  /-- All colors lie between these two, channel by channel. -/
  between : ∀ k p q, colors.off.Between ((glow k p q).color colors) colors.on
  /-- While a pixel stays dark, all channels move towards the color of dark pixels. -/
  fading : ∀ j k p q, j ≤ k → ∀ hk : k < frames.length,
    (∀ i (hi : i ≤ k), j < i → frames[i].lit p q = false) →
    colors.off.Between ((glow k p q).color colors) ((glow j p q).color colors)

/-- **The glow in the frames of a video is an afterglow.** -/
theorem isAfterglow_glowIn (frames : List PixelGrid) (colors : ColorScheme) :
    IsAfterglow frames colors (glowIn frames) where
  lit k p q hk hlit := by rw [glowIn_of_lit hk hlit, Glow.color_full]
  dark k p q hdark := by rw [glowIn_of_dark hdark, Glow.color_zero]
  byte k p q channel := Glow.toNat_get_color glowIn_le_full channel
  between k p q := by
    rw [← Glow.color_full colors]
    exact Glow.between_color glowIn_le_full le_rfl
  fading j k p q hjk hk hdark := Glow.between_color (glowIn_le_glowIn hjk hk hdark) glowIn_le_full

/-- A white pixel keeps four fifths of its light for the frame after it. -/
example : (glowIn [(PixelGrid.dark 1 1).invert 0 0, .dark 1 1] 1 0 0).color .white =
    ⟨204, 204, 204⟩ := by decide

/-! ### The frames of a video -/

namespace VideoSettings

variable {v : VideoSettings} {l : List PixelGrid}

theorem screens_cons_of_persistence (h : v.persistence = true) (screen : Phosphor) (g : PixelGrid)
    (l : List PixelGrid) :
    v.screens screen (g :: l) = screen.expose g :: v.screens (screen.expose g) l := by
  simp only [screens, h, if_true]

/-- The glow of a pixel in the frames, from a screen that glows already: it fades or is lit with
every picture. -/
theorem glow_screens (h : v.persistence = true) (hp : p < screenWidth) (hq : q < screenHeight)
    (hsize : ∀ g ∈ l, g.width = screenWidth ∧ g.height = screenHeight) (screen : Phosphor)
    (hk : k < (v.screens screen l).length) :
    (v.screens screen l)[k].glow p q =
      ((l.take (k + 1)).map fun g => g.lit p q).foldl Glow.next (screen.glow p q) := by
  induction l generalizing screen k with
  | nil => exact absurd hk (Nat.not_lt_zero k)
  | cons g l ih =>
    obtain ⟨⟨hwidth, hheight⟩, hl⟩ := List.forall_mem_cons.1 hsize
    have hnext : (screen.expose g).glow p q = (screen.glow p q).next (g.lit p q) := by
      rw [Phosphor.glow_expose hp hq, PixelGrid.litOnScreen_eq hwidth hheight]
    simp only [screens_cons_of_persistence h] at hk ⊢
    rw [List.take_succ_cons, List.map_cons, List.foldl_cons, ← hnext]
    cases k with
    | zero => rfl
    | succ k => exact ih hl _ (Nat.lt_of_succ_lt_succ hk)

end VideoSettings

namespace Recorder

variable {r : Recorder} {v : VideoSettings} {rate : Float}

/-- **A video with persistence shows the afterglow.** The writer is handed one image for each
picture, of the size that it was opened for. A dot has the color of the glow of its pixel in this
frame, with two channels exchanged, and these colors are an afterglow of the pictures. -/
theorem film_afterglow (name : String) (now : Float) (h : r.CanFilm v colors rate)
    (hpersistence : v.persistence = true) :
    ∃ images : List Image,
      (r.film v name now).calls =
        filmed name rate (screenWidth * v.scale) (screenHeight * v.scale) images ∧
      ((r.film v name now).result = .ok () ↔ ¬v.rate.IsZero) ∧
      images.length = r.frames.length ∧
      (∀ k (hk : k < images.length),
        images[k].width = screenWidth * v.scale ∧ images[k].height = screenHeight * v.scale ∧
        ∀ row < images[k].height, ∀ column < images[k].width,
          images[k].at? row column =
            some ((glowIn r.frames k (column / v.scale.toNat) (row / v.scale.toNat)).color
              colors).swapRedBlue) ∧
      IsAfterglow r.frames colors (glowIn r.frames) := by
  obtain ⟨hcalls, hresult⟩ := h.film_eq name now
  refine ⟨_, hcalls, hresult, ?_, fun k hk => ?_, isAfterglow_glowIn _ _⟩
  · rw [List.length_map, v.length_screens]
  · have hk' : k < (v.screens .dark r.frames).length := by rwa [List.length_map] at hk
    have hscreen := v.size_frame colors (v.screens .dark r.frames)[k]
    obtain ⟨hwidth, hheight⟩ := VideoSettings.size_frame_of_le h.scale colors
      (v.screens .dark r.frames)[k]
    simp only [List.getElem_map]
    refine ⟨hwidth, hheight, fun row hrow column hcolumn => ?_⟩
    rw [hscreen.2] at hrow
    rw [hscreen.1] at hcolumn
    rw [v.at?_frame colors _ hrow hcolumn, ← VideoSettings.magnification_eq h.scale,
      VideoSettings.glow_screens hpersistence (Image.div_scale_lt hcolumn)
        (Image.div_scale_lt hrow) h.size, Phosphor.glow_dark]
    rfl

/-- A pixel that is lit in one picture only, in colors of which all three channels fade. -/
theorem film_afterglow_octo :
    let r : Recorder := { frames := [(PixelGrid.dark 64 32).invert 3 5, .dark 64 32, .dark 64 32] }
    let v : VideoSettings := { scale := 2, scheme := "octo" }
    ∃ images : List Image,
      (r.film v "run.mp4" 0).calls = filmed "run.mp4" 60 128 64 images ∧
      (r.film v "run.mp4" 0).result = .ok () ∧
      images.length = 3 ∧
      (∀ k (hk : k < images.length), (images[k].width : Int) = 128 ∧ (images[k].height : Int) = 64 ∧
        ∀ row < images[k].height, ∀ column < images[k].width,
          images[k].at? row column =
            some ((glowIn r.frames k (column / 2) (row / 2)).color .octo).swapRedBlue) ∧
      IsAfterglow r.frames .octo (glowIn r.frames) := by
  intro r v
  have hcan : r.CanFilm v .octo 60 :=
    { nonempty := List.cons_ne_nil _ _
      size := by decide
      scale := by decide
      colors := rfl
      rate := rfl }
  have hrate : ¬v.rate.IsZero := by decide
  obtain ⟨images, hcalls, hresult, hlength, hdots, hglow⟩ :=
    film_afterglow "run.mp4" 0 hcan rfl
  exact ⟨images, hcalls, hresult.2 hrate, hlength, hdots, hglow⟩

end Recorder

end Chip8
