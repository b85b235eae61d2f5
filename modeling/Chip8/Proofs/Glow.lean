import Mathlib.Data.List.Induction
import Mathlib.Order.Interval.Set.UnorderedInterval
import Mathlib.Order.Lattice.Nat
import Chip8.Picture.Phosphor
import Chip8.Proofs.Rounding

/-!
# Glow and its color

The glow of a pixel is a strength from zero to one in single precision. It is full in every frame
in which the pixel is lit, and it never grows while the pixel is dark. The color of a glow lies,
channel by channel, between the color of dark pixels and that of any stronger glow, whether a
channel is brighter in the dark or in the light. Of rounding this uses that it is monotone, and
exact on zero, on one, on bytes and on what was rounded before.

## Main definitions

* `Chip8.Glow.IsStrength` : a glow from zero to one in single precision.
* `Chip8.Glow.after` : the glow of a pixel after the frames of its past.
* `Chip8.Color.Between` : a color lies between two others in every channel.

## Main results

* `Chip8.Glow.IsStrength.next_false_le` : the glow of a dark pixel does not grow.
* `Chip8.Glow.channel_mem_uIcc` : a channel lies between the dark and a stronger glow.
* `Chip8.Glow.between_color` : so does the color.
-/

namespace Chip8

namespace Glow

open Decimal

variable {g g' : Glow}

/-! ### Strengths -/

theorem full_pos : 0 < full :=
  twoTo_pos 149

/-- The glow is a number from zero to one in single precision. -/
structure IsStrength (g : Glow) : Prop where
  /-- It has the significant bits of single precision. -/
  isShort : IsShort singleBits g
  /-- It is at most one. -/
  le_full : g ≤ full

theorem isShort_full : IsShort singleBits full :=
  ⟨1, 149, Nat.one_lt_two_pow (by decide), (Nat.one_mul _).symm⟩

theorem isStrength_zero : IsStrength zero where
  isShort := ⟨0, 0, Nat.two_pow_pos _, rfl⟩
  le_full := Nat.zero_le _

theorem divSignificant_single (hg : IsShort singleBits g) : divSignificant singleBits g 1 = g := by
  have hexact := divSignificant_mul hg Nat.one_pos
  rwa [Nat.mul_one] at hexact

theorem isStrength_next (g : Glow) (lit : Bool) : IsStrength (g.next lit) where
  isShort := by
    rcases Nat.le_total (divSignificant singleBits (g.fade + ofPixel lit) 1) full with h | h
    · rw [next, Nat.min_eq_left h]
      exact isShort_divSignificant (by decide) Nat.one_pos
    · rw [next, Nat.min_eq_right h]
      exact isShort_full
  le_full := Nat.min_le_right _ _

/-- **A lit pixel glows with full strength.** -/
theorem next_true (g : Glow) : g.next true = full := by
  have hround : divSignificant singleBits full 1 ≤
      divSignificant singleBits (g.fade + full) 1 :=
    divSignificant_mono (by decide) Nat.one_pos (Nat.le_add_left _ _)
  rw [divSignificant_single isShort_full] at hround
  exact Nat.min_eq_right hround

/-- What fades does not grow: four fifths of a strength are less than the strength, and it is
rounded to itself. -/
theorem IsStrength.fade_le (hg : g.IsStrength) : g.fade ≤ g := by
  have hdecay : decay ≤ twoTo 24 := by decide
  have hround : divSignificant singleBits (g * decay) (twoTo 24) ≤
      divSignificant singleBits (g * twoTo 24) (twoTo 24) :=
    divSignificant_mono (by decide) (twoTo_pos 24) (Nat.mul_le_mul_left g hdecay)
  rwa [divSignificant_mul hg.isShort (twoTo_pos 24)] at hround

/-- **The glow of a dark pixel does not grow.** -/
theorem IsStrength.next_false_le (hg : g.IsStrength) : g.next false ≤ g := by
  have hfaded : IsShort singleBits g.fade :=
    isShort_divSignificant (by decide) (twoTo_pos 24)
  have hdark : g.fade + ofPixel false = g.fade := Nat.add_zero g.fade
  calc g.next false = min (divSignificant singleBits (g.fade + ofPixel false) 1) full := rfl
    _ ≤ divSignificant singleBits (g.fade + ofPixel false) 1 := Nat.min_le_left _ _
    _ = g.fade := by rw [hdark, divSignificant_single hfaded]
    _ ≤ g := hg.fade_le

/-! ### The past of a pixel -/

/-- The glow of a pixel that was lit or dark in the frames of a list, the oldest first. -/
def after (past : List Bool) : Glow :=
  past.foldl next zero

variable {past past' : List Bool}

theorem after_concat (past : List Bool) (lit : Bool) :
    after (past ++ [lit]) = (after past).next lit := by
  rw [after, after, List.foldl_append, List.foldl_cons, List.foldl_nil]

theorem isStrength_after (past : List Bool) : IsStrength (after past) := by
  rcases List.eq_nil_or_concat past with rfl | ⟨past, lit, rfl⟩
  · exact isStrength_zero
  · rw [List.concat_eq_append, after_concat]
    exact isStrength_next _ _

/-- **While a pixel stays dark its glow does not grow.** -/
theorem after_append_le (hdark : ∀ lit ∈ past', lit = false) :
    after (past ++ past') ≤ after past := by
  induction past' using List.reverseRecOn with
  | nil => rw [List.append_nil]
  | append_singleton l lit ih =>
    obtain rfl : lit = false := hdark lit (by simp)
    rw [← List.append_assoc, after_concat]
    calc (after (past ++ l)).next false ≤ after (past ++ l) :=
          (isStrength_after _).next_false_le
      _ ≤ after past := ih fun b hb => hdark b (List.mem_append_left _ hb)

theorem after_eq_zero (hdark : ∀ lit ∈ past, lit = false) : after past = zero := by
  have hle : after ([] ++ past) ≤ after [] := after_append_le hdark
  exact Nat.eq_zero_of_le_zero hle

/-! ### Channels -/

/-- The exact value of a channel, in units of the glow. -/
def mixed (on off : UInt8) (g : Glow) : Nat :=
  (full - g) * off.toNat + g * on.toNat

variable {on off : UInt8}

theorem channel_eq (on off : UInt8) (g : Glow) :
    g.channel on off = divSignificant doubleBits (mixed on off g) 1 / full := rfl

/-- The two colors change places when the glow is counted from its full strength down. -/
theorem mixed_eq_mixed_sub (on off : UInt8) (hg : g ≤ full) :
    mixed on off g = mixed off on (full - g) := by
  rw [mixed, mixed, Nat.sub_sub_self hg, Nat.add_comm]

theorem weighted_le_weighted {a b m n whole : Nat} (h : a ≤ b) (hmn : m ≤ n) (hn : n ≤ whole) :
    (whole - m) * a + m * b ≤ (whole - n) * a + n * b := by
  obtain ⟨d, rfl⟩ := Nat.exists_eq_add_of_le hmn
  obtain ⟨e, rfl⟩ := Nat.exists_eq_add_of_le hn
  have hm : m + d + e - m = d + e := by omega
  have hd : d * a ≤ d * b := Nat.mul_le_mul_left d h
  rw [hm, Nat.add_sub_cancel_left, Nat.add_mul, Nat.add_mul]
  omega

theorem mixed_mono (h : off.toNat ≤ on.toNat) (hgg' : g ≤ g') (hg' : g' ≤ full) :
    mixed on off g ≤ mixed on off g' :=
  weighted_le_weighted h hgg' hg'

/-- A channel that is brighter in the dark shrinks with the glow: counted from the full strength
down, it grows. -/
theorem mixed_anti (h : on.toNat ≤ off.toNat) (hgg' : g ≤ g') (hg' : g' ≤ full) :
    mixed on off g' ≤ mixed on off g := by
  rw [mixed_eq_mixed_sub on off hg', mixed_eq_mixed_sub on off (hgg'.trans hg')]
  exact mixed_mono h (Nat.sub_le_sub_left hgg' full) (Nat.sub_le full g)

theorem channel_le_channel {on' off' : UInt8} (h : mixed on off g ≤ mixed on' off' g') :
    g.channel on off ≤ g'.channel on' off' := by
  rw [channel_eq, channel_eq]
  exact Nat.div_le_div_right (divSignificant_mono (by decide) Nat.one_pos h)

/-- A byte times the full strength is exact in double precision. -/
theorem divSignificant_double (v : UInt8) :
    divSignificant doubleBits (v.toNat * full) 1 / full = v.toNat := by
  have hshort : IsShort doubleBits (v.toNat * full) :=
    ⟨v.toNat, 149, v.toNat_lt.trans (Nat.pow_lt_pow_right (by decide) (by decide)), rfl⟩
  have hexact := divSignificant_mul hshort Nat.one_pos
  rw [Nat.mul_one] at hexact
  rw [hexact, Nat.mul_div_cancel _ full_pos]

theorem channel_zero (on off : UInt8) : zero.channel on off = off.toNat := by
  have hmixed : mixed on off zero = off.toNat * full := by
    rw [mixed, zero, Nat.sub_zero, Nat.zero_mul, Nat.add_zero, Nat.mul_comm]
  rw [channel_eq, hmixed, divSignificant_double]

theorem channel_full (on off : UInt8) : full.channel on off = on.toNat := by
  have hmixed : mixed on off full = on.toNat * full := by
    rw [mixed, Nat.sub_self, Nat.zero_mul, Nat.zero_add, Nat.mul_comm]
  rw [channel_eq, hmixed, divSignificant_double]

/-- **A channel lies between its value in the dark and that of a stronger glow.** -/
theorem channel_mem_uIcc (on off : UInt8) (hgg' : g ≤ g') (hg' : g' ≤ full) :
    g.channel on off ∈ Set.uIcc off.toNat (g'.channel on off) := by
  have hzero : zero.channel on off = off.toNat := channel_zero on off
  -- With the glow a channel grows or shrinks, as it is brighter in the light or in the dark.
  rcases Nat.le_total off.toNat on.toNat with h | h
  · have hlow : zero.channel on off ≤ g.channel on off :=
      channel_le_channel (mixed_mono h (Nat.zero_le g) (hgg'.trans hg'))
    have hhigh : g.channel on off ≤ g'.channel on off :=
      channel_le_channel (mixed_mono h hgg' hg')
    rw [hzero] at hlow
    exact Set.mem_uIcc.2 (.inl ⟨hlow, hhigh⟩)
  · have hlow : g'.channel on off ≤ g.channel on off :=
      channel_le_channel (mixed_anti h hgg' hg')
    have hhigh : g.channel on off ≤ zero.channel on off :=
      channel_le_channel (mixed_anti h (Nat.zero_le g) (hgg'.trans hg'))
    rw [hzero] at hhigh
    exact Set.mem_uIcc.2 (.inr ⟨hlow, hhigh⟩)

end Glow

/-! ### Colors -/

/-- The channels of a color. -/
inductive Channel where
  /-- The red one. -/
  | red
  /-- The green one. -/
  | green
  /-- The blue one. -/
  | blue

namespace Color

/-- The value of a color in a channel. -/
def get (c : Color) : Channel → UInt8
  | .red => c.red
  | .green => c.green
  | .blue => c.blue

theorem eq_of_get {a b : Color} (h : ∀ channel, a.get channel = b.get channel) : a = b := by
  obtain ⟨red, green, blue⟩ := a
  obtain ⟨red', green', blue'⟩ := b
  obtain rfl : red = red' := h .red
  obtain rfl : green = green' := h .green
  obtain rfl : blue = blue' := h .blue
  rfl

/-- The color `b` lies between `a` and `c` in every channel. -/
def Between (a b c : Color) : Prop :=
  ∀ channel, (b.get channel).toNat ∈ Set.uIcc (a.get channel).toNat (c.get channel).toNat

end Color

namespace Glow

variable {g g' : Glow} {scheme : ColorScheme}

theorem get_color (scheme : ColorScheme) (g : Glow) (channel : Channel) :
    (g.color scheme).get channel =
      .ofNat (g.channel (scheme.on.get channel) (scheme.off.get channel)) := by
  cases channel <;> rfl

/-- **The value of a channel is a byte**, so it is not taken modulo 256. -/
theorem toNat_get_color (hg : g ≤ full) (channel : Channel) :
    ((g.color scheme).get channel).toNat =
      g.channel (scheme.on.get channel) (scheme.off.get channel) := by
  have hmem := channel_mem_uIcc (scheme.on.get channel) (scheme.off.get channel) hg le_rfl
  rw [channel_full] at hmem
  have hon := (scheme.on.get channel).toNat_lt
  have hoff := (scheme.off.get channel).toNat_lt
  rw [get_color, UInt8.toNat_ofNat']
  refine Nat.mod_eq_of_lt ?_
  rcases Set.mem_uIcc.1 hmem with h | h <;> omega

theorem color_zero (scheme : ColorScheme) : zero.color scheme = scheme.off := by
  refine Color.eq_of_get fun channel => ?_
  rw [← UInt8.toNat_inj, toNat_get_color isStrength_zero.le_full, channel_zero]

theorem color_full (scheme : ColorScheme) : full.color scheme = scheme.on := by
  refine Color.eq_of_get fun channel => ?_
  rw [← UInt8.toNat_inj, toNat_get_color le_rfl, channel_full]

/-- **The color of a glow lies between that of dark pixels and that of a stronger glow.** -/
theorem between_color (hgg' : g ≤ g') (hg' : g' ≤ full) :
    scheme.off.Between (g.color scheme) (g'.color scheme) := by
  intro channel
  rw [toNat_get_color (hgg'.trans hg'), toNat_get_color hg']
  exact channel_mem_uIcc _ _ hgg' hg'

end Glow

end Chip8
