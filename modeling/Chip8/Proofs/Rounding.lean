import Mathlib.Data.Nat.Log
import Mathlib.Tactic.Ring
import Chip8.Decimal.Binary

/-!
# Rounding to significant bits

A quotient of naturals is rounded to the nearest natural with few significant bits. Rounding is
monotone, and it leaves a natural alone that has few significant bits already. Nothing else is used
about rounding where pictures are computed in single and in double precision.

## Main definitions

* `Chip8.Decimal.IsShort` : a natural has at most so many significant bits.

## Main results

* `Chip8.Decimal.isShort_divSignificant` : what is rounded has few significant bits.
* `Chip8.Decimal.divSignificant_mul` : rounding is exact where it can be.
* `Chip8.Decimal.divSignificant_mono` : rounding is monotone.
-/

namespace Chip8.Decimal

theorem twoTo_pos (k : Nat) : 0 < twoTo k :=
  Nat.two_pow_pos k

/-! ### To the nearest integer -/

section HalfEven

variable {a b k den : Nat}

theorem divHalfEven_mul (k : Nat) (hden : 0 < den) : divHalfEven (k * den) den = k := by
  have hquotient : k * den / den = k := Nat.mul_div_cancel k hden
  simp [divHalfEven, hquotient, hden]

/-- A rounded quotient is the quotient or the next integer. -/
theorem div_le_divHalfEven (a den : Nat) :
    a / den ≤ divHalfEven a den ∧ divHalfEven a den ≤ a / den + 1 := by
  unfold divHalfEven
  dsimp only
  split_ifs <;> omega

/-- **Rounding to integers is monotone.** -/
theorem divHalfEven_mono (h : a ≤ b) (den : Nat) : divHalfEven a den ≤ divHalfEven b den := by
  have hquotients : a / den ≤ b / den := Nat.div_le_div_right h
  rcases hquotients.lt_or_eq with hlt | heq
  · exact (div_le_divHalfEven a den).2.trans (hlt.trans_le (div_le_divHalfEven b den).1)
  · -- With one quotient the rests decide, and the tie is broken alike.
    have hrests : a % den ≤ b % den := by
      have ha := Nat.div_add_mod a den
      have hb := Nat.div_add_mod b den
      rw [heq] at ha
      omega
    unfold divHalfEven
    rw [heq]
    dsimp only
    split_ifs <;> omega

end HalfEven

/-! ### To significant bits -/

/-- The natural has at most `p` significant bits. -/
def IsShort (p n : Nat) : Prop :=
  ∃ m e, m < 2 ^ p ∧ n = m * 2 ^ e

/-- The number of bits that a quotient has beyond the precision. -/
def excess (p a den : Nat) : Nat :=
  (a / den).log2 + 1 - p

section Significant

variable {p a b k den : Nat}

theorem divSignificant_eq (p a den : Nat) :
    divSignificant p a den =
      divHalfEven a (den * 2 ^ excess p a den) * 2 ^ excess p a den := by
  simp only [divSignificant, excess, Nat.shiftLeft_eq]

theorem lt_of_excess (hden : 0 < den) : a < 2 ^ p * (den * 2 ^ excess p a den) := by
  have hlog : a / den < 2 ^ ((a / den).log2 + 1) := Nat.lt_log2_self
  have hlength : (a / den).log2 + 1 ≤ p + excess p a den := by
    rw [excess]
    omega
  have hquotient : a / den < 2 ^ (p + excess p a den) :=
    hlog.trans_le (Nat.pow_le_pow_right Nat.two_pos hlength)
  have ha : a < 2 ^ (p + excess p a den) * den := (Nat.div_lt_iff_lt_mul hden).1 hquotient
  calc a < 2 ^ (p + excess p a den) * den := ha
    _ = 2 ^ p * (den * 2 ^ excess p a den) := by ring

/-- If a quotient has bits beyond the precision, then it reaches the power of two of its highest
bit. -/
theorem le_of_excess_pos (hp : 0 < p) (hden : 0 < den) (hpos : 0 < excess p a den) :
    2 ^ (p - 1) * (den * 2 ^ excess p a den) ≤ a := by
  have hlog : (a / den).log2 = p - 1 + excess p a den := by
    rw [excess] at hpos ⊢
    omega
  have hne : a / den ≠ 0 := by
    intro hzero
    rw [hzero, Nat.log2_zero] at hlog
    omega
  have hquotient : 2 ^ (p - 1 + excess p a den) ≤ a / den := hlog ▸ Nat.log2_self_le hne
  calc 2 ^ (p - 1) * (den * 2 ^ excess p a den) = 2 ^ (p - 1 + excess p a den) * den := by ring
    _ ≤ a := (Nat.le_div_iff_mul_le hden).1 hquotient

/-- The quotient in units of its last place is at most a power of two. -/
theorem divHalfEven_excess_le (hden : 0 < den) :
    divHalfEven a (den * 2 ^ excess p a den) ≤ 2 ^ p := by
  have hunit : 0 < den * 2 ^ excess p a den := Nat.mul_pos hden (Nat.two_pow_pos _)
  calc divHalfEven a (den * 2 ^ excess p a den)
      ≤ divHalfEven (2 ^ p * (den * 2 ^ excess p a den)) (den * 2 ^ excess p a den) :=
        divHalfEven_mono (lt_of_excess hden).le _
    _ = 2 ^ p := divHalfEven_mul _ hunit

/-- **What is rounded has few significant bits.** -/
theorem isShort_divSignificant (hp : 0 < p) (hden : 0 < den) :
    IsShort p (divSignificant p a den) := by
  rw [divSignificant_eq]
  rcases (divHalfEven_excess_le hden (p := p) (a := a)).lt_or_eq with hlt | heq
  · exact ⟨_, _, hlt, rfl⟩
  · -- Rounded up to a power of two, it has a single bit.
    refine ⟨1, p + excess p a den, Nat.one_lt_two_pow hp.ne', ?_⟩
    rw [heq, one_mul, pow_add]

/-- **Rounding is exact** where the quotient has few significant bits. -/
theorem divSignificant_mul (hk : IsShort p k) (hden : 0 < den) :
    divSignificant p (k * den) den = k := by
  rw [divSignificant_eq]
  -- The last place does not lie above the lowest bit, so the quotient is a multiple of it.
  obtain ⟨j, hj⟩ : 2 ^ excess p (k * den) den ∣ k := by
    obtain ⟨m, e, hm, rfl⟩ := hk
    by_cases hzero : m * 2 ^ e = 0
    · rw [hzero]
      exact dvd_zero _
    · have hlt : m * 2 ^ e < 2 ^ (p + e) := by
        rw [pow_add]
        exact Nat.mul_lt_mul_of_pos_right hm (Nat.two_pow_pos e)
      have hlog := (Nat.log2_lt hzero).2 hlt
      have hexcess : excess p (m * 2 ^ e * den) den ≤ e := by
        rw [excess, Nat.mul_div_cancel _ hden]
        omega
      exact dvd_mul_of_dvd_right (pow_dvd_pow 2 hexcess) m
  generalize excess p (k * den) den = x at hj ⊢
  have hunit : 0 < den * 2 ^ x := Nat.mul_pos hden (Nat.two_pow_pos x)
  have hmultiple : k * den = j * (den * 2 ^ x) := by
    rw [hj]
    ring
  rw [hmultiple, divHalfEven_mul j hunit, hj, mul_comm]

/-- **Rounding is monotone.** -/
theorem divSignificant_mono (hp : 0 < p) (hden : 0 < den) (h : a ≤ b) :
    divSignificant p a den ≤ divSignificant p b den := by
  have hexcess : excess p a den ≤ excess p b den := by
    have hlog : (a / den).log2 ≤ (b / den).log2 := by
      rw [Nat.log2_eq_log_two, Nat.log2_eq_log_two]
      exact Nat.log_mono_right (Nat.div_le_div_right h)
    rw [excess, excess]
    omega
  rw [divSignificant_eq, divSignificant_eq]
  rcases hexcess.lt_or_eq with hlt | heq
  · -- A power of two lies between the two.
    have hunit : 0 < den * 2 ^ excess p b den := Nat.mul_pos hden (Nat.two_pow_pos _)
    have hhigh : 2 ^ (p - 1) ≤ divHalfEven b (den * 2 ^ excess p b den) := by
      rw [← divHalfEven_mul (2 ^ (p - 1)) hunit]
      exact divHalfEven_mono (le_of_excess_pos hp hden (by omega)) _
    calc divHalfEven a (den * 2 ^ excess p a den) * 2 ^ excess p a den
        ≤ 2 ^ p * 2 ^ excess p a den := Nat.mul_le_mul_right _ (divHalfEven_excess_le hden)
      _ ≤ 2 ^ (p - 1) * 2 ^ excess p b den := by
        rw [← pow_add, ← pow_add]
        exact Nat.pow_le_pow_right Nat.two_pos (by omega)
      _ ≤ divHalfEven b (den * 2 ^ excess p b den) * 2 ^ excess p b den :=
        Nat.mul_le_mul_right _ hhigh
  · rw [heq]
    exact Nat.mul_le_mul_right _ (divHalfEven_mono h _)

end Significant

end Chip8.Decimal
