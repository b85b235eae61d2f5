import Mathlib.Data.Finset.Prod
import Mathlib.Data.Nat.ModEq
import Mathlib.Tactic.IntervalCases
import Chip8.Proofs.Effect
import Chip8.Proofs.Toggles
import Chip8.Random.Threefry

/-!
# Drawing sprites

A sprite is a table of bits, eight in a row. Drawn on a grid it wraps around the edges, so on a
small grid several of its bits may fall on one pixel. A pixel changes if an odd number of set bits
fall on it, and the flag tells whether one was turned off on the way. The sprite and its position
are read before the flag is written.

## Main definitions

* `Chip8.Sprite`, `Chip8.State.sprite` : the sprite that an opcode draws.
* `Chip8.Sprite.hits` : how many set bits fall on a pixel.
* `Chip8.Sprite.Drawn` : what a drawing leaves.

## Main results

* `Chip8.hits_spritePixels` : a drawing hits the pixels under the set bits.
* `Chip8.drawn_execute` : what drawing once leaves.
* `Chip8.draw_twice` : drawing twice restores the pixels.
-/

namespace Chip8

/-- A sprite at a place. -/
structure Sprite where
  /-- The column of its left edge. -/
  x : Nat
  /-- The row of its upper edge. -/
  y : Nat
  /-- The number of rows. -/
  height : Nat
  /-- The bits by row and column. -/
  bit : Nat → Nat → Bool

/-- The sprite that an opcode `DXYN` draws: the `N` bytes at the index register, the highest bit to
the left, with the upper left corner at the position that `VX` and `VY` hold. -/
def State.sprite (s : State) (opcode : Nat) : Sprite where
  x := s.valueOf (opcode / 256 % 16 : Nat)
  y := s.valueOf (opcode / 16 % 16 : Nat)
  height := opcode % 16
  bit r c := (s.memory.peek (s.index.toNat + r)).toNat.testBit (7 - c)

namespace Sprite

variable (σ : Sprite) (g : PixelGrid)

/-- The bit `b`, given by row and column, is set and falls on the pixel in column `p` and row
`q`. -/
def FallsOn (p q : Nat) (b : Nat × Nat) : Prop :=
  σ.bit b.1 b.2 = true ∧ (σ.x + b.2) % g.width = p ∧ (σ.y + b.1) % g.height = q

instance (p q : Nat) (b : Nat × Nat) : Decidable (σ.FallsOn g p q b) :=
  inferInstanceAs (Decidable (_ ∧ _ ∧ _))

/-- The number of set bits that fall on the pixel in column `p` and row `q`. -/
def hits (p q : Nat) : Nat :=
  ((Finset.range σ.height ×ˢ Finset.range spriteWidth).filter (σ.FallsOn g p q)).card

variable {σ g} {h : PixelGrid} {p q : Nat}

theorem hits_congr (hw : h.width = g.width) (hh : h.height = g.height) :
    σ.hits h p q = σ.hits g p q := by
  refine congrArg Finset.card (Finset.filter_congr fun b _ => ?_)
  rw [FallsOn, FallsOn, hw, hh]

theorem hits_pos_iff :
    0 < σ.hits g p q ↔ ∃ r < σ.height, ∃ c < spriteWidth, σ.FallsOn g p q (r, c) := by
  rw [hits, Finset.card_pos]
  simp only [Finset.Nonempty, Finset.mem_filter, Finset.mem_product, Finset.mem_range, Prod.exists,
    and_assoc, exists_and_left]

theorem eq_of_add_mod_eq {a c d w : Nat} (hc : c < w) (hd : d < w)
    (hmod : (a + c) % w = (a + d) % w) : c = d :=
  Nat.ModEq.eq_of_lt_of_lt (Nat.ModEq.add_left_cancel' a hmod) hc hd

/-- On a grid that has room for the sprite no two bits fall on one pixel. -/
theorem hits_le_one (hw : spriteWidth ≤ g.width) (hh : σ.height ≤ g.height) :
    σ.hits g p q ≤ 1 := by
  refine Finset.card_le_one.2 ?_
  rintro ⟨r, c⟩ hb ⟨r', c'⟩ hb'
  simp only [Finset.mem_filter, Finset.mem_product, Finset.mem_range] at hb hb'
  obtain ⟨⟨hr, hc⟩, -, hp, hq⟩ := hb
  obtain ⟨⟨hr', hc'⟩, -, hp', hq'⟩ := hb'
  have hrows : r = r' := eq_of_add_mod_eq (hr.trans_le hh) (hr'.trans_le hh) (hq.trans hq'.symm)
  have hcolumns : c = c' := eq_of_add_mod_eq (hc.trans_le hw) (hc'.trans_le hw) (hp.trans hp'.symm)
  rw [hrows, hcolumns]

end Sprite

/-! ### The pixels of a sprite -/

theorem bit_row (row : UInt8) {c : Nat} (hc : c < spriteWidth) :
    ((row >>> (7 - c.toUInt8)) &&& 1 == 1) = row.toNat.testBit (7 - c) := by
  have hshift : (7 - c.toUInt8).toNat % 8 = 7 - c := by
    interval_cases c <;> rfl
  have hbit : ((row >>> (7 - c.toUInt8)) &&& 1).toNat = row.toNat >>> (7 - c) % 2 := by
    rw [UInt8.toNat_and, UInt8.toNat_shiftRight, hshift]
    exact Nat.and_one_is_mod _
  rw [Bool.eq_iff_iff, beq_iff_eq, ← UInt8.toNat_inj, hbit, Nat.testBit_eq_decide_div_mod_eq,
    Nat.shiftRight_eq_div_pow, decide_eq_true_iff]
  rfl

theorem card_filter_range_product (m n : Nat) (P : Nat × Nat → Prop) [DecidablePred P] :
    ((Finset.range m ×ˢ Finset.range n).filter P).card =
      ((List.range m).map fun r => (List.range n).countP fun c => P (r, c)).sum := by
  have hlist : ((Finset.range m ×ˢ Finset.range n).filter P).card =
      (List.range m ×ˢ List.range n).countP fun b => P b := by
    rw [Finset.card_def, Finset.filter_val, ← Multiset.countP_eq_card_filter, Finset.product_val,
      Finset.range_val, Finset.range_val, Multiset.range, Multiset.range, Multiset.coe_product,
      Multiset.coe_countP]
  rw [hlist]
  change ((List.range m).flatMap fun r => (List.range n).map (Prod.mk r)).countP _ = _
  rw [List.countP_flatMap]
  simp only [Function.comp_def, List.countP_map]

/-- The rows of a sprite of `n` bytes at the index register. -/
def State.spriteRows (s : State) (n : Nat) : List UInt8 :=
  (List.range n).map fun r => s.memory.peek (s.index.toNat + r)

/-- **A drawing hits the pixels under the set bits**, each as often as set bits fall on it. -/
theorem hits_spritePixels (s : State) (opcode : Nat) (g : PixelGrid) (p q : Nat) :
    g.hits (spritePixels (s.sprite opcode).x (s.sprite opcode).y (s.spriteRows (opcode % 16))) p q =
      (s.sprite opcode).hits g p q := by
  have hrows : (s.spriteRows (opcode % 16)).zipIdx =
      (List.range (opcode % 16)).map fun r => (s.memory.peek (s.index.toNat + r), r) := by
    rw [State.spriteRows, List.zipIdx_map]
    apply List.ext_getElem <;> simp
  rw [Sprite.hits, card_filter_range_product, PixelGrid.hits, spritePixels, hrows, List.flatMap_map,
    List.countP_flatMap]
  refine congrArg List.sum (List.map_congr_left fun r _ => ?_)
  -- In one row, the columns of the set bits are those of the bits that are set.
  rw [Function.comp_apply, List.countP_map, setColumns, List.countP_filter]
  refine List.countP_congr fun c hc => ?_
  have hbit := bit_row (s.memory.peek (s.index.toNat + r)) (List.mem_range.1 hc)
  have hplace := g.addresses_natCast (p := p) (q := q) ((s.sprite opcode).x + c)
    ((s.sprite opcode).y + r)
  simp only [Nat.cast_add] at hplace
  simp only [Function.comp_apply, Bool.and_eq_true, decide_eq_true_eq, hplace, hbit]
  exact and_comm

/-! ### Drawing once -/

section Execute

variable {opcode : Nat} {s t : State} {g h : PixelGrid}

theorem read_spriteRows {n : Nat} (hmemory : s.index.toNat + n ≤ memorySize) :
    s.memory.read s.index.toNat n = .ok (s.spriteRows n) := by
  have hbounds : InBounds s.index.toNat n := ⟨by omega, by omega, by omega⟩
  rw [Memory.read_eq, if_pos hbounds]
  rfl

theorem execute_draw [Random.Generator] (ho : opcode < 65536) (hfamily : opcode / 4096 = 0xD)
    (hg : g.HasPixels) (hmemory : s.index.toNat + opcode % 16 ≤ memorySize) (keys : Keys) :
    let strokes := g.toggleAll
      (spritePixels (s.sprite opcode).x (s.sprite opcode).y (s.spriteRows (opcode % 16)))
    (execute (.ofOpcode opcode) s g keys).grid = strokes.grid ∧
      (execute (.ofOpcode opcode) s g keys).result =
        .ok (s.advance.setRegister flagRegister (if strokes.erased.any id then 1 else 0)) := by
  have hop : (Operation.draw (opcode / 256 % 16 : Nat) (opcode / 16 % 16 : Nat)
      (opcode % 16 : Nat)).IsMeantBy (.ofOpcode opcode) := by
    rw [Instruction.ofOpcode_eq ho, hfamily]
    exact ⟨rfl, rfl, rfl, rfl⟩
  have hread : s.advance.memory.read s.advance.index.toNat (opcode % 16 : Nat) =
      .ok (s.spriteRows (opcode % 16)) := read_spriteRows hmemory
  rw [execute_ofOpcode hop]
  simp only [Operation.run, Operation.runDraw, hread, PixelGrid.toggleAll_failure hg]
  exact ⟨rfl, rfl⟩

/-- What drawing a sprite on the grid `g` leaves: the pixels `h`, and the flag in the state `t`. -/
structure Sprite.Drawn (σ : Sprite) (g h : PixelGrid) (t : State) : Prop where
  /-- The number of columns stays. -/
  width : h.width = g.width
  /-- The number of rows stays. -/
  height : h.height = g.height
  /-- A pixel changes if an odd number of set bits fall on it. -/
  lit (p q : Nat) : h.lit p q = (g.lit p q ^^ decide (Odd (σ.hits g p q)))
  /-- The flag is one or zero. -/
  flag : t.registers.get flagRegister = 1 ∨ t.registers.get flagRegister = 0
  /-- The flag is one if two set bits fall on one pixel, or one falls on a lit pixel. -/
  flag_eq_one_iff : t.registers.get flagRegister = 1 ↔
    ∃ p q, 2 ≤ σ.hits g p q ∨ g.lit p q = true ∧ 1 ≤ σ.hits g p q

theorem get_flagRegister_setRegister (s : State) (b : Bool) :
    (s.setRegister flagRegister (if b then 1 else 0)).registers.get flagRegister =
      if b then 1 else 0 := by
  refine (Registers.get_set_natCast _ (by decide) (by decide) _).trans ((if_pos rfl).trans ?_)
  cases b <;> rfl

theorem Sprite.drawn_toggleAll {σ : Sprite} {l : List (Int × Int)} (hg : g.HasPixels)
    (hl : ∀ p q, g.hits l p q = σ.hits g p q) (s : State) :
    σ.Drawn g (g.toggleAll l).grid
      (s.setRegister flagRegister (if (g.toggleAll l).erased.any id then 1 else 0)) where
  width := (PixelGrid.size_toggleAll hg l).1
  height := (PixelGrid.size_toggleAll hg l).2
  lit p q := by rw [PixelGrid.lit_toggleAll hg, hl]
  flag := by
    rw [get_flagRegister_setRegister]
    split
    · exact .inl rfl
    · exact .inr rfl
  flag_eq_one_iff := by
    have hany := PixelGrid.any_erased_toggleAll hg l
    simp only [PixelGrid.IsErased, hl] at hany
    rw [get_flagRegister_setRegister, ← hany]
    cases (g.toggleAll l).erased.any id <;> decide

/-- **Drawing once.** Besides the flag and the program counter the state stays. -/
theorem drawn_execute [Random.Generator] (ho : opcode < 65536) (hfamily : opcode / 4096 = 0xD)
    (hg : g.HasPixels) (hmemory : s.index.toNat + opcode % 16 ≤ memorySize) (keys : Keys) :
    ∃ (t : State) (flag : UInt8), (execute (.ofOpcode opcode) s g keys).result = .ok t ∧
      t = { s with pc := s.pc + 2, registers := s.registers.set flagRegister flag } ∧
      (s.sprite opcode).Drawn g (execute (.ofOpcode opcode) s g keys).grid t := by
  obtain ⟨hgrid, hresult⟩ := execute_draw ho hfamily hg hmemory keys
  refine ⟨_, _, hresult, rfl, ?_⟩
  rw [hgrid]
  exact Sprite.drawn_toggleAll hg (hits_spritePixels s opcode g) s.advance

/-! ### Drawing twice -/

/-- Unless the flag holds a coordinate, the sprite of the same opcode is the same afterwards. -/
theorem sprite_of_drawn {flag : UInt8} {pc : UInt16} (hx : opcode / 256 % 16 ≠ flagRegister)
    (hy : opcode / 16 % 16 ≠ flagRegister) :
    State.sprite { s with pc := pc, registers := s.registers.set flagRegister flag } opcode =
      s.sprite opcode := by
  have hvalue {x : Nat} (hx : x % 16 ≠ flagRegister) :
      State.valueOf { s with pc := pc, registers := s.registers.set flagRegister flag }
        (x % 16 : Nat) = s.valueOf (x % 16 : Nat) := by
    refine congrArg UInt8.toNat ((Registers.get_set_natCast _ (by decide) ?_ _).trans (if_neg hx))
    simp only [registerCount]
    omega
  rw [State.sprite, hvalue hx, hvalue hy, State.sprite]

namespace Sprite.Drawn

variable {σ : Sprite} {k : PixelGrid} {u : State}

theorem restores (hfirst : σ.Drawn g h t) (hsecond : σ.Drawn h k u) : k = g := by
  refine PixelGrid.eq_of_lit (hsecond.width.trans hfirst.width)
    (hsecond.height.trans hfirst.height) fun p q _ _ => ?_
  rw [hsecond.lit, hfirst.lit, hits_congr hfirst.width hfirst.height, Bool.xor_assoc, Bool.xor_self,
    Bool.xor_false]

/-- Where no two bits fall on one pixel, the flag of the second drawing tells whether the first one
lit a pixel. -/
theorem second_flag_iff (hfirst : σ.Drawn g h t) (hsecond : σ.Drawn h k u)
    (hw : spriteWidth ≤ g.width) (hh : σ.height ≤ g.height) :
    u.registers.get flagRegister = 1 ↔
      ∃ r < σ.height, ∃ c < spriteWidth, σ.bit r c = true ∧
        g.lit ((σ.x + c) % g.width) ((σ.y + r) % g.height) = false := by
  have hlit (p q : Nat) (hpos : 0 < σ.hits g p q) : h.lit p q = !g.lit p q := by
    have hone : σ.hits g p q = 1 := Nat.le_antisymm (hits_le_one hw hh) hpos
    rw [hfirst.lit, hone]
    simp
  rw [hsecond.flag_eq_one_iff]
  simp only [hits_congr hfirst.width hfirst.height]
  constructor
  · rintro ⟨p, q, htwo | ⟨hlit', hpos⟩⟩
    · exact absurd (hits_le_one hw hh) (Nat.not_le.2 htwo)
    · obtain ⟨r, hr, c, hc, hbit, rfl, rfl⟩ := hits_pos_iff.1 hpos
      rw [hlit _ _ hpos, Bool.not_eq_true'] at hlit'
      exact ⟨r, hr, c, hc, hbit, hlit'⟩
  · rintro ⟨r, hr, c, hc, hbit, hdark⟩
    have hpos : 0 < σ.hits g ((σ.x + c) % g.width) ((σ.y + r) % g.height) :=
      hits_pos_iff.2 ⟨r, hr, c, hc, hbit, rfl, rfl⟩
    refine ⟨_, _, .inr ⟨?_, hpos⟩⟩
    rw [hlit _ _ hpos, hdark]
    rfl

end Sprite.Drawn

/-- **Drawing a sprite** is an exclusive or on a grid that wraps around, and the flag tells whether
a pixel was turned off on the way. If the flag holds no coordinate, the same drawing once more
restores every pixel. If moreover the grid has room for the sprite, the second flag tells whether a
set bit fell on a pixel that was dark before the first drawing. -/
theorem draw_twice [Random.Generator] (ho : opcode < 65536) (hfamily : opcode / 4096 = 0xD)
    (hg : g.HasPixels) (hmemory : s.index.toNat + opcode % 16 ≤ memorySize) (keys keys' : Keys) :
    ∃ t h, (execute (.ofOpcode opcode) s g keys).result = .ok t ∧
      (execute (.ofOpcode opcode) s g keys).grid = h ∧ (s.sprite opcode).Drawn g h t ∧
      (opcode / 256 % 16 ≠ flagRegister → opcode / 16 % 16 ≠ flagRegister →
        ∃ u, (execute (.ofOpcode opcode) t h keys').result = .ok u ∧
          (execute (.ofOpcode opcode) t h keys').grid = g ∧
          (spriteWidth ≤ g.width → opcode % 16 ≤ g.height →
            (u.registers.get flagRegister = 1 ∨ u.registers.get flagRegister = 0) ∧
            (u.registers.get flagRegister = 1 ↔
              ∃ r < opcode % 16, ∃ c < spriteWidth, (s.sprite opcode).bit r c = true ∧
                g.lit (((s.sprite opcode).x + c) % g.width)
                  (((s.sprite opcode).y + r) % g.height) = false))) := by
  obtain ⟨t, flag, ht, hstate, hfirst⟩ := drawn_execute ho hfamily hg hmemory keys
  refine ⟨t, _, ht, rfl, hfirst, fun hx hy => ?_⟩
  have hpixels : (execute (.ofOpcode opcode) s g keys).grid.HasPixels := hasPixels_execute hg
  have hmemory' : t.index.toNat + opcode % 16 ≤ memorySize := by
    rw [hstate]
    exact hmemory
  obtain ⟨u, _, hu, -, hsecond⟩ := drawn_execute ho hfamily hpixels hmemory' keys'
  have hsprite : t.sprite opcode = s.sprite opcode := by
    rw [hstate]
    exact sprite_of_drawn hx hy
  rw [hsprite] at hsecond
  refine ⟨u, hu, hfirst.restores hsecond, fun hw hh => ⟨hsecond.flag, ?_⟩⟩
  exact hfirst.second_flag_iff hsecond hw hh

/-- A state that points at a row with its first and its fifth bit set. -/
def pointingAtRow : State :=
  { State.initial ⟨0, 0⟩ with index := 0x200, memory := Memory.blank.store 0x200 [0x88] }

set_option maxRecDepth 40000 in
/-- On a grid of four columns both bits of the row fall on one pixel, which the flag reports. -/
theorem draw_twice_pointingAtRow :
    0xD121 < 65536 ∧ 0xD121 / 4096 = 0xD ∧ (PixelGrid.dark 4 1).HasPixels ∧
      pointingAtRow.index.toNat + 0xD121 % 16 ≤ memorySize ∧
      0xD121 / 256 % 16 ≠ flagRegister ∧ 0xD121 / 16 % 16 ≠ flagRegister ∧
      ∃ t h, (execute (.ofOpcode 0xD121) pointingAtRow (.dark 4 1) .allUp).result = .ok t ∧
        (execute (.ofOpcode 0xD121) pointingAtRow (.dark 4 1) .allUp).grid = h ∧
        t.registers.get flagRegister = 1 ∧ h.lit 0 0 = false ∧
        ∃ u, (execute (.ofOpcode 0xD121) t h .allUp).result = .ok u ∧
          (execute (.ofOpcode 0xD121) t h .allUp).grid = .dark 4 1 := by
  have hpixels : (PixelGrid.dark 4 1).HasPixels := ⟨by decide, by decide⟩
  have hmemory : pointingAtRow.index.toNat + 0xD121 % 16 ≤ memorySize := by decide
  have hhits : (pointingAtRow.sprite 0xD121).hits (.dark 4 1) 0 0 = 2 := rfl
  obtain ⟨t, h, ht, hh, hdrawn, htwice⟩ :=
    draw_twice (by decide) rfl hpixels hmemory .allUp .allUp
  obtain ⟨u, hu, hrestored, -⟩ := htwice (by decide) (by decide)
  refine ⟨by decide, rfl, hpixels, hmemory, by decide, by decide, t, h, ht, hh, ?_, ?_, u, hu,
    hrestored⟩
  · exact hdrawn.flag_eq_one_iff.2 ⟨0, 0, .inl hhits.ge⟩
  · rw [hdrawn.lit, hhits]
    rfl

end Execute

end Chip8
