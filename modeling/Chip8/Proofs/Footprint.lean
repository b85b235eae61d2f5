import Mathlib.Algebra.Group.Nat.Defs
import Mathlib.Tactic.ByContra
import Chip8.Proofs.Path
import Chip8.Random.Threefry

/-!
# Footprints of instructions

What an instruction may write, by the digits of its opcode, and that it leaves everything else as it
was. An instruction that stores bytes writes exactly the bytes of its range, which lies in the
memory. An opcode whose sub-code is not in use writes nothing and only advances the program counter.

## Main definitions

* `Chip8.Part`, `Chip8.Part.Same` : the parts of the machine.
* `Chip8.State.Stores` : the bytes that an opcode stores.
* `Chip8.State.Writes` : the parts that an opcode may write.
* `Chip8.IsUnused` : the opcodes that mean nothing.

## Main results

* `Chip8.same_execute` : an instruction leaves every part that its opcode does not write.
* `Chip8.Path.same` : so do instructions one after the other.
* `Chip8.Session.perform_footprint` : the same for an instruction of a session.
-/

namespace Chip8

/-- The parts of the machine that an instruction may write besides the program counter. -/
inductive Part where
  /-- A byte of the memory. -/
  | memory (address : Nat)
  /-- A register. -/
  | register (x : Fin registerCount)
  /-- The index register. -/
  | index
  /-- The call stack. -/
  | stack
  /-- The delay timer. -/
  | delay
  /-- The sound timer. -/
  | sound
  /-- The key of the random generator. -/
  | key
  /-- The register that waits for a key. -/
  | waiting
  /-- The pixels. -/
  | pixels

/-- The part is the same in the states `s` and `t` with the pixels `g` and `h`. -/
def Part.Same (p : Part) (s t : State) (g h : PixelGrid) : Prop :=
  match p with
  | .memory address => t.memory.peek address = s.memory.peek address
  | .register x => t.registers.get x.val = s.registers.get x.val
  | .index => t.index = s.index
  | .stack => t.stack = s.stack
  | .delay => t.delay = s.delay
  | .sound => t.sound = s.sound
  | .key => t.key = s.key
  | .waiting => t.waiting = s.waiting
  | .pixels => h = g

/-- In the state, the opcode stores a byte at an address. -/
inductive State.Stores (s : State) (opcode : Nat) : Nat → UInt8 → Prop
  /-- `FX33` stores the three decimal digits of `VX`. -/
  | decimal {j : Nat} (family : opcode / 4096 = 0xF) (code : opcode % 256 = 0x33)
      (inRange : j ≤ 2) :
      Stores s opcode (s.index.toNat + j)
        (UInt8.ofNat (s.valueOf (opcode / 256 % 16 : Nat) / 10 ^ (2 - j) % 10))
  /-- `FX55` stores the registers from `V0` to `VX`. -/
  | registers {j : Nat} (family : opcode / 4096 = 0xF) (code : opcode % 256 = 0x55)
      (inRange : j ≤ opcode / 256 % 16) :
      Stores s opcode (s.index.toNat + j) (s.registers.get j)

/-- In the state, the opcode may write a part of the machine. -/
inductive State.Writes (s : State) (opcode : Nat) : Part → Prop
  /-- `FX33` and `FX55` write the bytes that they store. -/
  | memory {address : Nat} {byte : UInt8} (stored : s.Stores opcode address byte) :
      Writes s opcode (.memory address)
  /-- `6XNN`, `7XNN` and `CXNN` write `VX`. -/
  | load {x : Fin registerCount}
      (family : opcode / 4096 = 0x6 ∨ opcode / 4096 = 0x7 ∨ opcode / 4096 = 0xC)
      (isX : x.val = opcode / 256 % 16) : Writes s opcode (.register x)
  /-- `8XY0` to `8XY7` and `8XYE` write `VX`. -/
  | combine {x : Fin registerCount} (family : opcode / 4096 = 0x8)
      (digit : opcode % 16 ≤ 0x7 ∨ opcode % 16 = 0xE) (isX : x.val = opcode / 256 % 16) :
      Writes s opcode (.register x)
  /-- `8XY4` to `8XY7` and `8XYE` write the flag, too. -/
  | flag (family : opcode / 4096 = 0x8)
      (digit : 0x4 ≤ opcode % 16 ∧ opcode % 16 ≤ 0x7 ∨ opcode % 16 = 0xE) :
      Writes s opcode (.register 15)
  /-- `DXYN` writes the flag. -/
  | collision (family : opcode / 4096 = 0xD) : Writes s opcode (.register 15)
  /-- `FX07` writes `VX`. -/
  | readDelay {x : Fin registerCount} (family : opcode / 4096 = 0xF) (code : opcode % 256 = 0x07)
      (isX : x.val = opcode / 256 % 16) : Writes s opcode (.register x)
  /-- `FX65` writes the registers from `V0` to `VX`. -/
  | loadRegisters {x : Fin registerCount} (family : opcode / 4096 = 0xF)
      (code : opcode % 256 = 0x65) (upToX : x.val ≤ opcode / 256 % 16) :
      Writes s opcode (.register x)
  /-- `ANNN` writes the index register. -/
  | point (family : opcode / 4096 = 0xA) : Writes s opcode .index
  /-- `FX1E` and `FX29` write the index register. -/
  | movePoint (family : opcode / 4096 = 0xF) (code : opcode % 256 = 0x1E ∨ opcode % 256 = 0x29) :
      Writes s opcode .index
  /-- `2NNN` writes the call stack. -/
  | call (family : opcode / 4096 = 0x2) : Writes s opcode .stack
  /-- `00EE` writes the call stack. -/
  | ret (isReturn : opcode = 0x00EE) : Writes s opcode .stack
  /-- `FX15` writes the delay timer. -/
  | setDelay (family : opcode / 4096 = 0xF) (code : opcode % 256 = 0x15) : Writes s opcode .delay
  /-- `FX18` writes the sound timer. -/
  | setSound (family : opcode / 4096 = 0xF) (code : opcode % 256 = 0x18) : Writes s opcode .sound
  /-- `CXNN` writes the key of the random generator. -/
  | random (family : opcode / 4096 = 0xC) : Writes s opcode .key
  /-- `FX0A` writes the waiting register. -/
  | awaitKey (family : opcode / 4096 = 0xF) (code : opcode % 256 = 0x0A) :
      Writes s opcode .waiting
  /-- `00E0` writes the pixels. -/
  | clear (isClear : opcode = 0x00E0) : Writes s opcode .pixels
  /-- `DXYN` writes the pixels. -/
  | draw (family : opcode / 4096 = 0xD) : Writes s opcode .pixels

/-- The opcode belongs to a family with sub-codes and has one that is not in use. -/
inductive IsUnused (opcode : Nat) : Prop
  /-- A system opcode other than `00E0` and `00EE`. -/
  | system (family : opcode / 4096 = 0x0) (notClear : opcode ≠ 0x00E0) (notReturn : opcode ≠ 0x00EE)
  /-- `5XYN` or `9XYN` with `N` other than zero. -/
  | comparison (family : opcode / 4096 = 0x5 ∨ opcode / 4096 = 0x9) (digit : opcode % 16 ≠ 0)
  /-- `8XYN` with `N` from `8` to `D`, or `F`. -/
  | arithmetic (family : opcode / 4096 = 0x8) (digit : 0x7 < opcode % 16 ∧ opcode % 16 ≠ 0xE)
  /-- `EXNN` with `NN` other than `9E` and `A1`. -/
  | key (family : opcode / 4096 = 0xE) (code : opcode % 256 ∉ [0x9E, 0xA1])
  /-- `FXNN` with `NN` other than the nine sub-codes. -/
  | miscellaneous (family : opcode / 4096 = 0xF)
      (code : opcode % 256 ∉ [0x07, 0x0A, 0x15, 0x18, 0x1E, 0x29, 0x33, 0x55, 0x65])

variable {s t u : State} {g h k : PixelGrid} {keys : Keys} {opcode : Nat} {p : Part}

namespace Part

theorem same_refl (p : Part) (s : State) (g : PixelGrid) : p.Same s s g g := by
  cases p <;> rfl

theorem Same.trans (h₁ : p.Same s t g h) (h₂ : p.Same t u h k) : p.Same s u g k := by
  cases p <;> exact Eq.trans h₂ h₁

end Part

/-! ### Registers and bytes that stay -/

theorem get_set_of_ne (r : Registers) {x : Fin registerCount} (hx : x.val ≠ opcode / 256 % 16)
    (value : UInt8) : (r.set (opcode / 256 % 16 : Nat) value).get x.val = r.get x.val := by
  rw [Registers.get_set_natCast r (by simp only [registerCount]; omega) x.isLt, if_neg hx]

theorem get_set_flagRegister_of_ne (r : Registers) {x : Fin registerCount}
    (hx : x ≠ (15 : Fin registerCount)) (value : UInt8) :
    (r.set flagRegister value).get x.val = r.get x.val := by
  rw [Registers.get_set_natCast r (by decide) x.isLt, if_neg]
  exact fun h => hx (Fin.ext h)

/-- The last digit of an operation on two registers tells whether it has a flag. -/
theorem BinaryOp.digit_of_ofDigit? {op : BinaryOp} {n : Nat} (h : ofDigit? n = some op) :
    (n ≤ 0x3 ∧ ∀ a b, (op.apply a b).2 = none) ∨ 0x4 ≤ n ∧ n ≤ 0x7 ∨ n = 0xE := by
  unfold ofDigit? at h
  split_ifs at h <;> cases h
  · exact .inl ⟨by omega, fun _ _ => rfl⟩
  · exact .inl ⟨by omega, fun _ _ => rfl⟩
  · exact .inl ⟨by omega, fun _ _ => rfl⟩
  · exact .inl ⟨by omega, fun _ _ => rfl⟩
  all_goals exact .inr (by omega)

theorem State.get_registers_combine (s : State) (op : BinaryOp) (y : Int) {x : Fin registerCount}
    (hx : x.val ≠ opcode / 256 % 16)
    (hflag : (∀ a b, (op.apply a b).2 = none) ∨ x ≠ (15 : Fin registerCount)) :
    (s.combine op (opcode / 256 % 16 : Nat) y).registers.get x.val = s.registers.get x.val := by
  refine (get_set_of_ne _ hx _).trans ?_
  split
  · rename_i f hf
    rcases hflag with hnone | hne
    · cases (hnone _ _).symm.trans hf
    · exact get_set_flagRegister_of_ne _ hne _
  · rfl

/-- An address is outside of a range of which every address has a property that it has not. -/
private theorem outside_of_forall {start length address : Nat} {P : Nat → Prop}
    (hP : ∀ j < length, P (start + j)) (ha : ¬P address) :
    address < start ∨ start + length ≤ address := by
  by_contra hinside
  obtain ⟨j, rfl⟩ := Nat.exists_eq_add_of_le (Nat.not_lt.1 fun hlt => hinside (.inl hlt))
  exact ha (hP j (by omega))

/-! ### Operations -/

section Operations

variable [Random.Generator] {op : Operation}

theorem same_storeDecimal (hfamily : opcode / 4096 = 0xF) (hcode : opcode % 256 = 0x33) {x : Int}
    (h : (Operation.run (.storeDecimal x) s.advance g keys).result = .ok t)
    (hp : ¬s.Writes opcode p) : p.Same s t g g := by
  obtain ⟨-, rfl⟩ := Operation.store_ok (fun _ => State.isByte_of_mem_decimalDigits _) h
  cases p with
  | memory address =>
    refine Memory.peek_store_of_outside _ ?_
    refine outside_of_forall (P := fun a => s.Writes opcode (.memory a)) (fun j hj => ?_) hp
    exact .memory (.decimal hfamily hcode (by simpa using Nat.le_of_lt_succ hj))
  | _ => rfl

theorem same_storeRegisters (hfamily : opcode / 4096 = 0xF) (hcode : opcode % 256 = 0x55)
    (h : (Operation.run (.storeRegisters (opcode / 256 % 16 : Nat)) s.advance g keys).result =
      .ok t) (hp : ¬s.Writes opcode p) : p.Same s t g g := by
  obtain ⟨-, rfl⟩ := Operation.store_ok (fun _ => State.isByte_of_mem_registersUpTo _) h
  cases p with
  | memory address =>
    refine Memory.peek_store_of_outside _ ?_
    refine outside_of_forall (P := fun a => s.Writes opcode (.memory a)) (fun j hj => ?_) hp
    rw [List.length_map, State.length_registersUpTo] at hj
    exact .memory (.registers hfamily hcode (by omega))
  | _ => rfl

theorem same_loadRegisters (hfamily : opcode / 4096 = 0xF) (hcode : opcode % 256 = 0x65)
    (h : (Operation.run (.loadRegisters (opcode / 256 % 16 : Nat)) s.advance g keys).result =
      .ok t) (hp : ¬s.Writes opcode p) : p.Same s t g g := by
  obtain ⟨values, hread, rfl⟩ := Operation.run_loadRegisters_ok h
  have hlength : values.length = opcode / 256 % 16 + 1 := by
    rw [Memory.read_eq] at hread
    split at hread
    · cases hread
      simp only [List.length_map, List.length_range]
      omega
    · cases hread
  cases p with
  | register x =>
    have hx : ¬x.val ≤ opcode / 256 % 16 := fun hle => hp (.loadRegisters hfamily hcode hle)
    refine (Registers.get_setFirst _ (by simp only [registerCount]; omega) x.isLt).trans ?_
    rw [List.getD_eq_getElem?_getD, List.getElem?_eq_none (by omega), Option.getD_none]
    rfl
  | _ => rfl

/-- **An operation leaves every part that its opcode does not write.** -/
theorem same_run (ho : opcode < 65536) (hop : op.IsMeantBy (.ofOpcode opcode))
    (ht : (op.run s.advance g keys).result = .ok t) (hp : ¬s.Writes opcode p) :
    p.Same s t g (op.run s.advance g keys).grid := by
  rw [Instruction.ofOpcode_eq ho] at hop
  cases op <;> simp only [Operation.IsMeantBy] at hop
  case clear =>
    cases ht
    cases p with
    | pixels => exact absurd (.clear (by omega)) hp
    | _ => rfl
  case ret =>
    obtain ⟨address, stack, -, rfl⟩ := Operation.run_ret_ok ht
    cases p with
    | stack => exact absurd (.ret (by omega)) hp
    | _ => rfl
  case call address =>
    obtain ⟨stack, -, rfl⟩ := Operation.run_call_ok ht
    cases p with
    | stack => exact absurd (.call (by omega)) hp
    | _ => rfl
  case load x value | increase x value =>
    obtain ⟨hfamily, rfl, rfl⟩ := hop
    cases ht
    cases p with
    | register x => exact get_set_of_ne _ (fun hx => hp (.load (by omega) hx)) _
    | _ => rfl
  case random x mask =>
    obtain ⟨hfamily, rfl, rfl⟩ := hop
    cases ht
    cases p with
    | register x => exact get_set_of_ne _ (fun hx => hp (.load (by omega) hx)) _
    | key => exact absurd (.random (by omega)) hp
    | _ => rfl
  case combine op x y =>
    obtain ⟨hfamily, hdigit, rfl, rfl⟩ := hop
    have hdigit := BinaryOp.digit_of_ofDigit? hdigit
    cases ht
    cases p with
    | register x =>
      refine State.get_registers_combine _ op _ (fun hx => hp ?_) ?_
      · exact .combine (by omega) (by omega) hx
      · refine hdigit.imp And.right fun hdigit hx => hp ?_
        exact hx ▸ .flag (by omega) hdigit
    | _ => rfl
  case draw x y height =>
    obtain ⟨hfamily, -⟩ := hop
    obtain ⟨rows, -, rfl⟩ := Operation.run_draw_ok ht
    cases p with
    | register x =>
      refine get_set_flagRegister_of_ne _ (fun hx => hp ?_) _
      exact hx ▸ .collision (by omega)
    | pixels => exact absurd (.draw (by omega)) hp
    | _ => rfl
  case point address =>
    cases ht
    cases p with
    | index => exact absurd (.point (by omega)) hp
    | _ => rfl
  case shiftPoint x | pointAtGlyph x =>
    cases ht
    cases p with
    | index => exact absurd (.movePoint (by omega) (by omega)) hp
    | _ => rfl
  case readDelay x =>
    obtain ⟨hfamily, hcode, rfl⟩ := hop
    cases ht
    cases p with
    | register x => exact get_set_of_ne _ (fun hx => hp (.readDelay (by omega) (by omega) hx)) _
    | _ => rfl
  case awaitKey x =>
    cases ht
    cases p with
    | waiting => exact absurd (.awaitKey (by omega) (by omega)) hp
    | _ => rfl
  case setDelay x =>
    cases ht
    cases p with
    | delay => exact absurd (.setDelay (by omega) (by omega)) hp
    | _ => rfl
  case setSound x =>
    cases ht
    cases p with
    | sound => exact absurd (.setSound (by omega) (by omega)) hp
    | _ => rfl
  case storeDecimal x => exact same_storeDecimal (by omega) (by omega) ht hp
  case storeRegisters x =>
    obtain ⟨hfamily, hcode, rfl⟩ := hop
    exact same_storeRegisters (by omega) (by omega) ht hp
  case loadRegisters x =>
    obtain ⟨hfamily, hcode, rfl⟩ := hop
    exact same_loadRegisters (by omega) (by omega) ht hp
  case jump | jumpBeyond =>
    cases ht
    cases p <;> rfl
  all_goals
    -- A skip moves the program counter only.
    cases ht
    unfold State.skipIf
    split <;> cases p <;> rfl

end Operations

/-! ### Instructions -/

theorem IsUnused.operation? (ho : opcode < 65536) (h : IsUnused opcode) :
    (Instruction.ofOpcode opcode).operation? = none := by
  rw [Option.eq_none_iff_forall_ne_some]
  intro op hop
  have hmeant := Instruction.isMeantBy_of_operation? (Instruction.hasFamily_ofOpcode opcode) hop
  rw [Instruction.ofOpcode_eq ho] at hmeant
  cases h with
  | system | comparison =>
    cases op <;> simp only [Operation.IsMeantBy] at hmeant <;> omega
  | arithmetic hfamily hdigit =>
    cases op <;> simp only [Operation.IsMeantBy] at hmeant <;> try omega
    have := BinaryOp.digit_of_ofDigit? hmeant.2.1
    omega
  | key hfamily hcode | miscellaneous hfamily hcode =>
    simp only [List.mem_cons, List.not_mem_nil, or_false, not_or] at hcode
    cases op <;> simp only [Operation.IsMeantBy] at hmeant <;> omega

/-- **An instruction leaves every part that its opcode does not write.** -/
theorem same_execute [Random.Generator] (ho : opcode < 65536)
    (ht : (execute (.ofOpcode opcode) s g keys).result = .ok t) (hp : ¬s.Writes opcode p) :
    p.Same s t g (execute (.ofOpcode opcode) s g keys).grid := by
  have hi := Instruction.hasFamily_ofOpcode opcode
  rw [execute_of_hasFamily hi] at ht ⊢
  cases hop : (Instruction.ofOpcode opcode).operation? with
  | none =>
    rw [hop] at ht
    cases ht
    cases p <;> rfl
  | some op =>
    rw [hop] at ht
    exact same_run ho (Instruction.isMeantBy_of_operation? hi hop) ht hp

theorem State.peek_of_store {values : List Int} (hv : ∀ v ∈ values, isByte v)
    (h : s.store values = .ok t) {j : Nat} (hj : j < values.length) :
    s.index.toNat + j < memorySize ∧
      t.memory.peek (s.index.toNat + j) = UInt8.ofInt values[j] := by
  obtain ⟨hinside, rfl⟩ := Operation.store_ok hv h
  have hend := (s.outside?_natCast_eq_none_iff _).1 hinside
  have hlast : s.index.toNat + j < memorySize := by omega
  refine ⟨hlast, ?_⟩
  rw [Memory.peek_store_add _ (by rwa [List.length_map]) hlast, List.getElem_map]

theorem ofInt_natCast (n : Nat) : UInt8.ofInt n = UInt8.ofNat n := by
  apply UInt8.toNat_inj.1
  simp only [UInt8.ofInt, UInt8.toNat_ofNat']
  omega

theorem State.getElem_decimalDigits (s : State) (x : Int) {j : Nat}
    (hj : j < (s.decimalDigits x).length) :
    (s.decimalDigits x)[j] = (s.valueOf x / 10 ^ (2 - j) % 10 : Nat) := by
  have hbyte : s.valueOf x < 256 := UInt8.toNat_lt _
  have hthree : (s.decimalDigits x).length = 3 := rfl
  obtain rfl | rfl | rfl : j = 0 ∨ j = 1 ∨ j = 2 := by omega
  · change (s.valueOf x : Int) / 100 = (s.valueOf x / 100 % 10 : Nat)
    omega
  · rfl
  · change (s.valueOf x : Int) % 10 = (s.valueOf x / 1 % 10 : Nat)
    omega

/-- **The bytes that an opcode stores are in the memory afterwards**, each at its own address. -/
theorem peek_of_stores [Random.Generator] (ho : opcode < 65536)
    (ht : (execute (.ofOpcode opcode) s g keys).result = .ok t) {address : Nat} {byte : UInt8}
    (h : s.Stores opcode address byte) : address < memorySize ∧ t.memory.peek address = byte := by
  cases h with
  | @decimal j hfamily hcode hj =>
    have hop : (Operation.storeDecimal (opcode / 256 % 16 : Nat)).IsMeantBy (.ofOpcode opcode) := by
      rw [Instruction.ofOpcode_eq ho]
      simp only [Operation.IsMeantBy, and_true]
      omega
    rw [execute_ofOpcode hop] at ht
    have hbytes := fun v => s.advance.isByte_of_mem_decimalDigits (v := v)
      (x := (opcode / 256 % 16 : Nat))
    have hlength : j < (s.advance.decimalDigits (opcode / 256 % 16 : Nat)).length :=
      Nat.lt_succ_of_le hj
    obtain ⟨hlast, hbyte⟩ := State.peek_of_store hbytes ht hlength
    rw [State.getElem_decimalDigits, ofInt_natCast] at hbyte
    exact ⟨hlast, hbyte⟩
  | @registers j hfamily hcode hj =>
    have hop : (Operation.storeRegisters (opcode / 256 % 16 : Nat)).IsMeantBy
        (.ofOpcode opcode) := by
      rw [Instruction.ofOpcode_eq ho]
      simp only [Operation.IsMeantBy, and_true]
      omega
    rw [execute_ofOpcode hop] at ht
    have hbytes := fun v => s.advance.isByte_of_mem_registersUpTo (v := v)
      (x := (opcode / 256 % 16 : Nat))
    have hlength : j < (s.advance.registersUpTo (opcode / 256 % 16 : Nat)).length := by
      rw [State.length_registersUpTo]
      omega
    obtain ⟨hlast, hbyte⟩ := State.peek_of_store hbytes ht hlength
    simp only [State.registersUpTo, List.getElem_map, List.getElem_range, ofInt_natCast,
      State.valueOf, UInt8.ofNat_toNat] at hbyte
    exact ⟨hlast, hbyte⟩

theorem Path.same [Random.Generator] {l : List Executed} (path : Path keys s g l t h)
    (hp : ∀ x ∈ l, ∀ u : State, ¬u.Writes x.opcode p) : p.Same s t g h := by
  induction path with
  | nil s g => exact p.same_refl s g
  | cons fetched succeeded rest ih =>
    obtain ⟨hfirst, hrest⟩ := List.forall_mem_cons.1 hp
    exact (same_execute (State.fetch_lt fetched) succeeded (hfirst _)).trans (ih hrest)

namespace Session

open Procedure

variable {s : Session}

theorem exists_effectOf_of_perform [Random.Generator] {i : Instruction}
    (h : (perform i s).result = .ok ()) :
    ∃ t, (s.effectOf i).result = .ok t := by
  cases hr : (s.effectOf i).result with
  | error e =>
    rw [(perform_yields_error hr).result_eq] at h
    cases h
  | ok t => exact ⟨t, rfl⟩

/-- **The footprint of an instruction.** An instruction that succeeds changes the state and the
pixels of a session at most. Besides the program counter it leaves every part of them that its
opcode does not write, and the bytes that it stores are in the memory. Of the devices it turns
pixels and asks for keys, and no more. An opcode that is not in use succeeds and only advances the
program counter. -/
theorem perform_footprint [Random.Generator] {opcode : Nat} (ho : opcode < 65536) :
    ((perform (.ofOpcode opcode) s).result = .ok () →
      ∃ t g calls,
        (perform (.ofOpcode opcode)).Yields s (.ok ())
          { s with state := t, screen := { s.screen with grid := g } } calls ∧
        (∀ c ∈ calls, c.IsOfInstruction) ∧
        (∀ p : Part, ¬s.state.Writes opcode p → p.Same s.state t s.screen.grid g) ∧
        ∀ address byte, s.state.Stores opcode address byte →
          address < memorySize ∧ t.memory.peek address = byte) ∧
    (IsUnused opcode →
      (perform (.ofOpcode opcode)).Yields s (.ok ())
        { s with state := { s.state with pc := s.state.pc + 2 } } []) := by
  refine ⟨fun h => ?_, fun hunused => ?_⟩
  · obtain ⟨t, ht⟩ := exists_effectOf_of_perform h
    refine ⟨t, _, _, perform_yields ht, fun c => isOfInstruction_of_mem_calls_execute, ?_, ?_⟩
    · exact fun p hp => same_execute ho ht hp
    · exact fun address byte hb => peek_of_stores ho ht hb
  · have heffect : s.effectOf (.ofOpcode opcode) =
        { result := .ok s.state.advance
          grid := s.screen.grid
          warnings := [(Instruction.ofOpcode opcode).ignoredWarning s.state.advance.pc] } := by
      rw [effectOf, execute_of_hasFamily (Instruction.hasFamily_ofOpcode opcode),
        hunused.operation? ho]
    have hyields := perform_yields (s := s) (i := .ofOpcode opcode) (t := s.state.advance)
      (by rw [heffect])
    rwa [heffect] at hyields

/-- A session whose index register points at `0x300`, with 254 in `V1`. -/
def pointing : Session :=
  let s := ofProgram [] 1
  { s with state := { s.state with index := 0x300, registers := Registers.blank.set 1 254 } }

set_option maxRecDepth 40000 in
/-- The decimal digits of a register are stored, and nothing else is written. A comparison with an
unused digit only advances the program counter. -/
theorem perform_footprint_pointing :
    0xF133 < 65536 ∧ (perform (.ofOpcode 0xF133) pointing).result = .ok () ∧
      (∃ t g, (perform (.ofOpcode 0xF133)).Yields pointing (.ok ())
          { pointing with state := t, screen := { pointing.screen with grid := g } } [] ∧
        t.memory.peek 0x300 = 2 ∧ t.memory.peek 0x301 = 5 ∧ t.memory.peek 0x302 = 4 ∧
        t.memory.peek 0x303 = 0 ∧ t.registers.get 1 = 254 ∧ g = pointing.screen.grid) ∧
      0x5121 < 65536 ∧ IsUnused 0x5121 ∧
      (perform (.ofOpcode 0x5121)).Yields pointing (.ok ())
        { pointing with state := { pointing.state with pc := 514 } } [] := by
  have ho : 0xF133 < 65536 := by decide
  have ho' : 0x5121 < 65536 := by decide
  have hok : (perform (.ofOpcode 0xF133) pointing).result = .ok () := rfl
  have hunused : IsUnused 0x5121 := .comparison (.inl rfl) (by decide)
  obtain ⟨t, g, calls, hyields, -, hsame, hstored⟩ := (perform_footprint ho).1 hok
  obtain rfl : [] = calls := hyields.calls_eq
  have hdigit {j : Nat} (hj : j ≤ 2) := (hstored _ _ (.decimal rfl rfl hj)).2
  have hregister : t.registers.get 1 = 254 := hsame (.register 1) (by rintro ⟨⟩ <;> omega)
  have hbehind : t.memory.peek 0x303 = 0 := by
    have hindex : pointing.state.index.toNat = 0x300 := rfl
    refine hsame (.memory 0x303) ?_
    rintro ⟨hstores⟩
    generalize haddress : 0x303 = address at hstores
    cases hstores <;> omega
  refine ⟨ho, hok, ⟨t, g, hyields, hdigit (j := 0) (by decide), hdigit (j := 1) (by decide),
    hdigit (j := 2) (by decide), hbehind, hregister, ?_⟩, ho', hunused,
    (perform_footprint ho').2 hunused⟩
  exact hsame .pixels (by rintro ⟨⟩ <;> omega)

end Session

end Chip8
