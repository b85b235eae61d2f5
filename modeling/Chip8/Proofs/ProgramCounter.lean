import Mathlib.Tactic.MkIffOfInductiveProp
import Chip8.Proofs.Control
import Chip8.Random.Threefry

/-!
# The program counter

Where a program goes on after an instruction, by the digits of its opcode. Jumps and calls go on at
the address in the opcode, and `BNNN` beyond it by the value of the first register, which takes no
more than sixteen bits. A return goes on at the newest return address. Every other instruction goes
on behind itself, or one instruction later if it is a skip and its condition holds. Skips come in
pairs with opposite conditions, so of two such skips exactly one skips in any state.

## Main definitions

* `Chip8.State.Skips` : an opcode skips the next instruction.
* `Chip8.State.GoesOn` : the program goes on at an address.
* `Chip8.AreOpposite` : two skips have the same operands and opposite conditions.

## Main results

* `Chip8.Operation.skips_eq_true_iff` : an operation skips exactly if its opcode does.
* `Chip8.AreOpposite.skips_iff` : one of two opposite skips skips.
* `Chip8.goesOn_execute` : where the program goes on.
-/

namespace Chip8

/-- In the state, the opcode skips the next instruction. -/
@[mk_iff]
inductive State.Skips (s : State) (keys : Keys) (opcode : Nat) : Prop
  /-- `3XNN` skips if `VX` is `NN`. -/
  | value (family : opcode / 4096 = 0x3)
      (holds : s.valueOf (opcode / 256 % 16 : Nat) = opcode % 256) : Skips s keys opcode
  /-- `4XNN` skips unless `VX` is `NN`. -/
  | otherValue (family : opcode / 4096 = 0x4)
      (holds : s.valueOf (opcode / 256 % 16 : Nat) ≠ opcode % 256) : Skips s keys opcode
  /-- `5XY0` skips if `VX` and `VY` are equal. -/
  | equal (family : opcode / 4096 = 0x5) (digit : opcode % 16 = 0)
      (holds : s.valueOf (opcode / 256 % 16 : Nat) = s.valueOf (opcode / 16 % 16 : Nat)) :
      Skips s keys opcode
  /-- `9XY0` skips unless `VX` and `VY` are equal. -/
  | unequal (family : opcode / 4096 = 0x9) (digit : opcode % 16 = 0)
      (holds : s.valueOf (opcode / 256 % 16 : Nat) ≠ s.valueOf (opcode / 16 % 16 : Nat)) :
      Skips s keys opcode
  /-- `EX9E` skips if the key that `VX` names is down. -/
  | keyDown (family : opcode / 4096 = 0xE) (code : opcode % 256 = 0x9E)
      (holds : keys.isDown (s.valueOf (opcode / 256 % 16 : Nat)) = true) : Skips s keys opcode
  /-- `EXA1` skips unless the key that `VX` names is down. -/
  | keyUp (family : opcode / 4096 = 0xE) (code : opcode % 256 = 0xA1)
      (holds : keys.isDown (s.valueOf (opcode / 256 % 16 : Nat)) ≠ true) : Skips s keys opcode

/-- The opcode is `1NNN`, `2NNN`, `BNNN` or `00EE`. -/
def IsJump (opcode : Nat) : Prop :=
  opcode / 4096 = 0x1 ∨ opcode / 4096 = 0x2 ∨ opcode / 4096 = 0xB ∨ opcode = 0x00EE

/-- In the state, the program goes on at an address after the opcode. -/
inductive State.GoesOn (s : State) (keys : Keys) (opcode : Nat) : Nat → Prop
  /-- `1NNN` and `2NNN` go on at `NNN`. -/
  | jump (family : opcode / 4096 = 0x1 ∨ opcode / 4096 = 0x2) :
      GoesOn s keys opcode (opcode % 4096)
  /-- `BNNN` goes on at `NNN` plus the first register. -/
  | jumpBeyond (family : opcode / 4096 = 0xB) :
      GoesOn s keys opcode (opcode % 4096 + s.valueOf 0)
  /-- `00EE` goes on at the newest return address. -/
  | ret {address : UInt16} {stack : CallStack} (isReturn : opcode = 0x00EE)
      (popped : s.stack.pop = .ok (address, stack)) : GoesOn s keys opcode address.toNat
  /-- A skip whose condition holds goes on behind the next instruction. -/
  | skip (skips : s.Skips keys opcode) : GoesOn s keys opcode ((s.pc.toNat + 4) % 65536)
  /-- Every other opcode goes on behind itself. -/
  | next (noJump : ¬IsJump opcode) (noSkip : ¬s.Skips keys opcode) :
      GoesOn s keys opcode ((s.pc.toNat + 2) % 65536)

/-- The opcodes are skips with the same operands and opposite conditions. -/
inductive AreOpposite (o o' : Nat) : Prop
  /-- `3XNN` and `4XNN`. -/
  | value (family : o / 4096 = 0x3) (family' : o' / 4096 = 0x4) (operands : o % 4096 = o' % 4096)
  /-- `5XY0` and `9XY0`. -/
  | equal (family : o / 4096 = 0x5) (family' : o' / 4096 = 0x9) (digit : o % 16 = 0)
      (operands : o % 4096 = o' % 4096)
  /-- `EX9E` and `EXA1`. -/
  | key (family : o / 4096 = 0xE) (family' : o' / 4096 = 0xE) (code : o % 256 = 0x9E)
      (code' : o' % 256 = 0xA1) (operand : o / 256 % 16 = o' / 256 % 16)

variable {s t : State} {grid : PixelGrid} {keys : Keys} {opcode o o' : Nat} {op : Operation}

/-! ### Skips -/

namespace Operation

theorem skips_of_isMeantBy (ho : opcode < 65536) (hop : op.IsMeantBy (.ofOpcode opcode))
    (h : op.skips s keys = true) : s.Skips keys opcode := by
  rw [Instruction.ofOpcode_eq ho] at hop
  cases op <;> simp only [IsMeantBy] at hop
  case skipIfValue x value =>
    obtain ⟨hfamily, rfl, rfl⟩ := hop
    exact .value (by omega) (Int.ofNat_inj.1 (eq_of_beq h))
  case skipUnlessValue x value =>
    obtain ⟨hfamily, rfl, rfl⟩ := hop
    exact .otherValue (by omega) fun heq => bne_iff_ne.1 h (congrArg Nat.cast heq)
  case skipIfEqual x y =>
    obtain ⟨hfamily, hdigit, rfl, rfl⟩ := hop
    exact .equal (by omega) (by omega) (eq_of_beq h)
  case skipUnlessEqual x y =>
    obtain ⟨hfamily, hdigit, rfl, rfl⟩ := hop
    exact .unequal (by omega) (by omega) (bne_iff_ne.1 h)
  case skipIfKey x =>
    obtain ⟨hfamily, hcode, rfl⟩ := hop
    exact .keyDown (by omega) (by omega) (eq_of_beq h)
  case skipUnlessKey x =>
    obtain ⟨hfamily, hcode, rfl⟩ := hop
    exact .keyUp (by omega) (by omega) (Bool.eq_false_iff.1 (eq_of_beq h))
  all_goals cases h

theorem exists_operation_of_skips (ho : opcode < 65536) (h : s.Skips keys opcode) :
    ∃ op : Operation, op.IsMeantBy (.ofOpcode opcode) ∧ op.skips s keys = true := by
  rw [Instruction.ofOpcode_eq ho]
  cases h with
  | value family holds =>
    exact ⟨.skipIfValue _ _, ⟨congrArg Nat.cast family, rfl, rfl⟩,
      beq_iff_eq.2 (congrArg Nat.cast holds)⟩
  | otherValue family holds =>
    exact ⟨.skipUnlessValue _ _, ⟨congrArg Nat.cast family, rfl, rfl⟩,
      bne_iff_ne.2 (mt Int.ofNat_inj.1 holds)⟩
  | equal family digit holds =>
    exact ⟨.skipIfEqual _ _, ⟨congrArg Nat.cast family, congrArg Nat.cast digit, rfl, rfl⟩,
      beq_iff_eq.2 holds⟩
  | unequal family digit holds =>
    exact ⟨.skipUnlessEqual _ _, ⟨congrArg Nat.cast family, congrArg Nat.cast digit, rfl, rfl⟩,
      bne_iff_ne.2 holds⟩
  | keyDown family code holds =>
    exact ⟨.skipIfKey _, ⟨congrArg Nat.cast family, congrArg Nat.cast code, rfl⟩,
      beq_iff_eq.2 holds⟩
  | keyUp family code holds =>
    exact ⟨.skipUnlessKey _, ⟨congrArg Nat.cast family, congrArg Nat.cast code, rfl⟩,
      beq_iff_eq.2 (Bool.eq_false_iff.2 holds)⟩

/-- **An operation skips exactly if its opcode does.** -/
theorem skips_eq_true_iff (ho : opcode < 65536) (hop : op.IsMeantBy (.ofOpcode opcode)) :
    op.skips s keys = true ↔ s.Skips keys opcode := by
  refine ⟨skips_of_isMeantBy ho hop, fun h => ?_⟩
  obtain ⟨op', hop', hskips⟩ := exists_operation_of_skips ho h
  have hi := Instruction.hasFamily_ofOpcode opcode
  have hsame : some op' = some op :=
    ((Instruction.operation?_eq_some_iff hi).2 hop').symm.trans
      ((Instruction.operation?_eq_some_iff hi).2 hop)
  rwa [← Option.some.inj hsame]

end Operation

theorem not_skips_of_operation?_eq_none (ho : opcode < 65536)
    (h : (Instruction.ofOpcode opcode).operation? = none) : ¬s.Skips keys opcode := by
  intro hskips
  obtain ⟨op, hop, -⟩ := Operation.exists_operation_of_skips ho hskips
  have hi := Instruction.hasFamily_ofOpcode opcode
  cases h.symm.trans ((Instruction.operation?_eq_some_iff hi).2 hop)

/-- **One of two opposite skips skips.** -/
theorem AreOpposite.skips_iff (h : AreOpposite o o') : s.Skips keys o ↔ ¬s.Skips keys o' := by
  cases h with
  | value family family' operands =>
    have hx : o' / 256 % 16 = o / 256 % 16 := by omega
    have hnn : o' % 256 = o % 256 := by omega
    simp [State.skips_iff, family, family', hx, hnn]
  | equal family family' digit operands =>
    have hx : o' / 256 % 16 = o / 256 % 16 := by omega
    have hy : o' / 16 % 16 = o / 16 % 16 := by omega
    have hdigit : o' % 16 = 0 := by omega
    simp [State.skips_iff, family, family', digit, hx, hy, hdigit]
  | key family family' code code' operand =>
    simp [State.skips_iff, family, family', code, code', operand]

/-! ### Where the program goes on -/

theorem AreOpposite.not_isJump (h : AreOpposite o o') : ¬IsJump o ∧ ¬IsJump o' := by
  cases h <;> simp only [IsJump] <;> omega

/-- What is no jump goes on behind itself or behind the next instruction, as it skips or not. -/
theorem goesOn_of_not_isJump (hjump : ¬IsJump opcode) (skips : Bool)
    (hskips : skips = true ↔ s.Skips keys opcode) :
    s.GoesOn keys opcode (if skips then s.pc + 2 + 2 else s.pc + 2).toNat := by
  cases skips with
  | true =>
    have hpc : (s.pc + 2 + 2).toNat = (s.pc.toNat + 4) % 65536 := by
      rw [UInt16.toNat_add, UInt16.toNat_add]
      change ((s.pc.toNat + 2) % 65536 + 2) % 65536 = _
      omega
    rw [if_pos rfl, hpc]
    exact .skip (hskips.1 rfl)
  | false =>
    have hpc : (s.pc + 2).toNat = (s.pc.toNat + 2) % 65536 := UInt16.toNat_add s.pc 2
    rw [if_neg Bool.false_ne_true, hpc]
    exact .next hjump fun h => Bool.false_ne_true (hskips.2 h)

/-- The counter of an opcode that does not jump tells whether it skips. -/
theorem State.GoesOn.skips_or {address : Nat} (h : s.GoesOn keys opcode address)
    (hjump : ¬IsJump opcode) :
    s.Skips keys opcode ∧ address = (s.pc.toNat + 4) % 65536 ∨
      ¬s.Skips keys opcode ∧ address = (s.pc.toNat + 2) % 65536 := by
  cases h with
  | jump family => exact absurd (by simp only [IsJump]; omega) hjump
  | jumpBeyond family => exact absurd (.inr (.inr (.inl family))) hjump
  | ret isReturn popped => exact absurd (.inr (.inr (.inr isReturn))) hjump
  | skip skips => exact .inl ⟨skips, rfl⟩
  | next noJump noSkip => exact .inr ⟨noSkip, rfl⟩

namespace Operation

theorem skips_advance (op : Operation) (s : State) (keys : Keys) :
    op.skips s.advance keys = op.skips s keys := by
  cases op <;> rfl

variable [Random.Generator]

theorem goesOn_run (ho : opcode < 65536) (hop : op.IsMeantBy (.ofOpcode opcode))
    (ht : (op.run s.advance grid keys).result = .ok t) : s.GoesOn keys opcode t.pc.toNat := by
  obtain ⟨hpc, hstack⟩ := run_control ht
  have hskips : op.skips s.advance keys = true ↔ s.Skips keys opcode := by
    rw [skips_advance, skips_eq_true_iff ho hop]
  rw [Instruction.ofOpcode_eq ho] at hop
  cases op <;> simp only [IsMeantBy] at hop
  case ret => exact .ret (by omega) hstack
  case jump | call =>
    obtain ⟨hfamily, rfl⟩ := hop
    have haddress : t.pc.toNat = opcode % 4096 := by
      rw [hpc, target, toNat_ofInt_natCast]
      omega
    rw [haddress]
    exact .jump (by omega)
  case jumpBeyond =>
    obtain ⟨hfamily, rfl⟩ := hop
    -- The sum of twelve bits and a byte has less than sixteen bits.
    have haddress : t.pc.toNat = opcode % 4096 + s.valueOf 0 := by
      have hbyte : s.valueOf 0 < 256 := UInt8.toNat_lt _
      rw [hpc]
      refine (toNat_ofInt_natCast (opcode % 4096 + s.valueOf 0)).trans ?_
      omega
    rw [haddress]
    exact .jumpBeyond (by omega)
  all_goals
    rw [hpc]
    exact goesOn_of_not_isJump (by simp only [IsJump]; omega) _ hskips

end Operation

/-- **Where the program goes on after an instruction.** -/
theorem goesOn_execute [Random.Generator] (ho : opcode < 65536)
    (ht : (execute (.ofOpcode opcode) s grid keys).result = .ok t) :
    s.GoesOn keys opcode t.pc.toNat := by
  have hi := Instruction.hasFamily_ofOpcode opcode
  rw [execute_of_hasFamily hi] at ht
  cases hop : (Instruction.ofOpcode opcode).operation? with
  | some op =>
    rw [hop] at ht
    exact Operation.goesOn_run ho (Instruction.isMeantBy_of_operation? hi hop) ht
  | none =>
    rw [hop] at ht
    cases ht
    have hnone : ¬s.Skips keys opcode := not_skips_of_operation?_eq_none ho hop
    refine goesOn_of_not_isJump (fun hjump => ?_) false (by simpa using hnone)
    -- Every jump means an operation.
    have hmeant : ∃ op : Operation, op.IsMeantBy (.ofOpcode opcode) := by
      rw [Instruction.ofOpcode_eq ho]
      rcases hjump with hfamily | hfamily | hfamily | rfl
      · exact ⟨.jump _, congrArg Nat.cast hfamily, rfl⟩
      · exact ⟨.call _, congrArg Nat.cast hfamily, rfl⟩
      · exact ⟨.jumpBeyond _, congrArg Nat.cast hfamily, rfl⟩
      · exact ⟨.ret, rfl, rfl⟩
    obtain ⟨op, hop'⟩ := hmeant
    cases hop.symm.trans ((Instruction.operation?_eq_some_iff hi).2 hop')

/-! ### Opposite skips -/

private theorem exists_ok_of_isMeantBy [Random.Generator] (op : Operation) (ho : opcode < 65536)
    (hop : op.IsMeantBy
      { raw := opcode
        family := (opcode / 4096 : Nat)
        x := (opcode / 256 % 16 : Nat)
        y := (opcode / 16 % 16 : Nat)
        n := (opcode % 16 : Nat)
        nn := (opcode % 256 : Nat)
        nnn := (opcode % 4096 : Nat) })
    (ht : (op.run s.advance grid keys).result = .ok t) :
    ∃ t, (execute (.ofOpcode opcode) s grid keys).result = .ok t := by
  rw [← Instruction.ofOpcode_eq ho] at hop
  rw [execute_ofOpcode hop]
  exact ⟨t, ht⟩

theorem AreOpposite.exists_ok [Random.Generator] (h : AreOpposite o o') (s : State)
    (grid : PixelGrid) (keys : Keys) :
    (∃ t, (execute (.ofOpcode o) s grid keys).result = .ok t) ∧
      ∃ t, (execute (.ofOpcode o') s grid keys).result = .ok t := by
  cases h with
  | value family family' operands =>
    exact ⟨exists_ok_of_isMeantBy (.skipIfValue _ _) (by omega)
        ⟨congrArg Nat.cast family, rfl, rfl⟩ rfl,
      exists_ok_of_isMeantBy (.skipUnlessValue _ _) (by omega)
        ⟨congrArg Nat.cast family', rfl, rfl⟩ rfl⟩
  | equal family family' digit operands =>
    have digit' : o' % 16 = 0 := by omega
    exact ⟨exists_ok_of_isMeantBy (.skipIfEqual _ _) (by omega)
        ⟨congrArg Nat.cast family, congrArg Nat.cast digit, rfl, rfl⟩ rfl,
      exists_ok_of_isMeantBy (.skipUnlessEqual _ _) (by omega)
        ⟨congrArg Nat.cast family', congrArg Nat.cast digit', rfl, rfl⟩ rfl⟩
  | key family family' code code' operand =>
    exact ⟨exists_ok_of_isMeantBy (.skipIfKey _) (by omega)
        ⟨congrArg Nat.cast family, congrArg Nat.cast code, rfl⟩ rfl,
      exists_ok_of_isMeantBy (.skipUnlessKey _) (by omega)
        ⟨congrArg Nat.cast family', congrArg Nat.cast code', rfl⟩ rfl⟩

/-- A register that names no key does not make `EX9E` skip. -/
theorem AreOpposite.not_skips_of_le (h : AreOpposite o o') (hfamily : o / 4096 = 0xE)
    (hvalue : keyCount ≤ s.valueOf (o / 256 % 16 : Nat)) : ¬s.Skips keys o := by
  have hup : keys.isDown (s.valueOf (o / 256 % 16 : Nat)) = false :=
    keys.isDown_eq_false (by omega)
  intro hskips
  cases hskips with
  | keyDown family code holds => exact Bool.false_ne_true (hup.symm.trans holds)
  | keyUp family code holds => cases h <;> omega
  | value family | otherValue family | equal family | unequal family => omega

/-- **The program counter.** An instruction that succeeds goes on where its opcode says. Of two
skips with the same operands and opposite conditions both succeed, and exactly one passes over the
next instruction. A value of sixteen or more names no key, so `EX9E` does not skip and `EXA1`
does. -/
theorem goesOn_and_opposite_skip [Random.Generator] (s : State) (grid : PixelGrid) (keys : Keys) :
    (∀ opcode < 65536, ∀ t, (execute (.ofOpcode opcode) s grid keys).result = .ok t →
      s.GoesOn keys opcode t.pc.toNat) ∧
    ∀ o o', AreOpposite o o' → ∃ t t',
      (execute (.ofOpcode o) s grid keys).result = .ok t ∧
      (execute (.ofOpcode o') s grid keys).result = .ok t' ∧
      (t.pc.toNat = (s.pc.toNat + 4) % 65536 ∧ t'.pc.toNat = (s.pc.toNat + 2) % 65536 ∨
        t.pc.toNat = (s.pc.toNat + 2) % 65536 ∧ t'.pc.toNat = (s.pc.toNat + 4) % 65536) ∧
      (o / 4096 = 0xE → keyCount ≤ s.valueOf (o / 256 % 16 : Nat) →
        t.pc.toNat = (s.pc.toNat + 2) % 65536 ∧ t'.pc.toNat = (s.pc.toNat + 4) % 65536) := by
  refine ⟨fun opcode ho t ht => goesOn_execute ho ht, fun o o' hopp => ?_⟩
  obtain ⟨⟨t, ht⟩, t', ht'⟩ := hopp.exists_ok s grid keys
  obtain ⟨ho, ho'⟩ : o < 65536 ∧ o' < 65536 := by cases hopp <;> omega
  obtain ⟨hjump, hjump'⟩ := hopp.not_isJump
  have hcounter := (goesOn_execute ho ht).skips_or hjump
  have hcounter' := (goesOn_execute ho' ht').skips_or hjump'
  have hone : s.Skips keys o ↔ ¬s.Skips keys o' := hopp.skips_iff
  refine ⟨t, t', ht, ht', ?_, fun hfamily hvalue => ?_⟩
  · rcases hcounter with ⟨hskips, hpc⟩ | ⟨hskips, hpc⟩ <;>
      rcases hcounter' with ⟨hskips', hpc'⟩ | ⟨hskips', hpc'⟩
    · exact absurd hskips' (hone.1 hskips)
    · exact .inl ⟨hpc, hpc'⟩
    · exact .inr ⟨hpc, hpc'⟩
    · exact absurd (hone.2 hskips') hskips
  · have hskips : ¬s.Skips keys o := hopp.not_skips_of_le hfamily hvalue
    have hskips' := not_not.1 (mt hone.2 hskips)
    exact ⟨(hcounter.resolve_left fun h => hskips h.1).2,
      (hcounter'.resolve_right fun h => h.1 hskips').2⟩

/-- A state at the last word of the address space, with 16 in `V1`. -/
def State.atLastWord : State :=
  { State.initial ⟨0, 0⟩ with pc := 0xFFFE, registers := Registers.blank.set 1 16 }

/-- A skip at the last word wraps around, and with every key down 16 names none of them. -/
theorem goesOn_and_opposite_skip_atLastWord :
    let keys : Keys := ⟨Vector.replicate keyCount true⟩
    0x3110 < 65536 ∧
      (∃ t, (execute (.ofOpcode 0x3110) .atLastWord (.dark 1 1) keys).result = .ok t ∧
        State.atLastWord.GoesOn keys 0x3110 t.pc.toNat ∧ t.pc.toNat = 2) ∧
      AreOpposite 0xE19E 0xE1A1 ∧ 0xE19E / 4096 = 0xE ∧
      keyCount ≤ State.atLastWord.valueOf (0xE19E / 256 % 16 : Nat) ∧
      ∃ t t', (execute (.ofOpcode 0xE19E) .atLastWord (.dark 1 1) keys).result = .ok t ∧
        (execute (.ofOpcode 0xE1A1) .atLastWord (.dark 1 1) keys).result = .ok t' ∧
        t.pc.toNat = 0 ∧ t'.pc.toNat = 2 := by
  intro keys
  have hopp : AreOpposite 0xE19E 0xE1A1 := .key rfl rfl rfl rfl rfl
  have hvalue : keyCount ≤ State.atLastWord.valueOf (0xE19E / 256 % 16 : Nat) := by decide
  obtain ⟨hgoes, hopposite⟩ := goesOn_and_opposite_skip .atLastWord (.dark 1 1) keys
  have ht : (execute (.ofOpcode 0x3110) .atLastWord (.dark 1 1) keys).result =
      .ok { State.atLastWord with pc := 2 } := rfl
  obtain ⟨t, t', hdown, hup, -, hkeys⟩ := hopposite _ _ hopp
  obtain ⟨hpc, hpc'⟩ := hkeys rfl hvalue
  exact ⟨by decide, ⟨_, ht, hgoes _ (by decide) _ ht, rfl⟩, hopp, rfl, hvalue, t, t', hdown, hup,
    hpc, hpc'⟩

end Chip8
