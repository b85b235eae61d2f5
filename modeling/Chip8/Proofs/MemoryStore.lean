import Chip8.Proofs.Loading
import Chip8.Session.Command

/-!
# Writing and reading memory

A write succeeds if its range lies in the memory and its values are bytes. Then a read gives the
values back where the two ranges overlap, and elsewhere the bytes as they were. A range that leaves
the memory, at either end, is refused: no integer stands for the address of another byte.

## Main definitions

* `Chip8.Memory.byteAfter` : the byte at an address after values were written.

## Main results

* `Chip8.Memory.write_eq_fault_iff`, `Chip8.Memory.write_eq_misuse_iff`,
  `Chip8.Memory.write_eq_ok_iff` : the three outcomes of a write.
* `Chip8.Memory.exists_read_of_write` : what is read after a write.
* `Chip8.Memory.read_of_write_elsewhere` : a write shows at its own addresses only.
* `Chip8.Session.read_after_write` : the same for the commands of a host.
-/

namespace Chip8

namespace Memory

variable {m t : Memory} {start address length : Int} {values : List Int}

/-- The number at an address after values were written from `start` on: the value that was written
there, if one was, and otherwise the byte of the memory. -/
def byteAfter (m : Memory) (start : Int) (values : List Int) (address : Int) : Int :=
  if h : start ≤ address ∧ address < start + values.length then values[(address - start).toNat]
  else (m.peek address.toNat).toNat

/-! ### The outcomes of a write -/

theorem inBounds_length_iff :
    InBounds start values.length ↔ 0 ≤ start ∧ start + values.length ≤ memorySize := by
  simp only [InBounds, Int.natCast_nonneg, true_and]

/-- The range is checked first, and then the values in turn. -/
theorem write_eq_ite (m : Memory) (start : Int) (values : List Int) :
    m.write start values =
      if InBounds start values.length then
        match values.find? fun v => v < 0 ∨ 255 < v with
        | some v => .error (.misuse (.ofNonByte v))
        | none => .ok (m.store start.toNat (values.map UInt8.ofInt))
      else .error (.fault (.outOfBounds start values.length)) := by
  have hbyte : (fun v => !isByte v) = fun v => decide (v < 0 ∨ 255 < v) := by
    funext v
    rw [Bool.eq_iff_iff, Bool.not_eq_true', decide_eq_true_iff, ← Bool.not_eq_true, isByte_iff]
    omega
  unfold write checkBounds
  rw [hbyte]
  split
  · cases values.find? fun v => v < 0 ∨ 255 < v <;> rfl
  · rfl

theorem write_eq_fault_iff {f : Fault} :
    m.write start values = .error (.fault f) ↔
      ¬InBounds start values.length ∧ f = .outOfBounds start values.length := by
  rw [write_eq_ite]
  by_cases hb : InBounds start values.length
  · cases values.find? fun v => v < 0 ∨ 255 < v <;> simp [hb]
  · simp [hb, eq_comm]

/-- A write to a range of the memory is a misuse exactly if a value is no byte. The first such value
is to blame. -/
theorem write_eq_misuse_iff {u : Misuse} :
    m.write start values = .error (.misuse u) ↔
      InBounds start values.length ∧
        ∃ v, values.find? (fun v => v < 0 ∨ 255 < v) = some v ∧ u = .ofNonByte v := by
  rw [write_eq_ite]
  by_cases hb : InBounds start values.length
  · cases values.find? fun v => v < 0 ∨ 255 < v <;> simp [hb, eq_comm]
  · simp [hb]

theorem write_eq_ok_iff :
    m.write start values = .ok t ↔
      (InBounds start values.length ∧ ∀ v ∈ values, 0 ≤ v ∧ v ≤ 255) ∧
        t = m.store start.toNat (values.map UInt8.ofInt) := by
  have hnone : (values.find? fun v => v < 0 ∨ 255 < v) = none ↔ ∀ v ∈ values, 0 ≤ v ∧ v ≤ 255 := by
    simp only [List.find?_eq_none, decide_eq_true_iff, not_or, Int.not_lt]
  rw [write_eq_ite, ← hnone]
  by_cases hb : InBounds start values.length
  · cases values.find? fun v => v < 0 ∨ 255 < v <;> simp [hb, eq_comm]
  · simp [hb]

/-! ### Reading after a write -/

theorem toNat_peek_of_write (h : m.write start values = .ok t) (h₀ : 0 ≤ address)
    (h₁ : address < memorySize) :
    ((t.peek address.toNat).toNat : Int) = m.byteAfter start values address := by
  obtain ⟨⟨hb, hv⟩, rfl⟩ := write_eq_ok_iff.1 h
  have hstart : 0 ≤ start := hb.1
  unfold byteAfter
  split
  · rename_i hin
    have hj : (address - start).toNat < values.length := by omega
    have hplace : address.toNat = start.toNat + (address - start).toNat := by omega
    have hbyte := hv _ (List.getElem_mem hj)
    rw [hplace, peek_store_add _ (by rwa [List.length_map]) (by omega), List.getElem_map]
    exact toNat_ofInt_of_isByte (isByte_iff.2 ⟨hbyte.1, by omega⟩)
  · rw [peek_store_of_outside _ (by rw [List.length_map]; omega)]

/-- **What is read after a write**, wherever the two ranges lie. -/
theorem exists_read_of_write (h : m.write start values = .ok t) (hb : InBounds address length) :
    ∃ bytes, t.read address length = .ok bytes ∧
      (bytes.map fun b => (b.toNat : Int)) =
        (List.range length.toNat).map fun (j : Nat) => m.byteAfter start values (address + j) := by
  obtain ⟨h₀, h₁, h₂⟩ := hb
  refine ⟨_, (t.read_eq address length).trans (if_pos ⟨h₀, h₁, h₂⟩), ?_⟩
  rw [List.map_map]
  refine List.map_congr_left fun j hj => ?_
  have hlt : j < length.toNat := List.mem_range.1 hj
  rw [Function.comp_apply, ← toNat_peek_of_write h (by omega) (by omega),
    Int.toNat_add h₀ (Int.natCast_nonneg j), Int.toNat_natCast]

/-- **A write shows at its own addresses only.** Any other integer, whether or not it is an address,
is read as before. -/
theorem read_of_write_elsewhere (h : m.write start values = .ok t)
    (helsewhere : ¬(start ≤ address ∧ address < start + values.length)) :
    t.read address 1 = m.read address 1 := by
  obtain ⟨⟨hb, -⟩, rfl⟩ := write_eq_ok_iff.1 h
  have hstart : 0 ≤ start := hb.1
  rw [read_eq, read_eq]
  by_cases hone : InBounds address 1
  · have h₀ : 0 ≤ address := hone.1
    have hpeek : (m.store start.toNat (values.map UInt8.ofInt)).peek address.toNat =
        m.peek address.toNat :=
      peek_store_of_outside m (by rw [List.length_map]; omega)
    rw [if_pos hone, if_pos hone]
    exact congrArg (fun b => Except.ok [b]) hpeek
  · rw [if_neg hone, if_neg hone]

end Memory

namespace Session

variable {s : Session} {start address length : Int} {values : List Int}

/-! ### Commands of a host -/

section

variable [Random.Generator]

theorem perform_readMemory (s : Session) (address length : Int) :
    (Command.readMemory address length).perform s =
      ⟨(s.state.memory.read address length).map .bytes, s, {}⟩ := by
  rw [Memory.read_eq, Command.perform, Procedure.session_bind_apply, Memory.read_eq]
  split <;> rfl

theorem perform_writeMemory (s : Session) (start : Int) (values : List Int) :
    (Command.writeMemory start values).perform s =
      match s.state.memory.write start values with
      | .error e => ⟨.error e, s, {}⟩
      | .ok m => ⟨.ok .done, { s with state := { s.state with memory := m } }, {}⟩ := by
  rw [Command.perform, writeMemory, bind_assoc, Procedure.session_bind_apply]
  cases s.state.memory.write start values <;> rfl

theorem perform_writeMemory_eq_error_iff {e : Error} :
    ((Command.writeMemory start values).perform s).result = .error e ↔
      s.state.memory.write start values = .error e := by
  rw [perform_writeMemory]
  cases s.state.memory.write start values <;> simp

theorem perform_writeMemory_eq_ok_iff :
    ((Command.writeMemory start values).perform s).result = .ok .done ↔
      ∃ m, s.state.memory.write start values = .ok m := by
  rw [perform_writeMemory]
  cases s.state.memory.write start values <;> simp

theorem perform_readMemory_eq_error_iff {e : Error} :
    ((Command.readMemory address length).perform s).result = .error e ↔
      ¬InBounds address length ∧ e = .fault (.outOfBounds address length) := by
  rw [perform_readMemory, Memory.read_eq]
  by_cases hb : InBounds address length <;> simp [hb, Except.map, eq_comm]

/-- **What is read after a write.** A write is a fault exactly if its range leaves the memory, a
misuse exactly if it does not and a value is no byte, and succeeds otherwise. Refused, it changes
nothing, and else nothing but the memory. A read is a fault exactly if its range leaves the memory.
After a write that succeeded, it gives the values where the two ranges overlap, and elsewhere the
bytes as they were. Whatever was written, and wherever, an integer outside the range of the write is
read as before. -/
theorem read_after_write (s : Session) (start : Int) (values : List Int) :
    let written := (Command.writeMemory start values).perform s
    let read (t : Session) (address length : Int) :=
      ((Command.readMemory address length).perform t).result
    (∀ f, written.result = .error (.fault f) ↔
      (start < 0 ∨ memorySize < start + values.length) ∧ f = .outOfBounds start values.length) ∧
    (∀ u, written.result = .error (.misuse u) ↔
      (0 ≤ start ∧ start + values.length ≤ memorySize) ∧
        ∃ v, values.find? (fun v => v < 0 ∨ 255 < v) = some v ∧ u = .ofNonByte v) ∧
    (written.result = .ok .done ↔
      (0 ≤ start ∧ start + values.length ≤ memorySize) ∧ ∀ v ∈ values, 0 ≤ v ∧ v ≤ 255) ∧
    (∀ e, written.result = .error e → written.session = s) ∧
    (∃ m, written.session = { s with state := { s.state with memory := m } }) ∧
    (∀ (address length : Int) (e : Error), read written.session address length = .error e ↔
      (address < 0 ∨ length < 0 ∨ memorySize < address + length) ∧
        e = .fault (.outOfBounds address length)) ∧
    (∀ address length : Int, written.result = .ok .done →
      0 ≤ address → 0 ≤ length → address + length ≤ memorySize →
      ∃ bytes, read written.session address length = .ok (.bytes bytes) ∧
        (bytes.map fun b => (b.toNat : Int)) = (List.range length.toNat).map fun (j : Nat) =>
          s.state.memory.byteAfter start values (address + j)) ∧
    ∀ address, ¬(start ≤ address ∧ address < start + values.length) →
      read written.session address 1 = read s address 1 := by
  intro written read
  have hrange : InBounds start values.length ↔ _ := Memory.inBounds_length_iff
  refine ⟨fun f => ?_, fun u => ?_, ?_, ?_, ?_, ?_, ?_, ?_⟩
  · rw [perform_writeMemory_eq_error_iff, Memory.write_eq_fault_iff, hrange]
    refine and_congr_left fun _ => ?_
    omega
  · rw [perform_writeMemory_eq_error_iff, Memory.write_eq_misuse_iff, hrange]
  · rw [perform_writeMemory_eq_ok_iff, ← hrange]
    simp only [Memory.write_eq_ok_iff, exists_and_left, exists_eq, and_true]
  · intro e he
    simp only [written, perform_writeMemory, perform_writeMemory_eq_error_iff.1 he]
  · simp only [written, perform_writeMemory]
    cases s.state.memory.write start values with
    | error e => exact ⟨s.state.memory, rfl⟩
    | ok m => exact ⟨m, rfl⟩
  · intro address length e
    rw [perform_readMemory_eq_error_iff]
    refine and_congr_left fun _ => ?_
    simp only [InBounds]
    omega
  · intro address length hok h₀ h₁ h₂
    obtain ⟨m, hm⟩ := perform_writeMemory_eq_ok_iff.1 hok
    obtain ⟨bytes, hread, hbytes⟩ := Memory.exists_read_of_write hm ⟨h₀, h₁, h₂⟩
    refine ⟨bytes, ?_, hbytes⟩
    simp only [read, written, perform_readMemory, perform_writeMemory, hm, hread]
    rfl
  · -- An integer that is no address is refused before and after.
    intro address helsewhere
    simp only [read, written, perform_readMemory, perform_writeMemory]
    cases hm : s.state.memory.write start values with
    | error e => rfl
    | ok m => exact congrArg (Except.map _) (Memory.read_of_write_elsewhere hm helsewhere)

end

set_option maxRecDepth 40000 in
/-- Two bytes are written in front of a program. A read across its start gives the second of them
and then the program. What is not in the memory is refused before and after. -/
theorem read_after_write_belowProgram :
    let s := ofProgram [7, 8] 1
    let written := (Command.writeMemory 510 [1, 2]).perform s
    written.result = .ok .done ∧
      (∃ bytes, ((Command.readMemory 511 3).perform written.session).result = .ok (.bytes bytes) ∧
        (bytes.map fun b => (b.toNat : Int)) = [2, 7, 8]) ∧
      ((Command.readMemory (-1) 1).perform written.session).result =
        .error (.fault (.outOfBounds (-1) 1)) ∧
      ((Command.readMemory (-1) 1).perform written.session).result =
        ((Command.readMemory (-1) 1).perform s).result := by
  intro s written
  obtain ⟨-, -, hok, -, -, hrefused, hread, helsewhere⟩ := read_after_write s 510 [1, 2]
  have hwritten : written.result = .ok .done := hok.2 (by decide)
  refine ⟨hwritten, ?_, (hrefused (-1) 1 _).2 ⟨by decide, rfl⟩, helsewhere (-1) (by decide)⟩
  exact hread 511 3 hwritten (by decide) (by decide) (by decide)

end Session

end Chip8
