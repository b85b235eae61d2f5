import Chip8.Machine.CallStack

/-!
# The call stack as a list

A host that stores addresses and takes them, in any order, sees a plain list with room for sixteen
entries, the newest of which is the last. A call that is refused leaves the stack as it is.

The slots of the stack hold the list and behind it zeros. Every call keeps this, so a slot that was
in use before does not show.

## Main definitions

* `Chip8.StackCall`, `Chip8.CallStack.perform`, `Chip8.CallStack.after` : histories of a stack.
* `Chip8.StackCall.answer`, `Chip8.StackCall.entries` : the same calls of a plain list.
* `Chip8.CallStack.Holds` : the stack holds the entries of a list and no others.

## Main results

* `Chip8.CallStack.Holds.perform` : a call of the stack is the call of the list that it holds.
* `Chip8.CallStack.Holds.after` : so is a history.
* `Chip8.CallStack.listed_after` : the stack after any history.
-/

namespace Chip8

/-! ### Calls of a stack and of a list -/

/-- The calls of a call stack. -/
inductive StackCall where
  /-- Store an address. -/
  | push (address : Int)
  /-- Take the newest address. -/
  | pop

/-- What a call of a call stack leaves behind. -/
structure StackReply where
  /-- The address that was taken, if one was, or why the call was refused. -/
  result : Except Error (Option UInt16)
  /-- The stack afterwards. -/
  stack : CallStack

namespace CallStack

/-- Carries out a call. A refused call leaves the stack as it is. -/
def perform (s : CallStack) : StackCall → StackReply
  | .push address =>
    match s.push address with
    | .error e => ⟨.error e, s⟩
    | .ok pushed => ⟨.ok none, pushed⟩
  | .pop =>
    match s.pop with
    | .error e => ⟨.error e, s⟩
    | .ok (address, popped) => ⟨.ok (some address), popped⟩

/-- The stack after a history of calls. -/
def after (s : CallStack) (history : List StackCall) : CallStack :=
  history.foldl (fun s c => (s.perform c).stack) s

end CallStack

namespace StackCall

/-- What a call of a plain list returns: a list of sixteen entries takes no more, and the entry that
is taken is the last. -/
def answer (l : List Nat) : StackCall → Except Error (Option Nat)
  | .push _ => if l.length = stackSize then .error (.fault .fullStack) else .ok none
  | .pop =>
    match l.getLast? with
    | none => .error (.fault .emptyStack)
    | some address => .ok (some address)

/-- The plain list after a call. -/
def entries (l : List Nat) : StackCall → List Nat
  | .push address => if l.length = stackSize then l else l ++ [(address % 65536).toNat]
  | .pop => l.dropLast

/-- The plain list after a history of calls. -/
def entriesAfter (l : List Nat) (history : List StackCall) : List Nat :=
  history.foldl entries l

end StackCall

namespace CallStack

variable {s t : CallStack} {l : List Nat} {address : Int} {taken : UInt16}

/-! ### The list that a stack holds -/

/-- The stack holds the entries of the list and no others. -/
structure Holds (s : CallStack) (l : List Nat) : Prop where
  /-- The stored addresses are the entries. -/
  addresses_eq : s.addresses.map UInt16.toNat = l
  /-- The slots behind them hold zero. -/
  clean : s.Clean

theorem holds_empty : empty.Holds [] := ⟨rfl, clean_empty⟩

namespace Holds

theorem depth_eq (h : s.Holds l) : s.depth = l.length := by
  rw [← h.addresses_eq, List.length_map, length_addresses]

/-- A stored address is appended modulo `2 ^ 16`. -/
theorem push (h : s.Holds l) (hpush : s.push address = .ok t) :
    t.Holds (l ++ [(address % 65536).toNat]) := by
  have hword : (UInt16.ofInt address).toNat = (address % 65536).toNat := by
    simp only [UInt16.ofInt, UInt16.toNat_ofNat']
    omega
  refine ⟨?_, h.clean.push hpush⟩
  rw [addresses_push hpush, List.map_append, h.addresses_eq, List.map_singleton, hword]

theorem pop (h : s.Holds l) (hpop : s.pop = .ok (taken, t)) :
    l.getLast? = some taken.toNat ∧ t.Holds l.dropLast := by
  have hl : l = t.addresses.map UInt16.toNat ++ [taken.toNat] := by
    rw [← h.addresses_eq, addresses_pop hpop, List.map_append, List.map_singleton]
  have hrest : l.dropLast = t.addresses.map UInt16.toNat := by
    rw [hl, List.dropLast_concat]
  exact ⟨by rw [hl, List.getLast?_concat], hrest.symm, h.clean.pop hpop⟩

theorem push_eq_error_iff (h : s.Holds l) {e : Error} :
    s.push address = .error e ↔ l.length = stackSize ∧ e = .fault .fullStack := by
  rw [CallStack.push_eq_error_iff, h.depth_eq]

theorem pop_eq_error_iff (h : s.Holds l) {e : Error} :
    s.pop = .error e ↔ l = [] ∧ e = .fault .emptyStack := by
  rw [CallStack.pop_eq_error_iff, h.depth_eq, List.length_eq_zero_iff]

theorem exists_pop_iff (h : s.Holds l) :
    (∃ t, s.pop = .ok (taken, t)) ↔ l.getLast? = some taken.toNat := by
  refine ⟨fun ⟨t, hpop⟩ => (h.pop hpop).1, fun hlast => ?_⟩
  cases hpop : s.pop with
  | error e =>
    obtain ⟨rfl, -⟩ := h.pop_eq_error_iff.1 hpop
    cases hlast
  | ok r =>
    obtain ⟨other, t⟩ := r
    have hsame : other.toNat = taken.toNat := Option.some.inj ((h.pop hpop).1.symm.trans hlast)
    exact ⟨t, by rw [UInt16.toNat_inj.1 hsame]⟩

/-! ### Histories -/

/-- **A call of the stack is the call of the list that it holds.** -/
theorem perform (h : s.Holds l) (c : StackCall) :
    (s.perform c).result.map (Option.map UInt16.toNat) = c.answer l ∧
      (s.perform c).stack.Holds (c.entries l) := by
  cases c with
  | push address =>
    cases hpush : s.push address with
    | error e =>
      obtain ⟨hfull, rfl⟩ := h.push_eq_error_iff.1 hpush
      simp only [CallStack.perform, hpush, StackCall.answer, StackCall.entries, if_pos hfull]
      exact ⟨rfl, h⟩
    | ok t =>
      have hroom : l.length ≠ stackSize := by
        intro hfull
        cases hpush.symm.trans (h.push_eq_error_iff.2 ⟨hfull, rfl⟩)
      simp only [CallStack.perform, hpush, StackCall.answer, StackCall.entries, if_neg hroom]
      exact ⟨rfl, h.push hpush⟩
  | pop =>
    cases hpop : s.pop with
    | error e =>
      obtain ⟨rfl, rfl⟩ := h.pop_eq_error_iff.1 hpop
      simp only [CallStack.perform, hpop]
      exact ⟨rfl, h⟩
    | ok r =>
      obtain ⟨taken, t⟩ := r
      obtain ⟨hlast, hrest⟩ := h.pop hpop
      simp only [CallStack.perform, hpop, StackCall.answer, hlast]
      exact ⟨rfl, hrest⟩

/-- **After a history the stack holds the list** after the same history. -/
theorem after (h : s.Holds l) (history : List StackCall) :
    (s.after history).Holds (StackCall.entriesAfter l history) := by
  induction history generalizing s l with
  | nil => exact h
  | cons c history ih => exact ih (h.perform c).2

end Holds

/-- **The stack after any history is a list.** Its addresses are those that the same pushes and pops
leave on a plain list, its depth is the length of that list, and every slot behind them holds zero.
The next push is refused exactly if the list has sixteen entries, and the next pop exactly if it is
empty. What any next call returns is what the list returns, so a pop takes the last entry. -/
theorem listed_after (history : List StackCall) :
    let s := empty.after history
    let l := StackCall.entriesAfter [] history
    s.addresses.map UInt16.toNat = l ∧ s.depth = l.length ∧
      s.slots.toList.drop s.depth = List.replicate (stackSize - s.depth) 0 ∧
      (∀ address e, s.push address = .error e ↔ l.length = stackSize ∧ e = .fault .fullStack) ∧
      (∀ e, s.pop = .error e ↔ l = [] ∧ e = .fault .emptyStack) ∧
      (∀ taken, (∃ t, s.pop = .ok (taken, t)) ↔ l.getLast? = some taken.toNat) ∧
      ∀ c, (s.perform c).result.map (Option.map UInt16.toNat) = c.answer l := by
  intro s l
  have h : s.Holds l := holds_empty.after history
  refine ⟨h.addresses_eq, h.depth_eq, ?_, fun _ _ => h.push_eq_error_iff,
    fun _ => h.pop_eq_error_iff, fun _ => h.exists_pop_iff, fun c => (h.perform c).1⟩
  rw [h.clean.toList_slots, ← length_addresses, List.drop_left]

/-- The seventeenth push is refused, a pop makes room, and the next address is cut to its low
sixteen bits. -/
example :
    (empty.after (List.replicate 17 (.push 0x202) ++ [.pop, .push (-1)])).addresses =
      List.replicate 15 0x202 ++ [0xFFFF] := by
  decide

end CallStack

end Chip8
