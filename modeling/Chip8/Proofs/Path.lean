import Chip8.Proofs.Step

/-!
# Paths of instructions

A path is a sequence of instructions, each fetched at the program counter and from the memory that
the one before left, so rewritten code runs as rewritten. The batch of a frame follows a path: it
ends with the first wait for a key, or with the last of its instructions, or before the first
instruction that fails.

## Main definitions

* `Chip8.Executed` : an instruction of a path, with its calls of the devices.
* `Chip8.Path`
* `Chip8.batchLength` : the length of a path that is a whole batch.

## Main results

* `Chip8.paused_of_execute` : a processor that runs begins to wait exactly with a wait for a key.
* `Chip8.Session.batch_yields` : a batch follows a path.
* `Chip8.Session.batch_yields_of_path` : a batch that follows a path goes on behind it.
-/

namespace Chip8

/-- An instruction that was executed. -/
structure Executed where
  /-- The opcode of the instruction. -/
  opcode : Nat
  /-- The calls of the devices that the instruction made. -/
  calls : List DeviceCall

namespace Executed

/-- The instruction is a wait for a key. -/
def awaitsKey (x : Executed) : Bool :=
  x.opcode / 4096 == 0xF && x.opcode % 256 == 0x0A

/-- The calls that come with the instruction. A wait for a key installs the hook. -/
def callsWithHook (x : Executed) : List DeviceCall :=
  x.calls ++ if x.awaitsKey then [.hook] else []

end Executed

/-- Instructions one after the other, from a state and its pixels to a state and its pixels. -/
inductive Path [Random.Generator] (keys : Keys) :
    State → PixelGrid → List Executed → State → PixelGrid → Prop
  /-- No instruction. -/
  | nil (s : State) (g : PixelGrid) : Path keys s g [] s g
  /-- An instruction at the program counter, and a path from what it leaves. -/
  | cons {s t u : State} {g h : PixelGrid} {opcode : Nat} {l : List Executed}
      (fetched : s.fetch = .ok opcode)
      (succeeded : (execute (.ofOpcode opcode) s g keys).result = .ok t)
      (rest : Path keys t (execute (.ofOpcode opcode) s g keys).grid l u h) :
      Path keys s g (⟨opcode, (execute (.ofOpcode opcode) s g keys).calls⟩ :: l) u h

/-- The length of a path that is a whole batch of `n` instructions: up to the first wait for a key,
if there is one. -/
def batchLength (n : Nat) (l : List Executed) : Nat :=
  ((l.findIdx? Executed.awaitsKey).map (· + 1)).getD n

theorem batchLength_cons_of_awaitsKey {x : Executed} (h : x.awaitsKey) (n : Nat)
    (l : List Executed) : batchLength n (x :: l) = 1 := by
  simp [batchLength, List.findIdx?_cons, h]

theorem batchLength_cons_of_not_awaitsKey {x : Executed} (h : x.awaitsKey = false) (n : Nat)
    (l : List Executed) : batchLength (n + 1) (x :: l) = batchLength n l + 1 := by
  simp only [batchLength, List.findIdx?_cons, h]
  cases l.findIdx? Executed.awaitsKey <;> rfl

variable {keys : Keys} {s t u : State} {g h : PixelGrid} {l : List Executed}

theorem isSome_awaited?_ofOpcode {opcode : Nat} (ho : opcode < 65536) (calls : List DeviceCall) :
    (Instruction.ofOpcode opcode).awaited?.isSome = Executed.awaitsKey ⟨opcode, calls⟩ := by
  have hfields : ((Instruction.ofOpcode opcode).family = 0xF ∧
      (Instruction.ofOpcode opcode).nn = 0x0A) ↔ opcode / 4096 = 0xF ∧ opcode % 256 = 0x0A := by
    simp only [Instruction.ofOpcode]
    omega
  unfold Instruction.awaited? Executed.awaitsKey
  by_cases hw : opcode / 4096 = 0xF ∧ opcode % 256 = 0x0A
  · rw [if_pos (hfields.2 hw)]
    simp [hw]
  · rw [if_neg (mt hfields.1 hw)]
    simpa using hw

/-- A wait for a key is what installs the hook. -/
theorem Session.request_eq {s : Session} (hs : s.paused = false) {x : Executed}
    (hx : t.paused = x.awaitsKey) : x.calls ++ s.request t = x.callsWithHook := by
  simp [Session.request, hs, hx, Executed.callsWithHook]

variable [Random.Generator]

theorem paused_of_execute {opcode : Nat} (hp : s.paused = false) (ho : opcode < 65536)
    (ht : (execute (.ofOpcode opcode) s g keys).result = .ok t) (calls : List DeviceCall) :
    t.paused = Executed.awaitsKey ⟨opcode, calls⟩ := by
  have hs : s.waiting = none := by simpa [State.paused] using hp
  rw [State.paused, waiting_execute (Instruction.hasFamily_ofOpcode opcode) ht, hs, Option.or_none,
    isSome_awaited?_ofOpcode ho]

namespace Path

theorem hasPixels (p : Path keys s g l t h) (hg : g.HasPixels) : h.HasPixels := by
  induction p with
  | nil => exact hg
  | cons fetched succeeded rest ih => exact ih (hasPixels_execute hg)

theorem paused_eq_false (p : Path keys s g l t h) (hs : s.paused = false)
    (hl : ∀ x ∈ l, x.awaitsKey = false) : t.paused = false := by
  induction p with
  | nil => exact hs
  | cons fetched succeeded rest ih =>
    obtain ⟨hw, hl⟩ := List.forall_mem_cons.1 hl
    exact ih ((paused_of_execute hs (State.fetch_lt fetched) succeeded _).trans hw) hl

theorem isOfInstruction (p : Path keys s g l t h) : ∀ x ∈ l, ∀ c ∈ x.calls, c.IsOfInstruction := by
  induction p with
  | nil => exact List.forall_mem_nil _
  | cons fetched succeeded rest ih =>
    refine List.forall_mem_cons.2 ⟨?_, ih⟩
    intro c hc
    exact isOfInstruction_of_mem_calls_execute hc

end Path

namespace Session

open Procedure

theorem batch_yields_of_paused {s : Session} (hs : s.paused = true) (n : Nat) :
    (batch n).Yields s (.ok ()) s [] := by
  cases n with
  | zero => exact yields_pure ..
  | succ n =>
    rw [batch, yields_session_bind, if_pos hs]
    exact yields_pure ..

theorem batch_succ_yields {s t u : Session} {n : Nat} {r : Except Error Unit}
    {c c' : List DeviceCall} (hs : s.paused = false) (h : step.Yields s (.ok ()) t c)
    (h' : (batch n).Yields t r u c') : (batch (n + 1)).Yields s r u (c ++ c') := by
  rw [batch, yields_session_bind, if_neg (by simp [hs])]
  exact h.andThen h'

theorem batch_succ_yields_error {s t : Session} {n : Nat} {e : Error} {c : List DeviceCall}
    (hs : s.paused = false) (h : step.Yields s (.error e) t c) :
    (batch (n + 1)).Yields s (.error e) t c := by
  rw [batch, yields_session_bind, if_neg (by simp [hs])]
  exact h.bind_error

/-- **The batch of a running session follows a path.** Either it is carried out, and its length is
that of a whole batch, or the instruction behind its path fails. -/
theorem batch_yields {s : Session} (hs : s.paused = false) (n : Nat) :
    ∃ l t g, Path s.keypad.keys s.state s.screen.grid l t g ∧
      ((l.length = batchLength n l ∧ l.length ≤ n ∧
          (batch n).Yields s (.ok ()) (s.reach t g) (l.flatMap Executed.callsWithHook)) ∨
        (l.length < n ∧ (∀ x ∈ l, x.awaitsKey = false) ∧ ∃ e, t.next g s.keypad.keys = .error e ∧
          (batch n).Yields s (.error e) ((s.reach t g).haltedBy e)
            (l.flatMap Executed.callsWithHook))) := by
  induction n generalizing s with
  | zero =>
    refine ⟨[], s.state, s.screen.grid, .nil .., .inl ⟨rfl, Nat.le_refl 0, ?_⟩⟩
    rw [reach_self]
    exact yields_pure ..
  | succ n ih =>
    -- The first instruction fails, or is a wait, or the rest of the batch starts from what it left.
    cases hn : s.next with
    | error e =>
      refine ⟨[], s.state, s.screen.grid, .nil .., .inr ⟨by simp, by simp, e, hn, ?_⟩⟩
      rw [reach_self]
      exact batch_succ_yields_error hs (step_yields_error hn)
    | ok t =>
      obtain ⟨opcode, hf, hr⟩ := exists_fetch_of_next hn
      have hx : t.paused = Executed.awaitsKey ⟨opcode, (s.effectOf (.ofOpcode opcode)).calls⟩ :=
        paused_of_execute hs (State.fetch_lt hf) hr _
      have hstep := step_yields hf hr
      rw [request_eq hs hx] at hstep
      cases hw : t.paused with
      | true =>
        have hrest := batch_succ_yields hs hstep (batch_yields_of_paused (s := s.reach t _) hw n)
        refine ⟨_, t, _, .cons hf hr (.nil ..), .inl ⟨?_, Nat.succ_le_succ (Nat.zero_le n), ?_⟩⟩
        · exact (batchLength_cons_of_awaitsKey (hx ▸ hw) ..).symm
        · exact hrest
      | false =>
        obtain ⟨l, u, h, hpath, hcase⟩ :=
          ih (s := s.reach t (s.effectOf (.ofOpcode opcode)).grid) hw
        rw [keys_reach] at hpath hcase
        rw [reach_reach (hw.trans hs.symm)] at hcase
        have hw' := hx.symm.trans hw
        refine ⟨_, u, h, .cons hf hr hpath, ?_⟩
        rcases hcase with ⟨hl, hle, hrest⟩ | ⟨hlt, hl, e, he, hrest⟩
        · refine .inl ⟨?_, Nat.succ_le_succ hle, batch_succ_yields hs hstep hrest⟩
          exact (congrArg (· + 1) hl).trans (batchLength_cons_of_not_awaitsKey hw' n l).symm
        · refine .inr ⟨Nat.succ_lt_succ hlt, List.forall_mem_cons.2 ⟨hw', hl⟩, e, he, ?_⟩
          exact batch_succ_yields hs hstep hrest

/-- A batch that begins with a path without a wait goes on from where the path leads. -/
theorem batch_yields_of_path {s u : Session} {m : Nat} {r : Except Error Unit}
    {c : List DeviceCall} (p : Path s.keypad.keys s.state s.screen.grid l t g)
    (hs : s.paused = false) (hl : ∀ x ∈ l, x.awaitsKey = false)
    (h : (batch m).Yields (s.reach t g) r u c) :
    (batch (l.length + m)).Yields s r u (l.flatMap Executed.callsWithHook ++ c) := by
  generalize hk : s.keypad.keys = keys at p
  generalize hst : s.state = st at p
  generalize hg : s.screen.grid = grid at p
  induction p generalizing s with
  | nil =>
    subst hst hg
    simpa using h
  | @cons st t v grid g opcode l fetched succeeded rest ih =>
    subst hk hst hg
    obtain ⟨hw, hl⟩ := List.forall_mem_cons.1 hl
    have hx : t.paused = Executed.awaitsKey ⟨opcode, (s.effectOf (.ofOpcode opcode)).calls⟩ :=
      paused_of_execute hs (State.fetch_lt fetched) succeeded _
    have ht := hx.trans hw
    have hstep := step_yields fetched succeeded
    rw [request_eq hs hx] at hstep
    have hv : (batch m).Yields ((s.reach t (s.effectOf (.ofOpcode opcode)).grid).reach v g) r u c :=
      (reach_reach (ht.trans hs.symm) v g).symm ▸ h
    have hrest := ih (s := s.reach t (s.effectOf (.ofOpcode opcode)).grid) ht hl hv (keys_reach ..)
      rfl rfl
    rw [List.length_cons, Nat.add_right_comm, List.flatMap_cons, List.append_assoc]
    exact batch_succ_yields hs hstep hrest

end Session

end Chip8
