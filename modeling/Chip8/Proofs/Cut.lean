import Chip8.Proofs.Agree
import Chip8.Proofs.Failure
import Chip8.Proofs.Timers
import Chip8.Proofs.Trace

/-!
# Cutting a run into frames

The end of a frame changes the timers, the speaker and the number of frames, and a program sees the
timers through one instruction only. So without that instruction a run of frames executes what one
batch of all their instructions executes, and how the run is cut into frames makes no difference.
Waits and failures come at the same instruction.

## Main definitions

* `Chip8.Session.InStep` : sessions that a program cannot tell apart but by the timers.
* `Chip8.Session.RunsFrames` : a session that is ready to run frames.

## Main results

* `Chip8.Session.InStep.batch` : sessions in step execute the same batch.
* `Chip8.Session.RunsFrames.flat` : frames execute what one batch executes.
* `Chip8.Session.same_run_of_frames` : two ways of cutting a run into frames.
-/

namespace Chip8

theorem State.untimed_settled (s : State) : s.settled.untimed = s.untimed := by
  unfold settled
  split <;> rfl

namespace Session

open Procedure

/-! ### Sessions in step -/

/-- The sessions differ in nothing that a program sees but in the timers. -/
structure InStep (s t : Session) : Prop where
  /-- The states are equal, but for the timers. -/
  state : s.state.untimed = t.state.untimed
  /-- The pixels. -/
  grid : s.screen.grid = t.screen.grid
  /-- The keys and the hook. -/
  keypad : s.keypad = t.keypad
  /-- The processor is halted in both or in none. -/
  halted : s.halted = t.halted

instance : IsEquiv Session InStep where
  refl _ := ⟨rfl, rfl, rfl, rfl⟩
  symm _ _ h := ⟨h.state.symm, h.grid.symm, h.keypad.symm, h.halted.symm⟩
  trans _ _ _ h h' := ⟨h.state.trans h'.state, h.grid.trans h'.grid, h.keypad.trans h'.keypad,
    h.halted.trans h'.halted⟩

variable {s t : Session} {e : Error} {k : Int}

namespace InStep

theorem paused (h : s.InStep t) : s.paused = t.paused :=
  State.paused_congr h.state

theorem next_error [Random.Generator] (h : s.InStep t) (hs : s.next = .error e) :
    t.next = .error e := by
  rw [next, ← h.grid, ← h.keypad]
  exact State.next_error_congr h.state hs

theorem haltedBy (h : s.InStep t) (e : Error) : (s.haltedBy e).InStep (t.haltedBy e) :=
  { h with halted := congrArg (· || e.isFault) h.halted }

theorem reach (h : s.InStep t) {u v : State} (huv : u.untimed = v.untimed) (g : PixelGrid) :
    (s.reach u g).InStep (t.reach v g) := by
  have hpaused : u.paused = v.paused := State.paused_congr huv
  have hkeypad : (s.reach u g).keypad = (t.reach v g).keypad := by
    simp only [Session.reach, hpaused, h.paused, h.keypad]
  exact { h with state := huv, grid := rfl, keypad := hkeypad }

theorem ended (s : Session) : s.InStep s.ended :=
  ⟨(State.untimed_settled s.state).symm, rfl, rfl, rfl⟩

variable [Random.Generator]

/-- **Sessions in step execute the same instruction**, unless it reads a timer, and stay in step. -/
theorem effectOf (h : s.InStep t) {opcode : Nat} {u : State} (hf : s.state.fetch = .ok opcode)
    (hr : (s.effectOf (.ofOpcode opcode)).result = .ok u) {calls : List DeviceCall}
    (hread : Executed.readsDelay ⟨opcode, calls⟩ = false) :
    ∃ v, t.state.fetch = .ok opcode ∧ (t.effectOf (.ofOpcode opcode)).result = .ok v ∧
      (s.effectOf (.ofOpcode opcode)).calls = (t.effectOf (.ofOpcode opcode)).calls ∧
      (s.reach u (s.effectOf (.ofOpcode opcode)).grid).InStep
        (t.reach v (t.effectOf (.ofOpcode opcode)).grid) := by
  have ho := State.fetch_lt hf
  have heffect : (s.effectOf (.ofOpcode opcode)).untimed =
      (t.effectOf (.ofOpcode opcode)).untimed := by
    rw [Session.effectOf, Session.effectOf, ← h.grid, ← h.keypad]
    exact execute_congr _ _ h.state ho hread
  obtain ⟨v, hr', huv⟩ : ∃ v, (t.effectOf (.ofOpcode opcode)).result = .ok v ∧
      u.untimed = v.untimed := by
    rw [Session.effectOf, ← h.grid, ← h.keypad]
    exact exists_ok_of_untimed_eq _ _ h.state ho hread hr
  have hgrid : (s.effectOf (.ofOpcode opcode)).grid = (t.effectOf (.ofOpcode opcode)).grid := by
    simpa using congrArg Effect.grid heffect
  refine ⟨v, State.fetch_congr h.state ▸ hf, hr', by simpa using congrArg Effect.calls heffect, ?_⟩
  rw [← hgrid]
  exact h.reach huv _

/-- **Sessions in step execute the same batch**, unless one of its instructions reads a timer. -/
theorem batch (h : s.InStep t) (n : Nat) (hread : ∀ x ∈ s.batchTrace n, x.readsDelay = false) :
    s.batchTrace n = t.batchTrace n ∧ Agree InStep (batch n) (batch n) s t := by
  induction n generalizing s t with
  | zero => exact ⟨rfl, agree_pure h ()⟩
  | succ n ih =>
    have hpaused := h.paused
    cases hs : s.paused with
    | true =>
      have ht : t.paused = true := hpaused ▸ hs
      refine ⟨?_, agree_of_yields (batch_yields_of_paused hs _) (batch_yields_of_paused ht _) h⟩
      rw [batchTrace_of_paused hs, batchTrace_of_paused ht]
    | false =>
      have ht : t.paused = false := hpaused ▸ hs
      cases hn : s.next with
      | error e =>
        have hn' := h.next_error hn
        refine ⟨?_, agree_of_yields (batch_succ_yields_error hs (step_yields_error hn))
          (batch_succ_yields_error ht (step_yields_error hn')) (h.haltedBy e)⟩
        rw [batchTrace_of_error hn, batchTrace_of_error hn']
      | ok u =>
        obtain ⟨opcode, hf, hr⟩ := exists_fetch_of_next hn
        have htrace := batchTrace_succ_of_ok hs hf hr n
        rw [htrace] at hread
        obtain ⟨hfirst, hrest⟩ := List.forall_mem_cons.1 hread
        obtain ⟨v, hf', hr', hcalls, hstep⟩ := h.effectOf hf hr hfirst
        obtain ⟨hsame, hagree⟩ := ih hstep hrest
        obtain ⟨hresult, hsession⟩ := batch_succ_eq hs hf hr n
        obtain ⟨hresult', hsession'⟩ := batch_succ_eq ht hf' hr' n
        refine ⟨?_, ?_, ?_⟩
        · rw [htrace, batchTrace_succ_of_ok ht hf' hr', hsame, hcalls]
        · rw [hresult, hresult', hagree.result]
        · rw [hsession, hsession']
          exact hagree.session

end InStep

/-! ### Frames -/

/-- The session is not halted, its frames have `k` instructions, and its tone can be played. -/
structure RunsFrames (s : Session) (k : Int) : Prop where
  /-- The processor is not halted. -/
  running : s.halted = false
  /-- The number of instructions of a frame. -/
  speed_eq : s.speed = .int k
  /-- The tone. -/
  tone : s.config.toneFrequency.Playable

section

variable [Random.Generator]

namespace RunsFrames

theorem frameTrace_eq (h : s.RunsFrames k) : s.frameTrace = s.batchTrace k.toNat :=
  frameTrace_of_running h.running h.speed_eq

theorem cycle_of_error (h : s.RunsFrames k) (hb : (batch k.toNat s).result = .error e) :
    (cycle s).result = .error e ∧ (cycle s).session = (batch k.toNat s).session := by
  have hbatch := yields_self (batch k.toNat) s
  rw [hb] at hbatch
  have hcycle := cycle_yields_error h.running h.speed_eq hbatch
  exact ⟨hcycle.result_eq, hcycle.session_eq⟩

/-- A frame ends behind its batch, and leaves a session that is ready for the next one. -/
theorem cycle_of_ok (h : s.RunsFrames k) (hb : (batch k.toNat s).result = .ok ()) :
    (cycle s).result = .ok () ∧ (cycle s).session = (batch k.toNat s).session.ended ∧
      (cycle s).session.RunsFrames k := by
  obtain ⟨l, t, g, -, -, -, hbatch⟩ := exists_path_of_batch hb
  obtain ⟨c, -, hcycle⟩ := cycle_yields h.running h.speed_eq hbatch fun _ => h.tone
  rw [hcycle.session_eq, hbatch.session_eq]
  exact ⟨hcycle.result_eq, rfl, h.running, h.speed_eq, h.tone⟩

/-- **Frames execute what one batch of all their instructions executes**, unless an instruction
reads a timer. -/
theorem flat (h : s.RunsFrames k) (n : Nat)
    (hread : (∀ x ∈ s.framesTrace n, x.readsDelay = false) ∨
      ∀ x ∈ s.batchTrace (n * k.toNat), x.readsDelay = false) :
    s.framesTrace n = s.batchTrace (n * k.toNat) ∧
      Agree InStep (cycles n) (batch (n * k.toNat)) s s := by
  induction n generalizing s with
  | zero =>
    rw [Nat.zero_mul]
    exact ⟨rfl, agree_pure (refl_of InStep s) ()⟩
  | succ n ih =>
    have hframes : s.framesTrace (n + 1) =
        s.batchTrace k.toNat ++ s.traceBehind cycle (framesTrace n) := by
      rw [framesTrace, h.frameTrace_eq]
    have hbatch : s.batchTrace ((n + 1) * k.toNat) =
        s.batchTrace k.toNat ++
          s.traceBehind (batch k.toNat) (batchTrace (n * k.toNat)) := by
      rw [Nat.succ_mul, Nat.add_comm, batchTrace_add]
    rw [hframes, hbatch] at hread
    rw [hframes, hbatch, cycles, Nat.succ_mul, Nat.add_comm, batch_add]
    cases hb : (batch k.toNat s).result with
    | error e =>
      obtain ⟨hcycle, hsession⟩ := h.cycle_of_error hb
      rw [traceBehind_of_error hb, traceBehind_of_error hcycle]
      refine ⟨rfl, ?_, ?_⟩
      · rw [bind_of_error hb, bind_of_error hcycle]
      · rw [bind_of_error hb, bind_of_error hcycle, hsession]
        exact refl_of InStep _
    | ok =>
      obtain ⟨hcycle, hsession, hready⟩ := h.cycle_of_ok hb
      rw [traceBehind_of_ok hb, traceBehind_of_ok hcycle, List.forall_mem_append,
        List.forall_mem_append] at hread
      rw [traceBehind_of_ok hb, traceBehind_of_ok hcycle]
      -- The other frames start in step with the rest of the batch.
      have hstep : (cycle s).session.InStep (batch k.toNat s).session := by
        rw [hsession]
        exact symm_of InStep (InStep.ended _)
      have hrest : ∀ x ∈ (cycle s).session.batchTrace (n * k.toNat), x.readsDelay = false := by
        rcases hread with ⟨-, hframes⟩ | ⟨-, hbatch⟩
        · rwa [← (ih hready (.inl hframes)).1]
        · rwa [← ((symm_of InStep hstep).batch _ hbatch).1]
      obtain ⟨htrace, hagree⟩ := ih hready (.inr hrest)
      obtain ⟨htrace', hagree'⟩ := hstep.batch _ hrest
      have hboth := hagree.trans hagree'
      refine ⟨by rw [htrace, htrace'], ?_, ?_⟩
      · rw [bind_of_ok hb, bind_of_ok hcycle]
        exact hboth.result
      · rw [bind_of_ok hb, bind_of_ok hcycle]
        exact hboth.session

end RunsFrames

/-- A session in step with one in which a batch failed is in front of the same fault. -/
theorem exists_fault_of_inStep {n : Nat} (hpixels : s.screen.grid.HasPixels)
    (h : (batch n s).result = .error e) (hstep : (batch n s).session.InStep t) :
    ∃ f, e = .fault f ∧ t.state.Faults f := by
  have hgrid : t.screen.grid.HasPixels := hstep.grid ▸ (path_batchTrace s n).hasPixels hpixels
  exact (State.next_eq_error_iff hgrid).1 (hstep.next_error (next_of_batch_error h))

/-- **A run does not depend on how it is cut into frames.** Two sessions with the same state, pixels
and keys run as many instructions in frames of different lengths, and the first run does not read
the delay timer. Then both execute the same instructions. Either all frames succeed in both, or both
fail behind the last of these instructions, with the same fault. In the end they differ in the
timers only, and in what does not belong to the program. -/
theorem same_run_of_frames {a b : Int} {n m : Nat} (hs : s.RunsFrames a) (ht : t.RunsFrames b)
    (hstate : s.state = t.state) (hgrid : s.screen.grid = t.screen.grid)
    (hkeypad : s.keypad = t.keypad) (hpixels : s.screen.grid.HasPixels) (ha : 1 ≤ a) (hb : 1 ≤ b)
    (hlength : n * a = m * b) (hread : ∀ x ∈ s.framesTrace n, x.readsDelay = false) :
    s.framesTrace n = t.framesTrace m ∧ (cycles n s).session.InStep (cycles m t).session ∧
      ((cycles n s).result = .ok () ∧ (cycles m t).result = .ok () ∨
        ∃ f, (cycles n s).result = .error (.fault f) ∧ (cycles m t).result = .error (.fault f) ∧
          (cycles n s).session.state.Faults f ∧ (cycles m t).session.state.Faults f) := by
  have hlength : n * a.toNat = m * b.toNat := by
    have : ((n * a.toNat : Nat) : Int) = (m * b.toNat : Nat) := by
      push_cast
      rwa [Int.toNat_of_nonneg (by omega), Int.toNat_of_nonneg (by omega)]
    exact Int.ofNat_inj.1 this
  have hstep : s.InStep t :=
    ⟨congrArg State.untimed hstate, hgrid, hkeypad, hs.running.trans ht.running.symm⟩
  -- Both runs are those of one batch.
  obtain ⟨hflat, hagree⟩ := hs.flat n (.inl hread)
  rw [hflat] at hread
  obtain ⟨hsame, hagree'⟩ := hstep.batch _ hread
  have hread' : ∀ x ∈ t.batchTrace (m * b.toNat), x.readsDelay = false := by
    rwa [← hlength, ← hsame]
  obtain ⟨hflat', hagree''⟩ := ht.flat m (.inr hread')
  rw [← hlength] at hflat' hagree''
  have hboth := (hagree.trans hagree').trans hagree''.symm
  refine ⟨by rw [hflat, hsame, hflat'], hboth.session, ?_⟩
  cases hr : (batch (n * a.toNat) s).result with
  | ok =>
    have hok := hagree.result.trans hr
    exact .inl ⟨hok, hboth.result.symm.trans hok⟩
  | error e =>
    have herror := hagree.result.trans hr
    obtain ⟨f, rfl, hfault⟩ := exists_fault_of_inStep hpixels hr (symm_of InStep hagree.session)
    obtain ⟨f', hf', hfault'⟩ := exists_fault_of_inStep hpixels hr
      (trans_of InStep (symm_of InStep hagree.session) hboth.session)
    cases hf'
    exact .inr ⟨f, herror, hboth.result.symm.trans herror, hfault, hfault'⟩

end

theorem runsFrames_ofProgram (program : List UInt8) (speed : Int) :
    (ofProgram program speed).RunsFrames speed :=
  ⟨rfl, rfl, (by decide : (Config.toneFrequency {}).isNonpositive = false),
    (by decide : (Config.toneFrequency {}).toFloat?.isSome = true)⟩

/-- A session that sets the delay timer, loads a register, and returns without a call. -/
def countdown (speed : Int) : Session :=
  ofProgram [0x61, 0x05, 0xF1, 0x15, 0x61, 0x06, 0x00, 0xEE] speed

set_option maxRecDepth 40000 in
/-- In frames of one instruction and of three, three instructions succeed and the fourth fails. The
delay timers differ. -/
theorem same_run_of_frames_countdown :
    (countdown 1).RunsFrames 1 ∧ (countdown 3).RunsFrames 3 ∧
      (countdown 1).screen.grid.HasPixels ∧ ((6 : Nat) : Int) * 1 = (2 : Nat) * 3 ∧
      (∀ x ∈ (countdown 1).framesTrace 6, x.readsDelay = false) ∧
      (countdown 3).framesTrace 2 = [⟨0x6105, []⟩, ⟨0xF115, []⟩, ⟨0x6106, []⟩] ∧
      (countdown 1).framesTrace 6 = (countdown 3).framesTrace 2 ∧
      (cycles 6 (countdown 1)).session.InStep (cycles 2 (countdown 3)).session ∧
      (cycles 6 (countdown 1)).session.state.delay = 3 ∧
      (cycles 2 (countdown 3)).session.state.delay = 4 ∧
      ∃ f, (cycles 6 (countdown 1)).result = .error (.fault f) ∧
        (cycles 2 (countdown 3)).result = .error (.fault f) := by
  have hready := runsFrames_ofProgram [0x61, 0x05, 0xF1, 0x15, 0x61, 0x06, 0x00, 0xEE]
  have hpixels := hasPixels_ofProgram [0x61, 0x05, 0xF1, 0x15, 0x61, 0x06, 0x00, 0xEE] 1
  have htrace : (countdown 1).framesTrace 6 =
      [⟨0x6105, []⟩, ⟨0xF115, []⟩, ⟨0x6106, []⟩] := rfl
  have hread : ∀ x ∈ (countdown 1).framesTrace 6, x.readsDelay = false := by
    rw [htrace]
    decide
  obtain ⟨hsame, hstep, ⟨hok, -⟩ | ⟨f, herror, herror', -⟩⟩ :=
    same_run_of_frames (s := countdown 1) (t := countdown 3) (hready 1) (hready 3) rfl rfl rfl
      hpixels (by decide) (by decide) (n := 6) (m := 2) (by decide) hread
  · have herror : (cycles 6 (countdown 1)).result = .error (.fault .emptyStack) := rfl
    cases herror.symm.trans hok
  · exact ⟨hready 1, hready 3, hpixels, by decide, hread, hsame.symm.trans htrace, hsame, hstep,
      rfl, rfl, f, herror, herror'⟩

end Session

end Chip8
