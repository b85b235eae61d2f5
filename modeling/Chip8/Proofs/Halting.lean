import Chip8.Proofs.Change
import Chip8.Proofs.Failure

/-!
# The life of a halt

A fault of an instruction halts the processor, be it in the fetch, in the decoding or in the
execution, and only a reset ends that. No other error does: not a program that does not fit, a key
that is none, a tone that is refused, nor the refusal to run frames of a halted processor. In a
session in which instructions run in frames only, a halted processor waits for no key, so the state
of the failure stays until it is replaced.

## Main definitions

* `Chip8.Session.FaultsIn` : a command during which an instruction faults.
* `Chip8.Session.HasFaulted` : a history with such a command and no reset behind it.
* `Chip8.Command.runsByFrames` : the commands that run instructions and timers in frames only.
* `Chip8.Session.StaysHalted` : what is left alone in a halted processor that waits for no key.

## Main results

* `Chip8.Session.faultsIn_iff` : the faults of instructions are those that the host sees.
* `Chip8.Session.halted_perform` : a command halts the processor exactly with a fault in it.
* `Chip8.Session.halted_after_iff` : when a processor is halted after a history.
* `Chip8.Session.halted_after` : the life of a halt.
-/

namespace Chip8

/-- The fault is one of an instruction. -/
def Fault.IsOfInstruction : Fault → Prop
  | .undecodable _ | .emptyStack | .fullStack | .outOfBounds .. => True
  | .programTooLarge _ | .romTooLarge .. | .romUnreadable .. | .halted => False

/-- The command executes instructions. -/
def Command.executes : Command → Bool
  | .cycle | .runFrames _ | .execute _ => true
  | _ => false

/-- The command leaves instructions and timers to the frames. -/
def Command.runsByFrames : Command → Bool
  | .execute _ | .tickTimers | .preset _ => false
  | _ => true

/-- The command loads something, writes memory, or resets. -/
def Command.replacesState : Command → Bool
  | .loadFont | .load _ | .loadRom .. | .writeMemory .. | .reset => true
  | _ => false

/-! ### Faults of instructions -/

theorem Fault.IsOfInstruction.ne_halted {f : Fault} (h : f.IsOfInstruction) : f ≠ .halted := by
  rintro rfl
  exact h

theorem Operation.isOfInstruction_of_fault? {op : Operation} {s : State} {f : Fault}
    (h : op.fault? s = some f) : f.IsOfInstruction := by
  have houtside {length : Int} (h : s.outside? length = some f) : f.IsOfInstruction := by
    obtain ⟨-, h⟩ := Option.ite_none_left_eq_some.1 h
    cases h
    trivial
  cases op with
  | ret | call =>
    obtain ⟨-, h⟩ := Option.ite_none_right_eq_some.1 h
    cases h
    trivial
  | draw | storeDecimal | storeRegisters | loadRegisters => exact houtside h
  | _ => cases h

theorem isOfInstruction_of_execute [Random.Generator] {i : Instruction} {s : State}
    {grid : PixelGrid} {keys : Keys} {f : Fault}
    (h : (execute i s grid keys).result = .error (.fault f)) : f.IsOfInstruction := by
  unfold execute at h
  split at h
  · split at h
    · exact Operation.isOfInstruction_of_fault? (Operation.run_result_eq_fault_iff.1 h)
    · cases h
  · cases h
    trivial

theorem HostValue.exists_misuse_of_toInt {v : HostValue} {e : Error} (h : v.toInt = .error e) :
    ∃ m, e = .misuse m := by
  unfold toInt at h
  repeat' split at h
  all_goals cases h
  all_goals exact ⟨_, rfl⟩

theorem isOfInstruction_of_decode {value : HostValue} {f : Fault}
    (h : decode value = .error (.fault f)) : f.IsOfInstruction := by
  unfold decode at h
  split at h
  · cases h
    trivial
  · cases hn : value.toInt with
    | error e =>
      obtain ⟨m, rfl⟩ := HostValue.exists_misuse_of_toInt hn
      rw [hn] at h
      cases h
    | ok n =>
      rw [hn] at h
      simp only [bind, Except.bind] at h
      split at h <;> cases h
      trivial

namespace Session

open Procedure

variable {s : Session} {f : Fault} {c : Command} {n : Nat}

section

variable [Random.Generator]

theorem isOfInstruction_of_attempt {opcode : HostValue}
    (h : s.attempt opcode = .error (.fault f)) : f.IsOfInstruction := by
  unfold attempt at h
  cases hd : decode opcode with
  | error e =>
    rw [hd] at h
    cases h
    exact isOfInstruction_of_decode hd
  | ok i =>
    rw [hd] at h
    exact isOfInstruction_of_execute h

theorem isOfInstruction_of_next {t : State} {g : PixelGrid} {keys : Keys}
    (h : t.next g keys = .error (.fault f)) : f.IsOfInstruction := by
  cases hf : t.fetch with
  | error e =>
    obtain rfl : e = .fault f := Except.error.inj ((State.next_of_fetch_error hf).symm.trans h)
    rw [State.fetch_eq] at hf
    split at hf <;> cases hf
    trivial
  | ok opcode => exact isOfInstruction_of_execute ((State.next_of_fetch hf).symm.trans h)

/-! ### Faults in frames -/

/-- An instruction of a frame faults. The ones before it succeed. -/
def FaultsInFrame (s : Session) (f : Fault) : Prop :=
  s.halted = false ∧ ∃ (speed : Int) (l : List Executed) (t : State) (g : PixelGrid),
    s.speed = .int speed ∧ s.StopsBehind speed.toNat l t g (.fault f)

/-- An instruction of one of `n` frames faults. The frames before it succeed. -/
def FaultsInFrames (s : Session) (n : Nat) (f : Fault) : Prop :=
  ∃ k < n, (cycles k s).result = .ok () ∧ (cycles k s).session.FaultsInFrame f

theorem cycle_of_halted (hh : s.halted = true) : cycle s = ⟨.error (.fault .halted), s, {}⟩ := by
  rw [cycle, session_bind_apply, if_pos hh]
  rfl

theorem cycle_of_real (hh : s.halted = false) {x : Float} (hn : s.speed = .real x) :
    cycle s = ⟨.error (.misuse .fractionalCount), s, {}⟩ := by
  have hsize : batchSize s = ⟨.error (.misuse .fractionalCount), s, {}⟩ := by
    rw [batchSize, session_bind_apply, hn]
    rfl
  rw [cycle, session_bind_apply, if_neg (by simp [hh])]
  refine (bind_of_error (congrArg Outcome.result hsize)).trans ?_
  rw [hsize]

/-- A frame is refused at once, and nothing changes, unless the processor runs and the number of
instructions is whole. -/
theorem cycle_refused_or_runs (s : Session) :
    (∃ e, cycle s = ⟨.error e, s, {}⟩) ∨ ∃ n, s.halted = false ∧ s.speed = .int n := by
  cases hh : s.halted with
  | true => exact .inl ⟨_, cycle_of_halted hh⟩
  | false =>
    cases hn : s.speed with
    | real x => exact .inl ⟨_, cycle_of_real hh hn⟩
    | int n => exact .inr ⟨n, rfl, rfl⟩

theorem faultsInFrame_iff_batch (hh : s.halted = false) {speed : Int} (hn : s.speed = .int speed) :
    s.FaultsInFrame f ↔ (batch speed.toNat s).result = .error (.fault f) := by
  rw [batch_result_eq_error_iff]
  constructor
  · rintro ⟨-, speed', l, t, g, hn', h⟩
    obtain rfl : speed' = speed := Number.int.inj (hn'.symm.trans hn)
    exact ⟨l, t, g, h⟩
  · rintro ⟨l, t, g, h⟩
    exact ⟨hh, speed, l, t, g, hn, h⟩

/-- A frame fails with a fault of the machine exactly if an instruction of it does, or if the
processor was halted. -/
theorem faultsInFrame_iff :
    s.FaultsInFrame f ↔ (cycle s).result = .error (.fault f) ∧ f ≠ .halted := by
  cases hh : s.halted with
  | true =>
    rw [cycle_of_halted hh]
    refine ⟨fun h => absurd (hh.symm.trans h.1) Bool.noConfusion, fun ⟨h, hne⟩ => ?_⟩
    cases h
    exact absurd rfl hne
  | false =>
    cases hn : s.speed with
    | real x =>
      rw [cycle_of_real hh hn]
      refine ⟨fun ⟨_, _, _, _, _, hn', _⟩ => ?_, fun ⟨h, _⟩ => by cases h⟩
      cases hn'.symm.trans hn
    | int speed =>
      rw [faultsInFrame_iff_batch hh hn]
      constructor
      · intro h
        obtain ⟨_, _, _, hstop⟩ := batch_result_eq_error_iff.1 h
        exact ⟨(cycle_yields_error hh hn hstop.batch_yields).result_eq,
          (isOfInstruction_of_next hstop.failed).ne_halted⟩
      · rintro ⟨h, -⟩
        have hy := (cycle_yields_iff hh hn).1 (yields_self cycle s)
        have hresult := hy.result_eq.trans h
        cases hb : (batch speed.toNat s).result with
        | error e =>
          rw [bind_of_error hb] at hresult
          exact hresult
        | ok =>
          -- The end of a frame has no faults.
          rw [bind_of_ok hb] at hresult
          obtain ⟨m, hm⟩ := exists_misuse_of_endFrame hresult
          cases hm

/-- **A frame halts the processor exactly with a fault of an instruction.** -/
theorem halted_cycle :
    (cycle s).session.halted = true ↔ s.halted = true ∨ ∃ f, s.FaultsInFrame f := by
  cases hh : s.halted with
  | true => simp [cycle_of_halted hh, hh]
  | false =>
    rw [or_iff_right Bool.false_ne_true]
    cases hn : s.speed with
    | real x =>
      rw [cycle_of_real hh hn, hh]
      refine ⟨Bool.noConfusion, fun ⟨_, _, _, _, _, _, hn', _⟩ => ?_⟩
      cases hn'.symm.trans hn
    | int speed =>
      simp only [faultsInFrame_iff_batch hh hn]
      cases hb : (batch speed.toNat s).result with
      | error e =>
        obtain ⟨l, t, g, hstop⟩ := batch_result_eq_error_iff.1 hb
        rw [(cycle_yields_error hh hn hstop.batch_yields).session_eq]
        cases e <;> simp [haltedBy, Error.isFault, hh]
      | ok =>
        obtain ⟨l, t, g, -, -, -, hbatch⟩ := exists_path_of_batch hb
        have hy := (cycle_yields_iff hh hn).1 (yields_self cycle s)
        rw [← hy.session_eq, bind_of_ok hb, (within_endFrame _).spares.rest, hbatch.session_eq]
        simp [reach, hh]

theorem faultsInFrames_succ :
    s.FaultsInFrames (n + 1) f ↔
      s.FaultsInFrame f ∨ (cycle s).result = .ok () ∧ (cycle s).session.FaultsInFrames n f := by
  constructor
  · rintro ⟨k, hk, hok, hf⟩
    cases k with
    | zero => exact .inl hf
    | succ k =>
      obtain ⟨_, hfirst, hrest⟩ := exists_of_bind_ok hok
      rw [cycles, bind_of_ok hfirst] at hf
      exact .inr ⟨hfirst, k, Nat.lt_of_succ_lt_succ hk, hrest, hf⟩
  · rintro (hf | ⟨hfirst, k, hk, hok, hf⟩)
    · exact ⟨0, Nat.succ_pos n, rfl, hf⟩
    · refine ⟨k + 1, Nat.succ_lt_succ hk, ?_⟩
      rw [cycles, bind_of_ok hfirst]
      exact ⟨hok, hf⟩

theorem halted_cycles (n : Nat) (s : Session) :
    (cycles n s).session.halted = true ↔ s.halted = true ∨ ∃ f, s.FaultsInFrames n f := by
  induction n generalizing s with
  | zero =>
    refine ⟨.inl, fun h => h.resolve_right ?_⟩
    rintro ⟨f, k, hk, -⟩
    exact absurd hk (Nat.not_lt_zero k)
  | succ n ih =>
    simp only [faultsInFrames_succ]
    cases hr : (cycle s).result with
    | error e =>
      rw [cycles, bind_of_error hr, halted_cycle]
      simp
    | ok =>
      rw [cycles, bind_of_ok hr, ih, halted_cycle, or_assoc, ← exists_or]
      simp

theorem faultsInFrames_iff (n : Nat) (s : Session) :
    s.FaultsInFrames n f ↔ (cycles n s).result = .error (.fault f) ∧ f ≠ .halted := by
  induction n generalizing s with
  | zero =>
    refine ⟨fun ⟨k, hk, _⟩ => absurd hk (Nat.not_lt_zero k), fun ⟨h, _⟩ => by cases h⟩
  | succ n ih =>
    rw [faultsInFrames_succ, faultsInFrame_iff]
    cases hr : (cycle s).result with
    | error e =>
      rw [cycles, bind_of_error hr]
      simp
    | ok =>
      rw [cycles, bind_of_ok hr, ih]
      simp

theorem faultsInFrames_iff_runFrames {count : Int} :
    s.FaultsInFrames count.toNat f ↔
      (runFrames count s).result = .error (.fault f) ∧ f ≠ .halted := by
  unfold runFrames
  by_cases hc : count < 0
  · rw [if_pos hc, Int.toNat_of_nonpos (Int.le_of_lt hc)]
    refine ⟨fun ⟨k, hk, _⟩ => absurd hk (Nat.not_lt_zero k), fun ⟨h, _⟩ => by cases h⟩
  · rw [if_neg hc]
    exact faultsInFrames_iff _ s

theorem halted_runFrames {count : Int} :
    (runFrames count s).session.halted = true ↔
      s.halted = true ∨ ∃ f, s.FaultsInFrames count.toNat f := by
  unfold runFrames
  by_cases hc : count < 0
  · rw [if_pos hc, Int.toNat_of_nonpos (Int.le_of_lt hc)]
    exact halted_cycles 0 s
  · rw [if_neg hc]
    exact halted_cycles _ s

/-! ### Faults in commands -/

/-- While a command is performed, an instruction is not fetched, not decoded, or fails. -/
inductive FaultsIn (s : Session) : Command → Fault → Prop
  /-- An opcode of the host. -/
  | opcode {opcode : HostValue} {f : Fault} (fault : s.attempt opcode = .error (.fault f)) :
      FaultsIn s (.execute opcode) f
  /-- An instruction of a frame. -/
  | frame {f : Fault} (fault : s.FaultsInFrame f) : FaultsIn s .cycle f
  /-- An instruction of one of several frames. -/
  | frames {count : Int} {f : Fault} (fault : s.FaultsInFrames count.toNat f) :
      FaultsIn s (.runFrames count) f

theorem faultsIn_execute {opcode : HostValue} :
    s.FaultsIn (.execute opcode) f ↔ s.attempt opcode = .error (.fault f) :=
  ⟨fun | .opcode h => h, .opcode⟩

theorem faultsIn_cycle : s.FaultsIn .cycle f ↔ s.FaultsInFrame f :=
  ⟨fun | .frame h => h, .frame⟩

theorem faultsIn_runFrames {count : Int} :
    s.FaultsIn (.runFrames count) f ↔ s.FaultsInFrames count.toNat f :=
  ⟨fun | .frames h => h, .frames⟩

/-- **The faults of instructions are those that the host sees** of the commands that execute
instructions, but for the refusal of a halted processor. -/
theorem faultsIn_iff :
    s.FaultsIn c f ↔
      c.executes = true ∧ (c.perform s).result = .error (.fault f) ∧ f ≠ .halted := by
  constructor
  · rintro (hfault | hfault | hfault)
    · refine ⟨rfl, ?_, (isOfInstruction_of_attempt hfault).ne_halted⟩
      exact answer_result_eq_error_iff.2 (executeOpcode_result_eq_error_iff.2 hfault)
    · obtain ⟨hr, hne⟩ := faultsInFrame_iff.1 hfault
      exact ⟨rfl, answer_result_eq_error_iff.2 hr, hne⟩
    · obtain ⟨hr, hne⟩ := faultsInFrames_iff_runFrames.1 hfault
      exact ⟨rfl, answer_result_eq_error_iff.2 hr, hne⟩
  · rintro ⟨hc, hr, hne⟩
    cases c with
    | execute opcode =>
      exact .opcode (executeOpcode_result_eq_error_iff.1 (answer_result_eq_error_iff.1 hr))
    | cycle => exact .frame (faultsInFrame_iff.2 ⟨answer_result_eq_error_iff.1 hr, hne⟩)
    | runFrames count =>
      exact .frames (faultsInFrames_iff_runFrames.2 ⟨answer_result_eq_error_iff.1 hr, hne⟩)
    | _ => cases hc

theorem halted_perform_of_not_executes (hc : c.executes = false) (hreset : c ≠ .reset) :
    (c.perform s).session.halted = s.halted := by
  cases c with
  | reset => exact absurd rfl hreset
  | cycle | runFrames | execute => cases hc
  | loadFont =>
    have hkept : Within (fun s t => t.halted = s.halted) loadFont := within_update fun _ => rfl
    exact hkept.answer _ s
  | preset parts =>
    have hkept : Within (fun s t => t.halted = s.halted) (applyPreset parts) := by
      intro s
      rw [applyPreset, session_bind_apply]
      cases parts.apply s.state <;> rfl
    exact hkept.answer _ s
  | _ => rw [(Command.within_adjusts rfl s).spares.rest]

/-- **A command halts the processor exactly with a fault in it**, and only a reset ends a halt. -/
theorem halted_perform :
    (c.perform s).session.halted = true ↔
      s.halted = true ∧ c ≠ .reset ∨ ∃ f, s.FaultsIn c f := by
  cases hc : c.executes with
  | false =>
    -- Without an instruction there is no fault, so only a reset moves the flag.
    rw [or_iff_left fun ⟨f, hf⟩ => Bool.noConfusion (hc.symm.trans (faultsIn_iff.1 hf).1)]
    by_cases hreset : c = .reset
    · subst hreset
      exact ⟨fun h => (Bool.noConfusion h : False).elim, fun h => absurd rfl h.2⟩
    · rw [halted_perform_of_not_executes hc hreset]
      exact (and_iff_left hreset).symm
  | true =>
    have hreset : c ≠ .reset := by
      rintro rfl
      cases hc
    rw [and_iff_left hreset]
    cases c with
    | execute opcode =>
      simp only [faultsIn_execute]
      rw [Command.perform, session_answer]
      cases ha : s.attempt opcode with
      | error e =>
        rw [(executeOpcode_yields_error ha).session_eq]
        cases e <;> simp [haltedBy, Error.isFault]
      | ok t =>
        obtain ⟨i, hd, hi⟩ := exists_decode_of_attempt ha
        rw [(executeOpcode_yields hd hi).session_eq]
        simp [reach]
    | cycle =>
      simp only [faultsIn_cycle]
      rw [Command.perform, session_answer]
      exact halted_cycle
    | runFrames count =>
      simp only [faultsIn_runFrames]
      rw [Command.perform, session_answer]
      exact halted_runFrames
    | _ => cases hc

/-- No other error changes the flag that the processor is halted: neither an error of a command that
executes no instruction, nor one that is no fault of the machine, nor the refusal to run frames of a
halted processor. -/
theorem halted_of_error {e : Error} (he : (c.perform s).result = .error e)
    (hother : c.executes = false ∨ (∃ m, e = .misuse m) ∨ e = .fault .halted) :
    (c.perform s).session.halted = s.halted := by
  have hfault : ¬∃ f, s.FaultsIn c f := by
    rintro ⟨f, hf⟩
    obtain ⟨hc, hr, hne⟩ := faultsIn_iff.1 hf
    obtain rfl := Except.error.inj (he.symm.trans hr)
    rcases hother with hc' | ⟨m, hm⟩ | hh
    · exact Bool.noConfusion (hc'.symm.trans hc)
    · cases hm
    · exact hne (Error.fault.inj hh)
  have hreset : c ≠ .reset := by
    rintro rfl
    cases he
  rw [Bool.eq_iff_iff, halted_perform, or_iff_left hfault, and_iff_left hreset]

/-- Only a reset ends a halt. -/
theorem halted_eq_false_iff (hh : s.halted = true) :
    (c.perform s).session.halted = false ↔ c = .reset := by
  rw [← Bool.not_eq_true, halted_perform, and_iff_right hh, not_or, not_not]
  refine and_iff_left_of_imp ?_
  rintro rfl ⟨f, hf⟩
  cases hf

/-! ### Histories -/

/-- In the history an instruction faulted, and nothing was reset since. -/
def HasFaulted (s : Session) (history : List Command) : Prop :=
  ∃ before c since f, history = before ++ c :: since ∧ Command.reset ∉ since ∧
    (s.after before).FaultsIn c f

theorem not_hasFaulted_nil (s : Session) : ¬s.HasFaulted [] := by
  rintro ⟨before, c, since, f, h, -⟩
  exact List.append_ne_nil_of_right_ne_nil before (List.cons_ne_nil c since) h.symm

theorem hasFaulted_cons {history : List Command} :
    s.HasFaulted (c :: history) ↔
      (∃ f, s.FaultsIn c f) ∧ Command.reset ∉ history ∨
        (c.perform s).session.HasFaulted history := by
  constructor
  · rintro ⟨before, c', since, f, h, hreset, hf⟩
    cases before with
    | nil =>
      obtain ⟨rfl, rfl⟩ := List.cons.inj h
      exact .inl ⟨⟨f, hf⟩, hreset⟩
    | cons b before =>
      obtain ⟨rfl, rfl⟩ := List.cons.inj h
      exact .inr ⟨before, c', since, f, rfl, hreset, hf⟩
  · rintro (⟨⟨f, hf⟩, hreset⟩ | ⟨before, c', since, f, rfl, hreset, hf⟩)
    · exact ⟨[], c, history, f, rfl, hreset, hf⟩
    · exact ⟨c :: before, c', since, f, rfl, hreset, hf⟩

/-- **When a processor is halted after a history**: if it was halted before and nothing was reset,
or if an instruction faulted and nothing was reset since. -/
theorem halted_after_iff (s : Session) (history : List Command) :
    (s.after history).halted = true ↔
      s.halted = true ∧ Command.reset ∉ history ∨ s.HasFaulted history := by
  induction history generalizing s with
  | nil =>
    rw [or_iff_left s.not_hasFaulted_nil, and_iff_left List.not_mem_nil]
    rfl
  | cons c history ih =>
    rw [after, ih, halted_perform, hasFaulted_cons, or_and_right, or_assoc, and_assoc,
      List.mem_cons, not_or, ne_comm]

/-! ### Sessions that run in frames -/

/-- If the processor is halted, then it waits for no key. -/
def HaltsAwake (s : Session) : Prop :=
  s.halted = true → s.paused = false

/-- If the one session halts awake, then so does the other one. -/
def KeepsAwake (s t : Session) : Prop :=
  s.HaltsAwake → t.HaltsAwake

instance : IsPreorder Session KeepsAwake where
  refl _ := id
  trans _ _ _ h h' := h' ∘ h

/-- A batch that stops at a fault executed no wait. -/
theorem keepsAwake_cycle : Within KeepsAwake cycle := by
  intro s hs hhalted
  rcases halted_cycle.1 hhalted with hh | ⟨f, hh, speed, l, t, g, hn, hstop⟩
  · rw [cycle_of_halted hh]
    exact hs hh
  · rw [(cycle_yields_error hh hn hstop.batch_yields).session_eq]
    exact hstop.path.paused_eq_false hstop.running hstop.no_wait

end

theorem Spares.keepsAwake {t : Session} (h : s.Spares t) : s.KeepsAwake t := by
  intro hs ht
  have hh : s.halted = true := by
    rw [h.rest] at ht
    exact ht
  rcases h.waiting with hkept | hended
  · rw [paused, State.paused, hkept]
    exact hs hh
  · rw [paused, State.paused, hended]
    rfl

theorem keepsAwake_perform [Random.Generator] (hc : c.runsByFrames = true) :
    Within KeepsAwake c.perform := by
  cases c with
  | loadFont =>
    have hfont : Within KeepsAwake loadFont :=
      within_update fun s hs hh => (congrArg Option.isSome (State.waiting_withFont s.state)).trans
        (hs hh)
    exact hfont.answer _
  | reset =>
    intro s _ hh
    cases hh
  | cycle => exact keepsAwake_cycle.answer _
  | runFrames count => exact (within_runFrames keepsAwake_cycle count).answer _
  | execute | tickTimers | preset => cases hc
  | _ => exact (Command.within_adjusts rfl).mono fun _ _ h => h.spares.keepsAwake

/-- If the one processor is halted and waits for no key, then the other one is halted in the same
state. -/
def StaysHalted (s t : Session) : Prop :=
  s.halted = true → s.state.waiting = none → t.halted = true ∧ t.state = s.state

instance : IsPreorder Session StaysHalted where
  refl _ hh _ := ⟨hh, rfl⟩
  trans _ _ _ h h' hh hw := by
    obtain ⟨hh, hstate⟩ := h hh hw
    obtain ⟨hh, hstate'⟩ := h' hh (hstate ▸ hw)
    exact ⟨hh, hstate'.trans hstate⟩

theorem allowsWatch_staysHalted : AllowsWatch StaysHalted where
  speaker _ _ hh _ := ⟨hh, rfl⟩
  loggers _ _ _ hh _ := ⟨hh, rfl⟩

/-- A key that goes down finds no wait to end. -/
theorem allowsKeys_staysHalted : AllowsKeys StaysHalted where
  down _ _ hh hw := by
    refine ⟨hh, ?_⟩
    simp only [pressed, State.receive_of_waiting_eq_none hw, ite_self]
  up _ hh _ := ⟨hh, rfl⟩
  allUp hh _ := ⟨hh, rfl⟩

theorem staysHalted_cycle [Random.Generator] : Within StaysHalted cycle := by
  intro s hh hw
  rw [cycle_of_halted hh]
  exact ⟨hh, rfl⟩

theorem staysHalted_deliverKey (key : HostValue) : Within StaysHalted (deliverKey key) := by
  intro s hh hw
  rw [deliverKey, session_bind_apply, hw]
  exact ⟨hh, rfl⟩

theorem staysHalted_togglePixel (x y : Int) : Within StaysHalted (togglePixel x y) := by
  refine within_session.bind fun s => (within_ofExcept _).bind fun r => ?_
  rcases r with ⟨erased, screen⟩
  refine Within.bind (within_update fun _ hh _ => ⟨hh, rfl⟩) fun _ => ?_
  exact (within_note _).answer fun _ => erased

theorem staysHalted_perform [Random.Generator] (hc : c.runsByFrames = true)
    (hstate : c.replacesState = false) :
    Within StaysHalted c.perform := by
  cases c with
  | cycle => exact staysHalted_cycle.answer _
  | runFrames count => exact (within_runFrames staysHalted_cycle count).answer _
  | deliverKey key => exact (staysHalted_deliverKey key).answer _
  | updateTone => exact (within_updateTone allowsWatch_staysHalted).answer _
  | press | release | keyDown | keyUp | releaseAll =>
    exact Command.within_movesKeys allowsKeys_staysHalted rfl
  | setReporterLevel | setLoggerLevel | samples | mute | unmute =>
    exact Command.within_watches allowsWatch_staysHalted rfl
  | register | describe | screenLines => exact within_session.answer _
  | readMemory address length => exact within_session.bind fun s => (within_ofExcept _).answer _
  | setSpeed speed => exact Within.answer (within_update fun _ hh _ => ⟨hh, rfl⟩) _
  | togglePixel x y => exact (staysHalted_togglePixel x y).answer _
  | execute | tickTimers | preset => cases hc
  | loadFont | load | loadRom | reset | writeMemory => cases hstate

/-- **The life of a halt** in a session with any history. The processor is halted exactly if since
the start or the last reset an instruction faulted. No other error halts it: neither an error of a
command that executes no instruction, nor one that is no fault of the machine, nor the refusal to
run frames of a halted processor. Only a reset ends the halt. Until then a frame is refused, and
nothing changes. If instructions and timers run in frames only, then a halted processor waits for no
key, and its state stays until it is loaded or reset, whatever the keys do. -/
theorem halted_after [Random.Generator] {config : Config} {logger : Option Logger}
    {key : Option Random.Key} {screen : FrameBuffer} {s₀ s : Session} {history : List Command}
    (hmake : make config logger key screen = .ok s₀) (keypad : Keypad Unit) (speaker : Speaker)
    (hs : { s₀ with keypad := keypad, speaker := speaker }.after history = s) :
    (s.halted = true ↔ { s₀ with keypad := keypad, speaker := speaker }.HasFaulted history) ∧
      (∀ (c : Command) (e : Error), (c.perform s).result = .error e →
        (c.executes = false ∨ (∃ m, e = .misuse m) ∨ e = .fault .halted) →
        (c.perform s).session.halted = s.halted) ∧
      (s.halted = true →
        (∀ c : Command, (c.perform s).session.halted = false ↔ c = .reset) ∧
        cycle s = ⟨.error (.fault .halted), s, {}⟩) ∧
      ((∀ c ∈ history, c.runsByFrames = true) → s.halted = true →
        s.paused = false ∧
        ∀ further : List Command,
          (∀ c ∈ further, c.runsByFrames = true ∧ c.replacesState = false) →
          (s.after further).halted = true ∧ (s.after further).state = s.state) := by
  obtain ⟨l, k, -, rfl⟩ := exists_eq_of_make hmake
  subst hs
  refine ⟨?_, ?_, ?_, ?_⟩
  · rw [halted_after_iff]
    exact or_iff_right fun h => Bool.false_ne_true h.1
  · intro c e he hother
    exact halted_of_error he hother
  · intro hh
    refine ⟨fun c => ?_, cycle_of_halted hh⟩
    exact halted_eq_false_iff hh
  · intro hframes hh
    have hkeeps := within_after (R := KeepsAwake) (fun c hc => keepsAwake_perform (hframes c hc))
    have hawake := hkeeps _ (fun h => absurd h Bool.false_ne_true) hh
    refine ⟨hawake, fun further hfurther => ?_⟩
    have hstays := within_after (R := StaysHalted) fun c hc =>
      staysHalted_perform (hfurther c hc).1 (hfurther c hc).2
    exact hstays _ hh (by simpa [paused, State.paused] using hawake)

/-- A program that returns without a call, and keys that move before its frame and behind it. -/
def haltedProgram : List Command :=
  [.load (.raw [0x61, 0x05, 0x00, 0xEE]), .keyDown 5, .cycle, .keyUp 5, .keyDown 16]

set_option maxRecDepth 40000 in
/-- The return without a call halts the processor, and a key that is none does not change that. A
frame and keys leave the state behind the first instruction. -/
theorem halted_after_haltedProgram :
    make {} (some packageLogger) (some ⟨0, 0⟩) .screen = .ok (ofProgram [] defaultSpeed) ∧
      (∀ c ∈ haltedProgram, c.runsByFrames = true) ∧
      ((ofProgram [] defaultSpeed).after haltedProgram).halted = true ∧
      (ofProgram [] defaultSpeed).HasFaulted haltedProgram ∧
      ((ofProgram [] defaultSpeed).after haltedProgram).state.pc = 514 ∧
      cycle ((ofProgram [] defaultSpeed).after haltedProgram) =
        ⟨.error (.fault .halted), (ofProgram [] defaultSpeed).after haltedProgram, {}⟩ ∧
      (((ofProgram [] defaultSpeed).after haltedProgram).after [.cycle, .keyDown 7]).state =
        ((ofProgram [] defaultSpeed).after haltedProgram).state := by
  have hmake : make {} (some packageLogger) (some ⟨0, 0⟩) .screen =
      .ok (ofProgram [] defaultSpeed) := rfl
  have hframes : ∀ c ∈ haltedProgram, c.runsByFrames = true := by
    simp [haltedProgram, Command.runsByFrames]
  have hhalted : ((ofProgram [] defaultSpeed).after haltedProgram).halted = true := rfl
  obtain ⟨hiff, -, hrefused, hstays⟩ := halted_after hmake {} {} rfl
  refine ⟨hmake, hframes, hhalted, hiff.1 hhalted, rfl, (hrefused hhalted).2, ?_⟩
  exact ((hstays hframes hhalted).2 _ (by simp [Command.runsByFrames, Command.replacesState])).2

end Session

end Chip8
