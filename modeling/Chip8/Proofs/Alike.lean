import Chip8.Proofs.Agree
import Chip8.Proofs.Change

/-!
# Alike sessions

Two sessions are alike if they have the same state, pixels and keys, and differ in what prints,
sounds or listens only. A hook may be there in one of them and not in the other while the processor
waits for nothing: the key that takes it away then finds no wait to end, and a wait that begins puts
a new hook in its place. No command sees a difference between alike sessions, but one that takes
samples of the tone, and one that puts a wait in place without its hook.

## Main definitions

* `Chip8.Session.Alike`
* `Chip8.Command.isBlind` : the commands that see no difference.
* `Chip8.Session.Indistinguishable` : no such commands tell two sessions apart.

## Main results

* `Chip8.Session.Alike.agree` : such a command has the same result in alike sessions.
* `Chip8.Session.Alike.after` : sessions stay alike.
* `Chip8.Session.Alike.indistinguishable` : no history tells them apart.
-/

namespace Chip8

theorem Speaker.play_fst (p q : Speaker) (frequency : Number) :
    (p.play frequency).1 = (q.play frequency).1 := by
  unfold play
  split
  · rfl
  · split <;> rfl

namespace Session

/-- The sessions have the same state, pixels and keys. If hooks may be stale, then one that is there
in one of them only is not awaited. -/
structure Alike (stale : Prop) (s t : Session) : Prop where
  /-- The state of the processor. -/
  state : s.state = t.state
  /-- The pixels. -/
  grid : s.screen.grid = t.screen.grid
  /-- The keys of the host. -/
  keyMap : s.keypad.keyMap = t.keypad.keyMap
  /-- The keys that are down. -/
  keys : s.keypad.keys = t.keypad.keys
  /-- The hook. -/
  hook : s.keypad.pending = t.keypad.pending ∨ stale ∧ t.state.waiting = none
  /-- The tone is refused in both or in none. -/
  tone : ∀ p q : Speaker, (p.play s.config.toneFrequency).1 = (q.play t.config.toneFrequency).1
  /-- The number of instructions of a frame. -/
  speed : s.speed = t.speed
  /-- The key of the random generator at the start. -/
  seedKey : s.seedKey = t.seedKey
  /-- The font was installed in both or in none. -/
  fontLoaded : s.fontLoaded = t.fontLoaded
  /-- The processor is halted in both or in none. -/
  halted : s.halted = t.halted

variable {stale : Prop} {s t : Session}

open Procedure

namespace Alike

theorem paused (h : s.Alike stale t) : s.paused = t.paused :=
  congrArg State.paused h.state

section

variable [Random.Generator]

theorem effectOf (h : s.Alike stale t) (i : Instruction) : s.effectOf i = t.effectOf i := by
  simp only [Session.effectOf, h.state, h.grid, h.keys]

theorem attempt (h : s.Alike stale t) (opcode : HostValue) :
    s.attempt opcode = t.attempt opcode := by
  simp only [Session.attempt, h.effectOf]

theorem next (h : s.Alike stale t) : s.next = t.next := by
  simp only [Session.next, h.state, h.grid, h.keys]

end

/-! ### Changes of alike sessions -/

theorem haltedBy (h : s.Alike stale t) (e : Error) : (s.haltedBy e).Alike stale (t.haltedBy e) :=
  { h with halted := congrArg (· || e.isFault) h.halted }

/-- Only the waiting register of a changed state counts for the hook. -/
theorem mapState (h : s.Alike stale t) (f : State → State)
    (hf : ∀ u : State, u.waiting = none → (f u).waiting = none) :
    { s with state := f s.state }.Alike stale { t with state := f t.state } :=
  { h with
    state := congrArg f h.state
    hook := h.hook.imp_right (And.imp_right (hf t.state)) }

/-- A wait that begins puts a new hook in the place of a stale one. -/
theorem reach (h : s.Alike stale t) (u : State) (grid : PixelGrid) :
    (s.reach u grid).Alike stale (t.reach u grid) := by
  unfold Session.reach
  rw [h.paused]
  by_cases hbegins : (u.paused && !t.paused) = true
  · rw [if_pos hbegins, if_pos hbegins]
    exact { h with state := rfl, grid := rfl, keyMap := h.keyMap, keys := h.keys, hook := .inl rfl }
  · rw [if_neg hbegins, if_neg hbegins]
    refine { h with state := rfl, grid := rfl, hook := h.hook.imp_right (And.imp_right ?_) }
    intro hnone
    simpa [Session.paused, State.paused, hnone] using hbegins

/-- The key that takes a stale hook away changes nothing else. -/
theorem pressed (h : s.Alike stale t) (key : Int) :
    (s.pressed key).Alike stale (t.pressed key) := by
  have hreceived : (if s.keypad.pending.isSome then s.state.receive key else s.state) =
      if t.keypad.pending.isSome then t.state.receive key else t.state := by
    rw [h.state]
    rcases h.hook with hhook | ⟨-, hnone⟩
    · rw [hhook]
    · rw [State.receive_of_waiting_eq_none hnone, ite_self, ite_self]
  have hkeys : s.keypad.keys.move key true = t.keypad.keys.move key true := by rw [h.keys]
  exact { h with state := hreceived, keys := hkeys, hook := .inl rfl }

end Alike

/-! ### Procedures in alike sessions -/

section Procedures

variable (h : s.Alike stale t)

include h

theorem agree_mapState (f : State → State)
    (hf : ∀ u : State, u.waiting = none → (f u).waiting = none) :
    Agree (Alike stale) (update fun s => { s with state := f s.state })
      (update fun s => { s with state := f s.state }) s t :=
  ⟨rfl, h.mapState f hf⟩

theorem agree_loadFont : Agree (Alike stale) loadFont loadFont s t :=
  ⟨rfl, { h.mapState State.withFont fun u hu => (State.waiting_withFont u).trans hu with
    fontLoaded := rfl }⟩

theorem agree_load (program : Program) :
    Agree (Alike stale) (load program) (load program) s t := by
  refine (agree_ofExcept h _).bind fun bytes s t h => ?_
  by_cases hfits : maxProgramSize < bytes.length
  · rw [if_pos hfits]
    exact agree_fail_bind h _ _ _
  · rw [if_neg hfits]
    refine (agree_mapState h (fun u => { u with memory := u.memory.store programStart bytes })
      fun _ hu => hu).bind fun _ _ _ h => agree_report h _ _

theorem agree_loadRom (name : String) (entry : RomEntry) :
    Agree (Alike stale) (loadRom name entry) (loadRom name entry) s t :=
  (agree_ofExcept h _).bind fun bytes _ _ h => agree_load h (.raw bytes)

theorem agree_reset : Agree (Alike stale) reset reset s t := by
  refine Agree.bind ⟨rfl, ?_⟩ fun _ _ _ h => agree_report h _ _
  have hnone (u : Session) : u.restarted.state.waiting = none := by
    unfold restarted
    split
    · exact State.waiting_withFont _
    · rfl
  have hstate : s.restarted.state = t.restarted.state := by
    simp only [restarted, h.seedKey, h.fontLoaded]
  exact { h with
    state := hstate
    hook := h.hook.imp_right (And.imp_right fun _ => hnone t)
    halted := rfl }

/-! ### Instructions and frames -/

section

variable [Random.Generator]

theorem agree_executeOpcode (opcode : HostValue) :
    Agree (Alike stale) (executeOpcode opcode) (executeOpcode opcode) s t := by
  cases hs : s.attempt opcode with
  | error e =>
    have ht : t.attempt opcode = .error e := h.attempt opcode ▸ hs
    exact agree_of_yields (executeOpcode_yields_error hs) (executeOpcode_yields_error ht)
      (h.haltedBy e)
  | ok u =>
    obtain ⟨i, hd, hi⟩ := exists_decode_of_attempt hs
    have hi' : (t.effectOf i).result = .ok u := h.effectOf i ▸ hi
    have hreach := h.reach u (t.effectOf i).grid
    have hyields := executeOpcode_yields hd hi
    rw [h.effectOf i] at hyields
    exact agree_of_yields hyields (executeOpcode_yields hd hi') hreach

theorem agree_step : Agree (Alike stale) step step s t := by
  cases hs : s.next with
  | error e =>
    have ht : t.next = .error e := h.next ▸ hs
    exact agree_of_yields (step_yields_error hs) (step_yields_error ht) (h.haltedBy e)
  | ok u =>
    obtain ⟨opcode, hf, hr⟩ := exists_fetch_of_next hs
    have hf' : t.state.fetch = .ok opcode := h.state ▸ hf
    have hr' : (t.effectOf (.ofOpcode opcode)).result = .ok u := h.effectOf _ ▸ hr
    have hyields := step_yields hf hr
    rw [h.effectOf] at hyields
    exact agree_of_yields hyields (step_yields hf' hr') (h.reach u _)

omit h in
theorem agree_batch (n : Nat) (h : s.Alike stale t) :
    Agree (Alike stale) (batch n) (batch n) s t := by
  induction n generalizing s t with
  | zero => exact agree_pure h ()
  | succ n ih =>
    refine agree_session_bind ?_
    rw [h.paused]
    split
    · exact agree_pure h ()
    · exact (agree_step h).bind fun _ _ _ h => ih h

end

theorem agree_tickTimers : Agree (Alike stale) tickTimers tickTimers s t :=
  agree_mapState h State.tick fun _ hu => hu

/-- The speakers need not be alike. -/
theorem agree_update_speaker (f g : Session → Speaker) :
    Agree (Alike stale) (update fun s => { s with speaker := f s })
      (update fun s => { s with speaker := g s }) s t :=
  ⟨rfl, { h with }⟩

theorem agree_updateTone : Agree (Alike stale) updateTone updateTone s t := by
  refine agree_session_bind ?_
  rw [h.state]
  split
  · have htone := h.tone s.speaker t.speaker
    rcases hs : s.speaker.play s.config.toneFrequency with ⟨result, p⟩
    rcases ht : t.speaker.play t.config.toneFrequency with ⟨result', q⟩
    obtain rfl : result = result' := by rwa [hs, ht] at htone
    refine (agree_update_speaker h (fun _ => p) fun _ => q).bind fun _ _ _ h => ?_
    exact (agree_ofExcept h _).bind fun _ _ _ h => agree_note h _ _
  · exact (agree_update_speaker h _ _).bind fun _ _ _ h => agree_note h _ _

theorem agree_render : Agree (Alike stale) render render s t :=
  ⟨rfl, { h with }⟩

theorem agree_endFrame : Agree (Alike stale) endFrame endFrame s t := by
  have htone {s t : Session} (h : s.Alike stale t) :
      Agree (Alike stale) (updateTone >>= fun _ => render) (updateTone >>= fun _ => render) s t :=
    (agree_updateTone h).bind fun _ _ _ h => agree_render h
  refine agree_session_bind ?_
  rw [h.paused]
  split
  · exact htone h
  · exact (agree_tickTimers h).bind fun _ _ _ h => htone h

theorem agree_cycle [Random.Generator] : Agree (Alike stale) cycle cycle s t := by
  have hsize {s t : Session} (h : s.Alike stale t) :
      Agree (Alike stale) batchSize batchSize s t := by
    refine agree_session_bind ?_
    rw [h.speed]
    cases t.speed with
    | int n => exact agree_pure h _
    | real x => exact agree_fail h _
  refine agree_session_bind ?_
  rw [h.halted]
  split
  · exact agree_fail_bind h _ _ _
  · refine (hsize h).bind fun n _ _ h => ?_
    exact (agree_batch n h).bind fun _ _ _ h => agree_endFrame h

theorem agree_runFrames [Random.Generator] (count : Int) :
    Agree (Alike stale) (runFrames count) (runFrames count) s t := by
  have hcycles (n : Nat) {s t : Session} (h : s.Alike stale t) :
      Agree (Alike stale) (cycles n) (cycles n) s t := by
    induction n generalizing s t with
    | zero => exact agree_pure h ()
    | succ n ih => exact (agree_cycle h).bind fun _ _ _ h => ih h
  unfold runFrames
  split
  · exact agree_fail h _
  · exact hcycles _ h

/-! ### Keys -/

theorem agree_deliverKey (key : HostValue) :
    Agree (Alike stale) (deliverKey key) (deliverKey key) s t := by
  refine agree_session_bind ?_
  rw [h.state]
  cases t.state.waiting with
  | none => exact agree_pure h false
  | some register =>
    refine (agree_ofExcept h _).bind fun k _ _ h => ?_
    refine (agree_mapState h (fun u => u.deliver register k) fun _ _ => rfl).bind ?_
    exact fun _ _ _ h => agree_pure h true

theorem agree_keyDown (key : Int) : Agree (Alike stale) (keyDown key) (keyDown key) s t := by
  by_cases hdown : (0 ≤ key ∧ key < keyCount) ∧ s.keypad.keys.isDown key = false
  · have hdown' : t.keypad.keys.isDown key = false := h.keys ▸ hdown.2
    exact agree_of_yields (keyDown_yields hdown.1 hdown.2) (keyDown_yields hdown.1 hdown')
      (h.pressed key)
  · constructor
    · rw [keyDown_apply_of_not hdown, keyDown_apply_of_not (h.keys ▸ hdown)]
    · rw [keyDown_apply_of_not hdown, keyDown_apply_of_not (h.keys ▸ hdown)]
      exact h

theorem agree_keyUp (key : Int) : Agree (Alike stale) (keyUp key) (keyUp key) s t := by
  refine agree_session_bind ?_
  rw [Keypad.keyUp_eq, Keypad.keyUp_eq]
  by_cases hk : 0 ≤ key ∧ key < keyCount
  · rw [if_pos hk, if_pos hk]
    exact ⟨rfl, { h with keys := congrArg (·.move key false) h.keys }⟩
  · rw [if_neg hk, if_neg hk]
    exact agree_fail_bind h _ _ _

theorem agree_press (hostKey : String) :
    Agree (Alike stale) (press hostKey) (press hostKey) s t := by
  refine agree_session_bind ?_
  rw [Keypad.keyOf?, Keypad.keyOf?, h.keyMap]
  cases t.keypad.keyMap.lookup (Text.lower hostKey) with
  | none => exact agree_pure h false
  | some key => exact (agree_keyDown h key).answer _

theorem agree_release (hostKey : String) :
    Agree (Alike stale) (release hostKey) (release hostKey) s t := by
  refine agree_session_bind ?_
  rw [Keypad.keyOf?, Keypad.keyOf?, h.keyMap]
  cases t.keypad.keyMap.lookup (Text.lower hostKey) with
  | none => exact agree_pure h false
  | some key => exact (agree_keyUp h key).answer _

theorem agree_releaseAll : Agree (Alike stale) releaseAll releaseAll s t :=
  ⟨rfl, { h with keys := rfl }⟩

/-! ### Memory, pixels and loggers -/

theorem agree_writeMemory (address : Int) (values : List Int) :
    Agree (Alike stale) (writeMemory address values) (writeMemory address values) s t := by
  refine agree_session_bind ?_
  rw [h.state]
  refine (agree_ofExcept h _).bind fun memory _ _ h => ?_
  exact agree_mapState h (fun u => { u with memory := memory }) fun _ hu => hu

theorem agree_togglePixel (x y : Int) :
    Agree (Alike stale) (togglePixel x y) (togglePixel x y) s t := by
  refine agree_session_bind ?_
  unfold FrameBuffer.toggle
  rw [h.grid]
  cases t.screen.grid.toggle x y with
  | error e => exact ⟨rfl, h⟩
  | ok r => exact ⟨rfl, { h with grid := rfl }⟩

theorem agree_setReporterLevel (level : String) :
    Agree (Alike stale) (setReporterLevel level) (setReporterLevel level) s t := by
  refine agree_session_bind ?_
  unfold Logger.setLevel
  cases Logger.levelOf level with
  | error e => exact ⟨rfl, h⟩
  | ok l => exact ⟨rfl, { h with }⟩

theorem agree_setLoggerLevel (level : String) :
    Agree (Alike stale) (setLoggerLevel level) (setLoggerLevel level) s t := by
  refine agree_session_bind ?_
  unfold Logger.setLevel
  cases Logger.levelOf level with
  | error e => exact ⟨rfl, h⟩
  | ok l => exact ⟨rfl, { h with }⟩

end Procedures

end Session

/-! ### Commands of the host -/

/-- The command sees no difference between alike sessions: it takes no samples of the tone, and puts
no parts of the state in place. -/
def Command.isBlind : Command → Bool
  | .samples _ | .preset _ => false
  | _ => true

namespace Session

variable [Random.Generator] {stale : Prop} {s t : Session}

/-- No blind command tells the sessions apart. After the same blind commands both have the same
state and the same pixels, and every further one has the same result in both. -/
def Indistinguishable (s t : Session) : Prop :=
  ∀ history : List Command, (∀ c ∈ history, c.isBlind = true) →
    (s.after history).state = (t.after history).state ∧
      (s.after history).screen.grid = (t.after history).screen.grid ∧
      (s.after history).halted = (t.after history).halted ∧
      ∀ c : Command, c.isBlind = true →
        (c.perform (s.after history)).result = (c.perform (t.after history)).result

namespace Alike

open Procedure

/-- **A blind command has the same result in alike sessions**, and they stay alike. -/
theorem agree (h : s.Alike stale t) {c : Command} (hc : c.isBlind = true) :
    Agree (Alike stale) c.perform c.perform s t := by
  cases c with
  | loadFont => exact (agree_loadFont h).answer _
  | load program => exact (agree_load h program).answer _
  | loadRom name entry => exact (agree_loadRom h name entry).answer _
  | reset => exact (agree_reset h).answer _
  | cycle => exact (agree_cycle h).answer _
  | runFrames count => exact (agree_runFrames h count).answer _
  | execute opcode => exact (agree_executeOpcode h opcode).answer _
  | deliverKey key => exact (agree_deliverKey h key).answer _
  | tickTimers => exact (agree_tickTimers h).answer _
  | updateTone => exact (agree_updateTone h).answer _
  | press hostKey => exact (agree_press h hostKey).answer _
  | release hostKey => exact (agree_release h hostKey).answer _
  | keyDown key => exact (agree_keyDown h key).answer _
  | keyUp key => exact (agree_keyUp h key).answer _
  | releaseAll => exact (agree_releaseAll h).answer _
  | register index =>
    refine agree_session_bind ?_
    rw [h.state]
    exact agree_pure h _
  | describe =>
    refine agree_session_bind ?_
    rw [describe, describe, h.state, h.halted, h.paused]
    exact agree_pure h _
  | setReporterLevel level => exact (agree_setReporterLevel h level).answer _
  | setLoggerLevel level => exact (agree_setLoggerLevel h level).answer _
  | readMemory address length =>
    refine agree_session_bind ?_
    rw [h.state]
    exact (agree_ofExcept h _).answer _
  | writeMemory address values => exact (agree_writeMemory h address values).answer _
  | setSpeed speed => exact ⟨rfl, { h with speed := rfl }⟩
  | mute | unmute => exact ⟨rfl, { h with }⟩
  | togglePixel x y => exact (agree_togglePixel h x y).answer _
  | screenLines =>
    refine agree_session_bind ?_
    rw [h.grid]
    exact agree_pure h _
  | preset | samples => cases hc

/-- **Alike sessions stay alike** after the same blind commands. -/
theorem after (h : s.Alike stale t) {history : List Command}
    (hblind : ∀ c ∈ history, c.isBlind = true) :
    (s.after history).Alike stale (t.after history) := by
  induction history generalizing s t with
  | nil => exact h
  | cons c history ih =>
    obtain ⟨hc, hrest⟩ := List.forall_mem_cons.1 hblind
    exact ih (h.agree hc).session hrest

/-- **Alike sessions cannot be told apart.** -/
theorem indistinguishable (h : s.Alike stale t) : s.Indistinguishable t := by
  intro history hblind
  have hafter := h.after hblind
  exact ⟨hafter.state, hafter.grid, hafter.halted, fun c hc => (hafter.agree hc).result⟩

end Alike

end Session

end Chip8
