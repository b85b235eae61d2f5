import Mathlib.Logic.Relation
import Chip8.Proofs.Step
import Chip8.Proofs.Within
import Chip8.Session.Command

/-!
# Changes of a session

All that can happen to a session, in small: an instruction is executed or fails, a timer ticks, a
key moves, a program is loaded. Every command changes a session by such steps, one after the other,
also where it fails. So a property that holds at the start and that no step takes away holds after
any history. Most commands execute no instruction; they adjust a session and leave alone what only
instructions, the font, resets and presets change.

## Main definitions

* `Chip8.Session.Change` : a step.
* `Chip8.Session.Changes` : steps one after the other.
* `Chip8.Procedure.ByChanges` : a procedure that changes a session by steps.
* `Chip8.Session.Spares` : what is left alone where no instruction is executed.
* `Chip8.Session.Adjusts` : steps that leave it alone.
* `Chip8.Session.AllowsWatch`, `Chip8.Session.AllowsKeys` : relations that hold wherever devices are
  used from outside.
* `Chip8.Command.adjusts` : the commands that adjust a session.

## Main results

* `Chip8.Command.within_watches`, `Chip8.Command.within_movesKeys` : what a command keeps to that
  uses the devices only.
* `Chip8.Command.within_adjusts` : most commands adjust a session.
* `Chip8.Session.within_cycle` : a frame keeps to what its instructions and its end keep to.
* `Chip8.Command.byChanges` : every command but a preset changes a session by steps.
* `Chip8.Session.changes_after` : so does every history.
* `Chip8.Session.Changes.keeps` : what every step keeps is kept.
-/

namespace Chip8

/-- The state after a key is delivered to it. -/
def State.receive (t : State) (key : Int) : State :=
  match t.waiting with
  | some register => t.deliver register key
  | none => t

theorem State.receive_of_waiting_eq_none {t : State} (h : t.waiting = none) (key : Int) :
    t.receive key = t := by
  simp only [receive, h]

namespace Session

/-- The session after a key goes down. If the hook was there, it delivers the key. -/
def pressed (s : Session) (key : Int) : Session :=
  { s with
    state := if s.keypad.pending.isSome then s.state.receive key else s.state
    keypad := { s.keypad with keys := s.keypad.keys.move key true, pending := none } }

/-- The session after a reset. -/
def restarted (s : Session) : Session :=
  { s with
    state := if s.fontLoaded then (State.initial s.seedKey).withFont else State.initial s.seedKey
    halted := false }

variable [Random.Generator]

/-- A step that changes a session. -/
inductive Change (s : Session) : Session → Prop
  /-- An instruction is executed. -/
  | executed {opcode : Nat} {t : State}
      (succeeded : (s.effectOf (.ofOpcode opcode)).result = .ok t) :
      Change s (s.reach t (s.effectOf (.ofOpcode opcode)).grid)
  /-- An opcode or the instruction at the program counter fails. -/
  | failed {e : Error} (failure : (∃ opcode, s.attempt opcode = .error e) ∨ s.next = .error e) :
      Change s (s.haltedBy e)
  /-- The timers are counted down. -/
  | ticked : Change s { s with state := s.state.tick }
  /-- Memory is written. -/
  | wrote {address : Int} {values : List Int} {memory : Memory}
      (succeeded : s.state.memory.write address values = .ok memory) :
      Change s { s with state := { s.state with memory := memory } }
  /-- A program is loaded. -/
  | loaded {bytes : List UInt8} (fits : bytes.length ≤ maxProgramSize) :
      Change s
        { s with state := { s.state with memory := s.state.memory.store programStart bytes } }
  /-- The font is installed. -/
  | installedFont : Change s { s with state := s.state.withFont, fontLoaded := true }
  /-- The session is reset. -/
  | reset : Change s s.restarted
  /-- A key is delivered without the hook. -/
  | delivered {register : Int} (key : Int) (waits : s.state.waiting = some register) :
      Change s { s with state := s.state.deliver register key }
  /-- A key goes down. -/
  | keyDown {key : Int} (isKey : 0 ≤ key ∧ key < keyCount)
      (up : s.keypad.keys.isDown key = false) : Change s (s.pressed key)
  /-- A key goes up. -/
  | keyUp {key : Int} (isKey : 0 ≤ key ∧ key < keyCount) :
      Change s { s with keypad := { s.keypad with keys := s.keypad.keys.move key false } }
  /-- All keys go up. -/
  | allUp : Change s { s with keypad := s.keypad.releaseAll }
  /-- The speaker is used. -/
  | speaker (speaker : Speaker) : Change s { s with speaker := speaker }
  /-- The screen is rendered. -/
  | rendered : Change s { s with screen := s.screen.render.2 }
  /-- The host inverts a pixel. -/
  | toggled {x y : Int} {erased : Bool} {screen : FrameBuffer}
      (succeeded : s.screen.toggle x y = .ok (erased, screen)) :
      Change s { s with screen := screen }
  /-- The loggers are set. -/
  | loggers (logger reporter : Logger) :
      Change s { s with logger := logger, reporter := reporter }
  /-- The number of instructions of a frame is set. -/
  | speed (speed : Number) : Change s { s with speed := speed }

/-- Steps that change a session, one after the other. -/
def Changes : Session → Session → Prop :=
  Relation.ReflTransGen Change

instance : IsPreorder Session Changes :=
  inferInstanceAs (IsPreorder Session (Relation.ReflTransGen Change))

theorem Change.changes {s t : Session} (h : s.Change t) : s.Changes t :=
  Relation.ReflTransGen.single h

theorem Changes.keeps {P : Session → Prop} (hP : ∀ s t, Change s t → P s → P t) {s t : Session}
    (h : s.Changes t) (hs : P s) : P t := by
  induction h with
  | refl => exact hs
  | tail _ hstep ih => exact hP _ _ hstep ih

/-- What is left alone where no instruction is executed, the font is not installed and nothing is
reset. -/
structure Spares (s t : Session) : Prop where
  /-- The settings, the key of the generator at the start and the flags of the session stay. -/
  rest : t = { s with
    state := t.state
    speed := t.speed
    logger := t.logger
    reporter := t.reporter
    screen := t.screen
    keypad := t.keypad
    speaker := t.speaker }
  /-- The program counter, the call stack, the index register and the generator stay. -/
  state : t.state = { s.state with
    memory := t.state.memory
    registers := t.state.registers
    delay := t.state.delay
    sound := t.state.sound
    waiting := t.state.waiting }
  /-- No wait begins. -/
  waiting : t.state.waiting = s.state.waiting ∨ t.state.waiting = none

/-- Steps of a session that execute no instruction. -/
structure Adjusts (s t : Session) : Prop where
  /-- They are steps. -/
  changes : s.Changes t
  /-- They leave alone what instructions change. -/
  spares : s.Spares t

instance : IsPreorder Session Adjusts where
  refl s := ⟨.refl, rfl, rfl, .inl rfl⟩
  trans s t u h h' := by
    refine ⟨h.changes.trans h'.changes, ?_, ?_, ?_⟩
    · exact h'.spares.rest.trans (by rw [h.spares.rest])
    · exact h'.spares.state.trans (by rw [h.spares.state])
    · rcases h'.spares.waiting with hkept | hended
      · rw [hkept]
        exact h.spares.waiting
      · exact .inr hended

/-- A step that leaves alone what instructions change. -/
theorem Change.adjusts {s t : Session} (h : s.Change t) (hs : s.Spares t) : s.Adjusts t :=
  ⟨h.changes, hs⟩

end Session

namespace Procedure

variable [Random.Generator] {α : Type}

/-- The procedure changes a session by steps, also where it fails. -/
def ByChanges (a : Procedure α) : Prop :=
  ∀ s : Session, s.Changes (a s).session

theorem Within.byChanges {a : Procedure α} (h : Within Session.Adjusts a) : ByChanges a :=
  h.mono fun _ _ h => h.changes

end Procedure

namespace Session

open Procedure

variable {s : Session}

/-! ### Watching a session -/

/-- The relation holds wherever the speaker is used or a logger is set, in any way. -/
structure AllowsWatch (R : Session → Session → Prop) : Prop where
  /-- The speaker is used. -/
  speaker (s : Session) (speaker : Speaker) : R s { s with speaker := speaker }
  /-- The loggers are set. -/
  loggers (s : Session) (logger reporter : Logger) :
    R s { s with logger := logger, reporter := reporter }

theorem allowsWatch_adjusts [Random.Generator] : AllowsWatch Adjusts where
  speaker _ speaker := (Change.speaker speaker).adjusts ⟨rfl, rfl, .inl rfl⟩
  loggers _ logger reporter := (Change.loggers logger reporter).adjusts ⟨rfl, rfl, .inl rfl⟩

section Watch

variable {R : Session → Session → Prop} [IsPreorder Session R] (h : AllowsWatch R)

include h

omit [IsPreorder Session R] in
theorem within_update_speaker (f : Session → Speaker) :
    Within R (update fun s => { s with speaker := f s }) :=
  within_update fun s => h.speaker s (f s)

theorem within_updateTone : Within R updateTone := by
  refine within_session.bind fun s => Within.ite ?_ ?_
  · rcases s.speaker.play s.config.toneFrequency with ⟨result, speaker⟩
    refine (within_update_speaker h fun _ => speaker).bind fun _ => ?_
    exact (within_ofExcept _).bind fun _ => within_note _
  · exact (within_update_speaker h fun s => s.speaker.stop).bind fun _ => within_note _

theorem within_takeSamples (count : Int) : Within R (takeSamples count) := by
  refine within_session.bind fun s => (within_ofExcept _).bind fun r => ?_
  rcases r with ⟨samples, speaker⟩
  exact (within_update_speaker h fun _ => speaker).answer fun _ => samples

theorem within_setReporterLevel (level : String) : Within R (setReporterLevel level) := by
  refine within_session.bind fun s => (within_ofExcept _).bind fun reporter => ?_
  exact within_update fun t => h.loggers t t.logger reporter

theorem within_setLoggerLevel (level : String) : Within R (setLoggerLevel level) := by
  refine within_session.bind fun s => (within_ofExcept _).bind fun logger => ?_
  exact within_update fun t => h.loggers t logger t.reporter

end Watch

/-! ### Procedures that execute no instruction -/

section

variable [Random.Generator]

theorem within_tickTimers : Within Adjusts tickTimers :=
  within_update fun _ => Change.ticked.adjusts ⟨rfl, rfl, .inl rfl⟩

theorem within_render : Within Adjusts render :=
  fun _ => Change.rendered.adjusts ⟨rfl, rfl, .inl rfl⟩

theorem within_endFrame : Within Adjusts endFrame := by
  have htone := (within_updateTone allowsWatch_adjusts).bind fun _ => within_render
  refine within_session.bind fun s => Within.ite htone ?_
  exact within_tickTimers.bind fun _ => htone

theorem within_load (program : Program) : Within Adjusts (load program) := by
  refine (within_ofExcept _).bind fun bytes => ?_
  by_cases hfits : maxProgramSize < bytes.length
  · rw [if_pos hfits]
    exact within_fail_bind _ _
  · rw [if_neg hfits]
    refine Within.bind (within_update fun s => ?_) fun _ => within_report _ _
    exact (Change.loaded (Nat.not_lt.1 hfits)).adjusts ⟨rfl, rfl, .inl rfl⟩

theorem within_loadRom (name : String) (entry : RomEntry) : Within Adjusts (loadRom name entry) :=
  (within_ofExcept _).bind fun bytes => within_load (.raw bytes)

theorem within_writeMemory (address : Int) (values : List Int) :
    Within Adjusts (writeMemory address values) := by
  intro s
  rw [writeMemory, session_bind_apply]
  cases hw : s.state.memory.write address values with
  | error e => exact refl_of Adjusts s
  | ok memory => exact (Change.wrote hw).adjusts ⟨rfl, rfl, .inl rfl⟩

theorem within_togglePixel (x y : Int) : Within Adjusts (togglePixel x y) := by
  intro s
  rw [togglePixel, session_bind_apply]
  cases ht : s.screen.toggle x y with
  | error e => exact refl_of Adjusts s
  | ok r =>
    rcases r with ⟨erased, screen⟩
    exact (Change.toggled ht).adjusts ⟨rfl, rfl, .inl rfl⟩

end

/-! ### Keys -/

theorem deliverKey_yields (key : Int) (s : Session) :
    (deliverKey (.ofInt key)).Yields s (.ok s.paused)
      { s with state := s.state.receive key } [] := by
  rw [deliverKey, State.receive, paused, State.paused, yields_session_bind]
  cases s.state.waiting with
  | none => exact yields_pure false s
  | some register => exact ⟨rfl, rfl, rfl, rfl⟩

theorem within_deliverKey [Random.Generator] (key : HostValue) : Within Adjusts
    (deliverKey key) := by
  intro s
  rw [deliverKey, session_bind_apply]
  cases hw : s.state.waiting with
  | none => exact refl_of Adjusts s
  | some register =>
    cases hk : key.toInt with
    | error e => exact refl_of Adjusts s
    | ok k => exact (Change.delivered k hw).adjusts ⟨rfl, rfl, .inr rfl⟩

theorem keyDown_yields {key : Int} (hk : 0 ≤ key ∧ key < keyCount)
    (hd : s.keypad.keys.isDown key = false) :
    (keyDown key).Yields s (.ok ()) (s.pressed key) [] := by
  have hdown : s.keypad.keyDown key = .ok (s.keypad.pending,
      { s.keypad with keys := s.keypad.keys.move key true, pending := none }) := by
    rw [Keypad.keyDown_eq, if_pos hk, if_neg (by simp [hd])]
  rw [keyDown, pressed, yields_session_bind, hdown, yields_ofExcept_ok_bind, yields_update_bind]
  cases s.keypad.pending with
  | none => exact yields_pure () _
  | some u => exact (deliverKey_yields key _).silent_bind (yields_pure () _)

theorem keyDown_session {key : Int} (hk : 0 ≤ key ∧ key < keyCount)
    (hd : s.keypad.keys.isDown key = false) : (keyDown key s).session = s.pressed key :=
  (keyDown_yields hk hd).session_eq

theorem keyDown_apply_of_not {key : Int}
    (h : ¬((0 ≤ key ∧ key < keyCount) ∧ s.keypad.keys.isDown key = false)) :
    keyDown key s = ⟨if 0 ≤ key ∧ key < keyCount then .ok () else .error (.misuse (.noSuchKey key)),
      s, {}⟩ := by
  rw [keyDown, session_bind_apply, Keypad.keyDown_eq]
  by_cases hk : 0 ≤ key ∧ key < keyCount
  · rw [if_pos hk, if_pos hk, if_pos (eq_true_of_ne_false fun hd => h ⟨hk, hd⟩)]
    rfl
  · rw [if_neg hk, if_neg hk]
    rfl

theorem keyDown_session_of_not {key : Int}
    (h : ¬((0 ≤ key ∧ key < keyCount) ∧ s.keypad.keys.isDown key = false)) :
    (keyDown key s).session = s := by
  rw [keyDown_apply_of_not h]

/-- The relation holds wherever keys move. -/
structure AllowsKeys (R : Session → Session → Prop) : Prop where
  /-- A key goes down. -/
  down {s : Session} {key : Int} (isKey : 0 ≤ key ∧ key < keyCount)
    (up : s.keypad.keys.isDown key = false) : R s (s.pressed key)
  /-- A key goes up. -/
  up {s : Session} {key : Int} (isKey : 0 ≤ key ∧ key < keyCount) :
    R s { s with keypad := { s.keypad with keys := s.keypad.keys.move key false } }
  /-- All keys go up. -/
  allUp {s : Session} : R s { s with keypad := s.keypad.releaseAll }

/-- A key that is pressed starts no instruction, and ends a wait at most. -/
theorem spares_pressed (s : Session) (key : Int) : s.Spares (s.pressed key) := by
  unfold pressed State.receive
  split
  · split
    · exact ⟨rfl, rfl, .inr rfl⟩
    · exact ⟨rfl, rfl, .inl rfl⟩
  · exact ⟨rfl, rfl, .inl rfl⟩

theorem allowsKeys_adjusts [Random.Generator] : AllowsKeys Adjusts where
  down isKey up := (Change.keyDown isKey up).adjusts (spares_pressed _ _)
  up isKey := (Change.keyUp isKey).adjusts ⟨rfl, rfl, .inl rfl⟩
  allUp := Change.allUp.adjusts ⟨rfl, rfl, .inl rfl⟩

section Keys

variable {R : Session → Session → Prop} [IsPreorder Session R] (h : AllowsKeys R)

include h

theorem within_keyDown (key : Int) : Within R (keyDown key) := by
  intro s
  by_cases hdown : (0 ≤ key ∧ key < keyCount) ∧ s.keypad.keys.isDown key = false
  · rw [keyDown_session hdown.1 hdown.2]
    exact h.down hdown.1 hdown.2
  · rw [keyDown_session_of_not hdown]
    exact refl_of R s

theorem within_keyUp (key : Int) : Within R (keyUp key) := by
  intro s
  rw [keyUp, session_bind_apply, Keypad.keyUp_eq]
  by_cases hk : 0 ≤ key ∧ key < keyCount
  · rw [if_pos hk]
    exact h.up hk
  · rw [if_neg hk]
    exact refl_of R s

theorem within_press (hostKey : String) : Within R (press hostKey) := by
  refine within_session.bind fun s => ?_
  cases s.keypad.keyOf? hostKey with
  | none => exact within_pure _
  | some key => exact (within_keyDown h key).answer _

theorem within_release (hostKey : String) : Within R (release hostKey) := by
  refine within_session.bind fun s => ?_
  cases s.keypad.keyOf? hostKey with
  | none => exact within_pure _
  | some key => exact (within_keyUp h key).answer _

omit [IsPreorder Session R] in
theorem within_releaseAll : Within R releaseAll :=
  within_update fun _ => h.allUp

end Keys

/-! ### Instructions and frames -/

variable [Random.Generator]

section Instructions

variable {R : Session → Session → Prop}

/-- An opcode keeps to what every instruction and every failure keep to. -/
theorem within_executeOpcode
    (hreach : ∀ (s : Session) (opcode : Nat) (t : State),
      (s.effectOf (.ofOpcode opcode)).result = .ok t →
        R s (s.reach t (s.effectOf (.ofOpcode opcode)).grid))
    (hfail : ∀ s opcode e, s.attempt opcode = .error e → R s (s.haltedBy e)) (opcode : HostValue) :
    Within R (executeOpcode opcode) := by
  intro s
  cases ha : s.attempt opcode with
  | error e =>
    rw [(executeOpcode_yields_error ha).session_eq]
    exact hfail s opcode e ha
  | ok t =>
    obtain ⟨i, hd, hi⟩ := exists_decode_of_attempt ha
    obtain ⟨opcode, -, rfl⟩ := exists_ofOpcode_of_decode hd
    rw [(executeOpcode_yields hd hi).session_eq]
    exact hreach s opcode t hi

/-- The instruction at the program counter keeps to what fetched instructions and their failures
keep to. -/
theorem within_step
    (hreach : ∀ (s : Session) (opcode : Nat) (t : State), s.state.fetch = .ok opcode →
      (s.effectOf (.ofOpcode opcode)).result = .ok t →
        R s (s.reach t (s.effectOf (.ofOpcode opcode)).grid))
    (hfail : ∀ s e, s.next = .error e → R s (s.haltedBy e)) : Within R step := by
  intro s
  cases hn : s.next with
  | error e =>
    rw [(step_yields_error hn).session_eq]
    exact hfail s e hn
  | ok t =>
    obtain ⟨opcode, hf, hr⟩ := exists_fetch_of_next hn
    rw [(step_yields hf hr).session_eq]
    exact hreach s opcode t hf hr

variable [IsPreorder Session R]

theorem within_batch (h : Within R step) (n : Nat) : Within R (batch n) := by
  induction n with
  | zero => exact within_pure _
  | succ n ih =>
    refine within_session.bind fun s => Within.ite (within_pure _) ?_
    exact h.bind fun _ => ih

theorem within_cycle (h : Within R step) (hend : Within R endFrame) : Within R cycle := by
  have hsize : Within R batchSize := by
    refine within_session.bind fun s => ?_
    cases s.speed with
    | int n => exact within_pure _
    | real x => exact within_fail _
  have hframe := hsize.bind fun n => (within_batch h n).bind fun _ => hend
  refine within_session.bind fun s => Within.ite ?_ hframe
  exact (within_fail _).bind fun _ => hframe

theorem within_runFrames (h : Within R cycle) (count : Int) : Within R (runFrames count) := by
  have hcycles (n : Nat) : Within R (cycles n) := by
    induction n with
    | zero => exact within_pure _
    | succ n ih => exact h.bind fun _ => ih
  exact Within.ite (within_fail _) (hcycles _)

end Instructions

theorem byChanges_executeOpcode (opcode : HostValue) : ByChanges (executeOpcode opcode) :=
  within_executeOpcode (fun _ _ _ hr => (Change.executed hr).changes)
    (fun _ opcode _ ha => (Change.failed (.inl ⟨opcode, ha⟩)).changes) opcode

theorem byChanges_cycle : ByChanges cycle := by
  refine within_cycle (within_step ?_ ?_) within_endFrame.byChanges
  · intro s opcode t _ hr
    exact (Change.executed hr).changes
  · intro s e hn
    exact (Change.failed (.inr hn)).changes

/-! ### Loading the font and resetting -/

theorem byChanges_loadFont : ByChanges loadFont :=
  within_update fun _ => Change.installedFont.changes

theorem byChanges_reset : ByChanges reset :=
  Within.bind (within_update fun _ => Change.reset.changes) fun _ => within_report _ _

end Session

/-! ### Commands of the host -/

/-- The commands that move keys. -/
def Command.movesKeys : Command → Bool
  | .press _ | .release _ | .keyDown _ | .keyUp _ | .releaseAll => true
  | _ => false

/-- The command sets the level of a logger, takes samples of the tone, or mutes or unmutes the
speaker. -/
def Command.watches : Command → Bool
  | .setReporterLevel _ | .setLoggerLevel _ | .samples _ | .mute | .unmute => true
  | _ => false

/-- The command executes no instruction, and neither installs the font nor replaces parts of the
state. -/
def Command.adjusts : Command → Bool
  | .loadFont | .reset | .cycle | .runFrames _ | .execute _ | .preset _ => false
  | _ => true

variable [Random.Generator]

section Devices

open Procedure Session

variable {R : Session → Session → Prop} [IsPreorder Session R] {c : Command}

theorem Command.within_movesKeys (h : AllowsKeys R) (hc : c.movesKeys = true) :
    Within R c.perform := by
  cases c with
  | press hostKey => exact (within_press h hostKey).answer _
  | release hostKey => exact (within_release h hostKey).answer _
  | keyDown key => exact (within_keyDown h key).answer _
  | keyUp key => exact (within_keyUp h key).answer _
  | releaseAll => exact (within_releaseAll h).answer _
  | _ => cases hc

theorem Command.within_watches (h : AllowsWatch R) (hc : c.watches = true) :
    Within R c.perform := by
  cases c with
  | setReporterLevel level => exact (within_setReporterLevel h level).answer _
  | setLoggerLevel level => exact (within_setLoggerLevel h level).answer _
  | samples count => exact (within_takeSamples h count).answer _
  | mute => exact (within_update_speaker h fun s => s.speaker.mute).answer fun _ => Answer.done
  | unmute => exact (within_update_speaker h fun s => s.speaker.unmute).answer fun _ => Answer.done
  | _ => cases hc

end Devices

open Procedure Session in
/-- **Most commands adjust a session** and leave alone what instructions change. -/
theorem Command.within_adjusts {c : Command} (hc : c.adjusts = true) :
    Within Adjusts c.perform := by
  cases c with
  | load program => exact (within_load program).answer _
  | loadRom name entry => exact (within_loadRom name entry).answer _
  | deliverKey key => exact (within_deliverKey key).answer _
  | tickTimers => exact within_tickTimers.answer _
  | updateTone => exact (within_updateTone allowsWatch_adjusts).answer _
  | press | release | keyDown | keyUp | releaseAll => exact within_movesKeys allowsKeys_adjusts rfl
  | register | describe | screenLines => exact within_session.answer _
  | setReporterLevel | setLoggerLevel | samples | mute | unmute =>
    exact within_watches allowsWatch_adjusts rfl
  | readMemory address length => exact within_session.bind fun s => (within_ofExcept _).answer _
  | writeMemory address values => exact (within_writeMemory address values).answer _
  | setSpeed speed =>
    refine Within.answer (within_update fun _ => ?_) fun _ => Answer.done
    exact (Change.speed speed).adjusts ⟨rfl, rfl, .inl rfl⟩
  | togglePixel x y => exact (within_togglePixel x y).answer _
  | loadFont | reset | cycle | runFrames | execute | preset => cases hc

open Procedure Session in
/-- **Every command but a preset changes a session by steps.** -/
theorem Command.byChanges {c : Command} (hc : ∀ parts, c ≠ .preset parts) :
    ByChanges c.perform := by
  cases c with
  | loadFont => exact Within.answer byChanges_loadFont _
  | reset => exact Within.answer byChanges_reset _
  | cycle => exact Within.answer byChanges_cycle _
  | runFrames count => exact Within.answer (within_runFrames byChanges_cycle count) _
  | execute opcode => exact Within.answer (byChanges_executeOpcode opcode) _
  | preset parts => exact absurd rfl (hc parts)
  | _ => exact (Command.within_adjusts rfl).byChanges

theorem Session.within_after {R : Session → Session → Prop} [IsPreorder Session R]
    {history : List Command} (h : ∀ c ∈ history, c.perform.Within R) (s : Session) :
    R s (s.after history) := by
  induction history generalizing s with
  | nil => exact refl_of R s
  | cons c history ih =>
    obtain ⟨hc, hrest⟩ := List.forall_mem_cons.1 h
    exact trans_of R (hc s) (ih hrest _)

/-- **A history without a preset changes a session by steps.** -/
theorem Session.changes_after {s : Session} {history : List Command}
    (hpreset : ∀ parts, Command.preset parts ∉ history) : s.Changes (s.after history) := by
  refine within_after (fun c hc => Command.byChanges ?_) s
  rintro parts rfl
  exact hpreset parts hc

end Chip8
