import Mathlib.Tactic.ByContra
import Chip8.Proofs.Path
import Chip8.Random.Threefry

/-!
# Frames

A frame is a batch of instructions and an end. At the end the timers are counted down unless the
processor waits for a key, then the sound timer sets the tone, and the screen is rendered last. A
batch that fails has no end.

## Main definitions

* `Chip8.State.Settles` : what the end of a frame does to the state.
* `Chip8.DeviceCall.SetsTone` : the call that sets the tone.
* `Chip8.Session.ended` : the session after the end of a frame.
* `Chip8.Session.FrameRun` : a whole frame.

## Main results

* `Chip8.Session.endFrame_yields`
* `Chip8.Session.cycle_yields`, `Chip8.Session.cycle_yields_error` : a frame is a batch and an end.
* `Chip8.Session.exists_frameRun` : what a frame does that succeeds.
-/

namespace Chip8

/-- Both timers lose one, down to zero, unless the processor waits for a key. The rest of the state
stays. -/
structure State.Settles (t u : State) : Prop where
  /-- Nothing but the timers changes. -/
  rest : u = { t with delay := u.delay, sound := u.sound }
  /-- The delay timer. -/
  delay : u.delay.toNat = t.delay.toNat - (if t.paused then 0 else 1)
  /-- The sound timer. -/
  sound : u.sound.toNat = t.sound.toNat - (if t.paused then 0 else 1)

/-- The state after the timers are counted down, unless the processor waits for a key. -/
def State.settled (t : State) : State :=
  if t.paused then t else t.tick

theorem State.settles_settled (t : State) : t.Settles t.settled := by
  unfold settled
  cases hp : t.paused with
  | true =>
    rw [if_pos rfl]
    exact ⟨rfl, by simp [hp], by simp [hp]⟩
  | false =>
    rw [if_neg Bool.false_ne_true]
    refine ⟨rfl, ?_, ?_⟩
    · rw [hp]
      exact toNat_countDown t.delay
    · rw [hp]
      exact toNat_countDown t.sound

theorem State.paused_settled (t : State) : t.settled.paused = t.paused := by
  unfold settled
  split <;> rfl

/-- The call sets the tone, which is on while the sound timer runs. -/
def DeviceCall.SetsTone (frequency : Number) (sound : UInt8) : DeviceCall → Prop
  | .play f => 0 < sound ∧ frequency.toFloat? = some f
  | .stop => sound = 0
  | .pixel .. | .clear | .render | .query .. | .hook => False

/-- A tone with the frequency can be played: it is positive and not too large for a double. -/
def Number.Playable (frequency : Number) : Prop :=
  frequency.isNonpositive = false ∧ frequency.toFloat?.isSome

namespace Speaker

variable {s : Speaker} {x : Number}

theorem play_of_playable (hx : x.isNonpositive = false) {f : Float} (hf : x.toFloat? = some f) :
    s.play x = (.ok (), { s.start with frequency := f }) := by
  simp [play, hx, hf]

theorem exists_error_of_not_playable (hx : ¬x.Playable) : ∃ e, (s.play x).1 = .error e := by
  unfold play
  cases hp : x.isNonpositive with
  | true => exact ⟨_, rfl⟩
  | false =>
    cases hf : x.toFloat? with
    | none => exact ⟨_, rfl⟩
    | some f => exact absurd ⟨hp, by simp [hf]⟩ hx

theorem exists_misuse_of_play {e : Error} (h : (s.play x).1 = .error e) : ∃ m, e = .misuse m := by
  unfold play at h
  split at h
  · cases h
    exact ⟨_, rfl⟩
  · split at h
    · cases h
      exact ⟨_, rfl⟩
    · cases h

end Speaker

namespace Session

open Procedure

variable {s t : Session} {r : Except Error Unit} {e : Error} {calls : List DeviceCall}
  {pictures : List Delivery} {n : Int}

/-! ### The end of a frame -/

/-- The session after the timers are counted down, unless the processor waits for a key. -/
def settle (s : Session) : Session :=
  { s with state := s.state.settled }

/-- The speaker after the tone is set. -/
def toned (s : Session) : Speaker :=
  if 0 < s.state.sound then (s.speaker.play s.config.toneFrequency).2 else s.speaker.stop

/-- The session after the end of a frame. -/
def ended (s : Session) : Session :=
  { s.settle with screen := s.screen.render.2, speaker := s.settle.toned }

/-- The tone is set, if it need not be on or can be played. -/
theorem updateTone_yields (h : 0 < s.state.sound → s.config.toneFrequency.Playable) :
    ∃ c, c.SetsTone s.config.toneFrequency s.state.sound ∧
      updateTone.Yields s (.ok ()) { s with speaker := s.toned } [c] := by
  by_cases hs : 0 < s.state.sound
  · obtain ⟨hx, hf⟩ := h hs
    obtain ⟨f, hf⟩ := Option.isSome_iff_exists.1 hf
    refine ⟨.play f, ⟨hs, hf⟩, ?_⟩
    rw [updateTone, toned, yields_session_bind, if_pos hs, if_pos hs,
      Speaker.play_of_playable hx hf]
    exact ⟨rfl, rfl, rfl, rfl⟩
  · have h0 : s.state.sound = 0 := UInt8.le_zero_iff.1 (UInt8.not_lt.1 hs)
    refine ⟨.stop, h0, ?_⟩
    rw [updateTone, toned, yields_session_bind, if_neg hs, if_neg hs]
    exact ⟨rfl, rfl, rfl, rfl⟩

theorem updateTone_yields_error (hs : 0 < s.state.sound)
    (he : (s.speaker.play s.config.toneFrequency).1 = .error e) :
    updateTone.Yields s (.error e) { s with speaker := s.toned } [] := by
  rw [updateTone, toned, yields_session_bind, if_pos hs, if_pos hs]
  generalize s.speaker.play s.config.toneFrequency = p at he
  obtain ⟨result, speaker⟩ := p
  obtain rfl : result = .error e := he
  rw [yields_update_bind]
  exact (yields_fail e _).bind_error

theorem render_yields (s : Session) :
    render.Yields s (.ok ()) { s with screen := s.screen.render.2 } [.render] s.screen.render.1 :=
  ⟨rfl, rfl, rfl, rfl⟩

/-- The end of a frame counts the timers down first. -/
theorem endFrame_yields_iff :
    endFrame.Yields s r t calls pictures ↔
      (updateTone >>= fun _ => render).Yields s.settle r t calls pictures := by
  rw [endFrame, settle, State.settled, yields_session_bind]
  by_cases hp : s.state.paused = true
  · rw [if_pos hp, show s.paused = true from hp]
    exact yields_congr rfl
  · rw [if_neg hp, show s.paused = false from eq_false_of_ne_true hp]
    exact yields_congr rfl

/-- **The end of a frame.** One call sets the tone, and the last one renders the screen. -/
theorem endFrame_yields (h : 0 < s.settle.state.sound → s.config.toneFrequency.Playable) :
    ∃ c, c.SetsTone s.config.toneFrequency s.settle.state.sound ∧
      endFrame.Yields s (.ok ()) s.ended [c, .render] s.screen.render.1 := by
  obtain ⟨c, hc, hy⟩ := updateTone_yields (s := s.settle) h
  exact ⟨c, hc, endFrame_yields_iff.2 (hy.andThen (render_yields _))⟩

theorem playable_of_endFrame (h : (endFrame s).result = .ok ())
    (hs : 0 < s.settle.state.sound) : s.config.toneFrequency.Playable := by
  by_contra hp
  obtain ⟨e, he⟩ := Speaker.exists_error_of_not_playable (s := s.settle.speaker) hp
  have hy := endFrame_yields_iff.2 (updateTone_yields_error hs he).bind_error
  rw [hy.result_eq] at h
  cases h

/-- The end of a frame fails only if the tone has to be on and is refused. -/
theorem play_of_endFrame_error (h : (endFrame s).result = .error e) :
    0 < s.settle.state.sound ∧ (s.settle.speaker.play s.config.toneFrequency).1 = .error e := by
  by_cases htone : 0 < s.settle.state.sound → s.config.toneFrequency.Playable
  · obtain ⟨c, -, hy⟩ := endFrame_yields htone
    rw [hy.result_eq] at h
    cases h
  · obtain ⟨hs, hp⟩ := Classical.not_imp.1 htone
    obtain ⟨e', he⟩ := Speaker.exists_error_of_not_playable (s := s.settle.speaker) hp
    have hy := endFrame_yields_iff.2 (updateTone_yields_error hs he).bind_error
    obtain rfl : e' = e := Except.error.inj (hy.result_eq.symm.trans h)
    exact ⟨hs, he⟩

theorem endFrame_yields_error (h : (endFrame s).result = .error e) :
    endFrame.Yields s (.error e) { s.settle with speaker := s.settle.toned } [] := by
  obtain ⟨hs, he⟩ := play_of_endFrame_error h
  exact endFrame_yields_iff.2 (updateTone_yields_error hs he).bind_error

theorem exists_misuse_of_endFrame (h : (endFrame s).result = .error e) : ∃ m, e = .misuse m :=
  Speaker.exists_misuse_of_play (play_of_endFrame_error h).2

/-! ### Frames of a running session -/

section

variable [Random.Generator]

/-- A frame of a running session is a batch and an end. -/
theorem cycle_yields_iff (hh : s.halted = false) (hn : s.speed = .int n) :
    cycle.Yields s r t calls pictures ↔
      (batch n.toNat >>= fun _ => endFrame).Yields s r t calls pictures := by
  have hsize : batchSize s = ⟨.ok n.toNat, s, {}⟩ := by
    simp only [batchSize, Bind.bind, Procedure.bind, session, hn]
    rfl
  rw [cycle, yields_session_bind]
  simp only [hh, Bool.false_eq_true, if_false]
  exact yields_bind_iff hsize

theorem cycle_yields_error (hh : s.halted = false) (hn : s.speed = .int n)
    (h : (batch n.toNat).Yields s (.error e) t calls pictures) :
    cycle.Yields s (.error e) t calls pictures :=
  (cycle_yields_iff hh hn).2 h.bind_error

theorem cycle_yields (hh : s.halted = false) (hn : s.speed = .int n)
    (h : (batch n.toNat).Yields s (.ok ()) t calls)
    (ht : 0 < t.settle.state.sound → t.config.toneFrequency.Playable) :
    ∃ c, c.SetsTone t.config.toneFrequency t.settle.state.sound ∧
      cycle.Yields s (.ok ()) t.ended (calls ++ [c, .render]) t.screen.render.1 := by
  obtain ⟨c, hc, hy⟩ := endFrame_yields ht
  exact ⟨c, hc, (cycle_yields_iff hh hn).2 (h.andThen hy)⟩

theorem batch_and_end_of_cycle (hh : s.halted = false) (hn : s.speed = .int n)
    (h : (cycle s).result = .ok ()) :
    (batch n.toNat s).result = .ok () ∧ (endFrame (batch n.toNat s).session).result = .ok () := by
  have hy := (cycle_yields_iff hh hn).1 (yields_self cycle s)
  obtain ⟨_, hb, he⟩ := exists_of_bind_ok (hy.result_eq.trans h)
  exact ⟨hb, he⟩

/-- The batch of a session follows a path that is as long as a whole batch, unless an instruction
fails. -/
theorem exists_path_of_batch {k : Nat} (h : (batch k s).result = .ok ()) :
    ∃ l t g, Path s.keypad.keys s.state s.screen.grid l t g ∧
      l.length = (if s.paused then 0 else batchLength k l) ∧ l.length ≤ k ∧
      (batch k).Yields s (.ok ()) (s.reach t g) (l.flatMap Executed.callsWithHook) := by
  cases hp : s.paused with
  | true =>
    refine ⟨[], s.state, s.screen.grid, .nil .., rfl, Nat.zero_le k, ?_⟩
    rw [reach_self]
    exact batch_yields_of_paused hp k
  | false =>
    obtain ⟨l, t, g, hpath, ⟨hl, hle, hy⟩ | ⟨-, -, e, -, hy⟩⟩ := batch_yields hp k
    · exact ⟨l, t, g, hpath, hl, hle, hy⟩
    · rw [hy.result_eq] at h
      cases h

/-- What a frame of `n` instructions does that succeeds: it executes the instructions `l`, which
lead to the state `t` and the pixels `g`, and ends in the state `u`, with the call `tone` of the
speaker. -/
structure FrameRun (s : Session) (n : Nat) (l : List Executed) (t u : State) (g : PixelGrid)
    (tone : DeviceCall) : Prop where
  /-- Each instruction is fetched and executed in what the one before left. -/
  path : Path s.keypad.keys s.state s.screen.grid l t g
  /-- None is executed if the processor waits at the start. Else the last one is the first wait for
  a key, or the number of the frame is reached. -/
  length_eq : l.length = if s.paused then 0 else batchLength n l
  /-- The number of the frame is not exceeded. -/
  length_le : l.length ≤ n
  /-- The instructions do not install hooks, set the tone or render. -/
  own_calls : ∀ x ∈ l, ∀ c ∈ x.calls, c.IsOfInstruction
  /-- The timers are counted down unless the processor waits. -/
  settles : t.Settles u
  /-- The tone is on while the sound timer runs. -/
  setsTone : tone.SetsTone s.config.toneFrequency u.sound
  /-- The devices are called by the instructions, with a hook behind a wait for a key, and then for
  the tone and the picture. -/
  yields : cycle.Yields s (.ok ())
    { s.reach u g with
      screen := { s.screen with grid := g, frames := s.screen.frames + 1 }
      speaker := if 0 < u.sound then (s.speaker.play s.config.toneFrequency).2 else s.speaker.stop }
    (l.flatMap Executed.callsWithHook ++ [tone, .render])
    (s.screen.listeners.map fun name => ⟨name, g⟩)

/-- **Frames.** A frame of a running session that succeeds executes instructions up to the first
wait for a key or to its number, counts the timers down unless the processor waits, sets the tone,
and renders the screen. -/
theorem exists_frameRun (hh : s.halted = false) (hn : s.speed = .int n)
    (h : (cycle s).result = .ok ()) : ∃ l t u g tone, s.FrameRun n.toNat l t u g tone := by
  obtain ⟨hb, he⟩ := batch_and_end_of_cycle hh hn h
  obtain ⟨l, t, g, hpath, hl, hle, hbatch⟩ := exists_path_of_batch hb
  rw [hbatch.session_eq] at he
  obtain ⟨tone, htone, hcycle⟩ := cycle_yields hh hn hbatch fun hs => playable_of_endFrame he hs
  refine ⟨l, t, t.settled, g, tone, hpath, hl, hle, hpath.isOfInstruction, t.settles_settled, htone,
    hcycle.result_eq, hcycle.session_eq.trans ?_, hcycle.calls_eq, hcycle.pictures_eq⟩
  simp only [ended, settle, toned, reach, State.paused_settled]
  rfl

end

set_option maxRecDepth 40000 in
/-- A frame of three instructions ends behind the second one, with a wait for a key. -/
theorem exists_frameRun_of_wait :
    let s := ofProgram [0x61, 0x05, 0xF1, 0x0A, 0x61, 0x06] 3
    s.halted = false ∧ s.speed = .int 3 ∧ (cycle s).result = .ok () ∧
      (cycle s).session.state.pc = 516 ∧ (cycle s).session.state.waiting = some 1 ∧
      ∃ l t u g tone, s.FrameRun (3 : Int).toNat l t u g tone :=
  ⟨rfl, rfl, rfl, rfl, rfl, exists_frameRun rfl rfl rfl⟩

end Session

end Chip8
