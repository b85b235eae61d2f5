import Chip8.Proofs.Alike

/-!
# Starting over

A session remembers its settings, the key of the generator at the start, and whether the font was
installed. A reset goes back to the state that these give, whatever happened before. What else is
left of the past, such as the hook of a wait that was given up, makes no difference from then on to
a new session with the same settings.

## Main definitions

* `Chip8.Command.installsFont` : the command that installs the font.
* `Chip8.Session.Remembers` : what a session remembers.

## Main results

* `Chip8.Session.remembers_after` : what a session remembers after any history.
* `Chip8.Session.reset_starts_over` : a session that was reset is like a new one.
-/

namespace Chip8

/-- The command installs the font. -/
def Command.installsFont : Command → Bool
  | .loadFont => true
  | _ => false

namespace Session

open Procedure

/-- The session `t`, which came from `s`, has the same settings and the same random key at the
start. It has the font if `s` had it, or if it was installed in between. -/
structure Remembers (font : Bool) (s t : Session) : Prop where
  /-- The settings. -/
  config : t.config = s.config
  /-- The key of the random generator at the start. -/
  seedKey : t.seedKey = s.seedKey
  /-- The font was installed. -/
  fontLoaded : t.fontLoaded = (s.fontLoaded || font)

variable {s t u : Session} {font font' : Bool}

theorem Remembers.trans (h : s.Remembers font t) (h' : t.Remembers font' u) :
    s.Remembers (font || font') u where
  config := h'.config.trans h.config
  seedKey := h'.seedKey.trans h.seedKey
  fontLoaded := by rw [h'.fontLoaded, h.fontLoaded, Bool.or_assoc]

instance : IsPreorder Session (Remembers false) where
  refl _ := ⟨rfl, rfl, (Bool.or_false _).symm⟩
  trans _ _ _ h h' := h.trans h'

theorem Spares.remembers (h : s.Spares t) : s.Remembers false t where
  config := by rw [h.rest]
  seedKey := by rw [h.rest]
  fontLoaded := by rw [h.rest, Bool.or_false]

theorem remembers_executeOpcode [Random.Generator] (opcode : HostValue) :
    Within (Remembers false) (executeOpcode opcode) :=
  within_executeOpcode (fun _ _ _ _ => ⟨rfl, rfl, (Bool.or_false _).symm⟩)
    (fun _ _ _ _ => ⟨rfl, rfl, (Bool.or_false _).symm⟩) opcode

theorem remembers_cycle [Random.Generator] : Within (Remembers false) cycle := by
  refine within_cycle (within_step ?_ ?_) (within_endFrame.mono fun _ _ h => h.spares.remembers)
  · exact fun _ _ _ _ _ => ⟨rfl, rfl, (Bool.or_false _).symm⟩
  · exact fun _ _ _ => ⟨rfl, rfl, (Bool.or_false _).symm⟩

theorem remembers_applyPreset (parts : Preset) :
    Within (Remembers false) (applyPreset parts) := by
  refine within_session.bind fun s => (within_ofExcept _).bind fun state => ?_
  exact within_update fun _ => ⟨rfl, rfl, (Bool.or_false _).symm⟩

theorem remembers_loadFont : Within (Remembers true) loadFont :=
  within_update fun _ => ⟨rfl, rfl, (Bool.or_true _).symm⟩

theorem remembers_reset : Within (Remembers false) reset :=
  Within.bind (within_update fun _ => ⟨rfl, rfl, (Bool.or_false _).symm⟩) fun _ =>
    within_report _ _

section

variable [Random.Generator]

theorem remembers_perform (c : Command) : Within (Remembers c.installsFont) c.perform := by
  cases c with
  | loadFont => exact remembers_loadFont.answer _
  | reset => exact remembers_reset.answer _
  | cycle => exact remembers_cycle.answer _
  | runFrames count => exact (within_runFrames remembers_cycle count).answer _
  | execute opcode => exact (remembers_executeOpcode opcode).answer _
  | preset parts => exact (remembers_applyPreset parts).answer _
  | _ => exact (Command.within_adjusts rfl).mono fun _ _ h => h.spares.remembers

/-- **What a session remembers after any history**, whether its commands failed or not. -/
theorem remembers_after (s : Session) (history : List Command) :
    s.Remembers (history.any Command.installsFont) (s.after history) := by
  induction history generalizing s with
  | nil => exact refl_of (Remembers false) s
  | cons c history ih => exact (remembers_perform c s).trans (ih _)

theorem reset_session (s : Session) : (Command.reset.perform s).session = s.restarted := by
  rw [Command.perform, session_answer]
  rfl

end

/-- The memory of a new state holds zeros, and the font in front of them once it is installed. -/
theorem peek_fresh (key : Random.Key) (font : Bool) (k : Nat) :
    (if font then (State.initial key).withFont else State.initial key).memory.peek k =
      if font then Chip8.font.getD k 0 else 0 := by
  have hblank : Memory.blank.peek k = 0 := by
    by_cases hk : k < memorySize <;> simp [Memory.peek, Memory.blank, hk]
  cases font with
  | false => exact hblank
  | true =>
    refine (Memory.peek_store ..).trans ?_
    split
    · rw [Nat.sub_zero]
      exact congrArg (Chip8.font.getD k) hblank
    · rename_i hk
      have hstart : fontStart ≤ k := Nat.zero_le k
      have hfont : Chip8.font.length ≤ memorySize := by decide
      have hlength : Chip8.font.length ≤ k := by omega
      rw [if_pos rfl, List.getD_eq_getElem?_getD, List.getElem?_eq_none hlength]
      exact hblank

/-- **A session that was reset is like a new one.** Its state is that of a new session with the same
random key, with the font if it was ever installed, and it is not halted. The bytes of the font lie
at the start of its memory, and all others are zero. It cannot be told from a new session with the
same settings, with that key and that font, and with the same speed, pixels and keys. The hook of a
wait before the reset may be there in the first one only. -/
theorem reset_starts_over [Random.Generator] {config : Config} {logger : Option Logger}
    {key : Option Random.Key} {screen : FrameBuffer} {s₀ s : Session} {history : List Command}
    {font : Bool} (hmake : make config logger key screen = .ok s₀) (keypad : Keypad Unit)
    (speaker : Speaker) (hfont : history.any Command.installsFont = font)
    (hs : { s₀ with keypad := keypad, speaker := speaker }.after (history ++ [Command.reset]) = s) :
    s.state = (if font then (State.initial s₀.seedKey).withFont else State.initial s₀.seedKey) ∧
      (∀ k, s.state.memory.peek k = if font then Chip8.font.getD k 0 else 0) ∧
      s.halted = false ∧
      ∀ (logger' : Option Logger) (screen' : FrameBuffer) (t₀ : Session) (speaker' : Speaker),
        make config logger' (some s₀.seedKey) screen' = .ok t₀ →
        screen'.grid = s.screen.grid →
        s.Indistinguishable
          ({ t₀ with keypad := { s.keypad with pending := none }, speaker := speaker' }.after
            (.setSpeed s.speed :: if font then [.loadFont] else [])) := by
  obtain ⟨l, k, -, rfl⟩ := exists_eq_of_make hmake
  rw [after_append] at hs
  have hremembers := remembers_after
    { config, speed := config.speed, logger := l, seedKey := k, state := .initial k, screen,
      keypad, speaker } history
  generalize Session.after _ history = u at hs hremembers
  obtain rfl : u.restarted = s := (reset_session u).symm.trans hs
  have hloaded : u.fontLoaded = font := by rw [hremembers.fontLoaded, hfont, Bool.false_or]
  have hstate : u.restarted.state =
      if font then (State.initial k).withFont else State.initial k := by
    rw [restarted, hloaded, hremembers.seedKey]
  have hbytes (a : Nat) :
      u.restarted.state.memory.peek a = if font then Chip8.font.getD a 0 else 0 := by
    rw [hstate, peek_fresh]
  refine ⟨hstate, hbytes, rfl, fun logger' screen' t₀ speaker' hmake' hgrid => ?_⟩
  obtain ⟨l', k', hkey, rfl⟩ := exists_eq_of_make hmake'
  obtain rfl : k = k' := hkey
  have htone (p q : Speaker) :
      (p.play u.config.toneFrequency).1 = (q.play config.toneFrequency).1 := by
    rw [hremembers.config]
    exact p.play_fst q _
  -- The hook of the session that was reset may be stale: nothing waits for it now.
  have hnone : (if font then (State.initial k).withFont else State.initial k).waiting = none := by
    split
    · exact State.waiting_withFont _
    · rfl
  refine @Alike.indistinguishable _ True _ _ ?_
  cases font <;>
    exact { state := hstate, grid := hgrid.symm, keyMap := rfl, keys := rfl,
            hook := .inr ⟨trivial, hnone⟩, tone := htone, speed := rfl,
            seedKey := hremembers.seedKey, fontLoaded := hloaded, halted := rfl }

/-- A wait for a key that is given up by a reset. -/
def abandonedWait : List Command :=
  [.loadFont, .execute (.ofInt 0xF30A), .reset]

set_option maxRecDepth 40000 in
/-- The hook of the wait is still there, and makes no difference to a new session without it. The
second row of the digit zero is in its place, and so is the last row of the last digit, behind which
there is nothing. -/
theorem reset_starts_over_abandonedWait :
    make {} (some packageLogger) (some ⟨0, 0⟩) .screen = .ok (ofProgram [] defaultSpeed) ∧
      [Command.loadFont, .execute (.ofInt 0xF30A)].any Command.installsFont = true ∧
      ((ofProgram [] defaultSpeed).after abandonedWait).keypad.pending = some () ∧
      ((ofProgram [] defaultSpeed).after abandonedWait).state = (State.initial ⟨0, 0⟩).withFont ∧
      ((ofProgram [] defaultSpeed).after abandonedWait).state.memory.peek 1 = 0x90 ∧
      ((ofProgram [] defaultSpeed).after abandonedWait).state.memory.peek 79 = 0x80 ∧
      ((ofProgram [] defaultSpeed).after abandonedWait).state.memory.peek 80 = 0 ∧
      ((ofProgram [] defaultSpeed).after abandonedWait).Indistinguishable
        ((ofProgram [] defaultSpeed).after [.setSpeed (.int defaultSpeed), .loadFont]) := by
  have hmake : make {} (some packageLogger) (some ⟨0, 0⟩) .screen =
      .ok (ofProgram [] defaultSpeed) := rfl
  have hfont : [Command.loadFont, .execute (.ofInt 0xF30A)].any Command.installsFont = true := rfl
  obtain ⟨hstate, hbytes, -, htwin⟩ := reset_starts_over hmake {} {} hfont
    (rfl : (ofProgram [] defaultSpeed).after abandonedWait = _)
  exact ⟨hmake, hfont, rfl, hstate, hbytes 1, hbytes 79, hbytes 80,
    htwin (some packageLogger) .screen _ {} hmake rfl⟩

end Session

end Chip8
