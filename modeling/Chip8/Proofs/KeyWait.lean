import Chip8.Proofs.Change

/-!
# Waiting for a key

The processor waits for a key in one of its registers, and the keypad has a hook. Each is changed
by operations that do not look at the other. Still, while the processor waits the hook is there:
where it is taken away, the key that took it ends the wait.

## Main definitions

* `Chip8.Session.Listens` : the processor waits for nothing, or with a hook.
* `Chip8.Command.PutsDown` : the command puts a key down that was up.
* `Chip8.Session.Quiet` : no key went down.

## Main results

* `Chip8.Session.Listens.change` : every step keeps the hook of a wait.
* `Chip8.Session.heard_after` : what the keys do after any history.
-/

namespace Chip8

namespace Session

open Procedure

variable {s t : Session} {i : Instruction}

/-- While the processor waits for a key, it does so in one of its registers, and its hook is in the
keypad. -/
structure Listens (s : Session) : Prop where
  /-- The hook is in the keypad. -/
  hooked : s.paused = true → s.keypad.pending = some ()
  /-- The register is one of the sixteen. -/
  named : ∀ r, s.state.waiting = some r → 0 ≤ r ∧ r < registerCount

theorem Listens.of_eq (hs : s.Listens) (hw : t.state.waiting = s.state.waiting)
    (hk : t.keypad = s.keypad) : t.Listens where
  hooked ht := hk ▸ hs.hooked (by rwa [paused, State.paused, ← hw])
  named r hr := hs.named r (hw ▸ hr)

theorem listens_of_waiting_eq_none (h : s.state.waiting = none) : s.Listens where
  hooked hp := by simp [paused, State.paused, h] at hp
  named r hr := by simp [h] at hr

/-! ### Instructions -/

/-- An instruction that begins a wait installs the hook. -/
theorem Listens.reach [Random.Generator] {opcode : Nat} {u : State} {g : PixelGrid} (hs : s.Listens)
    (h : (s.effectOf (.ofOpcode opcode)).result = .ok u) : (s.reach u g).Listens := by
  refine ⟨fun hu => ?_, fun r hr => waiting_execute_mem hs.named h hr⟩
  cases hp : s.paused with
  | true =>
    simp only [Session.reach, hp, Bool.not_true, Bool.and_false, Bool.false_eq_true, if_false]
    exact hs.hooked hp
  | false =>
    have hu : u.paused = true := hu
    simp only [Session.reach, hp, hu, Bool.not_false, Bool.and_true, if_true]
    rfl

/-! ### Keys -/

/-- While the processor runs, a key that goes down takes the hook away and is not heard. -/
theorem pressed_of_running (hw : s.state.waiting = none) (key : Int) :
    s.pressed key =
      { s with
        keypad := { s.keypad with keys := s.keypad.keys.move key true, pending := none } } := by
  rw [pressed, State.receive_of_waiting_eq_none hw, ite_self]

/-- While it waits, the register receives the key, and the wait ends. -/
theorem Listens.pressed_of_waiting (hs : s.Listens) {key r : Int} (hk : 0 ≤ key ∧ key < keyCount)
    (hw : s.state.waiting = some r) :
    s.pressed key =
      { s with
        state := { s.state with
          registers := s.state.registers.set r (UInt8.ofInt key)
          waiting := none }
        keypad := { s.keypad with keys := s.keypad.keys.move key true, pending := none } } := by
  have hp : s.keypad.pending = some () := hs.hooked (by simp [paused, State.paused, hw])
  have hkey : key % 16 = key := Int.emod_eq_of_lt hk.1 hk.2
  unfold pressed State.receive State.deliver State.setRegister
  rw [hp, hw, Option.isSome_some, if_pos rfl, hkey]

/-- **The key that takes the hook away ends the wait.** -/
theorem Listens.pressed (hs : s.Listens) {key : Int} (hk : 0 ≤ key ∧ key < keyCount) :
    (s.pressed key).Listens := by
  cases hw : s.state.waiting with
  | none =>
    rw [pressed_of_running hw]
    exact listens_of_waiting_eq_none hw
  | some r =>
    rw [hs.pressed_of_waiting hk hw]
    exact listens_of_waiting_eq_none rfl

end Session

/-- The key that a command asks to go down. -/
def Command.key? (keypad : Keypad Unit) : Command → Option Int
  | .keyDown key => some key
  | .press hostKey => keypad.keyOf? hostKey
  | _ => none

/-- The command puts a key down. -/
structure Command.PutsDown (c : Command) (s : Session) (key : Int) : Prop where
  /-- The command asks for it. -/
  asked : c.key? s.keypad = some key
  /-- It is one of the sixteen keys. -/
  isKey : 0 ≤ key ∧ key < keyCount
  /-- It was up. -/
  up : s.keypad.keys.isDown key = false

namespace Session

open Procedure

variable {s t : Session} {c : Command}

theorem session_of_putsDown [Random.Generator] {key : Int} (h : c.PutsDown s key) :
    (c.perform s).session = s.pressed key := by
  obtain ⟨hasked, hk, hup⟩ := h
  cases c with
  | keyDown k =>
    obtain rfl := Option.some.inj hasked
    rw [Command.perform, session_answer]
    exact keyDown_session hk hup
  | press hostKey =>
    have hmapped : s.keypad.keyOf? hostKey = some key := hasked
    rw [Command.perform, session_answer, press, session_bind_apply, hmapped]
    exact (session_answer ..).trans (keyDown_session hk hup)
  | _ => cases hasked

/-- The session `t` is `s` with no key down that was up. -/
def Quiet (s t : Session) : Prop :=
  ∃ keys : Keys, (∀ k, keys.isDown k = true → s.keypad.keys.isDown k = true) ∧
    t = { s with keypad := { s.keypad with keys := keys } }

theorem quiet_refl (s : Session) : s.Quiet s :=
  ⟨s.keypad.keys, fun _ h => h, rfl⟩

theorem quiet_keyDown {key : Int}
    (h : ¬((0 ≤ key ∧ key < keyCount) ∧ s.keypad.keys.isDown key = false)) :
    s.Quiet (keyDown key s).session := by
  rw [keyDown_session_of_not h]
  exact s.quiet_refl

theorem quiet_keyUp (key : Int) (s : Session) : s.Quiet (keyUp key s).session := by
  rw [keyUp, session_bind_apply, Keypad.keyUp_eq]
  by_cases hk : 0 ≤ key ∧ key < keyCount
  · rw [if_pos hk]
    refine ⟨s.keypad.keys.move key false, fun k hd => ?_, rfl⟩
    rw [Keys.isDown_move _ hk] at hd
    split at hd
    · cases hd
    · exact hd
  · rw [if_neg hk]
    exact s.quiet_refl

theorem quiet_of_not_putsDown [Random.Generator] (hc : c.movesKeys = true)
    (h : ∀ key, ¬c.PutsDown s key) :
    s.Quiet (c.perform s).session := by
  cases c with
  | keyDown key =>
    rw [Command.perform, session_answer]
    exact quiet_keyDown fun hdown => h key ⟨rfl, hdown.1, hdown.2⟩
  | press hostKey =>
    rw [Command.perform, session_answer, press, session_bind_apply]
    cases hkey : s.keypad.keyOf? hostKey with
    | none => exact s.quiet_refl
    | some key =>
      rw [session_answer]
      exact quiet_keyDown fun hdown => h key ⟨hkey, hdown.1, hdown.2⟩
  | keyUp key =>
    rw [Command.perform, session_answer]
    exact quiet_keyUp key s
  | release hostKey =>
    rw [Command.perform, session_answer, release, session_bind_apply]
    cases s.keypad.keyOf? hostKey with
    | none => exact s.quiet_refl
    | some key =>
      rw [session_answer]
      exact quiet_keyUp key s
  | releaseAll => exact ⟨.allUp, fun k hd => absurd hd (by simp [Keys.isDown_allUp]), rfl⟩
  | _ => cases hc

/-! ### Histories -/

/-- **Every step keeps the hook of a wait.** -/
theorem Listens.change [Random.Generator] (hs : s.Listens) (h : s.Change t) : t.Listens := by
  cases h with
  | executed succeeded => exact hs.reach succeeded
  | installedFont => exact hs.of_eq (State.waiting_withFont s.state) rfl
  | delivered => exact listens_of_waiting_eq_none rfl
  | reset =>
    refine listens_of_waiting_eq_none ?_
    rw [restarted]
    split
    · exact State.waiting_withFont _
    · rfl
  | keyDown isKey up => exact hs.pressed isKey
  | keyUp | allUp => exact ⟨hs.hooked, hs.named⟩
  | _ => exact hs.of_eq rfl rfl

theorem waiting_make {config : Config} {logger : Option Logger} {key : Option Random.Key}
    {screen : FrameBuffer} (h : make config logger key screen = .ok s) :
    s.state.waiting = none := by
  obtain ⟨l, k, -, rfl⟩ := exists_eq_of_make h
  rfl

/-- **What the keys do after any history** of a new session with its own keypad. The hook of a wait
is in the keypad. A key that goes down takes it away. If the processor waits, its register receives
the key and the wait ends, and nothing else of the state changes; if it does not wait, the state
stays, also where the hook outlived its wait. A command that puts no key down changes the keys
only. -/
theorem heard_after [Random.Generator] {config : Config} {logger : Option Logger}
    {key : Option Random.Key} {screen : FrameBuffer} {s₀ s : Session} {history : List Command}
    (hmake : make config logger key screen = .ok s₀) (keypad : Keypad Unit) (speaker : Speaker)
    (hpreset : ∀ parts, Command.preset parts ∉ history)
    (hs : { s₀ with keypad := keypad, speaker := speaker }.after history = s) :
    (s.paused = true → s.keypad.pending = some ()) ∧
    (∀ (c : Command) (k r : Int), c.PutsDown s k → s.state.waiting = some r →
      (0 ≤ r ∧ r < registerCount) ∧
      (c.perform s).session =
        { s with
          state := { s.state with
            registers := s.state.registers.set r (UInt8.ofInt k)
            waiting := none }
          keypad := { s.keypad with keys := s.keypad.keys.move k true, pending := none } }) ∧
    (∀ (c : Command) (k : Int), c.PutsDown s k → s.state.waiting = none →
      (c.perform s).session =
        { s with keypad := { s.keypad with keys := s.keypad.keys.move k true, pending := none } }) ∧
    ∀ c : Command, c.movesKeys = true → (∀ k, ¬c.PutsDown s k) →
      ∃ keys : Keys, (∀ k, keys.isDown k = true → s.keypad.keys.isDown k = true) ∧
        (c.perform s).session = { s with keypad := { s.keypad with keys := keys } } := by
  have hlistens : s.Listens := by
    subst hs
    have hwaiting := waiting_make hmake
    refine (changes_after hpreset).keeps (fun s t h hs => hs.change h) ?_
    exact listens_of_waiting_eq_none hwaiting
  refine ⟨hlistens.hooked, fun c k r hdown hwaiting => ⟨hlistens.named r hwaiting, ?_⟩,
    fun c k hdown hwaiting => ?_, fun c hc hnone => quiet_of_not_putsDown hc hnone⟩
  · rw [session_of_putsDown hdown, hlistens.pressed_of_waiting hdown.isKey hwaiting]
  · rw [session_of_putsDown hdown, pressed_of_running hwaiting]

/-- A wait that is given up by a reset, which leaves its hook. -/
def givenUp : List Command :=
  [.execute (.ofInt 0xF30A), .reset]

set_option maxRecDepth 40000 in
/-- The next key that goes down takes the hook away and changes nothing else. After a second wait
began, it ends the wait, and the register of this wait receives it. -/
theorem heard_after_givenUp :
    let s := (ofProgram [] defaultSpeed).after givenUp
    let t := (ofProgram [] defaultSpeed).after (givenUp ++ [.execute (.ofInt 0xF10A)])
    make {} (some packageLogger) (some ⟨0, 0⟩) .screen = .ok (ofProgram [] defaultSpeed) ∧
      (∀ parts, Command.preset parts ∉ givenUp ++ [.execute (.ofInt 0xF10A)]) ∧
      (Command.keyDown 5).PutsDown s 5 ∧ s.paused = false ∧ s.keypad.pending = some () ∧
      ((Command.keyDown 5).perform s).session.state = s.state ∧
      ((Command.keyDown 5).perform s).session.keypad.pending = none ∧
      (Command.press "W").PutsDown t 5 ∧ t.paused = true ∧ t.keypad.pending = some () ∧
      ((Command.press "W").perform t).session.state.waiting = none ∧
      ((Command.press "W").perform t).session.state.registers.get 1 = 5 ∧
      ((Command.press "W").perform t).session.keypad.pending = none := by
  intro s t
  have hmake : make {} (some packageLogger) (some ⟨0, 0⟩) .screen =
      .ok (ofProgram [] defaultSpeed) := rfl
  have hpreset (parts : Preset) : Command.preset parts ∉ givenUp ++ [.execute (.ofInt 0xF10A)] := by
    simp [givenUp]
  have hpreset' (parts : Preset) : Command.preset parts ∉ givenUp := by simp [givenUp]
  have hdown : (Command.keyDown 5).PutsDown s 5 := ⟨rfl, by decide, rfl⟩
  have hdown' : (Command.press "W").PutsDown t 5 := ⟨by decide +kernel, by decide, rfl⟩
  have hpaused : t.paused = true := rfl
  obtain ⟨-, -, hunheard, -⟩ := heard_after hmake {} {} hpreset' (rfl : _ = s)
  obtain ⟨hhook, hheard, -, -⟩ := heard_after hmake {} {} hpreset (rfl : _ = t)
  have hs := hunheard _ 5 hdown rfl
  obtain ⟨-, ht⟩ := hheard _ 5 1 hdown' rfl
  refine ⟨hmake, hpreset, hdown, rfl, rfl, by rw [hs], by rw [hs], hdown', hpaused, hhook hpaused,
    by rw [ht], ?_, by rw [ht]⟩
  rw [ht]
  rfl

end Session

end Chip8
