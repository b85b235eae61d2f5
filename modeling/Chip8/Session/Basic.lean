import Chip8.Device.Call
import Chip8.Device.FrameBuffer
import Chip8.Device.Keypad
import Chip8.Device.Speaker
import Chip8.Log.Logger
import Chip8.Machine.State
import Chip8.Session.Config

/-!
# Sessions

A session is a processor with its screen, keypad and speaker. An operation on a session gives a
result or an error. Either way it leaves a session behind, and a transcript of what it did to the
outside: calls of the devices, printed lines, and pictures handed to listeners.

## Main definitions

* `Chip8.Session`, `Chip8.Session.make`
* `Chip8.Transcript`, `Chip8.Outcome`
* `Chip8.Procedure` : the monad of operations on a session.
-/

namespace Chip8

/-- A processor with its devices. The only hook in its keypad is its own request for a key. -/
structure Session where
  /-- The settings. -/
  config : Config
  /-- The number of instructions of a frame. -/
  speed : Number
  /-- The logger of the processor. -/
  logger : Logger
  /-- The logger that reports instructions that mean nothing. -/
  reporter : Logger := packageLogger
  /-- The reading of the clock. -/
  now : Float := 0
  /-- The key of the random generator at the start. -/
  seedKey : Random.Key
  /-- The state of the processor. -/
  state : State
  /-- The font was installed. -/
  fontLoaded : Bool := false
  /-- An instruction failed, and the processor was not reset since. -/
  halted : Bool := false
  /-- The screen. -/
  screen : FrameBuffer := .screen
  /-- The keypad. -/
  keypad : Keypad Unit := {}
  /-- The speaker. -/
  speaker : Speaker := {}

namespace Session

/-- A session with a configuration. The logger and the random key are made from the configuration
unless they are given. -/
def make (config : Config) (logger : Option Logger) (key : Option Random.Key)
    (screen : FrameBuffer) : Except Error Session := do
  config.check
  let logger ← match logger with
    | some l => pure l
    | none => Logger.make "CPU" config.logLevel true true false 0
  let key ← match key with
    | some k => pure k
    | none => Random.Key.ofSeed config.seed
  return { config, speed := config.speed, logger, seedKey := key, state := .initial key, screen }

/-- A new session is at its start, with a logger and a random key, which is the given one if there
is one. -/
theorem exists_eq_of_make {config : Config} {logger : Option Logger} {key : Option Random.Key}
    {screen : FrameBuffer} {s : Session} (h : make config logger key screen = .ok s) :
    ∃ l k, key.getD k = k ∧ s =
      { config, speed := config.speed, logger := l, seedKey := k, state := .initial k,
        screen } := by
  unfold make at h
  simp only [Bind.bind, Except.bind, pure, Except.pure] at h
  repeat' split at h
  all_goals cases h
  all_goals exact ⟨_, _, rfl, rfl⟩

/-- The random key of a new session is the given one, or that of the seed. -/
theorem seedKey_of_make {config : Config} {logger : Option Logger} {key : Option Random.Key}
    {screen : FrameBuffer} {s : Session} (h : make config logger key screen = .ok s) :
    key.elim (Random.Key.ofSeed config.seed) .ok = .ok s.seedKey := by
  unfold make at h
  simp only [Bind.bind, Except.bind, pure, Except.pure] at h
  repeat' split at h
  all_goals cases h
  all_goals simp_all

/-- The processor waits for a key. -/
def paused (s : Session) : Bool :=
  s.state.paused

/-- A short description of the processor. -/
def describe (s : Session) : String :=
  let status := if s.halted then "halted" else if s.paused then "awaiting key" else "running"
  "CPU(pc=0x" ++ Text.hex 3 s.state.pc.toNat ++ ", I=0x" ++ Text.hex 3 s.state.index.toNat ++
    ", " ++ status ++ ")"

end Session

/-- What an operation did to the outside. -/
structure Transcript where
  /-- The calls of the devices. -/
  calls : List DeviceCall := []
  /-- The printed lines. -/
  lines : List String := []
  /-- The pictures handed to listeners. -/
  deliveries : List Delivery := []

instance : Append Transcript where
  append a b := ⟨a.calls ++ b.calls, a.lines ++ b.lines, a.deliveries ++ b.deliveries⟩

namespace Transcript

@[simp] theorem append_empty (a : Transcript) : a ++ ({} : Transcript) = a := by
  change Transcript.mk (a.calls ++ []) (a.lines ++ []) (a.deliveries ++ []) = a
  simp only [List.append_nil]

theorem append_assoc (a b c : Transcript) : a ++ b ++ c = a ++ (b ++ c) := by
  change Transcript.mk (a.calls ++ b.calls ++ c.calls) (a.lines ++ b.lines ++ c.lines)
    (a.deliveries ++ b.deliveries ++ c.deliveries) = _
  simp only [List.append_assoc]
  rfl

end Transcript

/-- What an operation leaves behind. -/
structure Outcome (α : Type) where
  /-- The result of the operation, or why it failed. -/
  result : Except Error α
  /-- The session afterwards. -/
  session : Session
  /-- What the operation did to the outside. -/
  transcript : Transcript := {}

/-- An operation on a session. -/
def Procedure (α : Type) : Type :=
  Session → Outcome α

namespace Procedure

variable {α β : Type}

/-- Performs an operation and then one that depends on its result. An error ends both, with the
session and the transcript of the first one. -/
def bind (a : Procedure α) (f : α → Procedure β) : Procedure β := fun s =>
  let first := a s
  match first.result with
  | .error e => ⟨.error e, first.session, first.transcript⟩
  | .ok x =>
    let second := f x first.session
    ⟨second.result, second.session, first.transcript ++ second.transcript⟩

instance : Monad Procedure where
  pure x := fun s => ⟨.ok x, s, {}⟩
  bind := bind

@[simp] theorem pure_apply (x : α) (s : Session) : (pure x : Procedure α) s = ⟨.ok x, s, {}⟩ :=
  rfl

theorem bind_of_error {a : Procedure α} {f : α → Procedure β} {s : Session} {e : Error}
    (h : (a s).result = .error e) : (a >>= f) s = ⟨.error e, (a s).session, (a s).transcript⟩ := by
  simp only [Bind.bind, bind, h]

theorem bind_of_ok {a : Procedure α} {f : α → Procedure β} {s : Session} {x : α}
    (h : (a s).result = .ok x) :
    (a >>= f) s = ⟨(f x (a s).session).result, (f x (a s).session).session,
      (a s).transcript ++ (f x (a s).session).transcript⟩ := by
  simp only [Bind.bind, bind, h]

/-- Procedures one after the other may be grouped in any way. -/
instance : LawfulMonad Procedure := by
  refine .mk' Procedure (fun a => ?_) (fun _ _ => rfl) fun a f g => ?_
  · funext s
    change (a >>= pure) s = a s
    cases h : a s with
    | mk result session transcript =>
      cases result with
      | error e => rw [bind_of_error (by rw [h]), h]
      | ok x =>
        rw [bind_of_ok (x := x) (by rw [h]), h]
        simp
  · funext s
    cases h : (a s).result with
    | error e =>
      have hf : ((a >>= f) s).result = .error e := by rw [bind_of_error h]
      rw [bind_of_error hf, bind_of_error h, bind_of_error h]
    | ok x =>
      cases h' : (f x (a s).session).result with
      | error e =>
        have hf : ((a >>= f) s).result = .error e := by rw [bind_of_ok h, h']
        rw [bind_of_error hf, bind_of_ok h, bind_of_ok h, bind_of_error h']
      | ok y =>
        have hf : ((a >>= f) s).result = .ok y := by rw [bind_of_ok h, h']
        rw [bind_of_ok hf, bind_of_ok h, bind_of_ok h, bind_of_ok h', Transcript.append_assoc]

/-- The session as it is. -/
def session : Procedure Session := fun s => ⟨.ok s, s, {}⟩

/-- Changes the session. -/
def update (f : Session → Session) : Procedure Unit := fun s => ⟨.ok (), f s, {}⟩

/-- Fails. -/
def fail (e : Error) : Procedure α := fun s => ⟨.error e, s, {}⟩

/-- Fails if a computation does, and has its result otherwise. -/
def ofExcept : Except Error α → Procedure α
  | .ok x => pure x
  | .error e => fail e

/-- Notes calls of the devices. -/
def note (calls : List DeviceCall) : Procedure Unit := fun s => ⟨.ok (), s, { calls }⟩

/-- Prints lines. -/
def print (lines : List String) : Procedure Unit := fun s => ⟨.ok (), s, { lines }⟩

/-- Hands out pictures. -/
def deliver (deliveries : List Delivery) : Procedure Unit := fun s => ⟨.ok (), s, { deliveries }⟩

/-- Prints a message of the processor. -/
def report (level : Level) (message : String) : Procedure Unit := do
  let s ← session
  print (s.logger.logAt s.now level message)

/-- Performs an operation in which a fault halts the processor and is logged. -/
def haltingOnFault (a : Procedure α) : Procedure α := fun s =>
  let first := a s
  match first.result with
  | .error (.fault f) =>
    let halted := { first.session with halted := true }
    let message := f.name ++ " at PC=0x" ++ Text.hex 3 halted.state.pc.toNat ++ ": " ++ f.message
    let second := report .error message halted
    ⟨first.result, second.session, first.transcript ++ second.transcript⟩
  | _ => first

end Procedure

end Chip8
