import Chip8.Device.FrameBuffer
import Chip8.Device.Reaction
import Chip8.Device.Speaker

/-!
# Histories of the devices

All that a host can do to a keypad, to a screen and to a speaker, as data: the history of a device
is a list of calls, some of which may be refused.

A hook of the keypad is told of its key last, when the key is down and the hook is gone. So the
calls that a host makes in answer to its hook come behind the call that fired the hook, and stand in
the history like all others.

## Main definitions

* `Chip8.KeypadCall`, `Chip8.Keypad.perform`, `Chip8.Keypad.after`
* `Chip8.Keypad.afterMoves`, `Chip8.Keypad.withAnswers` : hosts that answer their hooks.
* `Chip8.ScreenCall`, `Chip8.FrameBuffer.perform`, `Chip8.FrameBuffer.after`
* `Chip8.SpeakerCall`, `Chip8.Speaker.perform`, `Chip8.Speaker.after`
-/

namespace Chip8

/-! ### Keypads -/

/-- The calls of a keypad with hooks that carry an `α`. -/
inductive KeypadCall (α : Type) where
  /-- Move a key down. -/
  | down (key : Int)
  /-- Move a key up. -/
  | up (key : Int)
  /-- Press a host key. -/
  | press (hostKey : String)
  /-- Release a host key. -/
  | release (hostKey : String)
  /-- Move all keys up. -/
  | releaseAll
  /-- Install a hook. -/
  | hook (a : α)

/-- What a call of a keypad leaves behind. -/
structure KeypadReply (α : Type) where
  /-- Whether there was a key to move, or why the call was refused. -/
  result : Except Error Bool
  /-- The keypad afterwards. -/
  keypad : Keypad α
  /-- The hook that fires, with the key that fires it. -/
  fired : Option (α × Int) := none

namespace Keypad

variable {α : Type}

/-- Moves a key down. -/
def performDown (k : Keypad α) (key : Int) : KeypadReply α :=
  match k.keyDown key with
  | .error e => { result := .error e, keypad := k }
  | .ok (hook, pressed) =>
    { result := .ok true, keypad := pressed, fired := hook.map fun a => (a, key) }

/-- Moves a key up. -/
def performUp (k : Keypad α) (key : Int) : KeypadReply α :=
  match k.keyUp key with
  | .error e => { result := .error e, keypad := k }
  | .ok released => { result := .ok true, keypad := released }

/-- Carries out a call. A refused call leaves the keypad as it is. -/
def perform (k : Keypad α) : KeypadCall α → KeypadReply α
  | .down key => k.performDown key
  | .up key => k.performUp key
  | .press hostKey =>
    match k.keyOf? hostKey with
    | none => { result := .ok false, keypad := k }
    | some key => k.performDown key
  | .release hostKey =>
    match k.keyOf? hostKey with
    | none => { result := .ok false, keypad := k }
    | some key => k.performUp key
  | .releaseAll => { result := .ok true, keypad := k.releaseAll }
  | .hook a => { result := .ok true, keypad := k.hook a }

/-- The keypad after a history of calls. -/
def after (k : Keypad α) (history : List (KeypadCall α)) : Keypad α :=
  history.foldl (fun k c => (k.perform c).keypad) k

@[simp] theorem after_nil (k : Keypad α) : k.after [] = k := rfl

@[simp] theorem after_cons (k : Keypad α) (c : KeypadCall α) (history : List (KeypadCall α)) :
    k.after (c :: history) = (k.perform c).keypad.after history := rfl

theorem after_append (k : Keypad α) (history further : List (KeypadCall α)) :
    k.after (history ++ further) = (k.after history).after further :=
  List.foldl_append

end Keypad

/-- The calls that a host makes in answer to its hook. -/
def Reaction.calls : Reaction → List (KeypadCall Reaction)
  | .ignore => []
  | .down key => [.down key]
  | .up key => [.up key]
  | .hookAgain => [.hook .hookAgain]

/-- The calls that a host makes in answer to the hook that was fired. -/
def KeypadReply.answer (reply : KeypadReply Reaction) : List (KeypadCall Reaction) :=
  (reply.fired.map fun f => f.1.calls).getD []

namespace Keypad

/-- Carries out a call and lets the host answer a fired hook. -/
def move (k : Keypad Reaction) : KeypadCall Reaction → Move
  | .down key => k.down key
  | .up key => k.up key
  | .press hostKey => k.press hostKey
  | .release hostKey => k.release hostKey
  | .releaseAll => ⟨.ok true, k.releaseAll, []⟩
  | .hook reaction => ⟨.ok true, k.hook reaction, []⟩

/-- The keypad after a history of calls, with the answers of the host. -/
def afterMoves (k : Keypad Reaction) (history : List (KeypadCall Reaction)) : Keypad Reaction :=
  history.foldl (fun k c => (k.move c).keypad) k

/-- The calls of a host, each with those that the host makes in answer to the hook that it fires. -/
def withAnswers (k : Keypad Reaction) : List (KeypadCall Reaction) → List (KeypadCall Reaction)
  | [] => []
  | c :: l => c :: (k.perform c).answer ++ (k.move c).keypad.withAnswers l

end Keypad

/-! ### Screens -/

/-- The calls of a screen. -/
inductive ScreenCall where
  /-- Invert a pixel. -/
  | toggle (x y : Int)
  /-- Turn every pixel off. -/
  | clear
  /-- Render a frame. -/
  | render
  /-- Attach a listener. -/
  | attach (listener : String)
  /-- Detach a listener. -/
  | detach (listener : String)
  deriving DecidableEq

/-- What a call of a screen leaves behind. -/
structure ScreenReply where
  /-- Whether an inverted pixel was lit, or why the call was refused. -/
  result : Except Error (Option Bool)
  /-- The screen afterwards. -/
  screen : FrameBuffer
  /-- The pictures handed to listeners. -/
  deliveries : List Delivery := []

namespace FrameBuffer

/-- Carries out a call. A refused call leaves the screen as it is. -/
def perform (f : FrameBuffer) : ScreenCall → ScreenReply
  | .toggle x y =>
    match f.toggle x y with
    | .error e => { result := .error e, screen := f }
    | .ok (erased, inverted) => { result := .ok (some erased), screen := inverted }
  | .clear => { result := .ok none, screen := f.clear }
  | .render =>
    let (deliveries, rendered) := f.render
    { result := .ok none, screen := rendered, deliveries }
  | .attach listener => { result := .ok none, screen := f.attach listener }
  | .detach listener =>
    match f.detach listener with
    | .error e => { result := .error e, screen := f }
    | .ok detached => { result := .ok none, screen := detached }

/-- The screen after a history of calls. -/
def after (f : FrameBuffer) (history : List ScreenCall) : FrameBuffer :=
  history.foldl (fun f c => (f.perform c).screen) f

@[simp] theorem after_nil (f : FrameBuffer) : f.after [] = f := rfl

theorem after_concat (f : FrameBuffer) (history : List ScreenCall) (c : ScreenCall) :
    f.after (history ++ [c]) = ((f.after history).perform c).screen :=
  List.foldl_append

end FrameBuffer

/-! ### Speakers -/

/-- The calls of a speaker. -/
inductive SpeakerCall where
  /-- Start the tone or change its frequency. -/
  | play (frequency : Number)
  /-- End the tone. -/
  | stop
  /-- Set the gain to zero. -/
  | mute
  /-- Set the gain to the volume. -/
  | unmute
  /-- Take samples of the tone. -/
  | samples (count : Int)

/-- What a call of a speaker leaves behind. -/
structure SpeakerReply where
  /-- The samples, or why the call was refused. -/
  result : Except Error (List Int)
  /-- The speaker afterwards. -/
  speaker : Speaker

namespace Speaker

/-- Carries out a call. -/
def perform (s : Speaker) : SpeakerCall → SpeakerReply
  | .play frequency =>
    let (result, played) := s.play frequency
    ⟨result.map fun _ => [], played⟩
  | .stop => ⟨.ok [], s.stop⟩
  | .mute => ⟨.ok [], s.mute⟩
  | .unmute => ⟨.ok [], s.unmute⟩
  | .samples count =>
    match s.samples count with
    | .error e => ⟨.error e, s⟩
    | .ok (samples, advanced) => ⟨.ok samples, advanced⟩

/-- The speaker after a history of calls. -/
def after (s : Speaker) (history : List SpeakerCall) : Speaker :=
  history.foldl (fun s c => (s.perform c).speaker) s

@[simp] theorem after_nil (s : Speaker) : s.after [] = s := rfl

@[simp] theorem after_cons (s : Speaker) (c : SpeakerCall) (history : List SpeakerCall) :
    s.after (c :: history) = (s.perform c).speaker.after history := rfl

end Speaker

end Chip8
