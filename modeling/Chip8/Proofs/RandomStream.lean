import Mathlib.Logic.Function.Iterate
import Chip8.Proofs.Footprint
import Chip8.Proofs.Halting
import Chip8.Proofs.Reset
import Chip8.Proofs.Trace

/-!
# The stream of random bytes

The random bytes that a session draws depend on its first key and on how many it drew before, and on
nothing else. A draw takes the byte of the key in the state and puts the next key in its place. No
other instruction touches the key, nor does one that fails, nor the host, except by a reset, which
goes back to the first key. All this holds for every generator: which byte a key has, and which key
comes behind it, is left open.

## Main definitions

* `Chip8.Passage` : an instruction with the states before and behind it.
* `Chip8.Session.passages` : the instructions that a session executes in a history.
* `Chip8.Draws` : how draws lead from a key to a key.
* `Chip8.Session.StartsFrom` : a session that is new or was just reset.

## Main results

* `Chip8.keeps_execute` : what one instruction does to the key.
* `Chip8.Session.draws_after` : what a history does to the key.
* `Chip8.Session.random_stream` : the bytes drawn are those of the stream.
-/

open Chip8.Random (Key)

namespace Chip8

/-! ### What leaves the key -/

namespace Session

open Procedure

theorem Spares.key_eq {s t : Session} (h : s.Spares t) : t.state.key = s.state.key := by
  rw [h.state]

theorem key_loadFont (s : Session) : (loadFont s).session.state.key = s.state.key := by
  change s.state.withFont.key = s.state.key
  simp only [State.withFont]

theorem key_applyPreset (parts : Preset) (s : Session) :
    (applyPreset parts s).session.state.key = s.state.key := by
  rw [applyPreset, session_bind_apply]
  cases hp : parts.apply s.state with
  | error e => rfl
  | ok t =>
    change t.key = s.state.key
    simp only [Preset.apply, Bind.bind, Except.bind, pure, Except.pure] at hp
    repeat' split at hp
    all_goals cases hp
    rfl

end Session

/-! ### Passages -/

/-- An instruction that was executed, with the state before it and the state that it left. -/
structure Passage where
  /-- The state before the instruction. -/
  before : State
  /-- The instruction. -/
  instruction : Instruction
  /-- The state behind the instruction. -/
  after : State

section Stream

variable [Random.Generator]

namespace Passage

/-- The instruction draws a random byte. -/
def isDraw (p : Passage) : Bool :=
  p.instruction.family == 0xC

/-- The byte that a draw takes from the generator. -/
def drawn (p : Passage) : UInt8 :=
  p.before.key.byte

/-- What the register of a draw receives. -/
def received (p : Passage) : UInt8 :=
  p.after.registers.get p.instruction.x

end Passage

/-- The passage of an instruction, if it succeeds. -/
def passage? (i : Instruction) (s : State) (grid : PixelGrid) (keys : Keys) : Option Passage :=
  (execute i s grid keys).result.toOption.map (⟨s, i, ·⟩)

/-- The passages of instructions, each executed in what the one before left. -/
def passagesOf (keys : Keys) : State → PixelGrid → List Executed → List Passage
  | _, _, [] => []
  | s, grid, x :: l =>
    (passage? (.ofOpcode x.opcode) s grid keys).elim [] fun p =>
      p :: passagesOf keys p.after (execute (.ofOpcode x.opcode) s grid keys).grid l

variable {s t : State} {g h : PixelGrid} {keys : Keys}

theorem passage?_of_ok {i : Instruction} (ht : (execute i s g keys).result = .ok t) :
    passage? i s g keys = some ⟨s, i, t⟩ := by
  rw [passage?, ht]
  rfl

theorem passage?_of_error {i : Instruction} {e : Error}
    (he : (execute i s g keys).result = .error e) : passage? i s g keys = none := by
  rw [passage?, he]
  rfl

theorem passagesOf_cons {x : Executed} (l : List Executed)
    (ht : (execute (.ofOpcode x.opcode) s g keys).result = .ok t) :
    passagesOf keys s g (x :: l) = ⟨s, .ofOpcode x.opcode, t⟩ ::
      passagesOf keys t (execute (.ofOpcode x.opcode) s g keys).grid l := by
  rw [passagesOf, passage?_of_ok ht]
  rfl

/-! ### Draws -/

/-- The instruction takes the byte of the key and replaces the key by the next one, if it is a draw,
and leaves the key alone otherwise. -/
structure Passage.Keeps (p : Passage) : Prop where
  /-- A draw puts the masked byte into its register. -/
  received_eq : p.isDraw = true → p.received = p.drawn &&& UInt8.ofInt p.instruction.nn
  /-- A draw goes on to the next key. -/
  key_eq : p.after.key = if p.isDraw then p.before.key.next else p.before.key

/-- **One instruction and the key.** -/
theorem keeps_execute {opcode : Nat} (ho : opcode < 65536)
    (ht : (execute (.ofOpcode opcode) s g keys).result = .ok t) :
    Passage.Keeps ⟨s, .ofOpcode opcode, t⟩ := by
  by_cases hf : (Instruction.ofOpcode opcode).family = 0xC
  · have hop : (Operation.random (Instruction.ofOpcode opcode).x
        (Instruction.ofOpcode opcode).nn).IsMeantBy (.ofOpcode opcode) := ⟨hf, rfl, rfl⟩
    rw [execute_ofOpcode hop] at ht
    cases ht
    refine ⟨fun _ => ?_, by simp [Passage.isDraw, hf]; rfl⟩
    rw [Passage.received, Instruction.ofOpcode_eq ho]
    exact (Registers.get_set_natCast _ (by simp only [registerCount]; omega)
      (by simp only [registerCount]; omega) _).trans (if_pos rfl)
  · refine ⟨fun hd => absurd (by simpa [Passage.isDraw] using hd) hf, ?_⟩
    have hkey : Part.key.Same s t g (execute (.ofOpcode opcode) s g keys).grid := by
      refine same_execute ho ht ?_
      rintro ⟨⟩
      rename_i hfamily
      exact hf (by rw [Instruction.family_ofOpcode ho, hfamily]; rfl)
    simpa [Passage.isDraw, hf] using (show t.key = s.key from hkey)

/-- The passages lead from one key to another, the key standing still in between. -/
inductive Draws : Key → List Passage → Key → Prop
  /-- No instruction. -/
  | nil (k : Key) : Draws k [] k
  /-- An instruction, and others from the key that it leaves. -/
  | cons {p : Passage} {l : List Passage} {k : Key} (keeps : p.Keeps)
      (rest : Draws p.after.key l k) : Draws p.before.key (p :: l) k

namespace Draws

variable {k k' k'' : Key} {l l' : List Passage}

theorem append (d : Draws k l k') (d' : Draws k' l' k'') : Draws k (l ++ l') k'' := by
  induction d with
  | nil => exact d'
  | cons keeps rest ih => exact .cons keeps (ih d')

/-- The key counts the draws. -/
theorem key_eq (d : Draws k l k') : k' = Key.next^[(l.filter Passage.isDraw).length] k := by
  induction d with
  | nil => rfl
  | @cons p l k keeps rest ih =>
    rw [ih, keeps.key_eq]
    cases hp : p.isDraw with
    | true =>
      rw [List.filter_cons_of_pos hp, List.length_cons, Function.iterate_succ_apply]
      rfl
    | false =>
      rw [List.filter_cons_of_neg (by simp [hp])]
      rfl

/-- Each draw finds the key that the draws before it left, and masks its byte. -/
theorem getElem (d : Draws k l k') {j : Nat} (hj : j < (l.filter Passage.isDraw).length) :
    (l.filter Passage.isDraw)[j].before.key = Key.next^[j] k ∧
      (l.filter Passage.isDraw)[j].received =
        (Key.next^[j] k).byte &&& UInt8.ofInt (l.filter Passage.isDraw)[j].instruction.nn := by
  induction d generalizing j with
  | nil => exact absurd hj (Nat.not_lt_zero j)
  | @cons p l k keeps rest ih =>
    have hkey := keeps.key_eq
    cases hp : p.isDraw with
    | true =>
      simp only [List.filter_cons_of_pos hp] at hj ⊢
      cases j with
      | zero => exact ⟨rfl, keeps.received_eq hp⟩
      | succ j =>
        rw [if_pos hp] at hkey
        rw [Function.iterate_succ_apply, ← hkey]
        exact ih (Nat.lt_of_succ_lt_succ hj)
    | false =>
      have hneg : ¬p.isDraw = true := by simp [hp]
      rw [if_neg hneg] at hkey
      simp only [List.filter_cons_of_neg hneg] at hj ⊢
      rw [← hkey]
      exact ih hj

end Draws

theorem Path.draws {l : List Executed} (path : Path keys s g l t h) :
    Draws s.key (passagesOf keys s g l) t.key := by
  induction path with
  | nil => exact .nil _
  | cons fetched succeeded rest ih =>
    rw [passagesOf_cons _ succeeded]
    exact .cons (keeps_execute (State.fetch_lt fetched) succeeded) ih

namespace Session

open Procedure

/-! ### Frames and commands -/

/-- The passages of a frame. -/
def framePassages (s : Session) : List Passage :=
  passagesOf s.keypad.keys s.state s.screen.grid s.frameTrace

/-- The passages of several frames, one after the other, up to the first that fails. -/
def framesPassages : Nat → Session → List Passage
  | 0, _ => []
  | n + 1, s =>
    s.framePassages ++
      match (cycle s).result with
      | .error _ => []
      | .ok _ => framesPassages n (cycle s).session

/-- The passages of an opcode that the host gives. -/
def opcodePassages (s : Session) (opcode : HostValue) : List Passage :=
  match decode opcode with
  | .error _ => []
  | .ok i => (passage? i s.state s.screen.grid s.keypad.keys).toList

end Session

/-- The passages of a command. -/
def Command.passages : Command → Session → List Passage
  | .cycle, s => s.framePassages
  | .runFrames count, s => s.framesPassages count.toNat
  | .execute opcode, s => s.opcodePassages opcode
  | _, _ => []

namespace Session

open Procedure

/-- The passages of a history: the instructions that are executed, in their order, each with the
states before and behind it. -/
def passages (s : Session) : List Command → List Passage
  | [] => []
  | c :: l => c.passages s ++ (c.perform s).session.passages l

/-- The draws of a history. -/
def draws (s : Session) (history : List Command) : List Passage :=
  (s.passages history).filter Passage.isDraw

variable {s : Session}

theorem draws_cycle (s : Session) :
    Draws s.state.key s.framePassages (cycle s).session.state.key := by
  unfold framePassages
  cases hh : s.halted with
  | true =>
    rw [frameTrace, if_pos hh, cycle_of_halted hh]
    exact .nil _
  | false =>
    cases hn : s.speed with
    | real x =>
      rw [frameTrace, hh, hn, cycle_of_real hh hn]
      exact .nil _
    | int n =>
      have hpath := (path_batchTrace s n.toNat).draws
      have hcycle := ((cycle_yields_iff hh hn).1 (yields_self cycle s)).session_eq
      rw [frameTrace_of_running hh hn, ← hcycle]
      cases hb : (batch n.toNat s).result with
      | error e => rwa [bind_of_error hb]
      | ok u =>
        -- The end of a frame draws nothing.
        rw [bind_of_ok hb]
        have hend := within_endFrame (batch n.toNat s).session
        rwa [← hend.spares.key_eq] at hpath

theorem draws_cycles (n : Nat) (s : Session) :
    Draws s.state.key (s.framesPassages n) (cycles n s).session.state.key := by
  induction n generalizing s with
  | zero => exact .nil _
  | succ n ih =>
    have hfirst := s.draws_cycle
    rw [framesPassages, cycles]
    cases hr : (cycle s).result with
    | error e =>
      rw [bind_of_error hr, List.append_nil]
      exact hfirst
    | ok u =>
      rw [bind_of_ok hr]
      exact hfirst.append (ih _)

/-- An opcode draws at most one byte. -/
theorem draws_executeOpcode (opcode : HostValue) (s : Session) :
    Draws s.state.key (s.opcodePassages opcode) (executeOpcode opcode s).session.state.key := by
  unfold opcodePassages
  cases hd : decode opcode with
  | error e =>
    have ha : s.attempt opcode = .error e := by
      rw [attempt, hd]
      rfl
    rw [(executeOpcode_yields_error ha).session_eq]
    exact .nil _
  | ok i =>
    cases hr : (s.effectOf i).result with
    | error e =>
      have ha : s.attempt opcode = .error e := by
        rw [attempt, hd]
        exact hr
      rw [(executeOpcode_yields_error ha).session_eq]
      dsimp only
      rw [passage?_of_error hr]
      exact .nil _
    | ok t =>
      obtain ⟨opcode, ho, rfl⟩ := exists_ofOpcode_of_decode hd
      rw [(executeOpcode_yields hd hr).session_eq]
      dsimp only
      rw [passage?_of_ok hr]
      exact .cons (keeps_execute ho hr) (.nil _)

/-- **A command other than a reset draws what its instructions draw.** -/
theorem draws_perform {c : Command} (hc : c ≠ .reset) (s : Session) :
    Draws s.state.key (c.passages s) (c.perform s).session.state.key := by
  cases c with
  | reset => exact absurd rfl hc
  | cycle =>
    rw [Command.perform, session_answer]
    exact s.draws_cycle
  | runFrames count =>
    rw [Command.perform, session_answer, Command.passages, runFrames]
    split
    · rename_i hneg
      rw [Int.toNat_of_nonpos (Int.le_of_lt hneg)]
      exact .nil _
    · exact draws_cycles _ s
  | execute opcode =>
    rw [Command.perform, session_answer]
    exact draws_executeOpcode opcode s
  | loadFont =>
    rw [Command.perform, session_answer, key_loadFont]
    exact .nil _
  | preset parts =>
    rw [Command.perform, session_answer, key_applyPreset]
    exact .nil _
  | _ =>
    rw [((Command.within_adjusts rfl) s).spares.key_eq]
    exact .nil _

/-- **A history without a reset draws what its instructions draw.** -/
theorem draws_after (s : Session) {history : List Command} (h : Command.reset ∉ history) :
    Draws s.state.key (s.passages history) (s.after history).state.key := by
  induction history generalizing s with
  | nil => exact .nil _
  | cons c history ih =>
    obtain ⟨hc, hrest⟩ := List.ne_and_not_mem_of_not_mem_cons h
    exact (draws_perform hc.symm s).append (ih _ hrest)

/-! ### Sessions at their start -/

/-- The session is new, with any keypad and any speaker, or it was just reset, after any history.
Its first key is `k`. -/
inductive StartsFrom (k : Key) : Session → Prop
  /-- A new session. -/
  | new {config : Config} {logger : Option Logger} {key : Option Key} {screen : FrameBuffer}
      {s : Session} (made : make config logger key screen = .ok s) (isKey : s.seedKey = k)
      (keypad : Keypad Unit) (speaker : Speaker) :
      StartsFrom k { s with keypad := keypad, speaker := speaker }
  /-- A session that was reset. -/
  | reset {s : Session} (start : StartsFrom k s) (history : List Command) :
      StartsFrom k (s.after (history ++ [.reset]))

namespace StartsFrom

variable {k : Key}

theorem seedKey_eq (h : s.StartsFrom k) : s.seedKey = k := by
  induction h with
  | new made isKey keypad speaker => exact isKey
  | reset start history ih => exact (remembers_after _ _).seedKey.trans ih

theorem key_eq (h : s.StartsFrom k) : s.state.key = k := by
  cases h with
  | new made isKey keypad speaker =>
    obtain ⟨l, k', -, rfl⟩ := exists_eq_of_make made
    exact isKey
  | @reset s start history =>
    rw [after_append]
    change (Command.reset.perform (s.after history)).session.state.key = k
    rw [reset_session, restarted, (remembers_after s history).seedKey, start.seedKey_eq]
    split <;> rfl

end StartsFrom

/-- **The random stream**, of any generator. A session that starts from the key `k` has the key that
comes `j` keys behind it once it has drawn `j` bytes, whatever else happened and failed meanwhile.
Draw number `i` finds the key number `i` and puts its byte, masked, into its register. So sessions
that start from one key draw the same bytes in the same order, whatever they run, and so does a
session again after a reset. -/
theorem random_stream {k : Key} {s : Session} (hs : s.StartsFrom k) {history : List Command}
    (hreset : Command.reset ∉ history) :
    (s.after history).state.key = Key.next^[(s.draws history).length] k ∧
      (∀ (i : Nat) (hi : i < (s.draws history).length),
        (s.draws history)[i].drawn = (Key.next^[i] k).byte ∧
        (s.draws history)[i].received =
          (Key.next^[i] k).byte &&& UInt8.ofInt (s.draws history)[i].instruction.nn) ∧
      ∀ (s' : Session) (history' : List Command), s'.StartsFrom k → Command.reset ∉ history' →
        ∀ (i : Nat) (hi : i < (s.draws history).length) (hi' : i < (s'.draws history').length),
          (s.draws history)[i].drawn = (s'.draws history')[i].drawn := by
  have hdraws {u : Session} {commands : List Command} (hu : u.StartsFrom k)
      (hc : Command.reset ∉ commands) :
      Draws k (u.passages commands) (u.after commands).state.key :=
    hu.key_eq ▸ u.draws_after hc
  have hdrawn {u : Session} {commands : List Command} (hu : u.StartsFrom k)
      (hc : Command.reset ∉ commands) (i : Nat) (hi : i < (u.draws commands).length) :
      (u.draws commands)[i].drawn = (Key.next^[i] k).byte :=
    congrArg Key.byte ((hdraws hu hc).getElem hi).1
  refine ⟨(hdraws hs hreset).key_eq, fun i hi => ⟨hdrawn hs hreset i hi, ?_⟩, ?_⟩
  · exact ((hdraws hs hreset).getElem hi).2
  · intro s' history' hs' hreset' i hi hi'
    rw [hdrawn hs hreset, hdrawn hs' hreset']

end Session

end Stream

namespace Session

/-- Two draws by opcodes of the host, with a return in between that fails. -/
def drawnByHost : List Command :=
  [.execute (.ofInt 0xC10F), .execute (.ofInt 0x00EE), .keyDown 3, .execute (.ofInt 0xC2FF)]

/-- A draw by a program, in a frame of two instructions. -/
def drawnByProgram : List Command :=
  [.setSpeed (.int 2), .load (.raw [0x63, 0x07, 0xC3, 0xF0]), .cycle]

set_option maxRecDepth 40000 in
/-- Two draws count two keys, the failure in between none. After a reset a program draws the first
byte again. -/
theorem random_stream_drawnByHost :
    (ofProgram [] defaultSpeed).StartsFrom ⟨0, 0⟩ ∧ Command.reset ∉ drawnByHost ∧
      ((ofProgram [] defaultSpeed).draws drawnByHost).length = 2 ∧
      ((ofProgram [] defaultSpeed).after drawnByHost).state.key = Key.next (Key.next ⟨0, 0⟩) ∧
      ((ofProgram [] defaultSpeed).draws drawnByHost)[1]?.map Passage.drawn =
        some (Key.next ⟨0, 0⟩).byte ∧
      (((ofProgram [] defaultSpeed).after (drawnByHost ++ [.reset])).draws
          drawnByProgram)[0]?.map Passage.drawn =
        ((ofProgram [] defaultSpeed).draws drawnByHost)[0]?.map Passage.drawn := by
  have hmake : make {} (some packageLogger) (some ⟨0, 0⟩) .screen =
      .ok (ofProgram [] defaultSpeed) := rfl
  have hs : (ofProgram [] defaultSpeed).StartsFrom ⟨0, 0⟩ := .new hmake rfl {} {}
  have hreset : Command.reset ∉ drawnByHost := by simp [drawnByHost]
  have hreset' : Command.reset ∉ drawnByProgram := by simp [drawnByProgram]
  have hlength : ((ofProgram [] defaultSpeed).draws drawnByHost).length = 2 := rfl
  have hlength' : (((ofProgram [] defaultSpeed).after (drawnByHost ++ [.reset])).draws
      drawnByProgram).length = 1 := rfl
  obtain ⟨hkey, hdrawn, hsame⟩ := random_stream hs hreset
  refine ⟨hs, hreset, hlength, ?_, ?_, ?_⟩
  · rw [hkey, hlength]
    rfl
  · rw [List.getElem?_eq_getElem (by omega), Option.map_some, (hdrawn 1 (by omega)).1]
    rfl
  · rw [List.getElem?_eq_getElem (by omega), List.getElem?_eq_getElem (by omega), Option.map_some,
      Option.map_some, hsame _ _ (hs.reset drawnByHost) hreset' 0 (by omega) (by omega)]

end Session

end Chip8
