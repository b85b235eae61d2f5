import Chip8.Proofs.Cut
import Chip8.Proofs.Footprint
import Chip8.Proofs.Halting
import Chip8.Proofs.Reset

/-!
# Timers and the tone over many frames

The timers count frames, but for those at whose end the processor waits for a key, and the tone is
on while the sound timer runs. Frames that fail, resets and keys touch neither the speaker nor its
count of starts. So over any run the speaker has started as often as a frame left the sound timer
running that the frame before had left at zero.

## Main definitions

* `Chip8.Timer`, `Chip8.Executed.sets` : the timers, and the instructions that set them.
* `Chip8.Session.frameStarts` : the sessions in which the frames of a history start that succeed.
* `Chip8.Session.waitsBehindBatch` : the processor waits at the end of the instructions of a frame.
* `Chip8.onsets` : how often a timer begins to run.

## Main results

* `Chip8.Session.toNat_timer_cycle`, `Chip8.Session.toNat_timer_after` : what a timer has lost.
* `Chip8.Session.starts_cycle`, `Chip8.Session.starts_after` : how often the tone was started.
* `Chip8.Session.tone_after` : timers and tone over any run of frames.
-/

namespace Chip8

/-- The timers. -/
inductive Timer where
  /-- The delay timer. -/
  | delay
  /-- The sound timer. -/
  | sound

/-- What is left on a timer. -/
def State.timer (s : State) : Timer → UInt8
  | .delay => s.delay
  | .sound => s.sound

/-- The instruction sets the timer: `FX15` the delay timer, and `FX18` the sound timer. -/
def Executed.sets (x : Executed) : Timer → Bool
  | .delay => x.opcode / 4096 == 0xF && x.opcode % 256 == 0x15
  | .sound => x.opcode / 4096 == 0xF && x.opcode % 256 == 0x18

/-- How often a timer begins to run: it holds `previous` at first, and the listed values one after
the other. -/
def onsets (previous : UInt8) (l : List UInt8) : Nat :=
  ((previous :: l).zip l).countP fun (x, y) => x = 0 ∧ 0 < y

theorem onsets_cons (previous x : UInt8) (l : List UInt8) :
    onsets previous (x :: l) = (if previous = 0 ∧ 0 < x then 1 else 0) + onsets x l := by
  simp [onsets, List.countP_cons, Nat.add_comm]

/-! ### Timers -/

variable {timer : Timer}

/-- At the end of a frame both timers lose one, unless the processor waits. -/
theorem State.toNat_timer_settled (t : State) (timer : Timer) :
    (t.settled.timer timer).toNat = (t.timer timer).toNat - if t.paused then 0 else 1 := by
  cases timer with
  | delay => exact t.settles_settled.delay
  | sound => exact t.settles_settled.sound

theorem Path.timer_eq [Random.Generator] {keys : Keys} {s t : State} {g h : PixelGrid}
    {l : List Executed} (p : Path keys s g l t h) (hl : ∀ x ∈ l, x.sets timer = false) :
    t.timer timer = s.timer timer := by
  cases timer with
  | delay =>
    refine p.same (p := .delay) fun x hx u hu => ?_
    have hset := hl x hx
    cases hu
    simp_all [Executed.sets]
  | sound =>
    refine p.same (p := .sound) fun x hx u hu => ?_
    have hset := hl x hx
    cases hu
    simp_all [Executed.sets]

/-! ### The speaker -/

namespace Speaker

theorem playing_start (p : Speaker) : p.start.playing = true := by
  unfold start
  split
  · assumption
  · rfl

theorem starts_start (p : Speaker) :
    p.start.starts = p.starts + if p.playing = false then 1 else 0 := by
  unfold start
  cases p.playing <;> rfl

end Speaker

namespace Session

open Procedure

variable {s t : Session} {e : Error} {history : List Command}

section Toned

variable (htone : s.config.toneFrequency.Playable)

include htone

theorem playing_toned : s.toned.playing = true ↔ 0 < s.state.sound := by
  obtain ⟨hx, hf⟩ := htone
  obtain ⟨f, hf⟩ := Option.isSome_iff_exists.1 hf
  unfold toned
  by_cases hs : 0 < s.state.sound
  · rw [if_pos hs, Speaker.play_of_playable hx hf]
    exact iff_of_true s.speaker.playing_start hs
  · rw [if_neg hs]
    exact iff_of_false Bool.false_ne_true hs

theorem starts_toned :
    s.toned.starts =
      s.speaker.starts + if s.speaker.playing = false ∧ 0 < s.state.sound then 1 else 0 := by
  obtain ⟨hx, hf⟩ := htone
  obtain ⟨f, hf⟩ := Option.isSome_iff_exists.1 hf
  unfold toned
  by_cases hs : 0 < s.state.sound
  · rw [if_pos hs, Speaker.play_of_playable hx hf]
    simpa only [hs, and_true] using s.speaker.starts_start
  · rw [if_neg hs, if_neg (mt And.right hs)]
    rfl

end Toned

/-- The sessions have the same settings and the same speaker. -/
structure SameVoice (s t : Session) : Prop where
  /-- The settings. -/
  config : t.config = s.config
  /-- The speaker. -/
  speaker : t.speaker = s.speaker

instance : IsPreorder Session SameVoice where
  refl _ := ⟨rfl, rfl⟩
  trans _ _ _ h h' := ⟨h'.config.trans h.config, h'.speaker.trans h.speaker⟩

theorem sameVoice_batch [Random.Generator] (n : Nat) : Within SameVoice (batch n) :=
  within_batch (within_step (fun _ _ _ _ _ => ⟨rfl, rfl⟩) fun _ _ _ => ⟨rfl, rfl⟩) n

theorem allowsKeys_sameVoice : AllowsKeys SameVoice where
  down _ _ := ⟨rfl, rfl⟩
  up _ := ⟨rfl, rfl⟩
  allUp := ⟨rfl, rfl⟩

theorem ne_cycle_of_movesKeys {c : Command} (hc : c.movesKeys = true) : c ≠ .cycle := by
  rintro rfl
  cases hc

theorem allowsKeys_timer (timer : Timer) :
    AllowsKeys fun s t => t.state.timer timer = s.state.timer timer where
  down {s key} _ _ := by
    unfold pressed State.receive
    split
    · split <;> cases timer <;> rfl
    · rfl
  up _ := rfl
  allUp := rfl

/-! ### One frame -/

section

variable [Random.Generator]

/-- The processor waits for a key when the instructions of a frame are done. -/
def waitsBehindBatch (s : Session) : Bool :=
  match s.speed with
  | .int n => (batch n.toNat s).session.paused
  | .real _ => s.paused

section Frame

variable (htone : s.config.toneFrequency.Playable)

include htone

theorem exists_batch_of_cycle (h : (cycle s).result = .ok ()) :
    ∃ k : Int, s.RunsFrames k ∧ (cycle s).session = (batch k.toNat s).session.ended := by
  rcases s.cycle_refused_or_runs with ⟨e, he⟩ | ⟨k, hh, hn⟩
  · cases (congrArg Outcome.result he).symm.trans h
  · have hruns : s.RunsFrames k := ⟨hh, hn, htone⟩
    exact ⟨k, hruns, (hruns.cycle_of_ok (batch_and_end_of_cycle hh hn h).1).2.1⟩

theorem sameVoice_cycle_of_error (h : (cycle s).result = .error e) :
    s.SameVoice (cycle s).session := by
  rcases s.cycle_refused_or_runs with ⟨e', he⟩ | ⟨k, hh, hn⟩
  · rw [he]
    exact refl_of SameVoice s
  · have hruns : s.RunsFrames k := ⟨hh, hn, htone⟩
    cases hb : (batch k.toNat s).result with
    | error e' =>
      rw [(hruns.cycle_of_error hb).2]
      exact sameVoice_batch _ s
    | ok => cases (hruns.cycle_of_ok hb).1.symm.trans h

/-- **A frame counts a timer down** if it does not set it, unless the processor waits at the end of
its instructions. -/
theorem toNat_timer_cycle (h : (cycle s).result = .ok ())
    (hset : ∀ i ∈ s.frameTrace, i.sets timer = false) :
    ((cycle s).session.state.timer timer).toNat =
      (s.state.timer timer).toNat - if s.waitsBehindBatch then 0 else 1 := by
  obtain ⟨k, hruns, hsession⟩ := exists_batch_of_cycle htone h
  rw [hruns.frameTrace_eq] at hset
  have hwaits : s.waitsBehindBatch = (batch k.toNat s).session.state.paused := by
    simp only [waitsBehindBatch, hruns.speed_eq]
    rfl
  rw [hsession, hwaits, ← (path_batchTrace s k.toNat).timer_eq hset]
  exact State.toNat_timer_settled _ timer

/-- **Behind a frame the tone is on** exactly while the sound timer runs. -/
theorem playing_cycle (h : (cycle s).result = .ok ()) :
    (cycle s).session.speaker.playing = true ↔ 0 < (cycle s).session.state.sound := by
  obtain ⟨k, hruns, hsession⟩ := exists_batch_of_cycle htone h
  have hvoice := sameVoice_batch k.toNat s
  rw [hsession]
  exact playing_toned (s := (batch k.toNat s).session.settle) (hvoice.config.symm ▸ htone)

/-- **A frame starts the tone** if it was off and the sound timer runs in the end. -/
theorem starts_cycle (h : (cycle s).result = .ok ()) :
    (cycle s).session.speaker.starts = s.speaker.starts +
      if s.speaker.playing = false ∧ 0 < (cycle s).session.state.sound then 1 else 0 := by
  obtain ⟨k, hruns, hsession⟩ := exists_batch_of_cycle htone h
  have hvoice := sameVoice_batch k.toNat s
  rw [hsession, ← hvoice.speaker]
  exact starts_toned (s := (batch k.toNat s).session.settle) (hvoice.config.symm ▸ htone)

end Frame

/-! ### Many frames -/

/-- The sessions in which the frames of a history start that succeed. -/
def frameStarts : Session → List Command → List Session
  | _, [] => []
  | s, .cycle :: history =>
    match (cycle s).result with
    | .ok _ => s :: frameStarts (cycle s).session history
    | .error _ => frameStarts (cycle s).session history
  | s, c :: history => frameStarts (c.perform s).session history

/-- All frames of a history succeed. -/
def FramesSucceed (s : Session) (history : List Command) : Prop :=
  ∀ before since, history = before ++ Command.cycle :: since →
    (cycle (s.after before)).result = .ok ()

theorem FramesSucceed.tail {c : Command} (h : s.FramesSucceed (c :: history)) :
    (c.perform s).session.FramesSucceed history :=
  fun before since heq => h (c :: before) since (congrArg (c :: ·) heq)

theorem FramesSucceed.head (h : s.FramesSucceed (.cycle :: history)) :
    (cycle s).result = .ok () :=
  h [] history rfl

theorem frameStarts_cons_of_ok (h : (cycle s).result = .ok ()) (history : List Command) :
    s.frameStarts (.cycle :: history) = s :: (cycle s).session.frameStarts history := by
  simp only [frameStarts, h]

theorem frameStarts_cons_of_error (h : (cycle s).result = .error e) (history : List Command) :
    s.frameStarts (.cycle :: history) = (cycle s).session.frameStarts history := by
  simp only [frameStarts, h]

theorem frameStarts_cons_of_ne {c : Command} (hc : c ≠ .cycle) (history : List Command) :
    s.frameStarts (c :: history) = (c.perform s).session.frameStarts history := by
  rw [frameStarts]
  exact hc

theorem after_cycle (s : Session) (history : List Command) :
    s.after (.cycle :: history) = (cycle s).session.after history := by
  rw [after, Command.perform, session_answer]

theorem playable_perform (htone : s.config.toneFrequency.Playable) (c : Command) :
    (c.perform s).session.config.toneFrequency.Playable := by
  rw [(remembers_perform c s).config]
  exact htone

/-- **What a timer has lost** over frames that succeed and do not set it: one for every frame at
whose end the processor did not wait. -/
theorem toNat_timer_after (htone : s.config.toneFrequency.Playable)
    (hhistory : ∀ c ∈ history, c = .cycle ∨ c.movesKeys = true) (hok : s.FramesSucceed history)
    (hset : ∀ x ∈ s.frameStarts history, ∀ i ∈ x.frameTrace, i.sets timer = false) :
    ((s.after history).state.timer timer).toNat = (s.state.timer timer).toNat -
      (s.frameStarts history).countP fun x => !x.waitsBehindBatch := by
  induction history generalizing s with
  | nil => rfl
  | cons c history ih =>
    obtain ⟨hc, hothers⟩ := List.forall_mem_cons.1 hhistory
    have htail := hok.tail
    have htone' := playable_perform htone c
    rcases hc with rfl | hc
    · have hfirst := hok.head
      rw [Command.perform, session_answer] at htail htone'
      rw [frameStarts_cons_of_ok hfirst] at hset ⊢
      obtain ⟨hset, hrest⟩ := List.forall_mem_cons.1 hset
      rw [after_cycle, ih htone' hothers htail hrest, toNat_timer_cycle htone hfirst hset,
        List.countP_cons]
      cases s.waitsBehindBatch with
      | true => simp
      | false =>
        simp only [Bool.false_eq_true, if_false, Bool.not_false, if_true]
        omega
    · rw [frameStarts_cons_of_ne (ne_cycle_of_movesKeys hc)] at hset ⊢
      have hkeys : (c.perform s).session.state.timer timer = s.state.timer timer :=
        Command.within_movesKeys (allowsKeys_timer timer) hc s
      rw [after, ih htone' hothers htail hset, hkeys]

/-- **How often the tone was started**: as often as a frame left the sound timer running that the
one before had left at zero. Frames that fail, resets and keys start nothing. -/
theorem starts_after {previous : UInt8} (htone : s.config.toneFrequency.Playable)
    (hplaying : s.speaker.playing = true ↔ 0 < previous)
    (hhistory : ∀ c ∈ history, c = .cycle ∨ c = .reset ∨ c.movesKeys = true) :
    (s.after history).speaker.starts = s.speaker.starts +
      onsets previous ((s.frameStarts history).map fun x => (cycle x).session.state.sound) := by
  induction history generalizing s previous with
  | nil => rfl
  | cons c history ih =>
    obtain ⟨hc, hothers⟩ := List.forall_mem_cons.1 hhistory
    have htone' := playable_perform htone c
    -- What leaves the speaker leaves the count.
    have hskip (hvoice : s.SameVoice (c.perform s).session) :
        ((c.perform s).session.after history).speaker.starts = s.speaker.starts +
          onsets previous (((c.perform s).session.frameStarts history).map fun x =>
            (cycle x).session.state.sound) := by
      rw [ih htone' (hvoice.speaker ▸ hplaying) hothers, hvoice.speaker]
    rcases hc with rfl | rfl | hc
    · rw [Command.perform, session_answer] at hskip htone'
      rw [after_cycle]
      cases hr : (cycle s).result with
      | error e =>
        rw [frameStarts_cons_of_error hr]
        exact hskip (sameVoice_cycle_of_error htone hr)
      | ok =>
        -- The tone was off exactly if the frame before, or the start, left the sound timer at zero.
        have hoff : s.speaker.playing = false ↔ previous = 0 := by
          rw [← Bool.not_eq_true, hplaying, UInt8.not_lt, UInt8.le_zero_iff]
        rw [frameStarts_cons_of_ok hr, ih htone' (playing_cycle htone hr) hothers,
          starts_cycle htone hr, List.map_cons, onsets_cons, Nat.add_assoc]
        simp only [hoff]
    · rw [frameStarts_cons_of_ne (c := .reset) Command.noConfusion]
      exact hskip ⟨rfl, rfl⟩
    · rw [frameStarts_cons_of_ne (ne_cycle_of_movesKeys hc)]
      exact hskip (Command.within_movesKeys allowsKeys_sameVoice hc s)

/-- **Timers and the tone over any run** of frames, some of which may fail, with keys and resets in
between, of a session whose speaker was never used. Behind every frame that succeeds the tone is on
exactly while the sound timer runs. Over a stretch of frames that succeed, without a reset, a timer
that no instruction sets loses one for every frame whose instructions did not end in a wait for a
key, down to zero. The speaker was started as often as a frame that succeeded left the sound timer
running and the one before, if there was one, had left it at zero. -/
theorem tone_after (hplaying : s.speaker.playing = false) (hstarts : s.speaker.starts = 0)
    (htone : s.config.toneFrequency.Playable)
    (hhistory : ∀ c ∈ history, c = .cycle ∨ c = .reset ∨ c.movesKeys = true) :
    (∀ before since, history = before ++ Command.cycle :: since →
      (cycle (s.after before)).result = .ok () →
      ((cycle (s.after before)).session.speaker.playing = true ↔
        0 < (cycle (s.after before)).session.state.sound)) ∧
    (∀ before stretch since, history = before ++ stretch ++ since → Command.reset ∉ stretch →
      (s.after before).FramesSucceed stretch →
      ∀ timer : Timer,
        (∀ x ∈ (s.after before).frameStarts stretch, ∀ i ∈ x.frameTrace, i.sets timer = false) →
        (((s.after before).after stretch).state.timer timer).toNat =
          ((s.after before).state.timer timer).toNat -
            ((s.after before).frameStarts stretch).countP fun x => !x.waitsBehindBatch) ∧
    (s.after history).speaker.starts =
      onsets 0 ((s.frameStarts history).map fun x => (cycle x).session.state.sound) := by
  have htone_after (before : List Command) :
      (s.after before).config.toneFrequency.Playable := by
    rw [(remembers_after s before).config]
    exact htone
  refine ⟨fun before _ _ hok => playing_cycle (htone_after before) hok, ?_, ?_⟩
  · intro before stretch since heq hreset hok timer hset
    refine toNat_timer_after (htone_after before) (fun c hc => ?_) hok hset
    have hmem : c ∈ history := by
      rw [heq]
      exact List.mem_append_left _ (List.mem_append_right _ hc)
    rcases hhistory c hmem with hcycle | rfl | hkeys
    · exact .inl hcycle
    · exact absurd hc hreset
    · exact .inr hkeys
  · have hsilent : s.speaker.playing = true ↔ (0 : UInt8) < 0 := by simp [hplaying]
    rw [starts_after htone hsilent hhistory, hstarts, Nat.zero_add]

end

/-- A program that sets the sound timer to two over and over, two instructions a frame. -/
def beeping : Session :=
  ofProgram [0x61, 0x02, 0xF1, 0x18, 0x12, 0x00] 2

set_option maxRecDepth 40000 in
/-- The second frame of three does not set the sound timer, which loses one, so the tone stops. The
third one sets it, which starts the tone again. -/
theorem tone_after_beeping :
    beeping.speaker.playing = false ∧ beeping.speaker.starts = 0 ∧
      beeping.config.toneFrequency.Playable ∧
      (∀ c ∈ [Command.cycle, .keyDown 5, .cycle, .cycle],
        c = .cycle ∨ c = .reset ∨ c.movesKeys = true) ∧
      ((cycle beeping).session.speaker.playing = true ↔
        0 < (cycle beeping).session.state.sound) ∧
      (beeping.after [.cycle]).state.sound.toNat = 1 ∧
      ((beeping.after [.cycle]).after [.keyDown 5, .cycle]).state.sound.toNat = 1 - 1 ∧
      (beeping.after [.cycle, .keyDown 5, .cycle, .cycle]).speaker.starts = onsets 0 [1, 0, 1] ∧
      onsets 0 [1, 0, 1] = 2 := by
  have htone : beeping.config.toneFrequency.Playable := ⟨by decide, by decide⟩
  have hhistory : ∀ c ∈ [Command.cycle, .keyDown 5, .cycle, .cycle],
      c = .cycle ∨ c = .reset ∨ c.movesKeys = true := by simp [Command.movesKeys]
  obtain ⟨hon, hlost, hstarts⟩ := tone_after (s := beeping) rfl rfl htone hhistory
  have hok : (beeping.after [.cycle]).FramesSucceed [.keyDown 5, .cycle] := by
    rintro (_ | ⟨c, _ | ⟨c', before⟩⟩) since h
    · cases h
    · cases h
      rfl
    · simp at h
  have hframes : (beeping.after [.cycle]).frameStarts [.keyDown 5, .cycle] =
      [beeping.after [.cycle, .keyDown 5]] := rfl
  have hset : ∀ i ∈ (beeping.after [.cycle, .keyDown 5]).frameTrace, i.sets .sound = false := by
    have htrace : (beeping.after [.cycle, .keyDown 5]).frameTrace = [⟨0x1200, []⟩, ⟨0x6102, []⟩] :=
      rfl
    rw [htrace]
    decide
  have hsound := hlost [.cycle] [.keyDown 5, .cycle] [.cycle] rfl (by simp) hok .sound
    (by rw [hframes]; simpa using hset)
  rw [hframes] at hsound
  exact ⟨rfl, rfl, htone, hhistory, hon [] _ rfl rfl, rfl, hsound, hstarts, by decide⟩

end Session

end Chip8
