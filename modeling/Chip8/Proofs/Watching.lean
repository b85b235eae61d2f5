import Chip8.Proofs.Alike
import Chip8.Proofs.Frame
import Chip8.Session.Action

/-!
# Watching makes no difference

A host watches a session when it sets the level of a logger, takes samples of the tone, mutes or
unmutes the speaker, or attaches a listener to the screen or detaches one. What the other actions
show does not depend on that, nor on the settings that trace instructions, name the level of the
logger and choose the tone.

## Main definitions

* `Chip8.Action.watches` : the actions that watch a session.
* `Chip8.Sight`, `Chip8.Session.sights` : what the other actions show.

## Main results

* `Chip8.Session.sights_filter` : an action that watches can be left out.
* `Chip8.Session.sights_of_make` : watching makes no difference.
-/

namespace Chip8

/-- The action watches a session. -/
def Action.watches : Action → Bool
  | .command c => c.watches
  | .attach _ | .detach _ => true

/-- What an action shows: its result, and what it leaves. -/
structure Sight where
  /-- The result, or why the action failed. -/
  result : Except Error Answer
  /-- The state of the processor. -/
  state : State
  /-- The processor is halted. -/
  halted : Bool
  /-- The pixels. -/
  grid : PixelGrid
  /-- The keys and the hook. -/
  keypad : Keypad Unit

namespace Session

open Procedure

variable {s t : Session} {c : Command} {a : Action} {actions : List Action}

/-- What an action shows in a session. -/
def sight [Random.Generator] (s : Session) (a : Action) : Sight where
  result := (a.perform s).result
  state := (a.perform s).session.state
  halted := (a.perform s).session.halted
  grid := (a.perform s).session.screen.grid
  keypad := (a.perform s).session.keypad

/-- What the actions of a list show that do not watch. -/
def sights [Random.Generator] : Session → List Action → List Sight
  | _, [] => []
  | s, a :: actions =>
    if a.watches then sights (a.perform s).session actions
    else s.sight a :: sights (a.perform s).session actions

/-! ### Watching one of two sessions -/

/-- What is like the one session is like the other one. -/
def StaysAlike (s s' : Session) : Prop :=
  ∀ t, s.Alike False t → s'.Alike False t

instance : IsPreorder Session StaysAlike where
  refl _ _ h := h
  trans _ _ _ h h' t ht := h' t (h t ht)

theorem allowsWatch_staysAlike : AllowsWatch StaysAlike where
  speaker _ _ _ h := { h with }
  loggers _ _ _ _ h := { h with }

theorem staysAlike_detach (listener : String) : Within StaysAlike (detach listener) := by
  intro s t h
  rw [detach, session_bind_apply, FrameBuffer.detach]
  split
  · exact { h with }
  · exact h

/-- **A session that is watched stays alike** to the sessions that it is like. -/
theorem staysAlike_of_watches [Random.Generator] (ha : a.watches = true) :
    Within StaysAlike a.perform := by
  cases a with
  | command c => exact c.within_watches allowsWatch_staysAlike ha
  | attach listener =>
    have hattach : Within StaysAlike (attach listener) := within_update fun s t h => { h with }
    exact hattach.answer _
  | detach listener => exact (staysAlike_detach listener).answer _

/-! ### What is shown -/

theorem alike_refl (s : Session) : s.Alike False s where
  state := rfl
  grid := rfl
  keyMap := rfl
  keys := rfl
  hook := .inl rfl
  tone p q := p.play_fst q _
  speed := rfl
  seedKey := rfl
  fontLoaded := rfl
  halted := rfl

/-- Alike sessions have the same keypad if no hook is stale. -/
theorem Alike.keypad (h : s.Alike False t) : s.keypad = t.keypad := by
  have hhook : s.keypad.pending = t.keypad.pending := h.hook.resolve_right And.left
  calc
    s.keypad = ⟨s.keypad.keyMap, s.keypad.keys, s.keypad.pending⟩ := rfl
    _ = ⟨t.keypad.keyMap, t.keypad.keys, t.keypad.pending⟩ := by rw [h.keyMap, h.keys, hhook]
    _ = t.keypad := rfl

/-- A blind command shows the same in alike sessions, which stay alike. -/
theorem Alike.sight_eq [Random.Generator] (h : s.Alike False t) (hc : c.isBlind = true) :
    s.sight (.command c) = t.sight (.command c) ∧
      (c.perform s).session.Alike False (c.perform t).session := by
  obtain ⟨hresult, hsession⟩ := h.agree hc
  refine ⟨?_, hsession⟩
  simp only [sight, Action.perform, hresult, hsession.state, hsession.halted, hsession.grid,
    hsession.keypad]

theorem isBlind_of_not_watches (hc : c.watches = false) (hpreset : ∀ parts, c ≠ .preset parts) :
    c.isBlind = true := by
  cases c with
  | samples => cases hc
  | preset parts => exact absurd rfl (hpreset parts)
  | _ => rfl

/-- **Actions that watch can be left out.** In alike sessions the others show the same. -/
theorem sights_filter [Random.Generator] (h : s.Alike False t)
    (hpreset : ∀ parts, Action.command (.preset parts) ∉ actions) :
    s.sights actions = t.sights (actions.filter fun a => !a.watches) := by
  induction actions generalizing s t with
  | nil => rfl
  | cons a actions ih =>
    have hothers : ∀ parts, Action.command (.preset parts) ∉ actions := fun parts hmem =>
      hpreset parts (List.mem_cons_of_mem a hmem)
    cases ha : a.watches with
    | true =>
      rw [List.filter_cons_of_neg (by simp [ha]), sights, if_pos ha]
      exact ih (staysAlike_of_watches ha s t h) hothers
    | false =>
      rw [List.filter_cons_of_pos (by simp [ha]), sights, sights, if_neg (by simp [ha]),
        if_neg (by simp [ha])]
      cases a with
      | command c =>
        have hblind : c.isBlind = true := by
          refine isBlind_of_not_watches ha ?_
          rintro parts rfl
          exact hpreset parts List.mem_cons_self
        obtain ⟨hsight, hafter⟩ := h.sight_eq hblind
        exact congrArg₂ List.cons hsight (ih hafter hothers)
      | attach | detach => cases ha

/-- **Watching makes no difference.** Two new sessions have the same settings, but for those that
trace instructions, name the level of the logger and choose a tone that can be played. They have the
same random key, the same pixels and the same keypad, and any loggers, speakers and listeners. If
the host does the same in both, but for the actions that watch, then every other action has the same
result in both, and leaves the same state, pixels and keypad, and the processor is halted in both or
in none. -/
theorem sights_of_make [Random.Generator] {config : Config} {trace : Bool} {logLevel : String}
    {tone : Number} {logger logger' : Option Logger} {key : Option Random.Key}
    {screen screen' : FrameBuffer} {actions' : List Action}
    (hmake : make config logger key screen = .ok s)
    (hmake' : make { config with trace := trace, logLevel := logLevel, toneFrequency := tone }
      logger' key screen' = .ok t)
    (htone : config.toneFrequency.Playable) (htone' : tone.Playable)
    (hgrid : screen.grid = screen'.grid) (keypad : Keypad Unit) (speaker speaker' : Speaker)
    (hpreset : ∀ parts, Action.command (.preset parts) ∉ actions)
    (hsame : (actions.filter fun a => !a.watches) = actions'.filter fun a => !a.watches) :
    { s with keypad := keypad, speaker := speaker }.sights actions =
      { t with keypad := keypad, speaker := speaker' }.sights actions' := by
  have hseed := seedKey_of_make hmake
  have hseed' := seedKey_of_make hmake'
  obtain ⟨l, k, -, rfl⟩ := exists_eq_of_make hmake
  obtain ⟨l', k', -, rfl⟩ := exists_eq_of_make hmake'
  obtain rfl : k = k' := Except.ok.inj (hseed.symm.trans hseed')
  have hplay (p q : Speaker) : (p.play config.toneFrequency).1 = (q.play tone).1 := by
    obtain ⟨f, hf⟩ := Option.isSome_iff_exists.1 htone.2
    obtain ⟨f', hf'⟩ := Option.isSome_iff_exists.1 htone'.2
    rw [Speaker.play_of_playable htone.1 hf, Speaker.play_of_playable htone'.1 hf']
  have hpreset' (parts : Preset) : Action.command (.preset parts) ∉ actions' := by
    intro hmem
    have hkept : Action.command (.preset parts) ∈ actions'.filter fun a => !a.watches :=
      List.mem_filter.2 ⟨hmem, rfl⟩
    exact hpreset parts (List.mem_filter.1 (hsame ▸ hkept)).1
  -- Both show what the second one shows without the actions that watch.
  refine (sights_filter ?_ hpreset).trans
    ((congrArg _ hsame).trans (sights_filter (alike_refl _) hpreset').symm)
  exact { state := rfl, grid := hgrid, keyMap := rfl, keys := rfl, hook := .inl rfl, tone := hplay,
          speed := rfl, seedKey := rfl, fontLoaded := rfl, halted := rfl }

/-- Two frames of a program that draws a glyph and beeps. -/
def unwatched : List Action :=
  [.command .loadFont, .command (.load (.raw [0x61, 0x05, 0xF1, 0x18, 0xD0, 0x15])),
    .command .cycle, .command .cycle]

/-- The same with a listener for the first frame, samples behind it, and a muted second one. -/
def watched : List Action :=
  [.command .loadFont, .attach "record", .command (.setLoggerLevel "DEBUG"),
    .command (.load (.raw [0x61, 0x05, 0xF1, 0x18, 0xD0, 0x15])), .command .cycle,
    .command (.samples 64), .detach "record", .command .mute, .command .cycle]

/-- The settings of a session that traces instructions and beeps an octave higher. -/
def tracingConfig : Config where
  trace := true
  logLevel := "DEBUG"
  toneFrequency := .int 880

/-- A session that traces instructions and has a listener at the start. -/
def tracing : Session :=
  { ofProgram [] defaultSpeed with
    config := tracingConfig
    screen := { FrameBuffer.screen with listeners := ["window"] } }

set_option maxRecDepth 40000 in
/-- Four actions show the same in a session that is watched and traced and in one that is not: two
that load, and two frames of ten instructions. -/
theorem sights_of_make_tracing :
    make {} (some packageLogger) (some ⟨0, 0⟩) .screen = .ok (ofProgram [] defaultSpeed) ∧
      make tracingConfig (some packageLogger) (some ⟨0, 0⟩)
        { FrameBuffer.screen with listeners := ["window"] } = .ok tracing ∧
      (Config.toneFrequency {}).Playable ∧ tracingConfig.toneFrequency.Playable ∧
      (∀ parts, Action.command (.preset parts) ∉ unwatched) ∧
      (unwatched.filter fun a => !a.watches) = (watched.filter fun a => !a.watches) ∧
      (ofProgram [] defaultSpeed).sights unwatched = tracing.sights watched ∧
      (tracing.sights watched).map (fun x => x.state.pc) = [512, 512, 532, 552] := by
  have hmake : make {} (some packageLogger) (some ⟨0, 0⟩) .screen =
      .ok (ofProgram [] defaultSpeed) := rfl
  have hmake' : make tracingConfig (some packageLogger) (some ⟨0, 0⟩)
      { FrameBuffer.screen with listeners := ["window"] } = .ok tracing := rfl
  have htone : (Config.toneFrequency {}).Playable := ⟨by decide, by decide⟩
  have htone' : tracingConfig.toneFrequency.Playable := ⟨by decide, by decide⟩
  have hpreset (parts : Preset) : Action.command (.preset parts) ∉ unwatched := by
    simp [unwatched]
  exact ⟨hmake, hmake', htone, htone', hpreset, rfl,
    sights_of_make hmake hmake' htone htone' rfl {} {} {} hpreset rfl, rfl⟩

end Session

end Chip8
