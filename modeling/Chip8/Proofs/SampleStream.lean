import Mathlib.Algebra.Order.BigOperators.Group.List
import Mathlib.Algebra.Order.Ring.Int
import Chip8.Device.History

/-!
# Samples in chunks

A tone that goes on can be taken in chunks of any lengths. Between two chunks the host may play the
frequency that sounds, mute and unmute the voice, and ask for samples of the muted voice. The chunks
that sound are put together to the samples that one call would have given.

The reason is that the phase is the index of the next sample: it moves on by the samples that are
heard, and returns to zero when a tone starts, but not otherwise.

## Main definitions

* `Chip8.Chunk`, `Chip8.Speaker.chunks` : the samples that a history takes while the voice is
  sounding.
* `Chip8.SpeakerCall.Keeps` : the calls under which a tone goes on.
* `Chip8.Speaker.Starts` : the calls that start a tone.

## Main results

* `Chip8.Speaker.samples_add` : two calls give out what one call would have given.
* `Chip8.Speaker.samples_chunks` : so do all calls while a tone goes on.
* `Chip8.Speaker.phase_perform` : how a call moves the phase.
* `Chip8.Speaker.stopped_after`, `Chip8.Speaker.muted_after` : how long a voice is silent.
* `Chip8.Speaker.heard_in_chunks` : the samples of a tone do not depend on how they are taken.
-/

namespace Chip8

/-- Samples that were taken together. -/
structure Chunk where
  /-- The number of samples that were asked for. -/
  count : Int
  /-- The samples. -/
  samples : List Int

/-- A tone of this frequency goes on under the call. -/
def SpeakerCall.Keeps (frequency : Float) : SpeakerCall → Prop
  | .play x => x.toFloat? = some frequency
  | .stop => False
  | .mute | .unmute | .samples _ => True

namespace Speaker

variable {s t : Speaker} {c : SpeakerCall}

/-- The samples that a call takes from a voice that is sounding. -/
def chunk? (s : Speaker) : SpeakerCall → Option Chunk
  | .samples count =>
    if s.sounding then (s.samples count).toOption.map fun r => ⟨count, r.1⟩ else none
  | _ => none

/-- The chunks that a history takes while the voice is sounding. -/
def chunks (s : Speaker) : List SpeakerCall → List Chunk
  | [] => []
  | c :: l => (s.chunk? c).toList ++ (s.perform c).speaker.chunks l

/-- The call starts a tone: the voice is stopped, and the frequency is not refused for its sign. -/
def Starts (s : Speaker) : SpeakerCall → Prop
  | .play x => s.playing = false ∧ x.isNonpositive = false
  | _ => False

instance (s : Speaker) : (c : SpeakerCall) → Decidable (s.Starts c)
  | .play x => inferInstanceAs (Decidable (s.playing = false ∧ x.isNonpositive = false))
  | .stop | .mute | .unmute | .samples _ => inferInstanceAs (Decidable False)

/-- The next samples of the tone. -/
def tone (s : Speaker) (count : Int) : List Int :=
  (List.range count.toNat).map fun (k : Nat) => s.sampleAt (s.phase + k)

/-- The speaker behind the next samples of the tone. -/
def advance (s : Speaker) (count : Int) : Speaker :=
  { s with phase := s.phase + count }

/-! ### Two chunks -/

@[simp] theorem tone_zero (s : Speaker) : s.tone 0 = [] := rfl

@[simp] theorem advance_zero (s : Speaker) : s.advance 0 = s := by simp [advance]

theorem advance_advance (s : Speaker) (m n : Int) :
    (s.advance m).advance n = s.advance (m + n) := by
  simp [advance, Int.add_assoc]

/-- The second chunk starts at the sample behind the first. -/
theorem tone_add (s : Speaker) {m n : Int} (hm : 0 ≤ m) (hn : 0 ≤ n) :
    s.tone (m + n) = s.tone m ++ (s.advance m).tone n := by
  obtain ⟨m, rfl⟩ := Int.eq_ofNat_of_zero_le hm
  obtain ⟨n, rfl⟩ := Int.eq_ofNat_of_zero_le hn
  rw [tone, ← Int.natCast_add, Int.toNat_natCast, List.range_add, List.map_append, List.map_map]
  refine congrArg _ (List.map_congr_left fun k _ => ?_)
  rw [Function.comp_apply, Int.natCast_add, ← Int.add_assoc]
  rfl

theorem samples_of_sounding (h : s.sounding = true) (count : Int) :
    s.samples count = .ok (s.tone count, s.advance count) := by
  rw [samples, if_pos h]
  rfl

/-- **Two calls give out what one call would have given.** -/
theorem samples_add (h : s.sounding = true) {m n : Int} (hm : 0 ≤ m) (hn : 0 ≤ n) {l : List Int}
    (hl : (s.advance m).samples n = .ok (l, t)) : s.samples (m + n) = .ok (s.tone m ++ l, t) := by
  have hadvanced : (s.advance m).sounding = true := h
  rw [samples_of_sounding hadvanced] at hl
  obtain ⟨rfl, rfl⟩ := Prod.mk.inj (Except.ok.inj hl)
  rw [samples_of_sounding h, tone_add s hm hn, advance_advance]

/-! ### Silence -/

theorem sounding_eq_false (h : s.playing = false ∨ s.muted = true) : s.sounding = false := by
  rcases h with h | h <;> simp [sounding, h]

theorem samples_of_silent (h : s.sounding = false) {count : Int} (hcount : 0 ≤ count) :
    s.samples count = .ok (List.replicate count.toNat 0, s) := by
  rw [samples, if_neg (by simp [h]), if_neg (by omega)]

theorem perform_samples_eq_zeros (h : s.sounding = false) {count : Int} (hcount : 0 ≤ count) :
    s.perform (.samples count) = ⟨.ok (List.replicate count.toNat 0), s⟩ := by
  rw [perform, samples_of_silent h hcount]

theorem perform_samples_of_silent (h : s.sounding = false) (count : Int) :
    (s.perform (.samples count)).speaker = s := by
  by_cases hcount : count < 0 <;> simp [perform, samples, h, hcount]

theorem samples_zero (s : Speaker) : s.samples 0 = .ok ([], s) := by
  cases h : s.sounding with
  | false => exact samples_of_silent h (Int.le_refl 0)
  | true => rw [samples_of_sounding h, tone_zero, advance_zero]

theorem gain_eq_volume_of_sounding (hgain : s.gain = s.volume ∨ s.gain = 0)
    (h : s.sounding = true) : s.gain = s.volume := by
  rcases hgain with hgain | hgain
  · exact hgain
  · have hmuted : s.muted = true := by
      rw [muted, hgain]
      decide
    rw [sounding_eq_false (.inr hmuted)] at h
    cases h

theorem unmute_eq_self (hgain : s.gain = s.volume) : s.unmute = s := by
  obtain ⟨sampleRate, volume, gain, playing, frequency, starts, phase⟩ := s
  obtain rfl : gain = volume := hgain
  rfl

/-! ### Calls while a tone goes on -/

theorem perform_play_of_keeps (hplaying : s.playing = true) {x : Number}
    (hx : x.toFloat? = some s.frequency) : (s.perform (.play x)).speaker = s := by
  have hstart : s.start = s := if_pos hplaying
  simp only [perform, play, hx, hstart]
  split <;> rfl

/-- While a tone goes on, a call either takes a chunk of it, or changes nothing but the gain, which
is set to the volume or to zero. -/
theorem perform_of_keeps (hplaying : s.playing = true) (hc : c.Keeps s.frequency) :
    (∃ n, s.sounding = true ∧ s.chunk? c = some ⟨n, s.tone n⟩ ∧
      (s.perform c).speaker = s.advance n) ∨
    (s.chunk? c = none ∧ ∃ g, (g = s.gain ∨ g = s.volume ∨ g = 0) ∧
      (s.perform c).speaker = { s with gain := g }) := by
  cases c with
  | stop => exact hc.elim
  | mute => exact .inr ⟨rfl, 0, .inr (.inr rfl), rfl⟩
  | unmute => exact .inr ⟨rfl, s.volume, .inr (.inl rfl), rfl⟩
  | play x => exact .inr ⟨rfl, s.gain, .inl rfl, perform_play_of_keeps hplaying hc⟩
  | samples n =>
    cases h : s.sounding with
    | false =>
      exact .inr ⟨by simp [chunk?, h], s.gain, .inl rfl, perform_samples_of_silent h n⟩
    | true =>
      refine .inl ⟨n, rfl, ?_, ?_⟩
      · rw [chunk?, if_pos h, samples_of_sounding h]
        rfl
      · rw [perform, samples_of_sounding h]

/-- **The chunks of a tone fit together.** The voice may be muted at first and on the way. The
samples that are heard are those that it gives out in one call when it is not muted, and they leave
it in the same phase. -/
theorem samples_chunks (hplaying : s.playing = true) (hgain : s.gain = s.volume ∨ s.gain = 0)
    {history : List SpeakerCall} (hkeeps : ∀ c ∈ history, c.Keeps s.frequency)
    (hcount : ∀ chunk ∈ s.chunks history, 0 ≤ chunk.count) :
    s.unmute.samples ((s.chunks history).map Chunk.count).sum =
      .ok ((s.chunks history).flatMap Chunk.samples, (s.after history).unmute) := by
  induction history generalizing s with
  | nil => exact s.unmute.samples_zero
  | cons c history ih =>
    rw [chunks] at hcount ⊢
    rw [after_cons]
    have hc := hkeeps c List.mem_cons_self
    have hhistory := fun d hd => hkeeps d (List.mem_cons_of_mem c hd)
    rcases perform_of_keeps hplaying hc with
      ⟨n, hsounding, hchunk, hnext⟩ | ⟨hchunk, g, hg, hnext⟩
    · -- A chunk that sounds has the full gain, so it does not matter that the one call is unmuted.
      have hfull := gain_eq_volume_of_sounding hgain hsounding
      rw [hchunk, hnext] at hcount ⊢
      have hrest := fun chunk hmem => hcount chunk (List.mem_cons_of_mem _ hmem)
      have hn : 0 ≤ n := hcount _ List.mem_cons_self
      have hsum : 0 ≤ (((s.advance n).chunks history).map Chunk.count).sum :=
        List.sum_nonneg (List.forall_mem_map.2 hrest)
      have hone := ih (s := s.advance n) hplaying hgain hhistory hrest
      rw [unmute_eq_self (s := s.advance n) hfull] at hone
      rw [unmute_eq_self hfull]
      exact samples_add hsounding hn hsum hone
    · -- The gain is the only thing that moved, and unmuting forgets it.
      rw [hchunk, hnext] at hcount ⊢
      refine ih (s := { s with gain := g }) hplaying ?_ hhistory hcount
      rcases hg with rfl | rfl | rfl
      · exact hgain
      · exact .inl rfl
      · exact .inr rfl

/-! ### The gain and the phase under any call -/

theorem gain_perform (hgain : s.gain = s.volume ∨ s.gain = 0) (c : SpeakerCall) :
    (s.perform c).speaker.gain = (s.perform c).speaker.volume ∨ (s.perform c).speaker.gain = 0 := by
  cases c with
  | stop => exact hgain
  | mute => exact .inr rfl
  | unmute => exact .inl rfl
  | play x =>
    cases hplaying : s.playing <;> cases hx : x.isNonpositive <;> cases hfloat : x.toFloat? <;>
      simpa [perform, play, start, hplaying, hx, hfloat] using hgain
  | samples n =>
    cases h : s.sounding with
    | false => rwa [perform_samples_of_silent h]
    | true => simpa only [perform, samples_of_sounding h, advance] using hgain

/-- The gain is the volume or zero, whatever a host does. -/
theorem gain_after (hgain : s.gain = s.volume ∨ s.gain = 0) (history : List SpeakerCall) :
    (s.after history).gain = (s.after history).volume ∨ (s.after history).gain = 0 := by
  induction history generalizing s with
  | nil => exact hgain
  | cons c history ih => exact ih (gain_perform hgain c)

/-- **How a call moves the phase.** A call that starts a tone returns it to zero. Any other moves it
on by the number of samples that were heard. -/
theorem phase_perform (s : Speaker) (c : SpeakerCall) :
    (s.perform c).speaker.phase =
      if s.Starts c then 0 else s.phase + ((s.chunk? c).map Chunk.count).getD 0 := by
  cases c with
  | stop | mute | unmute => exact (Int.add_zero _).symm
  | play x =>
    cases hplaying : s.playing <;> cases hx : x.isNonpositive <;> cases hfloat : x.toFloat? <;>
      simp [perform, play, start, Starts, chunk?, hplaying, hx, hfloat]
  | samples n =>
    cases h : s.sounding with
    | false => simp [perform_samples_of_silent h, Starts, chunk?, h]
    | true => simp [perform, samples_of_sounding h, advance, Starts, chunk?, h, Except.toOption]

/-! ### Histories of silence -/

/-- A voice that was stopped stays stopped, in its phase, until the tone is played. -/
theorem stopped_after (hstopped : s.playing = false) {history : List SpeakerCall}
    (hplay : ∀ x, .play x ∉ history) :
    (s.after history).playing = false ∧ (s.after history).phase = s.phase := by
  induction history generalizing s with
  | nil => exact ⟨hstopped, rfl⟩
  | cons c history ih =>
    obtain ⟨hc, hrest⟩ : (∀ x, c ≠ .play x) ∧ ∀ x, .play x ∉ history :=
      ⟨fun x h => hplay x (h ▸ List.mem_cons_self), fun x h => hplay x (List.mem_cons_of_mem c h)⟩
    have hstep : (s.perform c).speaker.playing = false ∧ (s.perform c).speaker.phase = s.phase := by
      cases c with
      | play x => exact absurd rfl (hc x)
      | stop => exact ⟨rfl, rfl⟩
      | mute | unmute => exact ⟨hstopped, rfl⟩
      | samples n =>
        rw [perform_samples_of_silent (sounding_eq_false (.inl hstopped))]
        exact ⟨hstopped, rfl⟩
    rw [after_cons, ← hstep.2]
    exact ih hstep.1 hrest

theorem muted_after (hmuted : s.gain = 0) {history : List SpeakerCall}
    (hunmute : .unmute ∉ history) : (s.after history).gain = 0 := by
  induction history generalizing s with
  | nil => exact hmuted
  | cons c history ih =>
    obtain ⟨hc, hrest⟩ := List.ne_and_not_mem_of_not_mem_cons hunmute
    rw [after_cons]
    refine ih ?_ hrest
    cases c with
    | unmute => exact absurd rfl hc
    | stop => exact hmuted
    | mute => rfl
    | play x =>
      cases hplaying : s.playing <;> cases hx : x.isNonpositive <;> cases hfloat : x.toFloat? <;>
        simpa [perform, play, start, hplaying, hx, hfloat] using hmuted
    | samples n =>
      have hzero : s.muted = true := by
        rw [muted, hmuted]
        decide
      rwa [perform_samples_of_silent (sounding_eq_false (.inr hzero))]

/-- **The samples of a tone do not depend on how they are taken.** While a tone goes on, the
chunks that sound are together what one call gives out from the same start, and both end in the
same phase. The voice starts with its full gain, as every voice has that sounds. One call gives
out the wave from the phase on. A voice that is stopped or muted gives out zeros and is not
changed. It is stopped from a stop until the tone is played, and muted from when it is muted until
it is unmuted. The phase returns to zero exactly if a tone is started, and otherwise moves on by
the samples that are heard. A frequency that is not positive is refused and starts nothing. -/
theorem heard_in_chunks :
    (∀ (s : Speaker) (history : List SpeakerCall), s.playing = true → s.gain = s.volume →
      (∀ c ∈ history, c.Keeps s.frequency) → (∀ chunk ∈ s.chunks history, 0 ≤ chunk.count) →
      ∃ t, s.samples ((s.chunks history).map Chunk.count).sum =
          .ok ((s.chunks history).flatMap Chunk.samples, t) ∧
        t.phase = (s.after history).phase) ∧
    (∀ (sampleRate volume : Float) (history : List SpeakerCall),
      let s := ({ sampleRate, volume } : Speaker).after history
      s.sounding = true → s.playing = true ∧ s.gain = s.volume) ∧
    (∀ (s : Speaker) (n : Int), s.sounding = true → s.perform (.samples n) =
      ⟨.ok ((List.range n.toNat).map fun (k : Nat) =>
        wave s.frequency s.sampleRate s.gain (s.phase + k)), { s with phase := s.phase + n }⟩) ∧
    (∀ (s : Speaker) (n : Int), (s.playing = false ∨ s.muted = true) → 0 ≤ n →
      s.perform (.samples n) = ⟨.ok (List.replicate n.toNat 0), s⟩) ∧
    (∀ s : Speaker, s.perform .stop = ⟨.ok [], { s with playing := false }⟩ ∧
      s.perform .mute = ⟨.ok [], { s with gain := 0 }⟩ ∧
      s.perform .unmute = ⟨.ok [], { s with gain := s.volume }⟩) ∧
    (∀ (s : Speaker) (history : List SpeakerCall) (n : Int), 0 ≤ n →
      ((∀ x, .play x ∉ history) →
        (s.after (.stop :: history)).perform (.samples n) =
            ⟨.ok (List.replicate n.toNat 0), s.after (.stop :: history)⟩ ∧
          (s.after (.stop :: history)).phase = s.phase) ∧
      (.unmute ∉ history →
        (s.after (.mute :: history)).perform (.samples n) =
          ⟨.ok (List.replicate n.toNat 0), s.after (.mute :: history)⟩)) ∧
    (∀ (s : Speaker) (x : Number) (f : Float), x.isNonpositive = false → x.toFloat? = some f →
      s.perform (.play x) = ⟨.ok [], { s with
        playing := true
        frequency := f
        starts := if s.playing then s.starts else s.starts + 1
        phase := if s.playing then s.phase else 0 }⟩) ∧
    (∀ (s : Speaker) (c : SpeakerCall), (s.perform c).speaker.phase =
      if s.Starts c then 0 else s.phase + ((s.chunk? c).map Chunk.count).getD 0) ∧
    (∀ (s : Speaker) (c : SpeakerCall), 0 < s.phase → (∀ chunk ∈ s.chunk? c, 0 ≤ chunk.count) →
      ((s.perform c).speaker.phase = 0 ↔ s.Starts c)) ∧
    ∀ (s : Speaker) (x : Number), x.isNonpositive = true →
      s.perform (.play x) = ⟨.error (.misuse (.frequencyNotPositive x)), s⟩ := by
  refine ⟨?_, ?_, ?_, ?_, fun s => ⟨rfl, rfl, rfl⟩, ?_, ?_, phase_perform, ?_, ?_⟩
  · intro s history hplaying hgain hkeeps hcount
    have hone := samples_chunks hplaying (.inl hgain) hkeeps hcount
    rw [unmute_eq_self hgain] at hone
    exact ⟨_, hone, rfl⟩
  · intro sampleRate volume history s hsounding
    have hgain : s.gain = s.volume ∨ s.gain = 0 := gain_after (.inl rfl) history
    have hplaying : s.playing = true := (Bool.and_eq_true_iff.1 hsounding).1
    exact ⟨hplaying, gain_eq_volume_of_sounding hgain hsounding⟩
  · intro s n hsounding
    rw [perform, samples_of_sounding hsounding]
    rfl
  · exact fun s n hsilent hn => perform_samples_eq_zeros (sounding_eq_false hsilent) hn
  · intro s history n hn
    refine ⟨fun hplay => ?_, fun hunmute => ?_⟩
    · obtain ⟨hstopped, hphase⟩ := stopped_after (s := s.stop) rfl hplay
      exact ⟨perform_samples_eq_zeros (sounding_eq_false (.inl hstopped)) hn, hphase⟩
    · have hmuted : (s.mute.after history).muted = true := by
        rw [muted, muted_after (s := s.mute) rfl hunmute]
        decide
      exact perform_samples_eq_zeros (sounding_eq_false (.inr hmuted)) hn
  · intro s x f hx hf
    cases hplaying : s.playing <;> simp [perform, play, start, hx, hf, hplaying, Except.map]
  · intro s c hphase hcount
    rw [phase_perform]
    split
    case isTrue hstarts => simp [hstarts]
    case isFalse hstarts =>
      have hmoved : 0 ≤ ((s.chunk? c).map Chunk.count).getD 0 := by
        cases hchunk : s.chunk? c with
        | none => exact Int.le_refl 0
        | some chunk => exact hcount chunk hchunk
      exact iff_of_false (by omega) hstarts
  · intro s x hx
    simp only [perform, play, if_pos hx]
    rfl

/-- A voice that sounds. -/
def humming : Speaker where
  playing := true
  phase := 50

/-- A history that takes seven samples in two chunks, between which the frequency is played again
and samples of the muted voice are taken. -/
def interrupted : List SpeakerCall :=
  [.samples 3, .play (.int 440), .mute, .samples 5, .unmute, .samples 4]

/-- The chunks are together the seven samples that one call gives out. After a stop there are zeros,
and the phase stays until the tone is played, which returns it to zero. -/
theorem heard_in_chunks_interrupted :
    (∃ t, humming.samples 7 = .ok ((humming.chunks interrupted).flatMap Chunk.samples, t) ∧
      t.phase = 57) ∧
    humming.mute.perform (.samples 2) = ⟨.ok [0, 0], humming.mute⟩ ∧
    (humming.after [.stop, .samples 3]).perform (.samples 2) =
      ⟨.ok [0, 0], humming.after [.stop, .samples 3]⟩ ∧
    (humming.after [.stop, .samples 3]).phase = 50 ∧
    ((humming.after [.stop, .samples 3]).perform (.play (.int 440))).speaker.phase = 0 ∧
    ¬humming.Starts (.play (.int 440)) := by
  obtain ⟨hchunks, -, -, hsilent, -, hsilence, -, hphases, hreturns, -⟩ := heard_in_chunks
  have hkeeps : ∀ c ∈ interrupted, c.Keeps humming.frequency := by
    have hplay : (Number.int 440).toFloat? = some humming.frequency := by decide
    simp [interrupted, SpeakerCall.Keeps, hplay]
  have hone := hchunks humming interrupted rfl rfl hkeeps (by decide +kernel)
  obtain ⟨hzeros, hphase⟩ := (hsilence humming [.samples 3] 2 (by decide)).1 (by simp)
  refine ⟨hone, hsilent _ 2 (.inr (by decide)) (by decide), hzeros, hphase, ?_, ?_⟩
  · rw [hphases, if_pos ⟨rfl, rfl⟩]
  · exact fun h => absurd ((hreturns humming _ (by decide) (by simp [chunk?])).2 h) (by decide)

end Speaker

end Chip8
