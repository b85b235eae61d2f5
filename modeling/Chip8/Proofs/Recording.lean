import Mathlib.Data.List.DropRight
import Chip8.Picture.Recorder
import Chip8.Proofs.Tone

/-!
# Recording frames

A recorder that listens to the screen receives one picture from every frame that succeeds, the
pixels as the frame left them, and none from a frame that fails. So it holds the newest of the
pictures it held before and of those that followed, and running frames can be cut in two at any
point.

## Main definitions

* `Chip8.Recorder.newest` : as many of the last pictures of a list as the recorder keeps.
* `Chip8.Recorder.Fits` : the recorder holds no more pictures than it keeps.
* `Chip8.Session.afterFrames` : the session after the host ran single frames.
* `Chip8.Session.Stops` : how many of several frames succeed.

## Main results

* `Chip8.Recorder.frames_receive` : what a recorder holds after deliveries.
* `Chip8.Session.screen_of_cycle`, `Chip8.Session.screen_of_cycle_error` : what a frame hands out.
* `Chip8.Session.exists_stops_cycles` : what several frames hand out.
* `Chip8.Session.runFrames_records` : the record of several frames.
-/

namespace Chip8

/-! ### Recorders -/

namespace Recorder

/-- As many pictures from the end of a list as the recorder keeps. -/
def newest (r : Recorder) (l : List PixelGrid) : List PixelGrid :=
  match r.capacity with
  | some n => l.rtake n
  | none => l

/-- The recorder holds no more pictures than it keeps. -/
def Fits (r : Recorder) : Prop :=
  ∀ n, r.capacity = some n → r.frames.length ≤ n

variable {r : Recorder} {g : PixelGrid} {l l' : List PixelGrid}

theorem fits_ofCapacity {capacity : Option Int} (h : ofCapacity capacity = .ok r) : r.Fits := by
  intro n _
  unfold ofCapacity at h
  repeat' split at h
  all_goals cases h
  all_goals exact Nat.zero_le n

@[simp] theorem capacity_record (r : Recorder) (g : PixelGrid) :
    (r.record g).capacity = r.capacity := rfl

theorem frames_record (r : Recorder) (g : PixelGrid) :
    (r.record g).frames = r.newest (r.frames ++ [g]) := by
  unfold record newest excess
  cases r.capacity <;> rfl

theorem Fits.record (g : PixelGrid) : (r.record g).Fits := by
  intro n hn
  have hr : r.capacity = some n := hn
  simp only [frames_record, newest, hr, List.rtake, List.length_drop]
  omega

theorem Fits.newest_frames (h : r.Fits) : r.newest r.frames = r.frames := by
  unfold newest
  cases hn : r.capacity with
  | none => rfl
  | some n =>
    dsimp only
    rw [List.rtake, Nat.sub_eq_zero_of_le (h n hn), List.drop_zero]

/-- The newest pictures of a list are among the newest of its first part, and the others. -/
theorem newest_newest_append (r : Recorder) (l l' : List PixelGrid) :
    r.newest (r.newest l ++ l') = r.newest (l ++ l') := by
  unfold newest
  cases r.capacity with
  | none => rfl
  | some n =>
    have hfront : l.drop (l.length - n) ++ l' = (l ++ l').drop (l.length - n) :=
      (List.drop_append_of_le_length (Nat.sub_le _ _)).symm
    simp only [List.rtake, hfront, List.drop_drop, List.length_drop, List.length_append]
    congr 1
    omega

theorem frames_foldl_record (h : r.Fits) (l : List PixelGrid) :
    (l.foldl record r).frames = r.newest (r.frames ++ l) := by
  induction l generalizing r with
  | nil => rw [List.append_nil, h.newest_frames]; rfl
  | cons g l ih =>
    have hsame (l : List PixelGrid) : (r.record g).newest l = r.newest l := rfl
    rw [List.foldl_cons, ih (Fits.record g), hsame, frames_record, newest_newest_append,
      List.append_assoc, List.singleton_append]

end Recorder

/-- The pictures that a listener is handed. -/
def picturesFor (name : String) (deliveries : List Delivery) : List PixelGrid :=
  (deliveries.filter fun d => d.listener == name).map Delivery.picture

theorem picturesFor_append (name : String) (l l' : List Delivery) :
    picturesFor name (l ++ l') = picturesFor name l ++ picturesFor name l' := by
  simp [picturesFor]

theorem picturesFor_map (name : String) (listeners : List String) (g : PixelGrid) :
    picturesFor name (listeners.map fun listener => ⟨listener, g⟩) =
      List.replicate (listeners.count name) g := by
  induction listeners with
  | nil => rfl
  | cons listener listeners ih =>
    by_cases h : listener = name
    · subst h
      simpa [picturesFor, List.replicate_succ] using ih
    · simpa [picturesFor, h, List.count_cons_of_ne] using ih

/-- **What a recorder holds after deliveries**: the newest of the pictures that it held before and
of those that it was handed. -/
theorem Recorder.frames_receive {r : Recorder} (h : r.Fits) (name : String)
    (deliveries : List Delivery) :
    (r.receive name deliveries).frames = r.newest (r.frames ++ picturesFor name deliveries) := by
  rw [← frames_foldl_record h, receive, picturesFor, List.foldl_map]

theorem Recorder.receive_append (r : Recorder) (name : String) (l l' : List Delivery) :
    r.receive name (l ++ l') = (r.receive name l).receive name l' := by
  rw [receive, List.filter_append, List.foldl_append]
  rfl

namespace Session

open Procedure

variable {s : Session} {e : Error}

/-! ### One frame -/

section

variable [Random.Generator]

/-- **A frame that succeeds** counts itself, and hands the pixels that it leaves to every
listener. -/
theorem screen_of_cycle (h : (cycle s).result = .ok ()) :
    (cycle s).session.screen =
        { s.screen with grid := (cycle s).session.screen.grid, frames := s.screen.frames + 1 } ∧
      (cycle s).transcript.deliveries =
        s.screen.listeners.map fun name => ⟨name, (cycle s).session.screen.grid⟩ := by
  rcases s.cycle_refused_or_runs with ⟨e, he⟩ | ⟨n, hh, hn⟩
  · cases (congrArg Outcome.result he).symm.trans h
  · obtain ⟨l, t, u, g, tone, hrun⟩ := exists_frameRun hh hn h
    rw [hrun.yields.pictures_eq, hrun.yields.session_eq]
    exact ⟨rfl, rfl⟩

/-- **A frame that fails** hands out no picture and does not count. -/
theorem screen_of_cycle_error (h : (cycle s).result = .error e) :
    (cycle s).session.screen = { s.screen with grid := (cycle s).session.screen.grid } ∧
      (cycle s).transcript.deliveries = [] := by
  rcases s.cycle_refused_or_runs with ⟨e', he⟩ | ⟨n, hh, hn⟩
  · rw [he]
    exact ⟨rfl, rfl⟩
  · cases hb : (batch n.toNat s).result with
    | error e' =>
      obtain ⟨l, t, g, hstop⟩ := batch_result_eq_error_iff.1 hb
      have hcycle := cycle_yields_error hh hn hstop.batch_yields
      rw [hcycle.session_eq, hcycle.pictures_eq]
      exact ⟨rfl, rfl⟩
    | ok u =>
      obtain ⟨l, t, g, -, -, -, hbatch⟩ := exists_path_of_batch hb
      have hend : (endFrame (s.reach t g)).result = .error e := by
        have hcycle := ((cycle_yields_iff hh hn).1 (yields_self cycle s)).result_eq
        rw [bind_of_ok hbatch.result_eq, hbatch.session_eq] at hcycle
        exact hcycle.trans h
      have hcycle := (cycle_yields_iff hh hn).2 (hbatch.andThen (endFrame_yields_error hend))
      rw [hcycle.session_eq, hcycle.pictures_eq]
      exact ⟨rfl, rfl⟩

/-! ### Several frames -/

/-- The session after the host ran `n` frames one by one, some of which may have failed. -/
def afterFrames (s : Session) (n : Nat) : Session :=
  s.after (List.replicate n .cycle)

theorem afterFrames_succ (s : Session) (n : Nat) :
    s.afterFrames (n + 1) = (cycle s).session.afterFrames n := by
  rw [afterFrames, List.replicate_succ, after_cycle]
  rfl

/-- Of `n` frames in a row, the first `k` succeed. Either these are all, or the next one fails. In
the end the result is `r` and the session is `t`, as if the host had run the frames one by one. -/
structure Stops (s : Session) (n k : Nat) (r : Except Error Unit) (t : Session) : Prop where
  /-- The frames before succeed. -/
  succeed : ∀ j < k, (cycle (s.afterFrames j)).result = .ok ()
  /-- All frames succeeded, or the next one fails, and so do the frames together. -/
  stop : k = n ∧ r = .ok () ∧ t = s.afterFrames n ∨
    k < n ∧ ∃ e, (cycle (s.afterFrames k)).result = .error e ∧ r = .error e ∧
      t = s.afterFrames (k + 1)

/-- The pictures of the first `k` frames, the pixels that each of them left. -/
def picturesBehind (s : Session) (k : Nat) : List PixelGrid :=
  (List.range k).map fun j => (s.afterFrames (j + 1)).screen.grid

theorem picturesBehind_succ (s : Session) (k : Nat) :
    s.picturesBehind (k + 1) =
      (cycle s).session.screen.grid :: (cycle s).session.picturesBehind k := by
  simp only [picturesBehind, List.range_succ_eq_map, List.map_cons, List.map_map, afterFrames_succ,
    Function.comp_def]
  rfl

theorem stops_zero {n : Nat} (h : (cycle s).result = .error e) :
    s.Stops (n + 1) 0 (.error e) (cycle s).session where
  succeed := fun j hj => absurd hj (Nat.not_lt_zero j)
  stop := .inr ⟨Nat.succ_pos n, e, h, rfl, (s.afterFrames_succ 0).symm⟩

theorem Stops.succ {n k : Nat} {r : Except Error Unit} {t : Session}
    (h : (cycle s).result = .ok ()) (hrest : (cycle s).session.Stops n k r t) :
    s.Stops (n + 1) (k + 1) r t where
  succeed := by
    rintro (_ | j) hj
    · exact h
    · rw [afterFrames_succ]
      exact hrest.succeed j (Nat.lt_of_succ_lt_succ hj)
  stop := by
    have hstop := hrest.stop
    simp only [afterFrames_succ] at hstop ⊢
    rcases hstop with ⟨rfl, hr⟩ | ⟨hlt, hfails⟩
    · exact .inl ⟨rfl, hr⟩
    · exact .inr ⟨Nat.succ_lt_succ hlt, hfails⟩

/-- **Several frames** run up to the first that fails. Each that succeeds counts itself and hands
its picture to a listener that is attached once. -/
theorem exists_stops_cycles {name : String} (hname : s.screen.listeners.count name = 1) (n : Nat) :
    ∃ k, s.Stops n k (cycles n s).result (cycles n s).session ∧
      (cycles n s).session.screen.frames = s.screen.frames + k ∧
      picturesFor name (cycles n s).transcript.deliveries = s.picturesBehind k := by
  induction n generalizing s with
  | zero => exact ⟨0, ⟨nofun, .inl ⟨rfl, rfl, rfl⟩⟩, rfl, rfl⟩
  | succ n ih =>
    rw [cycles]
    cases hr : (cycle s).result with
    | error e =>
      obtain ⟨hscreen, hdeliveries⟩ := screen_of_cycle_error hr
      rw [bind_of_error hr]
      refine ⟨0, stops_zero hr, ?_, ?_⟩
      · rw [hscreen]
        rfl
      · rw [hdeliveries]
        rfl
    | ok u =>
      obtain ⟨hscreen, hdeliveries⟩ := screen_of_cycle hr
      have hname' : (cycle s).session.screen.listeners.count name = 1 := by
        rw [hscreen]
        exact hname
      obtain ⟨k, hstops, hframes, hpictures⟩ := ih hname'
      rw [bind_of_ok hr]
      refine ⟨k + 1, hstops.succ hr, ?_, ?_⟩
      · rw [hframes, hscreen, Nat.add_right_comm]
        rfl
      · change picturesFor name ((cycle s).transcript.deliveries ++ _) = _
        rw [picturesFor_append, hdeliveries, picturesFor_map, hname, hpictures,
          picturesBehind_succ]
        rfl

/-- **Frames can be cut in two.** -/
theorem cycles_add (a b : Nat) : cycles (a + b) = cycles a >>= fun _ => cycles b := by
  induction a with
  | zero => rw [Nat.zero_add, cycles, pure_bind]
  | succ a ih => rw [Nat.succ_add_eq_add_succ, Nat.add_succ, cycles, cycles, bind_assoc, ih]

theorem runFrames_natCast (n : Nat) : runFrames n = cycles n := by
  rw [runFrames, if_neg (by omega), Int.toNat_natCast]

/-- **Recording frames.** A recorder is attached once to the screen. Of `n` frames in a row some `k`
succeed, all of them or up to the first that fails. The screen counts `k` frames more, and the
recorder holds the newest of the pictures that it held and of those that the `k` frames left. To run
`a` frames and then `b` more is to run `a + b`, for the result, for the session and for the record.
A negative number of frames is refused, and nothing changes. -/
theorem runFrames_records {r : Recorder} {name : String}
    (hname : s.screen.listeners.count name = 1) (hfits : r.Fits) :
    (∀ n : Nat, ∃ k, s.Stops n k (runFrames n s).result (runFrames n s).session ∧
      (runFrames n s).session.screen.frames = s.screen.frames + k ∧
      (r.receive name (runFrames n s).transcript.deliveries).frames =
        r.newest (r.frames ++ s.picturesBehind k)) ∧
    (∀ (a b : Nat) (first second both : Outcome Unit), first = runFrames a s →
      second = runFrames b first.session → both = runFrames (a + b : Nat) s →
        (∀ e, first.result = .error e → both = first) ∧
        (first.result = .ok () →
          both.result = second.result ∧ both.session = second.session ∧
          r.receive name both.transcript.deliveries =
            (r.receive name first.transcript.deliveries).receive name
              second.transcript.deliveries)) ∧
    ∀ n : Int, n < 0 → runFrames n s = ⟨.error (.misuse (.negativeFrames n)), s, {}⟩ := by
  refine ⟨fun n => ?_, ?_, fun n hn => ?_⟩
  · rw [runFrames_natCast]
    obtain ⟨k, hstops, hframes, hpictures⟩ := exists_stops_cycles hname n
    refine ⟨k, hstops, hframes, ?_⟩
    rw [Recorder.frames_receive hfits, hpictures]
  · rintro a b first second both rfl rfl rfl
    rw [runFrames_natCast, runFrames_natCast, runFrames_natCast, cycles_add]
    refine ⟨fun e he => ?_, fun hok => ?_⟩
    · rw [bind_of_error he, ← he]
    · rw [bind_of_ok hok]
      exact ⟨rfl, rfl, r.receive_append name _ _⟩
  · rw [runFrames, if_pos hn]
    rfl

end

/-- A session with a recorder that draws a row of its own program in its second frame, and fails in
its third. -/
def recorded : Session :=
  { ofProgram [0xA2, 0x00, 0xD0, 0x01, 0x00, 0xEE] 1 with
    screen := FrameBuffer.screen.attach "recorder" }

set_option maxRecDepth 40000 in
/-- Of three frames two succeed. A recorder that keeps two pictures drops the one that it held. -/
theorem runFrames_records_recorded :
    recorded.screen.listeners.count "recorder" = 1 ∧
      ({ capacity := some 2, frames := [.dark 1 1] } : Recorder).Fits ∧
      (runFrames 3 recorded).result = .error (.fault .emptyStack) ∧
      (runFrames 3 recorded).session.screen.frames = 2 ∧
      (({ capacity := some 2, frames := [.dark 1 1] } : Recorder).receive "recorder"
          (runFrames 3 recorded).transcript.deliveries).frames =
        [.dark screenWidth screenHeight, (recorded.afterFrames 2).screen.grid] := by
  have hname : recorded.screen.listeners.count "recorder" = 1 := by decide
  have hfits : ({ capacity := some 2, frames := [.dark 1 1] } : Recorder).Fits := by
    simp [Recorder.Fits]
  obtain ⟨k, hstops, hframes, hrecord⟩ := (runFrames_records hname hfits).1 3
  have hfirst : (cycle (recorded.afterFrames 0)).result = .ok () := rfl
  have hsecond : (cycle (recorded.afterFrames 1)).result = .ok () := rfl
  have hthird : (cycle (recorded.afterFrames 2)).result = .error (.fault .emptyStack) := rfl
  have hk : k = 2 := by
    rcases hstops.stop with ⟨rfl, -⟩ | ⟨hlt, e, he, -⟩
    · cases hthird.symm.trans (hstops.succeed 2 (by decide))
    · obtain rfl | rfl | rfl : k = 0 ∨ k = 1 ∨ k = 2 := by omega
      · cases hfirst.symm.trans he
      · cases hsecond.symm.trans he
      · rfl
  subst hk
  obtain ⟨-, e, he, hresult, -⟩ := hstops.stop.resolve_left (by simp)
  cases hthird.symm.trans he
  exact ⟨hname, hfits, hresult, hframes, hrecord⟩

end Session

end Chip8
