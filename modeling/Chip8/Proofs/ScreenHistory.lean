import Mathlib.Algebra.BigOperators.Group.Multiset.Basic
import Mathlib.Data.List.DropRight
import Mathlib.Data.List.Perm.Subperm
import Chip8.Device.History
import Chip8.Proofs.Toggles

/-!
# The history of a screen

A screen is dark when it is made. The picture that it shows after a history of calls depends only on
the pixels that were inverted since it was last cleared, in any order: a pixel is lit if it was
inverted an odd number of times. The listeners are those that were attached, in this order, without
those that were detached. Since a refused call changes nothing, only the calls that were not refused
count for the latter.

## Main definitions

* `Chip8.FrameBuffer.strokes`, `Chip8.FrameBuffer.inversions` : the pixels inverted since the screen
  was last cleared.
* `Chip8.FrameBuffer.accepted` : the calls of a history that are not refused.
* `Chip8.FrameBuffer.attached`, `Chip8.FrameBuffer.detached` : the listeners that came and went.

## Main results

* `Chip8.PixelGrid.litCount_eq_count_text` : the text of a grid shows as many pixels as are lit.
* `Chip8.FrameBuffer.grid_after` : the picture after a history.
* `Chip8.FrameBuffer.listeners_after` : the listeners after a history.
* `Chip8.FrameBuffer.shown_by_history` : both, with what each call returns and hands out.
-/

namespace Chip8

/-! ### The text of a grid -/

namespace PixelGrid

theorem count_intercalate {α : Type} [BEq α] [LawfulBEq α] {a : α} {separator : List α}
    (ha : a ∉ separator) (l : List (List α)) :
    (separator.intercalate l).count a = (l.map (List.count a)).sum := by
  induction l with
  | nil => rfl
  | cons first l ih =>
    cases l with
    | nil => simp
    | cons second l =>
      rw [List.intercalate_cons_cons, List.count_append, List.count_append, ih,
        List.count_eq_zero.2 ha, Nat.add_zero]
      rfl

/-- Pairs are counted by their first components or by their second ones. -/
theorem sum_countP_comm (l m : List Nat) (r : Nat → Nat → Bool) :
    (l.map fun a => m.countP fun b => r a b).sum =
      (m.map fun b => l.countP fun a => r a b).sum := by
  have hsum : ∀ (l : List Nat) (s : Nat → Bool), l.countP s = (l.map fun a => (s a).toNat).sum := by
    intro l s
    induction l with
    | nil => rfl
    | cons a l ih => cases hs : s a <;> simp [hs, ih, Nat.add_comm]
  simp only [hsum]
  exact Multiset.sum_map_sum_map (l : Multiset Nat) (m : Multiset Nat)

theorem litCount_eq_sum (g : PixelGrid) :
    g.litCount =
      ((List.range g.width).map fun p => (List.range g.height).countP fun q => g.lit p q).sum := by
  have hcolumns : g.columns.toList.map (fun column => column.toList.count true) =
      (List.range g.width).map fun p => (List.range g.height).countP fun q => g.lit p q := by
    refine List.ext_getElem (by simp) fun p hp _ => ?_
    rw [List.length_map, Vector.length_toList] at hp
    have hcolumn : g.columns[p].toList = (List.range g.height).map fun q => g.lit p q := by
      refine List.ext_getElem (by simp) fun q hq _ => ?_
      rw [Vector.length_toList] at hq
      simp [lit_eq_getElem g hp hq]
    simp only [List.getElem_map, Vector.getElem_toList, List.getElem_range, hcolumn, List.count,
      List.countP_map]
    exact List.countP_congr fun q _ => by simp
  rw [litCount, List.count_flatMap, ← hcolumns]
  rfl

theorem count_line (g : PixelGrid) (q : Nat) :
    (g.line q).toList.count '#' = (List.range g.width).countP fun p => g.lit p q := by
  rw [line, String.toList_ofList, List.count, List.countP_map]
  refine List.countP_congr fun p _ => ?_
  cases hlit : g.lit p q <;> simp [hlit]

/-- **The text of a grid shows as many pixels as are lit.** The pixels are stored by columns and
shown by rows. -/
theorem litCount_eq_count_text (g : PixelGrid) : g.litCount = g.text.toList.count '#' := by
  have hrows : g.text.toList.count '#' =
      ((List.range g.height).map fun q => (List.range g.width).countP fun p => g.lit p q).sum := by
    rw [text, String.toList_intercalate, count_intercalate (by decide), lines, List.map_map,
      List.map_map]
    exact congrArg List.sum (List.map_congr_left fun q _ => g.count_line q)
  rw [litCount_eq_sum, hrows, sum_countP_comm]

end PixelGrid

/-! ### What a history comes to -/

namespace ScreenCall

/-- The coordinates of the pixel that a call inverts. -/
def stroke? : ScreenCall → Option (Int × Int)
  | .toggle x y => some (x, y)
  | _ => none

/-- The listener that a call attaches. -/
def attached? : ScreenCall → Option String
  | .attach listener => some listener
  | _ => none

/-- The listener that a call detaches. -/
def detached? : ScreenCall → Option String
  | .detach listener => some listener
  | _ => none

end ScreenCall

namespace FrameBuffer

variable {f : FrameBuffer} {width height : Nat} {history : List ScreenCall}

/-- The pixels that were inverted since the screen was last cleared, by their coordinates. -/
def strokes (history : List ScreenCall) : List (Int × Int) :=
  (history.rtakeWhile (· ≠ .clear)).filterMap ScreenCall.stroke?

/-- How often the pixel in column `p` and row `q` was inverted since the screen was last cleared. On
a screen of the given size the coordinates wrap around the edges. -/
def inversions (width height : Int) (history : List ScreenCall) (p q : Int) : Nat :=
  (strokes history).countP fun c => c.1 % width = p ∧ c.2 % height = q

/-- The calls of a history that are not refused. -/
def accepted (f : FrameBuffer) : List ScreenCall → List ScreenCall
  | [] => []
  | c :: l => (if (f.perform c).result.isOk then [c] else []) ++ (f.perform c).screen.accepted l

/-- The listeners that were attached, one for each time. -/
def attached (history : List ScreenCall) : List String :=
  history.filterMap ScreenCall.attached?

/-- The listeners that were detached, one for each time. -/
def detached (f : FrameBuffer) (history : List ScreenCall) : List String :=
  (f.accepted history).filterMap ScreenCall.detached?

/-! ### The picture -/

/-- A clear forgets the pixels inverted before it, and no other call inverts one but a toggle. -/
theorem strokes_concat (history : List ScreenCall) (c : ScreenCall) :
    strokes (history ++ [c]) = if c = .clear then [] else strokes history ++ c.stroke?.toList := by
  rw [strokes, List.rtakeWhile_concat]
  by_cases hc : c = .clear
  · simp [hc]
  · cases hstroke : c.stroke? <;> simp [strokes, hc, hstroke]

theorem strokes_append {stretch : List ScreenCall} (hstretch : .clear ∉ stretch) :
    strokes (history ++ stretch) = strokes history ++ stretch.filterMap ScreenCall.stroke? := by
  induction stretch using List.reverseRecOn with
  | nil => simp
  | append_singleton stretch c ih =>
    simp only [List.mem_append, List.mem_singleton, not_or] at hstretch
    rw [← List.append_assoc, strokes_concat, if_neg (Ne.symm hstretch.2), ih hstretch.1,
      List.filterMap_append, List.append_assoc]
    cases hc : c.stroke? <;> simp [hc]

/-- Calls of a history that leave the strokes before it the same up to order keep them so. -/
theorem strokes_append_perm {before before' : List ScreenCall}
    (h : (strokes before).Perm (strokes before')) (rest : List ScreenCall) :
    (strokes (before ++ rest)).Perm (strokes (before' ++ rest)) := by
  induction rest using List.reverseRecOn with
  | nil => simpa using h
  | append_singleton rest c ih =>
    rw [← List.append_assoc, ← List.append_assoc, strokes_concat, strokes_concat]
    split
    · rfl
    · exact ih.append_right _

theorem perform_toggle (hf : f.grid.HasPixels) (x y : Int) :
    f.perform (.toggle x y) =
      { result := .ok (some (f.grid.lit (x % f.grid.width).toNat (y % f.grid.height).toNat)),
        screen := { f with grid := f.grid.inverted (x, y) } } := by
  simp only [perform, toggle, PixelGrid.toggle_of_hasPixels hf]
  rfl

theorem perform_detach (f : FrameBuffer) (listener : String) :
    f.perform (.detach listener) =
      if listener ∈ f.listeners then
        { result := .ok none, screen := { f with listeners := f.listeners.erase listener } }
      else { result := .error (.misuse .noSuchListener), screen := f } := by
  by_cases h : listener ∈ f.listeners <;> simp [perform, detach, h]

section Dark

variable (hdark : f.grid = .dark width height) (hf : f.grid.HasPixels)

include hdark hf

/-- **The picture after a history.** It is the dark picture with the pixels inverted that were
inverted since the screen was last cleared. -/
theorem grid_after (history : List ScreenCall) :
    (f.after history).grid = (f.grid.toggleAll (strokes history)).grid := by
  induction history using List.reverseRecOn with
  | nil => rfl
  | append_singleton history c ih =>
    rw [after_concat, strokes_concat]
    have hpixels : (f.after history).grid.HasPixels := ih ▸ PixelGrid.hasPixels_toggleAll hf _
    cases c with
    | toggle x y =>
      rw [perform_toggle hpixels, if_neg (by simp)]
      exact (congrArg (·.inverted (x, y)) ih).trans (PixelGrid.grid_toggleAll_concat hf _ _).symm
    | clear =>
      obtain ⟨hwidth, hheight⟩ := PixelGrid.size_toggleAll hf (strokes history)
      change PixelGrid.dark (f.after history).grid.width (f.after history).grid.height = f.grid
      rw [ih, hwidth, hheight, hdark]
      rfl
    | render | attach => simpa [ScreenCall.stroke?, perform, attach, render] using ih
    | detach listener =>
      rw [perform_detach]
      split <;> simpa [ScreenCall.stroke?] using ih

omit hf in
theorem inversions_eq_hits (history : List ScreenCall) (p q : Nat) :
    inversions width height history p q = f.grid.hits (strokes history) p q := by
  rw [hdark]
  rfl

/-- **The pixels after a history.** A pixel is lit if it was inverted an odd number of times since
the screen was last cleared. -/
theorem lit_after (history : List ScreenCall) (p q : Nat) :
    (f.after history).grid.lit p q = decide (Odd (inversions width height history p q)) := by
  rw [grid_after hdark hf, PixelGrid.lit_toggleAll hf, inversions_eq_hits hdark, hdark,
    PixelGrid.lit_dark, Bool.false_xor]

/-- A toggle returns whether the pixel that it inverts was lit. -/
theorem result_toggle_after (history : List ScreenCall) (x y : Int) :
    ((f.after history).perform (.toggle x y)).result =
      .ok (some (decide (Odd (inversions width height history (x % width) (y % height))))) := by
  obtain ⟨hwidth, hheight⟩ := PixelGrid.size_toggleAll hf (strokes history)
  rw [← grid_after hdark hf] at hwidth hheight
  have hpixels : (f.after history).grid.HasPixels := by
    rw [grid_after hdark hf]
    exact PixelGrid.hasPixels_toggleAll hf _
  rw [perform_toggle hpixels, lit_after hdark hf, hwidth, hheight, (PixelGrid.toNat_emod hf.1 x).2,
    (PixelGrid.toNat_emod hf.2 y).2, hdark]
  rfl

/-- **The order of the strokes between two clears makes no difference to the picture.** -/
theorem grid_after_of_perm {stretch stretch' : List ScreenCall} (hstretch : .clear ∉ stretch)
    (hperm : stretch.Perm stretch') (before rest : List ScreenCall) :
    (f.after (before ++ stretch ++ rest)).grid = (f.after (before ++ stretch' ++ rest)).grid := by
  rw [grid_after hdark hf, grid_after hdark hf]
  refine PixelGrid.grid_toggleAll_of_perm hf (strokes_append_perm ?_ rest)
  rw [strokes_append hstretch, strokes_append (mt hperm.mem_iff.2 hstretch)]
  exact (hperm.filterMap _).append_left _

end Dark

/-! ### The listeners -/

theorem accepted_concat (f : FrameBuffer) (history : List ScreenCall) (c : ScreenCall) :
    f.accepted (history ++ [c]) =
      f.accepted history ++ if ((f.after history).perform c).result.isOk then [c] else [] := by
  induction history generalizing f with
  | nil => exact List.append_nil _
  | cons d history ih =>
    rw [List.cons_append, accepted, accepted, ih, List.append_assoc]
    rfl

theorem attached_concat (history : List ScreenCall) (c : ScreenCall) :
    attached (history ++ [c]) = attached history ++ c.attached?.toList := by
  rw [attached, List.filterMap_append]
  rfl

theorem detached_concat (f : FrameBuffer) (history : List ScreenCall) (c : ScreenCall) :
    f.detached (history ++ [c]) = f.detached history ++
      if ((f.after history).perform c).result.isOk then c.detached?.toList else [] := by
  rw [detached, accepted_concat, List.filterMap_append]
  split <;> rfl

theorem concat_diff {l m : List String} (h : m.Subperm l) (a : String) :
    (l ++ [a]).diff m = l.diff m ++ [a] := by
  induction m generalizing l with
  | nil => rfl
  | cons b m ih =>
    rw [List.diff_cons, List.diff_cons, List.erase_append_left _ (h.subset List.mem_cons_self)]
    exact ih (by simpa using h.erase b)

theorem concat_subperm {l m : List String} (h : m.Subperm l) {a : String} (ha : a ∈ l.diff m) :
    (m ++ [a]).Subperm l := by
  refine List.subperm_ext_iff.2 fun b _ => ?_
  have hleft := List.count_pos_iff.2 ha
  rw [List.count_diff] at hleft
  rw [List.count_append, List.count_singleton]
  split
  case isTrue hab =>
    obtain rfl := eq_of_beq hab
    omega
  case isFalse => exact h.count_le b

/-- **The listeners after a history.** A screen that starts without listeners has those that were
attached, without those that were detached. No more were detached than attached. -/
theorem listeners_after (hf : f.listeners = []) (history : List ScreenCall) :
    (f.after history).listeners = (attached history).diff (f.detached history) ∧
      (f.detached history).Subperm (attached history) := by
  induction history using List.reverseRecOn with
  | nil => exact ⟨hf, List.Subperm.refl _⟩
  | append_singleton history c ih =>
    obtain ⟨hlisteners, hsub⟩ := ih
    rw [after_concat, attached_concat, detached_concat]
    cases c with
    | toggle x y =>
      have hkeeps : ((f.after history).perform (.toggle x y)).screen.listeners =
          (f.after history).listeners := by
        simp only [perform, toggle]
        cases (f.after history).grid.toggle x y <;> rfl
      simpa [hkeeps, ScreenCall.attached?, ScreenCall.detached?] using ⟨hlisteners, hsub⟩
    | clear | render =>
      simpa [ScreenCall.attached?, ScreenCall.detached?] using ⟨hlisteners, hsub⟩
    | attach listener =>
      have hmore : (attached history).Subperm (attached history ++ [listener]) :=
        (List.sublist_append_left ..).subperm
      refine ⟨?_, by simpa [ScreenCall.attached?, ScreenCall.detached?] using hsub.trans hmore⟩
      simp [ScreenCall.attached?, ScreenCall.detached?, perform, attach, hlisteners,
        concat_diff hsub]
    | detach listener =>
      rw [perform_detach]
      split
      case isTrue hpresent =>
        -- What is still listed can be taken once more, so nothing is detached that is not there.
        have htaken := concat_subperm hsub (hlisteners ▸ hpresent)
        simpa [ScreenCall.attached?, ScreenCall.detached?, Except.isOk, Except.toBool, hlisteners,
          List.diff_append] using htaken
      case isFalse =>
        simpa [ScreenCall.attached?, ScreenCall.detached?, Except.isOk, Except.toBool]
          using ⟨hlisteners, hsub⟩

/-- As often as a listener was attached, it was detached or is still attached. -/
theorem count_listeners_after (hf : f.listeners = []) (history : List ScreenCall)
    (listener : String) :
    (f.after history).listeners.count listener + (f.detached history).count listener =
      (attached history).count listener := by
  obtain ⟨hlisteners, hsub⟩ := listeners_after hf history
  rw [hlisteners, List.count_diff, Nat.sub_add_cancel (hsub.count_le listener)]

theorem result_detach_eq_error_iff (listener : String) :
    (f.perform (.detach listener)).result = .error (.misuse .noSuchListener) ↔
      f.listeners.count listener = 0 := by
  rw [perform_detach, List.count_eq_zero]
  split
  case isTrue h => simp [h]
  case isFalse h => simp [h]

theorem perform_of_error {c : ScreenCall} {e : Error} (h : (f.perform c).result = .error e) :
    (f.perform c).screen = f ∧ (f.perform c).deliveries = [] := by
  cases c with
  | clear | render | attach => cases h
  | toggle x y =>
    simp only [perform] at h ⊢
    split at h
    · exact ⟨rfl, rfl⟩
    · cases h
  | detach listener =>
    rw [perform_detach] at h ⊢
    by_cases hpresent : listener ∈ f.listeners
    · rw [if_pos hpresent] at h
      cases h
    · rw [if_neg hpresent]
      exact ⟨rfl, rfl⟩

/-! ### Both together -/

/-- **What a screen does in any history** of calls, refused ones included. A pixel is lit exactly if
it was inverted an odd number of times since the screen was last cleared, where coordinates wrap
around the edges, and a toggle returns whether it was before. The text shows as many pixels as are
lit. A rendered picture is handed to the listeners in the order in which they were attached, to each
as often as it was attached and not detached. To detach one that is not attached is refused. A
refused call leaves the screen as it is, and calls that stand between two clears can be made in
another order. -/
theorem shown_by_history {width height : Int} (hwidth : 1 ≤ width) (hheight : 1 ≤ height) :
    ∃ f, ofSize width height = .ok f ∧
      (∀ history,
        (∀ p q : Nat, (f.after history).grid.lit p q = true ↔
          Odd (inversions width height history p q)) ∧
        (∀ x y, ((f.after history).perform (.toggle x y)).result =
          .ok (some (decide (Odd (inversions width height history (x % width) (y % height)))))) ∧
        (f.after history).grid.litCount = (f.after history).grid.text.toList.count '#' ∧
        ((f.after history).perform .render).deliveries =
          ((attached history).diff (f.detached history)).map
            (fun listener => ⟨listener, (f.after history).grid⟩) ∧
        ∀ listener,
          ((attached history).diff (f.detached history)).count listener +
              (f.detached history).count listener = (attached history).count listener ∧
          (((f.after history).perform (.detach listener)).result =
              .error (.misuse .noSuchListener) ↔
            (attached history).count listener = (f.detached history).count listener)) ∧
      (∀ before stretch stretch' rest, .clear ∉ stretch → stretch.Perm stretch' →
        (f.after (before ++ stretch ++ rest)).grid =
          (f.after (before ++ stretch' ++ rest)).grid) ∧
      ∀ history c e, ((f.after history).perform c).result = .error e →
        ((f.after history).perform c).screen = f.after history ∧
          ((f.after history).perform c).deliveries = [] := by
  obtain ⟨width, rfl⟩ := Int.eq_ofNat_of_zero_le (show 0 ≤ width by omega)
  obtain ⟨height, rfl⟩ := Int.eq_ofNat_of_zero_le (show 0 ≤ height by omega)
  let f : FrameBuffer := { grid := .dark width height }
  have hpixels : f.grid.HasPixels := ⟨by simp only [f, PixelGrid.dark]; omega,
    by simp only [f, PixelGrid.dark]; omega⟩
  refine ⟨f, by simp [ofSize, f], fun history => ⟨?_, ?_, ?_, ?_, ?_⟩, ?_, ?_⟩
  · intro p q
    rw [lit_after rfl hpixels, decide_eq_true_iff]
  · exact result_toggle_after rfl hpixels history
  · exact PixelGrid.litCount_eq_count_text _
  · rw [← (listeners_after rfl history).1]
    rfl
  · intro listener
    have hcount := count_listeners_after (f := f) rfl history listener
    rw [result_detach_eq_error_iff, ← (listeners_after rfl history).1]
    exact ⟨hcount, by omega⟩
  · exact fun before stretch stretch' rest hstretch hperm =>
      grid_after_of_perm rfl hpixels hstretch hperm before rest
  · exact fun history c e => perform_of_error

/-- A history in which one pixel is inverted by three pairs of coordinates, and a listener that was
attached twice is detached once. -/
def wrapped : List ScreenCall :=
  [.toggle 0 0, .attach "a", .clear, .toggle (-1) (-1), .attach "b", .toggle 7 5, .attach "a",
    .detach "c", .detach "a", .toggle (-5) 2]

/-- The pixel is lit, the one inverted before the clear is not, and the listener that is attached
once more is told last. -/
theorem shown_by_history_wrapped :
    ∃ f, ofSize 4 3 = .ok f ∧ (f.after wrapped).grid.lit 3 2 = true ∧
      (f.after wrapped).grid.lit 0 0 = false ∧
      ((f.after wrapped).perform (.toggle (-1) 2)).result = .ok (some true) ∧
      ((f.after wrapped).perform .render).deliveries.map (·.listener) = ["b", "a"] ∧
      ((f.after wrapped).perform (.detach "c")).screen = f.after wrapped := by
  obtain ⟨f, hf, hhistory, -, hrefused⟩ :=
    @shown_by_history 4 3 (by decide) (by decide)
  obtain rfl := Except.ok.inj hf
  obtain ⟨hlit, hresult, -, hrender, hdetach⟩ := hhistory wrapped
  refine ⟨_, hf, (hlit 3 2).2 (by decide), Bool.eq_false_iff.2 fun h => ?_, ?_, ?_, ?_⟩
  · exact absurd ((hlit 0 0).1 h) (by decide)
  · rw [hresult, decide_eq_true (by decide)]
  · rw [hrender, List.map_map]
    decide +kernel
  · exact (hrefused wrapped _ _ ((hdetach "c").2.2 (by decide +kernel))).1

end FrameBuffer

end Chip8
