import Mathlib.Data.Nat.ModEq
import Chip8.Text.LetterCase

/-!
# Texts in lower case

The lower case of a text is its own lower case. The tables of the letter case settle this: no code
point that is the image of another is moved itself. Where the images of a run lie among code points
that are moved, the letters of the two cases alternate.

## Main definitions

* `Chip8.Text.CaseRun.images` : the run of the images of a run.
* `Chip8.Text.CaseRun.isApart` : two runs share no code point.
* `Chip8.Text.IsLower` : a character is its own lower case, wherever it stands.

## Main results

* `Chip8.Text.isLower_of_mem_mapCase` : the images of a character are in lower case.
* `Chip8.Text.lower_lower` : a text in lower case is its own lower case.
-/

namespace Chip8.Text

/-! ### Runs that do not meet -/

namespace CaseRun

variable {r r' : CaseRun} {code : Nat}

theorem contains_iff :
    r.contains code = true ↔ r.first ≤ code ∧ code ≤ r.last ∧ (code - r.first) % r.step = 0 := by
  simp [contains, and_assoc]

/-- A run of a single code point. -/
def single (code : Nat) : CaseRun :=
  ⟨code, code, 1, 0⟩

theorem contains_single (code : Nat) : (single code).contains code = true := by
  simp [contains, single]

/-- Two runs share no code point: the one ends before the other begins, or its places fall between
those of the other. -/
def isApart (r r' : CaseRun) : Bool :=
  r.last.blt r'.first || r'.last.blt r.first ||
    (r.step % r'.step == 0 || r.first == r.last) && r.first % r'.step != r'.first % r'.step

theorem contains_eq_false_of_isApart (h : r.isApart r' = true) (hcode : r.contains code = true) :
    r'.contains code = false := by
  obtain ⟨hfirst, hlast, hplace⟩ := contains_iff.1 hcode
  refine Bool.eq_false_iff.2 fun hcode' => ?_
  obtain ⟨hfirst', hlast', hplace'⟩ := contains_iff.1 hcode'
  simp only [isApart, Bool.or_eq_true, Bool.and_eq_true, Nat.blt_eq, beq_iff_eq, bne_iff_ne] at h
  rcases h with (h | h) | ⟨hstep, hbetween⟩
  · omega
  · omega
  · -- The code point has the remainders of both first code points.
    have hmod : code % r'.step = r.first % r'.step := by
      rcases hstep with hstep | hsingle
      · have hdvd : r'.step ∣ code - r.first :=
          (Nat.dvd_of_mod_eq_zero hstep).trans (Nat.dvd_of_mod_eq_zero hplace)
        exact ((Nat.modEq_iff_dvd' hfirst).2 hdvd).symm
      · have : code = r.first := by omega
        rw [this]
    have hmod' : code % r'.step = r'.first % r'.step :=
      ((Nat.modEq_iff_dvd' hfirst').2 (Nat.dvd_of_mod_eq_zero hplace')).symm
    exact hbetween (hmod.symm.trans hmod')

/-- The images of the code points of a run. -/
def images (r : CaseRun) : CaseRun :=
  ⟨(r.first + r.shift).toNat, (r.last + r.shift).toNat, r.step, -r.shift⟩

theorem contains_images (h : 0 ≤ r.first + r.shift) (hcode : r.contains code = true) :
    r.images.contains (code + r.shift).toNat = true := by
  obtain ⟨hfirst, hlast, hplace⟩ := contains_iff.1 hcode
  refine contains_iff.2 ⟨?_, ?_, ?_⟩
  · simp only [images]
    omega
  · simp only [images]
    omega
  · have : (code + r.shift).toNat - (r.first + r.shift).toNat = code - r.first := by omega
    simp only [images]
    rw [this, hplace]

/-- All code points of the run are those of characters. -/
def hasCharacters (r : CaseRun) : Bool :=
  r.last.blt 0xD800 || Nat.blt 0xDFFF r.first && r.last.blt 0x110000

theorem toNat_ofNat_of_contains (h : r.hasCharacters = true) (hcode : r.contains code = true) :
    (Char.ofNat code).toNat = code := by
  obtain ⟨hfirst, hlast, -⟩ := contains_iff.1 hcode
  simp only [hasCharacters, Bool.or_eq_true, Bool.and_eq_true, Nat.blt_eq] at h
  have hvalid : code.isValidChar := by
    unfold Nat.isValidChar
    omega
  rw [Char.ofNat, dif_pos hvalid]
  rfl

end CaseRun

/-- **No image is moved itself.** The images of a run are apart from all runs, and from the
characters that have several images. -/
theorem lowerRuns_isApart :
    (lowerRuns.all fun r =>
      decide (0 ≤ r.first + r.shift) && r.images.hasCharacters &&
        lowerRuns.all r.images.isApart &&
        lowerSequences.all fun entry => r.images.isApart (.single entry.1)) = true := by
  decide +kernel

/-! ### Characters in lower case -/

/-- A character is its own lower case, wherever it stands in a text. -/
def IsLower (c : Char) : Prop :=
  c ≠ 'Σ' ∧ mapCase lowerRuns lowerSequences c = [c]

instance (c : Char) : Decidable (IsLower c) :=
  inferInstanceAs (Decidable (_ ∧ _))

theorem isLower_of_apart {c : Char} (hruns : ∀ r ∈ lowerRuns, r.contains c.toNat = false)
    (hsequences : ∀ entry ∈ lowerSequences, entry.1 ≠ c.toNat) : IsLower c := by
  have hsequence : lowerSequences.lookup c.toNat = none := by
    rw [List.lookup_eq_none_iff]
    exact fun entry hentry => by simpa using (hsequences entry hentry).symm
  have hrun : (lowerRuns.find? fun run => run.contains c.toNat) = none := by
    rw [List.find?_eq_none]
    exact fun r hr => by simp [hruns r hr]
  refine ⟨?_, by simp only [mapCase, hsequence, hrun]⟩
  rintro rfl
  have hsigma : ∃ r ∈ lowerRuns, r.contains 'Σ'.toNat = true := by decide +kernel
  obtain ⟨r, hr, hcontains⟩ := hsigma
  rw [hruns r hr] at hcontains
  cases hcontains

/-- No image of a character with several images is moved or has several images itself. -/
theorem lowerSequences_isApart :
    (lowerSequences.all fun entry => entry.2.all fun code =>
      (lowerRuns.all fun r => !r.contains (Char.ofNat code).toNat) &&
        lowerSequences.all fun other => other.1 != (Char.ofNat code).toNat) = true := by
  decide +kernel

/-- **The images of a character are in lower case.** -/
theorem isLower_of_mem_mapCase {c d : Char} (hc : c ≠ 'Σ')
    (hd : d ∈ mapCase lowerRuns lowerSequences c) : IsLower d := by
  cases hsequence : lowerSequences.lookup c.toNat with
  | some codes =>
    simp only [mapCase, hsequence] at hd
    obtain ⟨code, hcode, rfl⟩ := List.mem_map.1 hd
    obtain ⟨before, behind, hentries, -⟩ := List.lookup_eq_some_iff.1 hsequence
    have hentry : (c.toNat, codes) ∈ lowerSequences :=
      hentries ▸ List.mem_append_right _ (List.mem_cons_self ..)
    have hcheck := List.all_eq_true.1 (List.all_eq_true.1 lowerSequences_isApart _ hentry) _ hcode
    simp only [Bool.and_eq_true, List.all_eq_true, Bool.not_eq_true', bne_iff_ne] at hcheck
    exact isLower_of_apart hcheck.1 hcheck.2
  | none =>
    cases hrun : lowerRuns.find? fun run => run.contains c.toNat with
    | none =>
      have himages : mapCase lowerRuns lowerSequences c = [c] := by
        simp only [mapCase, hsequence, hrun]
      rw [himages, List.mem_singleton] at hd
      rw [hd]
      exact ⟨hc, himages⟩
    | some r =>
      simp only [mapCase, hsequence, hrun, List.mem_singleton] at hd
      have hr := List.mem_of_find?_eq_some hrun
      have hcode : r.contains c.toNat = true := by simpa using List.find?_some hrun
      have hcheck := List.all_eq_true.1 lowerRuns_isApart r hr
      simp only [Bool.and_eq_true, decide_eq_true_eq] at hcheck
      obtain ⟨⟨⟨hpos, hcharacters⟩, hruns⟩, hsequences⟩ := hcheck
      -- The image lies in the run of images, which touches no run and no character with several.
      have himage := CaseRun.contains_images hpos hcode
      have hnat : d.toNat = (c.toNat + r.shift).toNat := by
        rw [hd, CaseRun.toNat_ofNat_of_contains hcharacters himage]
      rw [← hnat] at himage
      refine isLower_of_apart (fun r' hr' => ?_) fun entry hentry heq => ?_
      · exact CaseRun.contains_eq_false_of_isApart (List.all_eq_true.1 hruns r' hr') himage
      · have hapart := CaseRun.contains_eq_false_of_isApart
          (List.all_eq_true.1 hsequences entry hentry) himage
        rw [heq, CaseRun.contains_single] at hapart
        cases hapart

/-! ### Texts in lower case -/

theorem isLower_of_mem_lowerAfter {d : Char} {before l : List Char}
    (hd : d ∈ lowerAfter before l) : IsLower d := by
  induction l generalizing before with
  | nil => cases hd
  | cons c l ih =>
    rw [lowerAfter, List.mem_append] at hd
    rcases hd with hd | hd
    · by_cases hc : c = 'Σ'
      · have hfinal : IsLower 'ς' := by decide +kernel
        have hsmall : IsLower 'σ' := by decide +kernel
        rw [if_pos hc, List.mem_singleton] at hd
        rw [hd]
        split
        · exact hfinal
        · exact hsmall
      · rw [if_neg hc] at hd
        exact isLower_of_mem_mapCase hc hd
    · exact ih hd

theorem lowerAfter_eq_self {l : List Char} (h : ∀ c ∈ l, IsLower c) (before : List Char) :
    lowerAfter before l = l := by
  induction l generalizing before with
  | nil => rfl
  | cons c l ih =>
    obtain ⟨⟨hc, himages⟩, hl⟩ := List.forall_mem_cons.1 h
    rw [lowerAfter, if_neg hc, himages, ih hl, List.singleton_append]

/-- **A text in lower case is its own lower case.** -/
theorem lower_lower (s : String) : lower (lower s) = lower s := by
  rw [lower, lower, String.toList_ofList,
    lowerAfter_eq_self fun _ hc => isLower_of_mem_lowerAfter hc]

end Chip8.Text
