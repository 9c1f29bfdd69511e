import Asymptote.Proofs.Text.Case

/-! # Lowered characters
What a character is lowered to is lowered itself. The counterparts of a letter or digit are letters
or digits, but for the dot that a dotted capital I leaves behind its small letter. -/
namespace Asymptote.Text

variable {c d : Char} {s t : Text}

/-! ## Runs of the table -/

namespace CaseRun

def firstImage (run : CaseRun) : ℕ := (run.first + run.shift).toNat

def lastImage (run : CaseRun) : ℕ := (run.last + run.shift).toNat

def IsImage (run : CaseRun) (n : ℕ) : Prop :=
  run.firstImage ≤ n ∧ n ≤ run.lastImage ∧ (n - run.firstImage) % run.stride = 0

def leadsToChars (run : CaseRun) : Bool :=
  0 ≤ run.first + run.shift &&
    (run.lastImage.blt 0xd800 || Nat.blt 0xdfff run.firstImage && run.lastImage.blt 0x110000)

def landsInLetters (run : CaseRun) : Bool :=
  Nat.ble 128 run.firstImage &&
    (run.lastImage.blt 'İ'.toNat || Nat.blt 'İ'.toNat run.firstImage) &&
    Table.alphabetic.any fun r => r.1.ble run.firstImage && run.lastImage.ble r.2

/-- No counterpart of the run `a` is in the run `b`: they lie apart, or take turns. -/
def misses (a b : CaseRun) : Bool :=
  b.last.blt a.firstImage || a.lastImage.blt b.first ||
    (a.first == a.last || a.stride % b.stride == 0) &&
      a.firstImage % b.stride != b.first % b.stride

variable {run a b : CaseRun}

theorem isImage_of_lowered? (hchars : run.leadsToChars = true) (h : run.lowered? c = some d) :
    run.IsImage d.toNat := by
  rw [lowered?] at h
  split_ifs at h with hc
  obtain ⟨hfirst, hlast, hstride⟩ := hc
  simp only [leadsToChars, Bool.and_eq_true, Bool.or_eq_true, decide_eq_true_eq, Nat.blt_eq,
    firstImage, lastImage] at hchars
  have hvalid : (c.toNat + run.shift : ℤ).toNat.isValidChar := by
    rw [Nat.isValidChar]
    omega
  have hdistance : (c.toNat + run.shift : ℤ).toNat - (run.first + run.shift : ℤ).toNat =
      c.toNat - run.first := by omega
  rw [← Option.some.inj h, Char.toNat_ofNat, if_pos hvalid, IsImage, firstImage, lastImage,
    hdistance]
  exact ⟨by omega, by omega, hstride⟩

theorem lowered?_eq_none_of_misses (hmisses : a.misses b = true) (hd : a.IsImage d.toNat) :
    b.lowered? d = none := by
  rw [lowered?, if_neg]
  rintro ⟨hfirst, hlast, hstride⟩
  obtain ⟨hlow, hhigh, himage⟩ := hd
  have hturn : b.first % b.stride = d.toNat % b.stride :=
    (Nat.modEq_iff_dvd' hfirst).mpr (Nat.dvd_of_mod_eq_zero hstride)
  simp only [misses, Bool.or_eq_true, Bool.and_eq_true, Nat.blt_eq, beq_iff_eq, bne_iff_ne]
    at hmisses
  rcases hmisses with (hbelow | habove) | ⟨hsteps, hturns⟩
  · omega
  · omega
  · -- In steps of the stride of b, d takes the turn of both first ones, which are not the same.
    rcases hsteps with hone | hdvd
    · have hsame : d.toNat = a.firstImage := by
        rw [firstImage, hone] at hlow ⊢
        exact Nat.le_antisymm hhigh hlow
      exact hturns (hsame ▸ hturn.symm)
    · have himages : a.firstImage % b.stride = d.toNat % b.stride :=
        (Nat.modEq_iff_dvd' hlow).mpr
          ((Nat.dvd_of_mod_eq_zero hdvd).trans (Nat.dvd_of_mod_eq_zero himage))
      exact hturns (himages.trans hturn.symm)

/-- What is checked of each run of the table. The Kelvin sign alone lowers to an ASCII letter. -/
def settles (run : CaseRun) : Bool :=
  run.leadsToChars &&
    (run.landsInLetters || run.firstImage == 'k'.toNat && run.lastImage == 'k'.toNat) &&
    Table.lowercase.all run.misses

theorem settles_lowercase : ∀ run ∈ Table.lowercase, run.settles = true :=
  List.all_eq_true.mp (by decide +kernel)

end CaseRun

/-! ## Characters -/

open CaseRun

theorem isAlphanumeric_congr (h : c.toLower = d.toLower) :
    isAlphanumeric c = isAlphanumeric d :=
  eq_of_toLower_eq (by decide) h

theorem lowered_of_findSome? (h : Table.lowercase.findSome? (·.lowered? c) = some d) :
    lowerChar d = [d] ∧ isAlphabetic d = true := by
  obtain ⟨run, hrun, hlowered⟩ := List.exists_of_findSome?_eq_some h
  have hsettles := settles_lowercase run hrun
  simp only [settles, Bool.and_eq_true, Bool.or_eq_true, beq_iff_eq, List.all_eq_true] at hsettles
  obtain ⟨⟨hchars, hletters⟩, hmisses⟩ := hsettles
  have himage := isImage_of_lowered? hchars hlowered
  have hnone : Table.lowercase.findSome? (·.lowered? d) = none :=
    List.findSome?_eq_none_iff.mpr fun b hb => lowered?_eq_none_of_misses (hmisses b hb) himage
  obtain ⟨hlow, hhigh, -⟩ := himage
  rcases hletters with hletters | ⟨hfirst, hlast⟩
  · simp only [landsInLetters, Bool.and_eq_true, Bool.or_eq_true, Nat.ble_eq, Nat.blt_eq,
      List.any_eq_true] at hletters
    obtain ⟨⟨hascii, hdotted⟩, r, hr, hstart, hend⟩ := hletters
    have hbeyond : ¬ d.toNat < 128 := by omega
    have hne : d ≠ 'İ' := by
      rintro rfl
      omega
    refine ⟨by rw [lowerChar, if_neg hbeyond, if_neg hne, hnone, Option.getD_none], ?_⟩
    rw [isAlphabetic, splitAscii, if_neg hbeyond]
    exact List.any_eq_true.mpr ⟨r, hr, by simp [hstart.trans hlow, hhigh.trans hend]⟩
  · have hkelvin : d = 'k' := Char.toNat_inj.mp (by omega)
    rw [hkelvin]
    decide

/-- The dot above. It is neither letter nor digit, and a dotted capital I leaves it behind its small
letter. -/
def combiningDot : Char := Char.ofNat 0x307

set_option maxRecDepth 2000 in
theorem isAlphanumeric_combiningDot : isAlphanumeric combiningDot = false := by decide

theorem lowerChar_dotted : lowerChar 'İ' = ['i', combiningDot] := by decide

theorem exists_lowerChar_eq (h : c ≠ 'İ') :
    ∃ d, lowerChar c = [d] ∧ lowerChar d = [d] ∧
      (isAlphanumeric c = true → isAlphanumeric d = true) := by
  by_cases hascii : c.toNat < 128
  · have hagain := Char.toLower_toLower_eq_toLower c
    have hlower : lowerChar c = [c.toLower] := if_pos hascii
    refine ⟨c.toLower, hlower, by rw [lowerChar_congr hagain, hlower], fun hc => ?_⟩
    rwa [isAlphanumeric_congr hagain]
  · have hlower : lowerChar c = [(Table.lowercase.findSome? (·.lowered? c)).getD c] := by
      rw [lowerChar, if_neg hascii, if_neg h]
    cases himage : Table.lowercase.findSome? (·.lowered? c) with
    | none =>
      rw [himage, Option.getD_none] at hlower
      exact ⟨c, hlower, hlower, id⟩
    | some d =>
      rw [himage, Option.getD_some] at hlower
      obtain ⟨hd, halphabetic⟩ := lowered_of_findSome? himage
      exact ⟨d, hlower, hd, fun _ => by rw [isAlphanumeric, halphabetic, Bool.true_or]⟩

theorem lowerChar_of_mem_lowerChar (h : d ∈ lowerChar c) : lowerChar d = [d] := by
  by_cases hc : c = 'İ'
  · rw [hc, lowerChar_dotted, List.mem_pair] at h
    rcases h with rfl | rfl <;> decide
  · obtain ⟨image, hlower, himage, -⟩ := exists_lowerChar_eq hc
    rw [hlower, List.mem_singleton] at h
    rw [h, himage]

theorem isAlphanumeric_iff_of_mem_lowerChar (hc : isAlphanumeric c = true)
    (h : d ∈ lowerChar c) : isAlphanumeric d = true ↔ d ≠ combiningDot := by
  refine ⟨fun hd hdot => by simp [hdot, isAlphanumeric_combiningDot] at hd, fun hne => ?_⟩
  by_cases hdotted : c = 'İ'
  · rw [hdotted, lowerChar_dotted, List.mem_pair] at h
    rw [h.resolve_right hne]
    decide
  · obtain ⟨image, hlower, -, halphanumeric⟩ := exists_lowerChar_eq hdotted
    rw [hlower, List.mem_singleton] at h
    rw [h]
    exact halphanumeric hc

theorem combiningDot_mem_lowerChar_iff (hc : isAlphanumeric c = true) :
    combiningDot ∈ lowerChar c ↔ c = 'İ' := by
  constructor
  · intro hdot
    by_contra hdotted
    obtain ⟨image, hlower, -, halphanumeric⟩ := exists_lowerChar_eq hdotted
    rw [hlower, List.mem_singleton] at hdot
    have himage := halphanumeric hc
    rw [← hdot, isAlphanumeric_combiningDot] at himage
    cases himage
  · rintro rfl
    decide

theorem exists_alphanumeric_mem_lowerChar (hc : isAlphanumeric c = true) :
    ∃ d ∈ lowerChar c, isAlphanumeric d = true := by
  by_cases hdotted : c = 'İ'
  · exact ⟨'i', by simp [hdotted, lowerChar_dotted], by decide⟩
  · obtain ⟨image, hlower, -, halphanumeric⟩ := exists_lowerChar_eq hdotted
    exact ⟨image, by simp [hlower], halphanumeric hc⟩

theorem flatMap_lowerChar_eq_self (h : ∀ c ∈ t, lowerChar c = [c]) : t.flatMap lowerChar = t := by
  induction t with
  | nil => rfl
  | cons c t ih =>
    obtain ⟨hc, ht⟩ := List.forall_mem_cons.mp h
    rw [List.flatMap_cons, hc, ih ht, List.singleton_append]

end Asymptote.Text
