import Asymptote.GroundTruth.Table
import Asymptote.Proofs.Text.Case
import Asymptote.Proofs.Text.Trim

/-! # Keys of titles
The key of a title is its letters and digits in lowercase. A number in front that a separator ends
is not part of it, and neither is anything else between the letters and digits, so titles that
differ in no more than that name the same entry. -/
namespace Asymptote.GroundTruth.Title

variable {title other rest : Text} {c : Char}

structure Numbering where
  number : Text
  separator : Char
  number_ne_nil : number ≠ []
  isDigit : ∀ c ∈ number, c.isDigit = true
  isSeparator : isSeparator separator = true

def Numbering.text (n : Numbering) : Text :=
  n.number ++ [n.separator]

def IsNumbered (title : Text) : Prop :=
  ∃ (n : Numbering) (rest : Text), Text.trimStart title = n.text ++ rest

def BeginsWithDigit (title : Text) : Prop :=
  (Text.trimStart title).head?.any Char.isDigit = true

instance (title : Text) : Decidable (BeginsWithDigit title) :=
  inferInstanceAs (Decidable (_ = true))

def wording (title : Text) : Text :=
  title.filter Text.isAlphanumeric

/-! ## Characters -/

theorem isAlphanumeric_of_isDigit (h : c.isDigit = true) : Text.isAlphanumeric c = true := by
  have halphanum : c.isAlphanum = true := by simp [Char.isAlphanum, h]
  simp [Text.isAlphanumeric, Text.isNumeric, Text.splitAscii, h,
    (Text.toNat_of_isAlphanum halphanum).2]

theorem isAlphanumeric_of_isBlank (h : Text.isBlank c = true) : Text.isAlphanumeric c = false :=
  Text.eq_of_isBlank (by decide +kernel) h

theorem isAlphanumeric_of_isSeparator (h : isSeparator c = true) :
    Text.isAlphanumeric c = false := by
  simp only [isSeparator, Bool.or_eq_true, decide_eq_true_eq] at h
  rcases h with (((rfl | rfl) | rfl) | rfl) | hblank
  · decide
  · decide
  · decide
  · decide
  · exact isAlphanumeric_of_isBlank hblank

theorem isDigit_of_isSeparator (h : isSeparator c = true) : c.isDigit = false := by
  rw [← Bool.not_eq_true]
  intro hdigit
  have halphanumeric := isAlphanumeric_of_isDigit hdigit
  simp [isAlphanumeric_of_isSeparator h] at halphanumeric

/-! ## The number -/

theorem withoutNumber_numbering (n : Numbering) (rest : Text) :
    withoutNumber (n.text ++ rest) = n.separator :: rest := by
  have hdrop : (n.text ++ rest).dropWhile Char.isDigit = n.separator :: rest := by
    rw [Numbering.text, List.append_assoc, List.dropWhile_append_of_pos n.isDigit]
    simp [isDigit_of_isSeparator n.isSeparator]
  rw [withoutNumber, hdrop, if_pos]
  simp [Numbering.text, n.isSeparator, n.number_ne_nil]

theorem isNumbered_iff :
    IsNumbered title ↔ withoutNumber (Text.trimStart title) ≠ Text.trimStart title := by
  constructor
  · rintro ⟨n, rest, htitle⟩ heq
    rw [htitle, withoutNumber_numbering] at heq
    have hlength := congrArg List.length heq
    simp [Numbering.text, n.number_ne_nil] at hlength
  · intro hne
    rw [IsNumbered]
    generalize Text.trimStart title = t at hne
    have hsplit := List.takeWhile_append_dropWhile (p := Char.isDigit) (l := t)
    rw [withoutNumber] at hne
    split_ifs at hne with hnumber
    · cases hrest : t.dropWhile Char.isDigit with
      | nil => simp [hrest] at hnumber
      | cons c rest =>
        rw [hrest] at hsplit hnumber
        have hdigits : t.takeWhile Char.isDigit ≠ [] := by
          intro hnil
          rw [hnil, List.nil_append] at hsplit
          simp [← hsplit] at hnumber
        refine ⟨⟨t.takeWhile Char.isDigit, c, hdigits, fun d hd => List.mem_takeWhile_imp hd,
          by simpa using (Bool.and_eq_true _ _ ▸ hnumber).2⟩, rest, ?_⟩
        rw [Numbering.text, List.append_assoc]
        exact hsplit.symm
    · exact absurd rfl hne

instance (title : Text) : Decidable (IsNumbered title) :=
  decidable_of_iff _ isNumbered_iff.symm

theorem not_isNumbered_of_not_beginsWithDigit (h : ¬ BeginsWithDigit title) :
    ¬ IsNumbered title := by
  rintro ⟨n, rest, htitle⟩
  obtain ⟨d, ds, hnumber⟩ := List.exists_cons_of_ne_nil n.number_ne_nil
  have hdigit := n.isDigit d (by simp [hnumber])
  apply h
  simp [BeginsWithDigit, htitle, Numbering.text, hnumber, hdigit]

/-! ## Keys -/

theorem wording_trimStart (title : Text) : wording (Text.trimStart title) = wording title := by
  obtain ⟨lead, htitle, hlead⟩ := Text.exists_trimStart_eq title
  have hblanks : lead.filter Text.isAlphanumeric = [] := by
    rw [List.filter_eq_nil_iff]
    intro c hc
    simp [isAlphanumeric_of_isBlank (hlead c hc)]
  calc
    wording (Text.trimStart title)
    _ = wording (lead ++ Text.trimStart title) := by
      rw [wording, wording, List.filter_append, hblanks, List.nil_append]
    _ = wording title := congrArg wording htitle.symm

theorem normalize_of_not_isNumbered (h : ¬ IsNumbered title) :
    normalize title = (wording title).flatMap Text.lowerChar := by
  have hkeeps := not_not.mp (mt isNumbered_iff.mpr h)
  rw [normalize, hkeeps, ← wording, wording_trimStart]

theorem normalize_numbering (n : Numbering) (title : Text) :
    normalize (n.text ++ title) = (wording title).flatMap Text.lowerChar := by
  obtain ⟨d, ds, hnumber⟩ := List.exists_cons_of_ne_nil n.number_ne_nil
  have hblank : Text.isBlank d = false :=
    Text.isBlank_eq_false_of_isAlphanum (by simp [Char.isAlphanum, n.isDigit d (by simp [hnumber])])
  have htrim : Text.trimStart (n.text ++ title) = n.text ++ title := by
    simp [Text.trimStart, Numbering.text, hnumber, hblank]
  rw [normalize, htrim, withoutNumber_numbering,
    List.filter_cons_of_neg (by simp [isAlphanumeric_of_isSeparator n.isSeparator]), wording]

/-- A numbering in front of a title that has none makes no difference to its key. Titles that do not
begin with a digit have their letters and digits for a key, so two with the same letters and digits,
up to the case of ASCII letters, name the same entry of every table. -/
theorem normalize_indifferent :
    (∀ (n : Numbering) (title : Text), ¬ IsNumbered title →
      normalize (n.text ++ title) = normalize title) ∧
    (∀ title, ¬ BeginsWithDigit title →
      normalize title = (wording title).flatMap Text.lowerChar) ∧
    ∀ title other, ¬ BeginsWithDigit title → ¬ BeginsWithDigit other →
      Text.SameButCase (wording title) (wording other) →
        normalize title = normalize other ∧
          ∀ t : Table, t.byTitle? title = t.byTitle? other := by
  have hkey (title : Text) (h : ¬ BeginsWithDigit title) :=
    normalize_of_not_isNumbered (not_isNumbered_of_not_beginsWithDigit h)
  refine ⟨fun n title h => ?_, hkey, fun title other htitle hother hwording => ?_⟩
  · rw [normalize_numbering, normalize_of_not_isNumbered h]
  · have hsame : normalize title = normalize other := by
      rw [hkey title htitle, hkey other hother, hwording.flatMap_lowerChar_eq]
    exact ⟨hsame, fun t => by rw [Table.byTitle?, Table.byTitle?, hsame]⟩

def fifteenth : Numbering :=
  ⟨"15", ')', by simp, by simp, by decide⟩

/-- A number that runs into its title is part of it, and stays behind another number. -/
theorem normalize_indifferent_threeSum :
    (¬ IsNumbered "\t3Sum" ∧ normalize (fifteenth.text ++ "\t3Sum") = normalize "\t3Sum") ∧
      ¬ BeginsWithDigit "Two-Sum II" ∧ ¬ BeginsWithDigit " two sum (iI)" ∧
      Text.SameButCase (wording "Two-Sum II") (wording " two sum (iI)") ∧
      normalize "Two-Sum II" = normalize " two sum (iI)" ∧
      normalize "Two-Sum II" = "twosumii".toList := by
  obtain ⟨hnumbering, hkey, hsame⟩ := normalize_indifferent
  have hglued : ¬ IsNumbered "\t3Sum" := by decide
  have htitle : ¬ BeginsWithDigit "Two-Sum II" := by decide
  have hother : ¬ BeginsWithDigit " two sum (iI)" := by decide
  have hwording : Text.SameButCase (wording "Two-Sum II") (wording " two sum (iI)") := by
    decide
  refine ⟨⟨hglued, hnumbering fifteenth _ hglued⟩, htitle, hother, hwording,
    (hsame _ _ htitle hother hwording).1, ?_⟩
  rw [hkey _ htitle]
  decide

end Asymptote.GroundTruth.Title
