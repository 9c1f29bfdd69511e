import Asymptote.Snippet
import Mathlib.Data.List.Infix

/-! # Brackets
Brackets of all kinds are counted together. A scan for the bracket that closes one goes on as long
as the closing brackets it has met do not outnumber the opening ones; there is a first place where
they do, or the whole text stays open. -/
namespace Asymptote.Snippet

variable {c : Char} {depth : Nat} {t front read rest : Text}

def openers (t : Text) : Nat :=
  t.countP isOpener

def closers (t : Text) : Nat :=
  t.countP isCloser

/-- Up to no place of the text are more than `depth` brackets closed that are not opened in it. -/
def StaysOpen (depth : Nat) (t : Text) : Prop :=
  ∀ front, front <+: t → closers front ≤ depth + openers front

@[simp] theorem openers_nil : openers [] = 0 := rfl

@[simp] theorem closers_nil : closers [] = 0 := rfl

@[simp] theorem openers_append (t u : Text) : openers (t ++ u) = openers t + openers u :=
  List.countP_append

@[simp] theorem closers_append (t u : Text) : closers (t ++ u) = closers t + closers u :=
  List.countP_append

theorem openers_cons (c : Char) (t : Text) :
    openers (c :: t) = (if isOpener c then 1 else 0) + openers t := by
  rw [openers, List.countP_cons, Nat.add_comm, openers]

theorem closers_cons (c : Char) (t : Text) :
    closers (c :: t) = (if isCloser c then 1 else 0) + closers t := by
  rw [closers, List.countP_cons, Nat.add_comm, closers]

theorem openers_of_blank {t : Text} (h : ∀ c ∈ t, Text.isBlank c = true) : openers t = 0 :=
  List.countP_eq_zero.mpr fun c hc => by
    simp [Text.eq_of_isBlank (f := isOpener) (a := false) (by decide) (h c hc)]

theorem closers_of_blank {t : Text} (h : ∀ c ∈ t, Text.isBlank c = true) : closers t = 0 :=
  List.countP_eq_zero.mpr fun c hc => by
    simp [Text.eq_of_isBlank (f := isCloser) (a := false) (by decide) (h c hc)]

theorem isCloser_eq_false_of_isOpener (h : isOpener c = true) : isCloser c = false := by
  simp only [isOpener, Bool.or_eq_true, decide_eq_true_eq] at h
  rcases h with (rfl | rfl) | rfl <;> decide

theorem isOpener_eq_false_of_isCloser (h : isCloser c = true) : isOpener c = false := by
  rw [← Bool.not_eq_true]
  intro hopener
  rw [isCloser_eq_false_of_isOpener hopener] at h
  cases h

theorem staysOpen_nil (depth : Nat) : StaysOpen depth [] := by
  intro front hfront
  simp [List.prefix_nil.mp hfront]

theorem StaysOpen.of_prefix (h : StaysOpen depth t) (hfront : front <+: t) :
    StaysOpen depth front :=
  fun _ hstart => h _ (hstart.trans hfront)

theorem staysOpen_concat_iff :
    StaysOpen depth (t ++ [c]) ↔
      StaysOpen depth t ∧ closers (t ++ [c]) ≤ depth + openers (t ++ [c]) := by
  simp only [StaysOpen, List.prefix_concat_iff, forall_eq_or_imp, and_comm]

theorem StaysOpen.tail {depth' : Nat} (h : StaysOpen depth (c :: t))
    (hdepth : depth' + (if isCloser c then 1 else 0) = depth + (if isOpener c then 1 else 0)) :
    StaysOpen depth' t := by
  intro front hfront
  have hcons := h (c :: front) (List.cons_prefix_cons.mpr ⟨rfl, hfront⟩)
  rw [closers_cons, openers_cons] at hcons
  omega

/-! ## The scan for the bracket that closes -/

theorem uptoClose_zero_cons (hc : isCloser c = true) : uptoClose 0 (c :: rest) = [] := by
  have hopener : isOpener c = false := isOpener_eq_false_of_isCloser hc
  simp [uptoClose, hopener, hc]

theorem uptoClose_cons {depth' : Nat}
    (hdepth : depth' + (if isCloser c then 1 else 0) = depth + (if isOpener c then 1 else 0)) :
    uptoClose depth (c :: rest) = c :: uptoClose depth' rest := by
  by_cases hopener : isOpener c = true
  · obtain rfl : depth' = depth + 1 := by
      simpa [hopener, isCloser_eq_false_of_isOpener hopener] using hdepth
    simp [uptoClose, hopener]
  · by_cases hcloser : isCloser c = true
    · obtain rfl : depth' + 1 = depth := by simpa [hopener, hcloser] using hdepth
      simp [uptoClose, hopener, hcloser]
    · obtain rfl : depth' = depth := by simpa [hopener, hcloser] using hdepth
      simp [uptoClose, hopener, hcloser]

/-- Over what stays open the scan goes on. Behind it those brackets are open that the scan began
with or that were opened, less those that were closed. -/
theorem uptoClose_append (h : StaysOpen depth read) (rest : Text) :
    uptoClose depth (read ++ rest) =
      read ++ uptoClose (depth + openers read - closers read) rest := by
  induction read generalizing depth with
  | nil => simp
  | cons c read ih =>
    have hle := h [c] (by simp)
    rw [closers_cons, openers_cons, closers_nil, openers_nil] at hle
    obtain ⟨depth', hdepth⟩ := Nat.exists_eq_add_of_le' hle
    rw [List.cons_append, uptoClose_cons hdepth.symm, ih (h.tail hdepth.symm), openers_cons,
      closers_cons, List.cons_append]
    congr 3
    omega

theorem staysOpen_or_exists_first (t : Text) :
    StaysOpen 0 t ∨ ∃ front c rest, t = front ++ c :: rest ∧ StaysOpen 0 front ∧
      openers (front ++ [c]) < closers (front ++ [c]) := by
  induction t using List.reverseRecOn with
  | nil => exact .inl (staysOpen_nil 0)
  | append_singleton t d ih =>
    rcases ih with hopen | ⟨front, c, rest, rfl, hfront, hmore⟩
    · by_cases hmore : closers (t ++ [d]) ≤ 0 + openers (t ++ [d])
      · exact .inl (staysOpen_concat_iff.mpr ⟨hopen, hmore⟩)
      · exact .inr ⟨t, d, [], rfl, hopen, by omega⟩
    · exact .inr ⟨front, c, rest ++ [d], by simp, hfront, hmore⟩

theorem StaysOpen.isCloser_of_lt (h : StaysOpen 0 front)
    (hmore : openers (front ++ [c]) < closers (front ++ [c])) :
    isCloser c = true ∧ closers front = openers front := by
  have hfront := h front (List.prefix_refl front)
  rw [openers_append, closers_append, openers_cons, closers_cons] at hmore
  simp only [openers_nil, closers_nil] at hmore
  split_ifs at hmore with hopener hcloser hcloser
  · omega
  · omega
  · exact ⟨hcloser, by omega⟩
  · omega

end Asymptote.Snippet
