import Asymptote.Proofs.Pattern.Search

/-! # What patterns fit
A pattern fits a stretch of text between what stands in front of it and what comes behind. The
matcher finds exactly the stretches that fit: it answers only with one, and it answers if there is
one that what comes behind accepts. -/
namespace Asymptote

namespace Text

variable {P : Text → Text → Prop} {c : Char} {rest : Text}

theorem forall_split_cons : (∀ before behind, c :: rest = before ++ behind → P before behind) ↔
    P [] (c :: rest) ∧ ∀ before behind, rest = before ++ behind → P (c :: before) behind := by
  simp only [List.cons_eq_append_iff]
  constructor
  · intro h
    exact ⟨h [] _ (.inl ⟨rfl, rfl⟩), fun before behind hsplit =>
      h (c :: before) behind (.inr ⟨before, rfl, hsplit⟩)⟩
  · rintro ⟨hhere, hlater⟩ before behind (⟨rfl, rfl⟩ | ⟨before, rfl, hsplit⟩)
    · exact hhere
    · exact hlater before behind hsplit

theorem exists_split_cons : (∃ before behind, c :: rest = before ++ behind ∧ P before behind) ↔
    P [] (c :: rest) ∨ ∃ before behind, rest = before ++ behind ∧ P (c :: before) behind := by
  simp only [List.cons_eq_append_iff]
  constructor
  · rintro ⟨before, behind, ⟨rfl, rfl⟩ | ⟨before, rfl, hsplit⟩, h⟩
    · exact .inl h
    · exact .inr ⟨before, behind, hsplit, h⟩
  · rintro (h | ⟨before, behind, hsplit, h⟩)
    · exact ⟨[], _, .inl ⟨rfl, rfl⟩, h⟩
    · exact ⟨c :: before, behind, .inr ⟨before, rfl, hsplit⟩, h⟩

end Text

/-- The place in a text between what stands in front of it and what comes behind. -/
def Cursor.between (front back : Text) : Cursor :=
  ⟨front.getLast?, back, front.length⟩

namespace Cursor

variable {front text back : Text}

theorem start_eq (t : Text) : start t = between [] t :=
  rfl

theorem upTo_between :
    (between front (text ++ back)).upTo (between (front ++ text) back) = text := by
  simp [upTo, between]

theorem between_cons (front : Text) (c : Char) (back : Text) :
    (⟨some c, back, (between front (c :: back)).index + 1⟩ : Cursor) =
      between (front ++ [c]) back := by
  simp [between]

end Cursor

namespace Pattern

variable {α : Type} {p q : Pattern} {front text back ahead : Text} {kept groups : Groups}

open Cursor (between)

inductive Repeats (fits : Text → Text → Text → Groups → Prop) : Text → Text → Text → Groups → Prop
  | done (front back : Text) : Repeats fits front [] back []
  | again {front text more back : Text} {kept later : Groups} (hne : text ≠ [])
      (first : fits front text (more ++ back) kept)
      (others : Repeats fits (front ++ text) more back later) :
      Repeats fits front (text ++ more) back (later ++ kept)

/-- The pattern fits the text between front and back and keeps these groups, the latest first. -/
def Fits : Pattern → Text → Text → Text → Groups → Prop
  | empty, _, text, _, kept => text = [] ∧ kept = []
  | one among, _, text, _, kept => (∃ c, among.has c = true ∧ text = [c]) ∧ kept = []
  | run among _, _, text, _, kept => (∀ c ∈ text, among.has c = true) ∧ kept = []
  | textStart, front, text, _, kept => front = [] ∧ text = [] ∧ kept = []
  | textEnd, _, text, back, kept => back = [] ∧ text = [] ∧ kept = []
  | edge, front, text, back, kept => (between front back).atEdge = true ∧ text = [] ∧ kept = []
  | seq p q, front, text, back, kept => ∃ first second keptFirst keptSecond,
      text = first ++ second ∧ kept = keptSecond ++ keptFirst ∧
        Fits p front first (second ++ back) keptFirst ∧
          Fits q (front ++ first) second back keptSecond
  | either p q, front, text, back, kept => Fits p front text back kept ∨ Fits q front text back kept
  | many p, front, text, back, kept => Repeats (Fits p) front text back kept
  | group number p, front, text, back, kept =>
      ∃ inner, kept = (number, text) :: inner ∧ Fits p front text back inner

/-! ## The matcher answers with a fit -/

def Found (fits : Text → Text → Text → Groups → Prop) (k : Continuation α) (groups : Groups)
    (front ahead : Text) (a : α) : Prop :=
  ∃ text back kept, ahead = text ++ back ∧ fits front text back kept ∧
    k (between (front ++ text) back) (kept ++ groups) = some a

section

variable {k : Continuation α} {a : α}

theorem Found.here {fits : Text → Text → Text → Groups → Prop}
    (h : k (between front ahead) groups = some a) (hfits : fits front [] ahead []) :
    Found fits k groups front ahead a :=
  ⟨[], ahead, [], rfl, hfits, by simpa using h⟩

theorem Found.cons {among : CharClass} {lazy : Bool} {c : Char} (hc : among.has c = true)
    (h : Found (run among lazy).Fits k groups (front ++ [c]) ahead a) :
    Found (run among lazy).Fits k groups front (c :: ahead) a := by
  obtain ⟨text, back, kept, rfl, ⟨hclass, rfl⟩, hk⟩ := h
  refine ⟨c :: text, back, [], rfl, ⟨List.forall_mem_cons.mpr ⟨hc, hclass⟩, rfl⟩, ?_⟩
  simpa using hk

theorem found_of_run {among : CharClass} {lazy : Bool}
    (h : match? (run among lazy) k (between front ahead) groups = some a) :
    Found (run among lazy).Fits k groups front ahead a := by
  induction ahead generalizing front with
  | nil =>
    rw [between, match?_run_nil] at h
    exact .here h ⟨by simp, rfl⟩
  | cons c rest ih =>
    rw [between, match?_run_cons] at h
    rcases eq_some_of_firstOf h with h | h
    · exact .here h ⟨by simp, rfl⟩
    · split_ifs at h with hc
      exact .cons hc (ih (by simpa [between] using h))

theorem found_of_mostRepetitions {step : Continuation α → Continuation α}
    {fits : Text → Text → Text → Groups → Prop}
    (hstep : ∀ k front ahead groups, step k (between front ahead) groups = some a →
      Found fits k groups front ahead a) {bound : Text}
    (h : mostRepetitions step k bound (between front ahead) groups = some a) :
    Found (Repeats fits) k groups front ahead a := by
  induction bound generalizing front ahead groups with
  | nil => exact .here h (.done front ahead)
  | cons c bound ih =>
    rw [mostRepetitions] at h
    split at h
    next again hagain =>
      cases h
      obtain ⟨text, back, kept, rfl, hfits, hk⟩ := hstep _ _ _ _ hagain
      dsimp only at hk
      split_ifs at hk with hstay
      obtain ⟨more, back, later, rfl, hothers, hk⟩ := ih hk
      have hne : text ≠ [] := by
        rintro rfl
        simp at hstay
      refine ⟨text ++ more, back, later ++ kept, (List.append_assoc ..).symm,
        .again hne hfits hothers, ?_⟩
      rwa [← List.append_assoc, List.append_assoc later]
    next => exact .here h (.done front ahead)

end

theorem found_of_match? {k : Continuation α} {a : α}
    (h : match? p k (between front ahead) groups = some a) :
    Found p.Fits k groups front ahead a := by
  -- What comes behind differs from part to part of a pattern, so it stays general.
  induction p generalizing k front ahead groups with
  | empty => exact .here h ⟨rfl, rfl⟩
  | one among =>
    cases ahead with
    | nil => cases h
    | cons c rest =>
      simp only [match?, between] at h
      split_ifs at h with hc
      exact ⟨[c], rest, [], rfl, ⟨⟨c, hc, rfl⟩, rfl⟩, by simpa [between] using h⟩
  | run among lazy => exact found_of_run h
  | textStart =>
    simp only [match?] at h
    split_ifs at h with hzero
    exact .here h ⟨List.length_eq_zero_iff.mp hzero, rfl, rfl⟩
  | textEnd =>
    simp only [match?] at h
    split_ifs at h with hempty
    exact .here h ⟨List.isEmpty_iff.mp hempty, rfl, rfl⟩
  | edge =>
    simp only [match?] at h
    split_ifs at h with hedge
    exact .here h ⟨hedge, rfl, rfl⟩
  | seq p q ihp ihq =>
    obtain ⟨first, rest, keptFirst, rfl, hfirst, h⟩ := ihp h
    obtain ⟨second, back, keptSecond, rfl, hsecond, h⟩ := ihq h
    refine ⟨first ++ second, back, keptSecond ++ keptFirst, (List.append_assoc ..).symm,
      ⟨first, second, keptFirst, keptSecond, rfl, rfl, hfirst, hsecond⟩, ?_⟩
    rwa [← List.append_assoc, List.append_assoc keptSecond]
  | either p q ihp ihq =>
    rw [match?_either] at h
    obtain h | ⟨-, h⟩ := (Option.orElse_eq_some _ _ _).mp h
    · obtain ⟨text, back, kept, hahead, hfits, hk⟩ := ihp h
      exact ⟨text, back, kept, hahead, .inl hfits, hk⟩
    · obtain ⟨text, back, kept, hahead, hfits, hk⟩ := ihq h
      exact ⟨text, back, kept, hahead, .inr hfits, hk⟩
  | many p ih => exact found_of_mostRepetitions (fun k front ahead groups h => ih h) h
  | group number p ih =>
    obtain ⟨text, back, kept, rfl, hfits, hk⟩ := ih h
    dsimp only at hk
    rw [Cursor.upTo_between] at hk
    exact ⟨text, back, (number, text) :: kept, rfl, ⟨kept, rfl, hfits⟩, hk⟩

/-! ## The matcher answers where something fits -/

section

variable {k : Continuation α}

theorem isSome_run {among : CharClass} {lazy : Bool} (hclass : ∀ c ∈ text, among.has c = true)
    (hk : (k (between (front ++ text) back) groups).isSome) :
    (match? (run among lazy) k (between front (text ++ back)) groups).isSome := by
  induction text generalizing front with
  | nil =>
    rw [List.append_nil] at hk
    cases back with
    | nil => rwa [List.append_nil, between, match?_run_nil]
    | cons c rest =>
      rw [List.nil_append, between, match?_run_cons, isSome_firstOf, Bool.or_eq_true]
      exact .inl hk
  | cons c text ih =>
    obtain ⟨hc, hclass⟩ := List.forall_mem_cons.mp hclass
    have hrest := @ih (front ++ [c]) hclass (by simpa using hk)
    rw [List.cons_append, between, match?_run_cons, isSome_firstOf, if_pos hc, Bool.or_eq_true]
    exact .inr (by simpa [between] using hrest)

theorem isSome_mostRepetitions {step : Continuation α → Continuation α}
    {fits : Text → Text → Text → Groups → Prop}
    (hstep : ∀ (k : Continuation α) front text back kept groups, fits front text back kept →
      (k (between (front ++ text) back) (kept ++ groups)).isSome →
        (step k (between front (text ++ back)) groups).isSome)
    (hfits : Repeats fits front text back kept)
    (hk : (k (between (front ++ text) back) (kept ++ groups)).isSome) {bound : Text}
    (hbound : text.length ≤ bound.length) :
    (mostRepetitions step k bound (between front (text ++ back)) groups).isSome := by
  induction hfits generalizing bound groups with
  | done front back =>
    rw [List.append_nil] at hk
    cases bound with
    | nil => exact hk
    | cons c bound =>
      rw [mostRepetitions]
      split
      · rfl
      · exact hk
  | @again front text more back kept later hne first others ih =>
    have hpos := List.length_pos_iff.mpr hne
    rw [List.length_append] at hbound
    cases bound with
    | nil =>
      rw [List.length_nil] at hbound
      omega
    | cons c bound =>
      rw [List.length_cons] at hbound
      rw [mostRepetitions]
      split
      next => rfl
      next hagain =>
        rw [List.append_assoc] at hagain
        refine absurd hagain (Option.isSome_iff_ne_none.mp (hstep _ _ _ _ _ _ first ?_))
        rw [if_neg (by simp [between, hne])]
        refine ih ?_ (by omega)
        rwa [List.append_assoc, ← List.append_assoc later]

end

theorem isSome_match? {k : Continuation α} (hfits : p.Fits front text back kept)
    (hk : (k (between (front ++ text) back) (kept ++ groups)).isSome) :
    (match? p k (between front (text ++ back)) groups).isSome := by
  induction p generalizing k front text back kept groups with
  | empty =>
    obtain ⟨rfl, rfl⟩ := hfits
    simpa [match?] using hk
  | one among =>
    obtain ⟨⟨c, hc, rfl⟩, rfl⟩ := hfits
    simpa [match?, between, hc] using hk
  | run among lazy =>
    obtain ⟨hclass, rfl⟩ := hfits
    exact isSome_run hclass hk
  | textStart =>
    obtain ⟨rfl, rfl, rfl⟩ := hfits
    simpa [match?, between] using hk
  | textEnd =>
    obtain ⟨rfl, rfl, rfl⟩ := hfits
    simpa [match?, between] using hk
  | edge =>
    obtain ⟨hedge, rfl, rfl⟩ := hfits
    simpa [match?, hedge] using hk
  | seq p q ihp ihq =>
    obtain ⟨first, second, keptFirst, keptSecond, rfl, rfl, hfirst, hsecond⟩ := hfits
    rw [match?, List.append_assoc]
    refine ihp hfirst (ihq hsecond ?_)
    rwa [List.append_assoc, ← List.append_assoc keptSecond]
  | either p q ihp ihq =>
    rw [match?_either]
    rcases hfits with hfits | hfits
    · simp [ihp hfits hk]
    · simp [ihq hfits hk]
  | many p ih =>
    exact isSome_mostRepetitions (fun k front text back kept groups => ih) hfits hk
      (by simp [between])
  | group number p ih =>
    obtain ⟨inner, rfl, hfits⟩ := hfits
    refine ih hfits ?_
    rwa [Cursor.upTo_between]

end Pattern

/-! ## Searching -/

theorem Match.group_eq_lookup {m : Match} {kept : Groups} (h : m.groups = kept) (number : Nat) :
    m.group number = (kept.lookup number).getD [] := by
  rw [group, group?, h]

structure Match.Stands (m : Match) (p : Pattern) (front back : Text) : Prop where
  start : m.start = .between front (m.text ++ back)
  stop : m.stop = .between (front ++ m.text) back
  fits : p.Fits front m.text back m.groups

namespace Pattern

variable {p : Pattern} {front text back ahead t : Text} {kept : Groups} {m : Match}

open Cursor (between)

theorem stands_of_at? (h : p.at? (between front ahead) = some m) :
    ∃ back, ahead = m.text ++ back ∧ m.Stands p front back := by
  obtain ⟨text, back, kept, rfl, hfits, hm⟩ := found_of_match? h
  cases hm
  have htext : Match.text ⟨between front (text ++ back), between (front ++ text) back, kept ++ []⟩ =
      text := Cursor.upTo_between
  refine ⟨back, by rw [htext], by rw [htext], by rw [htext], ?_⟩
  rw [htext]
  simpa using hfits

theorem stands_of_at?_append (h : p.at? (between front (m.text ++ back)) = some m) :
    m.Stands p front back := by
  obtain ⟨rest, hrest, hstands⟩ := stands_of_at? h
  rwa [List.append_cancel_left hrest]

theorem isSome_at?_iff : (p.at? (between front ahead)).isSome ↔
    ∃ text back kept, ahead = text ++ back ∧ p.Fits front text back kept := by
  constructor
  · intro h
    obtain ⟨m, hm⟩ := Option.isSome_iff_exists.mp h
    obtain ⟨back, hahead, hstands⟩ := stands_of_at? hm
    exact ⟨m.text, back, m.groups, hahead, hstands.fits⟩
  · rintro ⟨text, back, kept, rfl, hfits⟩
    exact isSome_match? hfits rfl

theorem from?_between_nil (front : Text) :
    p.from? front.getLast? front.length [] = p.at? (between front []) :=
  rfl

theorem from?_between_cons (front : Text) (c : Char) (rest : Text) :
    p.from? front.getLast? front.length (c :: rest) =
      (p.at? (between front (c :: rest)) <|>
        p.from? (front ++ [c]).getLast? (front ++ [c]).length rest) := by
  rw [from?_cons]
  simp [between]

/-- The match is the first one in a text: it stands behind places at which nothing matches. -/
structure ComesFirst (p : Pattern) (front skipped back : Text) (m : Match) : Prop where
  found : p.at? (between (front ++ skipped) (m.text ++ back)) = some m
  skips : ∀ before behind, skipped = before ++ behind → behind ≠ [] →
    p.at? (between (front ++ before) (behind ++ (m.text ++ back))) = none

namespace ComesFirst

variable {skipped : Text}

theorem here (h : p.at? (between front (m.text ++ back)) = some m) :
    ComesFirst p front [] back m where
  found := by rwa [List.append_nil]
  skips before behind hskipped hne := absurd (List.append_eq_nil_iff.mp hskipped.symm).2 hne

theorem later {c : Char} (h : ComesFirst p (front ++ [c]) skipped back m)
    (hnone : p.at? (between front (c :: (skipped ++ (m.text ++ back)))) = none) :
    ComesFirst p front (c :: skipped) back m where
  found := by simpa using h.found
  skips := by
    rw [Text.forall_split_cons]
    exact ⟨fun _ => by simpa using hnone, by simpa using h.skips⟩

end ComesFirst

theorem comesFirst_of_from? (h : p.from? front.getLast? front.length ahead = some m) :
    ∃ skipped back, ahead = skipped ++ (m.text ++ back) ∧ ComesFirst p front skipped back m := by
  induction ahead generalizing front with
  | nil =>
    obtain ⟨back, hahead, -⟩ := stands_of_at? h
    exact ⟨[], back, hahead, .here (hahead ▸ h)⟩
  | cons c rest ih =>
    rw [from?_between_cons] at h
    obtain h | ⟨hnone, h⟩ := (Option.orElse_eq_some _ _ _).mp h
    · obtain ⟨back, hahead, -⟩ := stands_of_at? h
      exact ⟨[], back, hahead, .here (hahead ▸ h)⟩
    · obtain ⟨skipped, back, rfl, hfirst⟩ := ih h
      exact ⟨c :: skipped, back, rfl, hfirst.later hnone⟩

theorem from?_eq_none_iff : p.from? front.getLast? front.length ahead = none ↔
    ∀ before behind, ahead = before ++ behind →
      p.at? (between (front ++ before) behind) = none := by
  induction ahead generalizing front with
  | nil =>
    rw [from?_between_nil]
    simp
  | cons c rest ih =>
    rw [from?_between_cons, Option.orElse_eq_none, ih, Text.forall_split_cons]
    simp

theorem occursIn_iff : p.occursIn t = true ↔
    ∃ front text back kept, t = front ++ (text ++ back) ∧ p.Fits front text back kept := by
  have hnone : p.find? t = none ↔ ∀ before behind, t = before ++ behind →
      p.at? (between before behind) = none := by
    simpa [find?] using @from?_eq_none_iff p [] t
  rw [occursIn, ← Option.ne_none_iff_isSome, ne_eq, hnone]
  constructor
  · intro h
    push Not at h
    obtain ⟨front, ahead, rfl, hsome⟩ := h
    obtain ⟨text, back, kept, rfl, hfits⟩ := isSome_at?_iff.mp (Option.ne_none_iff_isSome.mp hsome)
    exact ⟨front, text, back, kept, rfl, hfits⟩
  · rintro ⟨front, text, back, kept, rfl, hfits⟩ h
    have hsome := isSome_at?_iff.mpr ⟨text, back, kept, rfl, hfits⟩
    rw [h front _ rfl] at hsome
    cases hsome

theorem stands_of_find? (h : p.find? t = some m) :
    ∃ front back, t = front ++ (m.text ++ back) ∧ m.Stands p front back := by
  obtain ⟨front, back, rfl, hfirst⟩ := @comesFirst_of_from? p [] t m h
  exact ⟨front, back, rfl, stands_of_at?_append hfirst.found⟩

theorem mem_allFrom_cases {fuel : Nat} {last : Option Nat}
    (h : m ∈ p.allFrom (fuel + 1) (between front ahead) last) :
    ∃ first, p.from? front.getLast? front.length ahead = some first ∧
      (m = first ∨ (∃ last, m ∈ p.allFrom fuel first.stop last) ∨
        ∃ c rest last, first.stop.ahead = c :: rest ∧
          m ∈ p.allFrom fuel ⟨some c, rest, first.stop.index + 1⟩ last) := by
  simp only [allFrom, between] at h
  split at h
  · cases h
  next first hfirst =>
    refine ⟨first, hfirst, ?_⟩
    have hcons {ms : List Match}
        (h : m ∈ if last = some first.stop.index then ms else first :: ms) :
        m = first ∨ m ∈ ms := by
      split at h
      · exact .inr h
      · exact List.mem_cons.mp h
    split at h
    next =>
      cases hahead : first.stop.ahead with
      | nil =>
        simp only [hahead] at h
        rcases hcons h with rfl | h
        · exact .inl rfl
        · cases h
      | cons c rest =>
        simp only [hahead] at h
        exact (hcons h).imp_right fun h => .inr ⟨c, rest, _, rfl, h⟩
    next => exact (List.mem_cons.mp h).imp_right fun h => .inl ⟨_, h⟩

theorem at?_of_mem_allFrom {fuel : Nat} {last : Option Nat}
    (h : m ∈ p.allFrom fuel (between front ahead) last) :
    ∃ before back, ahead = before ++ (m.text ++ back) ∧
      p.at? (between (front ++ before) (m.text ++ back)) = some m := by
  induction fuel generalizing front ahead last with
  | zero => cases h
  | succ fuel ih =>
    obtain ⟨first, hfound, hm⟩ := mem_allFrom_cases h
    obtain ⟨skipped, back, rfl, hfirst⟩ := comesFirst_of_from? hfound
    rw [(stands_of_at?_append hfirst.found).stop] at hm
    rcases hm with rfl | ⟨last, hm⟩ | ⟨c, rest, last, hrest, hm⟩
    · exact ⟨skipped, back, rfl, hfirst.found⟩
    · obtain ⟨before, back, rfl, hlater⟩ := ih hm
      exact ⟨skipped ++ (first.text ++ before), back, by simp, by simpa using hlater⟩
    · cases (show back = c :: rest from hrest)
      rw [Cursor.between_cons] at hm
      obtain ⟨before, back, rfl, hlater⟩ := ih hm
      exact ⟨skipped ++ (first.text ++ c :: before), back, by simp, by simpa using hlater⟩

theorem at?_of_mem_findAll (h : m ∈ p.findAll t) : ∃ front back, t = front ++ (m.text ++ back) ∧
    p.at? (between front (m.text ++ back)) = some m := by
  rw [findAll, Cursor.start_eq] at h
  simpa using at?_of_mem_allFrom h

/-! ## Ways to write patterns -/

section

variable {q : Pattern} {kind kind' : Text → Prop}

theorem fits_append : (p ++ q).Fits front text back kept ↔
    ∃ first second keptFirst keptSecond, text = first ++ second ∧
      kept = keptSecond ++ keptFirst ∧ p.Fits front first (second ++ back) keptFirst ∧
        q.Fits (front ++ first) second back keptSecond :=
  Iff.rfl

theorem fits_edge_append : (edge ++ p).Fits front text back kept ↔
    (between front (text ++ back)).atEdge = true ∧ p.Fits front text back kept := by
  rw [fits_append]
  constructor
  · rintro ⟨_, _, _, _, rfl, rfl, ⟨hedge, rfl, rfl⟩, hp⟩
    exact ⟨hedge, by simpa using hp⟩
  · rintro ⟨hedge, hp⟩
    exact ⟨[], text, [], kept, rfl, by simp, ⟨hedge, rfl, rfl⟩, by simpa using hp⟩

theorem fits_append_edge : (p ++ edge).Fits front text back kept ↔
    p.Fits front text back kept ∧ (between (front ++ text) back).atEdge = true := by
  rw [fits_append]
  constructor
  · rintro ⟨first, _, _, _, rfl, rfl, hp, hedge, rfl, rfl⟩
    simpa using ⟨hp, hedge⟩
  · rintro ⟨hp, hedge⟩
    exact ⟨text, [], kept, [], by simp, rfl, hp, hedge, rfl, rfl⟩

structure Describes (p : Pattern) (kind : Text → Prop) : Prop where
  fits_iff : ∀ {front text back kept}, p.Fits front text back kept ↔ kind text ∧ kept = []

namespace Describes

theorem fits_append (hq : q.Describes kind) : (p ++ q).Fits front text back kept ↔
    ∃ first last, text = first ++ last ∧ kind last ∧ p.Fits front first (last ++ back) kept := by
  rw [Pattern.fits_append]
  constructor
  · rintro ⟨first, last, _, _, rfl, rfl, hp, hlast⟩
    obtain ⟨hkind, rfl⟩ := hq.fits_iff.mp hlast
    exact ⟨first, last, rfl, hkind, hp⟩
  · rintro ⟨first, last, rfl, hkind, hp⟩
    exact ⟨first, last, kept, [], rfl, rfl, hp, hq.fits_iff.mpr ⟨hkind, rfl⟩⟩

theorem fits_append_group (hq : q.Describes kind) {number : Nat} :
    (p ++ group number q).Fits front text back kept ↔ ∃ first last inner, text = first ++ last ∧
      kind last ∧ kept = (number, last) :: inner ∧ p.Fits front first (last ++ back) inner := by
  rw [Pattern.fits_append]
  constructor
  · rintro ⟨first, last, inner, _, rfl, rfl, hp, _, rfl, hlast⟩
    obtain ⟨hkind, rfl⟩ := hq.fits_iff.mp hlast
    exact ⟨first, last, inner, rfl, hkind, rfl, hp⟩
  · rintro ⟨first, last, inner, rfl, hkind, rfl, hp⟩
    exact ⟨first, last, inner, [(number, last)], rfl, rfl, hp, [], rfl,
      hq.fits_iff.mpr ⟨hkind, rfl⟩⟩

theorem append (hp : p.Describes kind) (hq : q.Describes kind') : (p ++ q).Describes fun t =>
    ∃ first last, t = first ++ last ∧ kind first ∧ kind' last where
  fits_iff {front text back kept} := by
    rw [hq.fits_append]
    constructor
    · rintro ⟨first, last, rfl, hlast, hfirst⟩
      obtain ⟨hkind, rfl⟩ := hp.fits_iff.mp hfirst
      exact ⟨⟨first, last, rfl, hkind, hlast⟩, rfl⟩
    · rintro ⟨⟨first, last, rfl, hkind, hlast⟩, rfl⟩
      exact ⟨first, last, rfl, hlast, hp.fits_iff.mpr ⟨hkind, rfl⟩⟩

theorem either (hp : p.Describes kind) (hq : q.Describes kind') :
    (either p q).Describes fun t => kind t ∨ kind' t where
  fits_iff := (or_congr hp.fits_iff hq.fits_iff).trans or_and_right.symm

theorem opt (hp : p.Describes kind) : (opt p).Describes fun t => kind t ∨ t = [] :=
  hp.either ⟨Iff.rfl⟩

end Describes

theorem describes_one (among : CharClass) :
    (one among).Describes fun t => ∃ c, among.has c = true ∧ t = [c] :=
  ⟨Iff.rfl⟩

theorem describes_any (among : CharClass) :
    (any among).Describes fun t => ∀ c ∈ t, among.has c = true :=
  ⟨Iff.rfl⟩

theorem describes_ws : ws.Describes fun t => ∀ c ∈ t, Text.isBlank c = true :=
  ⟨Iff.rfl⟩

theorem describes_some1 (among : CharClass) :
    (some1 among).Describes fun t => t ≠ [] ∧ ∀ c ∈ t, among.has c = true where
  fits_iff {front text back kept} := by
    rw [some1, fits_append]
    cases text with
    | nil => simp [Fits]
    | cons c text => simp [Fits, and_assoc, and_comm]

theorem describes_literal (s : String) : (literal s).Describes (· = s.toList) where
  fits_iff {front text back kept} := by
    rw [literal]
    induction s.toList generalizing front text back kept with
    | nil => rfl
    | cons c cs ih => simp [Fits, ih]

theorem fits_append_spaced (s : String) : (p ++ spaced s).Fits front text back kept ↔
    ∃ first gap gap', text = first ++ (gap ++ s.toList ++ gap') ∧
      (∀ c ∈ gap, Text.isBlank c = true) ∧ (∀ c ∈ gap', Text.isBlank c = true) ∧
        p.Fits front first (gap ++ s.toList ++ gap' ++ back) kept := by
  have hspaced := (describes_ws.append (describes_literal s)).append describes_ws
  rw [spaced, hspaced.fits_append]
  constructor
  · rintro ⟨first, _, rfl, ⟨_, gap', rfl, ⟨gap, _, rfl, hgap, rfl⟩, hgap'⟩, hp⟩
    exact ⟨first, gap, gap', rfl, hgap, hgap', hp⟩
  · rintro ⟨first, gap, gap', rfl, hgap, hgap', hp⟩
    exact ⟨first, _, rfl, ⟨_, gap', rfl, ⟨gap, _, rfl, hgap, rfl⟩, hgap'⟩, hp⟩

theorem describes_anyOf (words : List String) (hne : words ≠ []) :
    (anyOf (words.map literal)).Describes fun t => ∃ s ∈ words, t = s.toList := by
  induction words with
  | nil => exact absurd rfl hne
  | cons s words ih =>
    cases words with
    | nil => simpa [anyOf] using describes_literal s
    | cons s' words => simpa [anyOf] using (describes_literal s).either (ih (by simp))

end

end Pattern
end Asymptote
