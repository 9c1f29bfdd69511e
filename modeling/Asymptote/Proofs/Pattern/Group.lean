import Asymptote.Proofs.Pattern.Fit

/-! # Where a group begins
A match keeps the texts of its groups and not their places. A pattern in which a group comes behind
all that stands in front of it falls apart there, and the match hands the place of the group from
the one part to the other. The text kept for the group stands at that place. -/
namespace Asymptote.Pattern

variable {α β : Type} {p q lead back : Pattern} {front text behind ahead : Text} {kept : Groups}
  {number : Nat} {m : Match}

open Cursor (between)

/-! ## What is made of an answer -/

section

variable (f : α → β)

theorem map_orElse (a b : Option α) : (a <|> b).map f = (a.map f <|> b.map f) := by
  simp [Option.map_or]

theorem map_firstOf (lazy : Bool) (here further : Option α) :
    (firstOf lazy here further).map f = firstOf lazy (here.map f) (further.map f) := by
  cases lazy <;> exact map_orElse f ..

theorem map_run (among : CharClass) (lazy : Bool) (k : Continuation α) (cur : Cursor)
    (groups : Groups) :
    (match? (run among lazy) k cur groups).map f =
      match? (run among lazy) (fun cur groups => (k cur groups).map f) cur groups := by
  obtain ⟨previous, ahead, index⟩ := cur
  induction ahead generalizing previous index with
  | nil => rw [match?_run_nil, match?_run_nil]
  | cons c rest ih =>
    rw [match?_run_cons, match?_run_cons, map_firstOf, apply_ite (Option.map f), ih]
    rfl

theorem mostRepetitions_cons (step : Continuation α → Continuation α) (k : Continuation α) (c : Char)
    (bound : Text) (cur : Cursor) (groups : Groups) :
    mostRepetitions step k (c :: bound) cur groups =
      (step (fun cur' groups' => if cur'.index = cur.index then none
        else mostRepetitions step k bound cur' groups') cur groups <|> k cur groups) := by
  rw [mostRepetitions]
  generalize step _ cur groups = first
  cases first <;> rfl

theorem map_mostRepetitions {step : Continuation α → Continuation α}
    {step' : Continuation β → Continuation β}
    (hstep : ∀ k cur groups, (step k cur groups).map f =
      step' (fun cur groups => (k cur groups).map f) cur groups)
    (k : Continuation α) (bound : Text) (cur : Cursor) (groups : Groups) :
    (mostRepetitions step k bound cur groups).map f =
      mostRepetitions step' (fun cur groups => (k cur groups).map f) bound cur groups := by
  induction bound generalizing cur groups with
  | nil => rfl
  | cons c bound ih =>
    rw [mostRepetitions_cons, mostRepetitions_cons, map_orElse, hstep]
    simp only [apply_ite (Option.map f), Option.map_none, ih]

end

theorem map_match? (f : α → β) (k : Continuation α) (cur : Cursor) (groups : Groups) :
    (match? p k cur groups).map f = match? p (fun cur groups => (k cur groups).map f) cur groups := by
  induction p generalizing k cur groups with
  | empty => rfl
  | one among =>
    simp only [match?]
    split
    · rfl
    · rw [apply_ite (Option.map f)]
      rfl
  | run among lazy => exact map_run f among lazy k cur groups
  | textStart | textEnd | edge => simp only [match?, apply_ite (Option.map f), Option.map_none]
  | seq p q ihp ihq => simp only [match?, ihp, ihq]
  | either p q ihp ihq => rw [match?_either, match?_either, map_orElse, ihp, ihq]
  | many p ih => exact map_mostRepetitions f (fun k cur groups => ih k cur groups) k _ cur groups
  | group number p ih => exact ih _ cur groups

/-! ## The numbers of the groups -/

def numbers : Pattern → List Nat
  | empty | one _ | run _ _ | textStart | textEnd | edge => []
  | seq p q | either p q => numbers p ++ numbers q
  | many p => numbers p
  | group number p => number :: numbers p

theorem fst_mem_numbers (h : p.Fits front text behind kept) : ∀ g ∈ kept, g.1 ∈ p.numbers := by
  induction p generalizing front text behind kept with
  | empty | one _ | run _ _ => simp [h.2]
  | textStart | textEnd | edge => simp [h.2.2]
  | seq p q ihp ihq =>
    obtain ⟨first, second, keptFirst, keptSecond, rfl, rfl, hfirst, hsecond⟩ := h
    intro g hg
    rcases List.mem_append.mp hg with hg | hg
    · exact List.mem_append_right _ (ihq hsecond g hg)
    · exact List.mem_append_left _ (ihp hfirst g hg)
  | either p q ihp ihq =>
    intro g hg
    rcases h with h | h
    · exact List.mem_append_left _ (ihp h g hg)
    · exact List.mem_append_right _ (ihq h g hg)
  | many p ih =>
    replace h : Repeats p.Fits front text behind kept := h
    induction h with
    | done => simp
    | again _ first _ ihothers =>
      intro g hg
      rcases List.mem_append.mp hg with hg | hg
      · exact ihothers g hg
      · exact ih first g hg
  | group number p ih =>
    obtain ⟨inner, rfl, h⟩ := h
    intro g hg
    rcases List.mem_cons.mp hg with rfl | hg
    · exact List.mem_cons_self
    · exact List.mem_cons_of_mem _ (ih h g hg)

theorem lookup_of_fits (h : p.Fits front text behind kept) (hnumber : number ∉ p.numbers) :
    kept.lookup number = none := by
  refine List.lookup_eq_none_iff.mpr fun g hg => ?_
  have hg' := fst_mem_numbers h g hg
  simp only [ne_eq, bne_iff_ne]
  rintro rfl
  exact hnumber hg'

/-! ## The place of a group -/

def isGroup (number : Nat) : Pattern → Bool
  | group n _ => n = number
  | _ => false

/-- What stands in front of a group, and the group with what comes behind it. There are such parts
if the group is one of the things that the pattern has in a row and nothing behind it keeps its
number. -/
def split? (number : Nat) : Pattern → Option (Pattern × Pattern)
  | seq p q =>
    if q.isGroup number then some (p, q)
    else if number ∈ q.numbers then none
    else (split? number p).map fun parts => (parts.1, seq parts.2 q)
  | _ => none

/-- The place at which a group begins, if the pattern matches from a place on: what stands in front
of the group hands it to the rest in the first way in which the rest matches too. -/
def groupStart? (number : Nat) (p : Pattern) (start : Cursor) : Option Cursor :=
  (p.split? number).bind fun (lead, back) =>
    lead.match? (fun cur groups => back.match? (fun _ _ => some cur) cur groups) start []

def BeginsWith (number : Nat) (p : Pattern) : Prop :=
  ∀ front text behind kept, p.Fits front text behind kept →
    ∃ name rest, text = name ++ rest ∧ kept.lookup number = some name

theorem beginsWith_group (number : Nat) (p : Pattern) : (group number p).BeginsWith number := by
  rintro front text behind _ ⟨inner, rfl, -⟩
  exact ⟨text, [], (List.append_nil text).symm, List.lookup_cons_self⟩

theorem BeginsWith.seq (hp : p.BeginsWith number) (hq : number ∉ q.numbers) :
    (seq p q).BeginsWith number := by
  rintro front _ behind _ ⟨first, second, keptFirst, keptSecond, rfl, rfl, hfirst, hsecond⟩
  obtain ⟨name, rest, rfl, hlookup⟩ := hp _ _ _ _ hfirst
  refine ⟨name, rest ++ second, List.append_assoc .., ?_⟩
  rw [List.lookup_append, lookup_of_fits hsecond hq, hlookup]
  rfl

theorem beginsWith_of_split? (h : p.split? number = some (lead, back)) :
    back.BeginsWith number := by
  induction p generalizing lead back with
  | seq p q ih =>
    rw [split?] at h
    split_ifs at h with hgroup hnumber
    · obtain ⟨-, rfl⟩ := Prod.mk.inj (Option.some.inj h)
      cases q with
      | group n q =>
        obtain rfl := of_decide_eq_true hgroup
        exact beginsWith_group n q
      | _ => cases hgroup
    · obtain ⟨⟨lead, back⟩, hsplit, hparts⟩ := Option.map_eq_some_iff.mp h
      obtain ⟨-, rfl⟩ := Prod.mk.inj hparts
      exact (ih hsplit).seq hnumber
  | _ => cases h

theorem match?_of_split? (h : p.split? number = some (lead, back)) (k : Continuation α)
    (cur : Cursor) (groups : Groups) :
    match? p k cur groups = match? (seq lead back) k cur groups := by
  induction p generalizing lead back k with
  | seq p q ih =>
    rw [split?] at h
    split_ifs at h
    · obtain ⟨rfl, rfl⟩ := Prod.mk.inj (Option.some.inj h)
      rfl
    · obtain ⟨⟨lead, back⟩, hsplit, hparts⟩ := Option.map_eq_some_iff.mp h
      obtain ⟨rfl, rfl⟩ := Prod.mk.inj hparts
      exact ih hsplit _
  | _ => cases h

theorem exists_groupStart? (hsplit : (p.split? number).isSome)
    (h : p.at? (between front ahead) = some m) :
    ∃ text name behind, ahead = text ++ (name ++ behind) ∧ m.group? number = some name ∧
      p.groupStart? number (between front ahead) =
        some (between (front ++ text) (name ++ behind)) := by
  obtain ⟨⟨lead, back⟩, hparts⟩ := Option.isSome_iff_exists.mp hsplit
  -- One search answers with the match and with the place; each of the two is read off it.
  let both : Option (Cursor × Match) :=
    lead.match? (fun cur groups =>
      (back.match? (finish (between front ahead)) cur groups).map (cur, ·)) (between front ahead) []
  have hmatch : both.map Prod.snd = some m := by
    rw [← h, at?, match?_of_split? hparts, match?]
    simp only [both, map_match?]
    rfl
  have hplace : both.map Prod.fst = p.groupStart? number (between front ahead) := by
    simp only [both, groupStart?, hparts, Option.bind_some, map_match?]
    rfl
  obtain ⟨⟨cur, m'⟩, hboth, rfl⟩ := Option.map_eq_some_iff.mp hmatch
  rw [hboth] at hplace
  obtain ⟨text, rest, kept, rfl, -, hback⟩ := found_of_match? hboth
  obtain ⟨m', hfound, hpair⟩ := Option.map_eq_some_iff.mp hback
  obtain ⟨rfl, rfl⟩ := Prod.mk.inj hpair
  obtain ⟨found, behind, keptBack, rfl, hfits, hm⟩ := found_of_match? hfound
  obtain ⟨name, after, rfl, hlookup⟩ := beginsWith_of_split? hparts _ _ _ _ hfits
  cases hm
  refine ⟨text, name, after ++ behind, by simp, ?_, ?_⟩
  · simp [Match.group?, List.lookup_append, hlookup]
  · rw [← hplace]
    simp

end Asymptote.Pattern
