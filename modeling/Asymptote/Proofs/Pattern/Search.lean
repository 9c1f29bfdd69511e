import Asymptote.Proofs.Pattern.BlankLine

/-! # Searching around an added blank line
A search meets the same matches in a text as in the one with a blank line more, for every pattern
that is steady, takes up something and does not begin with a blank. -/
namespace Asymptote
open Text (BlankLine)

namespace Pattern

variable {α β : Type}

/-! ## What a pattern takes up -/

def leastLength : Pattern → Nat
  | one _ => 1
  | seq p q => leastLength p + leastLength q
  | either p q => min (leastLength p) (leastLength q)
  | group _ p => leastLength p
  | many _ | run _ _ | empty | textStart | textEnd | edge => 0

def Takes (p : Pattern) (text : Text) : Prop :=
  p.leastLength ≤ text.length ∧ (p.inLine = true → '\n' ∉ text)

def Accepts (k : Continuation α) (cur : Cursor) (T : Text → Prop) (a : α) : Prop :=
  ∃ text later groups, T text ∧ cur.ahead = text ++ later.ahead ∧
    later.index = cur.index + text.length ∧ k later groups = some a

namespace Accepts

variable {k : Continuation α} {cur : Cursor} {T T' : Text → Prop} {a : α}

theorem here {groups : Groups} (h : k cur groups = some a) (hT : T []) : Accepts k cur T a :=
  ⟨[], cur, groups, hT, rfl, rfl, h⟩

theorem past {later : Cursor} (h : Accepts k later T a) {text : Text}
    (hahead : cur.ahead = text ++ later.ahead) (hindex : later.index = cur.index + text.length)
    (hT : ∀ more, T more → T' (text ++ more)) : Accepts k cur T' a := by
  obtain ⟨more, last, groups, hmore, hahead', hindex', hlast⟩ := h
  refine ⟨text ++ more, last, groups, hT more hmore, ?_, ?_, hlast⟩
  · rw [hahead, hahead', List.append_assoc]
  · rw [hindex', hindex, List.length_append, Nat.add_assoc]

theorem imp (h : Accepts k cur T a) (hT : ∀ text, T text → T' text) : Accepts k cur T' a :=
  @past α k cur T T' a cur h [] rfl rfl hT

theorem step {previous : Option Char} {c : Char} {rest : Text} {index : Nat}
    (h : Accepts k ⟨some c, rest, index + 1⟩ T a) (hT : ∀ more, T more → T' (c :: more)) :
    Accepts k ⟨previous, c :: rest, index⟩ T' a :=
  @past α k ⟨previous, c :: rest, index⟩ T T' a _ h [c] rfl rfl hT

end Accepts

section

variable {k : Continuation α} {groups : Groups} {a : α}

theorem takes_run_cons {among : CharClass} {lazy : Bool} {c : Char} (hc : among.has c = true)
    (more : Text) (h : (run among lazy).Takes more) : (run among lazy).Takes (c :: more) := by
  refine ⟨Nat.zero_le _, fun hline hbreak => ?_⟩
  rcases List.mem_cons.mp hbreak with rfl | hbreak
  · simp [inLine, hc] at hline
  · exact h.2 hline hbreak

theorem takes_run_nil (among : CharClass) (lazy : Bool) : (run among lazy).Takes [] :=
  ⟨Nat.zero_le _, fun _ => List.not_mem_nil⟩

theorem accepts_of_run {among : CharClass} {lazy : Bool} {cur : Cursor}
    (h : match? (run among lazy) k cur groups = some a) :
    Accepts k cur (run among lazy).Takes a := by
  obtain ⟨previous, ahead, index⟩ := cur
  induction ahead generalizing previous index with
  | nil => exact .here (match?_run_nil ▸ h) (takes_run_nil ..)
  | cons c rest ih =>
    rw [match?_run_cons] at h
    rcases eq_some_of_firstOf h with h | h
    · exact .here h (takes_run_nil ..)
    · split_ifs at h with hc
      exact (ih _ _ h).step (takes_run_cons hc)

theorem accepts_of_mostRepetitions {step : Continuation α → Continuation α} {T : Text → Prop}
    (hstep : ∀ k cur groups, step k cur groups = some a → Accepts k cur T a)
    {bound : Text} {cur : Cursor} (h : mostRepetitions step k bound cur groups = some a) :
    Accepts k cur (fun _ => True) a := by
  induction bound generalizing cur groups with
  | nil => exact .here h trivial
  | cons c bound ih =>
    rw [mostRepetitions] at h
    split at h
    next again hagain =>
      cases h
      obtain ⟨text, later, groups', -, hahead, hindex, hlater⟩ := hstep _ _ _ hagain
      dsimp only at hlater
      split_ifs at hlater
      exact (ih hlater).past hahead hindex fun _ _ => trivial
    next => exact .here h trivial

end

theorem accepts_of_match? {p : Pattern} {k : Continuation α} {cur : Cursor} {groups : Groups}
    {a : α} (h : match? p k cur groups = some a) : Accepts k cur p.Takes a := by
  induction p generalizing k cur groups with
  | empty => exact .here h ⟨Nat.zero_le _, fun _ => List.not_mem_nil⟩
  | one among =>
    obtain ⟨previous, ahead, index⟩ := cur
    cases ahead with
    | nil => cases h
    | cons c rest =>
      simp only [match?] at h
      split_ifs at h with hc
      refine ⟨[c], _, _, ⟨Nat.le_refl 1, fun hline hbreak => ?_⟩, rfl, rfl, h⟩
      cases List.mem_singleton.mp hbreak
      simp [inLine, hc] at hline
  | run among lazy => exact accepts_of_run h
  | textStart | textEnd | edge =>
    simp only [match?] at h
    split_ifs at h
    exact .here h ⟨Nat.zero_le _, fun _ => List.not_mem_nil⟩
  | seq p q ihp ihq =>
    obtain ⟨text, later, groups', hfirst, hahead, hindex, hlater⟩ := ihp h
    refine (ihq hlater).past hahead hindex fun more hsecond => ⟨?_, fun hline hbreak => ?_⟩
    · rw [List.length_append]
      exact Nat.add_le_add hfirst.1 hsecond.1
    · obtain ⟨hp, hq⟩ := Bool.and_eq_true_iff.mp hline
      rcases List.mem_append.mp hbreak with hbreak | hbreak
      · exact hfirst.2 hp hbreak
      · exact hsecond.2 hq hbreak
  | either p q ihp ihq =>
    rw [match?_either] at h
    obtain h | ⟨-, h⟩ := (Option.orElse_eq_some _ _ _).mp h
    · refine (ihp h).imp fun text htext => ?_
      refine ⟨Nat.le_trans (Nat.min_le_left ..) htext.1, fun hline => ?_⟩
      exact htext.2 (Bool.and_eq_true_iff.mp hline).1
    · refine (ihq h).imp fun text htext => ?_
      refine ⟨Nat.le_trans (Nat.min_le_right ..) htext.1, fun hline => ?_⟩
      exact htext.2 (Bool.and_eq_true_iff.mp hline).2
  | many p ih =>
    refine (accepts_of_mostRepetitions (fun k cur groups h => ih h) h).imp fun text _ => ?_
    exact ⟨Nat.zero_le _, fun hline => by cases hline⟩
  | group number p ih =>
    obtain ⟨text, later, groups', htext, hahead, hindex, hlater⟩ := ih h
    exact ⟨text, later, _, htext, hahead, hindex, hlater⟩

end Pattern

/-- What a match in the second text has in common with one in the first: it stops at an alike place
and keeps the same texts, none of which goes over a line break. -/
structure Match.Alike (w : Text) (m m' : Match) : Prop where
  stop : m.stop.Alike w m'.stop
  groups : m'.groups = m.groups
  plain : Pattern.Plain m.groups
  text : m'.text = m.text ∨ '\n' ∈ m.text ∧ '\n' ∈ m'.text

namespace Match.Alike

variable {w : Text} {m m' : Match} (h : Match.Alike w m m')
include h

theorem group_eq (number : Nat) : m'.group number = m.group number := by
  rw [group, group, group?, group?, h.groups]

theorem not_mem_group (number : Nat) : '\n' ∉ m.group number := by
  rw [group, group?]
  cases hfound : m.groups.lookup number with
  | none => simp
  | some kept =>
    have hmem : (number, kept) ∈ m.groups := by
      obtain ⟨front, back, hgroups, -⟩ := List.lookup_eq_some_iff.mp hfound
      simp [hgroups]
    exact h.plain _ hmem

end Match.Alike

namespace Pattern

/-- The texts passed on both sides agree, except that the second may go over the added line. -/
def Traces (w : Text) (start start' cur cur' : Cursor) : Prop :=
  cur.Alike w cur' ∧ ∃ text text', (text' = text ∨ '\n' ∈ text ∧ '\n' ∈ text') ∧
    Passed start start' text text' cur cur'

theorem tracksBreaks_traces (w : Text) (start start' : Cursor) :
    TracksBreaks w (Traces w start start') where
  alike h := h.1
  next hc h := by
    obtain ⟨hsame, text, text', htexts, hpassed⟩ := h
    refine ⟨(tracks_alike w).next hc hsame, text ++ [_], text' ++ [_], ?_,
      hpassed.append ⟨rfl, rfl, rfl, rfl⟩⟩
    obtain rfl | ⟨hbreak, hbreak'⟩ := htexts
    · exact .inl rfl
    · exact .inr ⟨List.mem_append_left _ hbreak, List.mem_append_left _ hbreak'⟩
  cross h hnext := by
    obtain ⟨hsame, text, text', htexts, hpassed⟩ := h
    refine ⟨hnext, text ++ ['\n'], text' ++ ['\n'], .inr ⟨by simp, by simp⟩,
      hpassed.append ⟨rfl, rfl, rfl, rfl⟩⟩
  skip h := by
    obtain ⟨hsame, text, text', htexts, hpassed⟩ := h
    refine ⟨.behind .., text ++ ['\n'], text' ++ '\n' :: w, .inr ⟨by simp, by simp⟩,
      hpassed.append ⟨rfl, rfl, rfl, ?_⟩⟩
    simp only [List.length_cons]
    omega

def finish (start : Cursor) : Continuation Match :=
  fun stop groups => some ⟨start, stop, groups⟩

theorem finish_follows (w : Text) (start start' : Cursor) :
    Follows (Traces w start start') (Match.Alike w) (finish start) (finish start') := by
  rintro cur cur' groups hplain ⟨hsame, text, text', htexts, hpassed⟩
  refine .some ⟨hsame, rfl, hplain, ?_⟩
  rwa [Match.text, Match.text, hpassed.upTo_eq.1, hpassed.upTo_eq.2]

theorem blind_finish (indented : Bool) (start : Cursor) : Blind indented (finish start) := by
  intro w hw c hc back index groups h
  cases h

/-! ## Searching -/

/-- A search for the pattern goes the same way through alike places and over an added line. -/
structure Keeps (indented : Bool) (p : Pattern) : Prop where
  moves : 0 < p.leastLength
  alike : ∀ {w}, BlankLine indented w → ∀ {cur cur' : Cursor}, cur.Alike w cur' →
    (∀ c rest, cur.ahead = c :: rest → ∃ rest', cur'.ahead = c :: rest' ∧
      Cursor.Alike w ⟨some c, rest, cur.index + 1⟩ ⟨some c, rest', cur'.index + 1⟩) →
    Option.Rel (Match.Alike w) (p.at? cur) (p.at? cur')
  before : ∀ {c w}, BlankLine indented w → (c = '\n' ∨ BlankLine indented (c :: w)) →
    ∀ {previous rest index}, p.at? ⟨previous, c :: (w ++ rest), index⟩ = none
  between : ∀ {w}, BlankLine indented w → ∀ {previous c rest index},
    Option.Rel (Match.Alike w) (p.at? ⟨previous, '\n' :: rest, index⟩)
      (p.at? ⟨some c, '\n' :: rest, index + w.length⟩)

def Sequel.none : Sequel := ⟨true, false⟩

def isSafe (indented : Bool) (p : Pattern) : Bool :=
  p.steady indented .none && p.halts indented false && 0 < p.leastLength

section

variable {indented : Bool}

theorem at?_of_halts {p : Pattern} (hp : p.halts indented false = true) {w : Text}
    (hw : BlankLine indented w) {previous : Option Char} {rest : Text} {index : Nat} :
    p.at? ⟨previous, w ++ rest, index⟩ = none :=
  halted_match? hp (fun h => by cases h) w hw previous rest index []

theorem match?_follows_finish {p : Pattern} (hp : p.steady indented .none = true) {w : Text}
    (hw : BlankLine indented w) (start start' : Cursor) :
    Follows (Traces w start start') (Match.Alike w) (match? p (finish start))
      (match? p (finish start')) :=
  match?_follows hw (tracksBreaks_traces w start start') hp (finish_follows w start start')
    ⟨fun _ => blind_finish indented start', fun h => by cases h⟩

theorem keeps_of_isSafe {p : Pattern} (h : p.isSafe indented = true) : p.Keeps indented := by
  simp only [isSafe, Bool.and_eq_true, decide_eq_true_eq] at h
  obtain ⟨⟨hsteady, hhalts⟩, hmoves⟩ := h
  constructor
  case moves => exact hmoves
  case alike =>
    intro w hw cur cur' h _
    exact match?_follows_finish hsteady hw cur cur' cur cur' [] (by simp [Plain])
      ⟨h, [], [], .inl rfl, .refl cur cur'⟩
  case before =>
    intro c w hw hc previous rest index
    obtain rfl | hline := hc
    · exact at?_of_halts hhalts .close
    · exact at?_of_halts hhalts hline
  case between =>
    intro w hw previous c rest index
    have hnone {previous : Option Char} {index : Nat} :
        p.at? ⟨previous, '\n' :: rest, index⟩ = none := at?_of_halts hhalts .close
    rw [hnone, hnone]
    exact .none

theorem at?_either (p q : Pattern) (cur : Cursor) :
    (either p q).at? cur = (p.at? cur <|> q.at? cur) :=
  match?_either p q (finish cur) cur []

theorem Keeps.either {p q : Pattern} (hp : p.Keeps indented) (hq : q.Keeps indented) :
    (Pattern.either p q).Keeps indented where
  moves := Nat.lt_min.mpr ⟨hp.moves, hq.moves⟩
  alike hw _ _ h hnext := by
    rw [at?_either, at?_either]
    exact rel_orElse (hp.alike hw h hnext) (hq.alike hw h hnext)
  before hw hc _ _ _ := by
    rw [at?_either, hp.before hw hc, hq.before hw hc]
    rfl
  between hw _ _ _ _ := by
    rw [at?_either, at?_either]
    exact rel_orElse (hp.between hw) (hq.between hw)

/-- What `notMember` takes up may be the break in front of a line, that of the added one too. -/
theorem keeps_of_notMember {p q : Pattern}
    (hp : ∀ k : Continuation Match, match? p k = match? (seq notMember q) k)
    (hsteady : q.steady indented .none = true) (hhalts : q.halts indented false = true)
    (hmoves : 0 < p.leastLength) : p.Keeps indented := by
  have hat (cur : Cursor) : p.at? cur =
      (match? textStart (match? q (finish cur)) cur [] <|>
        match? (one (CharClass.compl (CharClass.inWord ∪ "."))) (match? q (finish cur)) cur []) := by
    rw [← match?_either]
    exact congrFun (congrFun (hp (finish cur)) cur) []
  have hq {w : Text} (hw : BlankLine indented w) {previous : Option Char} {rest : Text} {index : Nat}
      (start : Cursor) : match? q (finish start) ⟨previous, w ++ rest, index⟩ [] = none :=
    halted_match? hhalts (fun h => by cases h) w hw previous rest index []
  have hqbreak {previous : Option Char} {rest : Text} {index : Nat} (start : Cursor) :
      match? q (finish start) ⟨previous, '\n' :: rest, index⟩ [] = none := hq .close start
  have hbreak : (CharClass.compl (CharClass.inWord ∪ ".")).has '\n' = true := by decide
  constructor
  case moves => exact hmoves
  case alike =>
    intro w hw cur cur' h hnext
    have hsame : Traces w cur cur' cur cur' := ⟨h, [], [], .inl rfl, .refl cur cur'⟩
    have hfollows := match?_follows_finish hsteady hw cur cur'
    have hplain : Plain [] := by simp [Plain]
    rw [hat, hat]
    refine rel_orElse ?_ ?_
    · exact match?_follows_of_inLine (p := textStart) rfl (tracksBreaks_traces w cur cur').toTracks
        hfollows cur cur' [] hplain hsame
    · obtain ⟨previous, ahead, index⟩ := cur
      obtain ⟨previous', ahead', index'⟩ := cur'
      cases ahead with
      | nil =>
        obtain ⟨-, rfl⟩ | ⟨c, rest, rest', hnil, -⟩ := h.ahead_cases
        · exact .none
        · cases hnil
      | cons c rest =>
        obtain ⟨rest', rfl, hnext⟩ := hnext c rest rfl
        simp only [match?]
        split_ifs
        · exact hfollows _ _ _ hplain ((tracksBreaks_traces w _ _).step hsame hnext)
        · exact .none
  case before =>
    intro c w hw hc previous rest index
    have hhere (start : Cursor) :
        match? q (finish start) ⟨previous, c :: (w ++ rest), index⟩ [] = none := by
      obtain rfl | hline := hc
      · exact hqbreak start
      · exact hq hline start
    rw [hat]
    simp only [match?, hhere, hq hw]
    split_ifs <;> rfl
  case between =>
    intro w hw previous c rest index
    have hfollows := match?_follows_finish hsteady hw ⟨previous, '\n' :: rest, index⟩
      ⟨some c, '\n' :: rest, index + w.length⟩
    rw [hat, hat]
    simp only [match?, hbreak, hqbreak, if_true, ite_self]
    refine hfollows _ _ _ (by simp [Plain]) ⟨?_, ['\n'], ['\n'], .inl rfl, ?_⟩
    · rw [Nat.add_right_comm]
      exact .behind ..
    · exact ⟨rfl, rfl, rfl, rfl⟩

end

theorem takes_of_at? {p : Pattern} {cur : Cursor} {m : Match} (h : p.at? cur = some m) :
    p.Takes m.text := by
  obtain ⟨text, later, groups, htext, hahead, hindex, hlater⟩ := accepts_of_match? h
  cases hlater
  simpa [Match.text, Cursor.upTo, hahead, hindex] using htext

theorem from?_cons (p : Pattern) (previous : Option Char) (index : Nat) (c : Char) (rest : Text) :
    p.from? previous index (c :: rest) =
      (p.at? ⟨previous, c :: rest, index⟩ <|> p.from? (some c) (index + 1) rest) := by
  rw [from?]
  cases p.at? ⟨previous, c :: rest, index⟩ <;> rfl

theorem exists_at?_of_from? {p : Pattern} {previous : Option Char} {index : Nat} {ahead : Text}
    {m : Match} (h : p.from? previous index ahead = some m) :
    ∃ cur : Cursor, cur.ahead.length ≤ ahead.length ∧ p.at? cur = some m := by
  induction ahead generalizing previous index with
  | nil => exact ⟨_, Nat.le_refl _, h⟩
  | cons c rest ih =>
    rw [from?_cons] at h
    obtain h | ⟨-, h⟩ := (Option.orElse_eq_some _ _ _).mp h
    · exact ⟨_, Nat.le_refl _, h⟩
    · obtain ⟨cur, hlength, hat⟩ := ih h
      exact ⟨cur, Nat.le_succ_of_le hlength, hat⟩

section

variable {indented : Bool} {p : Pattern} (hp : p.Keeps indented)
include hp

theorem Keeps.from?_blankLine {w : Text} (hw : BlankLine indented w) (c : Char) (rest : Text)
    (index : Nat) :
    ∃ last, p.from? (some c) (index + 1) (w ++ rest) =
      (p.at? ⟨some last, '\n' :: rest, index + w.length⟩ <|>
        p.from? (some '\n') (index + 1 + w.length) rest) := by
  induction hw generalizing c index with
  | close => exact ⟨c, from?_cons ..⟩
  | @indent d w hindented hd hw ih =>
    obtain ⟨last, ih⟩ := ih d (index + 1)
    have hnone (found : Option Match) : (none <|> found) = found := rfl
    refine ⟨last, ?_⟩
    rw [List.cons_append, from?_cons, hp.before hw (.inr (.indent hindented hd hw)), hnone, ih,
      List.length_cons, Nat.add_right_comm index 1 w.length, Nat.add_right_comm (index + 1) 1 w.length]
    rfl

theorem Keeps.from? {w : Text} (hw : BlankLine indented w) {ahead ahead' : Text}
    {previous previous' : Option Char} {index index' : Nat}
    (h : Cursor.Alike w ⟨previous, ahead, index⟩ ⟨previous', ahead', index'⟩) :
    Option.Rel (Match.Alike w) (p.from? previous index ahead)
      (p.from? previous' index' ahead') := by
  induction ahead generalizing ahead' previous previous' index index' with
  | nil =>
    obtain ⟨-, rfl⟩ | ⟨c, rest, rest', hnil, -⟩ := h.ahead_cases
    · exact hp.alike hw h (by simp)
    · cases hnil
  | cons c rest ih =>
    obtain ⟨rest', index'', hcur, hnext⟩ | ⟨rfl, hcur⟩ := h.cons_cases
    · cases hcur
      rw [from?_cons, from?_cons]
      refine rel_orElse (hp.alike hw h ?_) (ih hnext)
      rintro d others hahead
      cases hahead
      exact ⟨rest', rfl, hnext⟩
    · -- The second text has a line more. Nothing matches in front of it or at its blanks, so the
      -- place of its break answers to the one in front of the single break.
      cases hcur
      have hnone (found : Option Match) : (none <|> found) = found := rfl
      obtain ⟨last, hline⟩ := hp.from?_blankLine hw '\n' rest index
      rw [from?_cons, from?_cons, hp.before hw (.inl rfl), hnone, hline]
      exact rel_orElse (hp.between hw) (ih (.behind ..))

theorem Keeps.at?_moves {cur : Cursor} {m : Match} (h : p.at? cur = some m) :
    m.start.index < m.stop.index ∧ m.stop.ahead.length < cur.ahead.length := by
  obtain ⟨text, later, groups, ⟨hleast, -⟩, hahead, hindex, hlater⟩ := accepts_of_match? h
  cases hlater
  have hmoves := hp.moves
  have hlength := congrArg List.length hahead
  rw [List.length_append] at hlength
  exact ⟨by simp only; omega, by simp only; omega⟩

theorem Keeps.from?_moves {previous : Option Char} {index : Nat} {ahead : Text} {m : Match}
    (h : p.from? previous index ahead = some m) :
    m.start.index < m.stop.index ∧ m.stop.ahead.length < ahead.length := by
  obtain ⟨cur, hlength, hat⟩ := exists_at?_of_from? h
  obtain ⟨hindex, hshorter⟩ := hp.at?_moves hat
  exact ⟨hindex, Nat.lt_of_lt_of_le hshorter hlength⟩

theorem Keeps.allFrom_succ (fuel : Nat) (cur : Cursor) (last : Option Nat) :
    p.allFrom (fuel + 1) cur last =
      (p.from? cur.previous cur.index cur.ahead).elim [] fun m =>
        m :: p.allFrom fuel m.stop (some m.stop.index) := by
  rw [Pattern.allFrom]
  cases hm : p.from? cur.previous cur.index cur.ahead with
  | none => rfl
  | some m => simp only [Option.elim_some, if_neg (Nat.ne_of_gt (hp.from?_moves hm).1)]

theorem Keeps.allFrom {w : Text} (hw : BlankLine indented w) {fuel fuel' : Nat} {cur cur' : Cursor}
    {last last' : Option Nat} (h : cur.Alike w cur') (hfuel : cur.ahead.length < fuel)
    (hfuel' : cur'.ahead.length < fuel') :
    List.Forall₂ (Match.Alike w) (p.allFrom fuel cur last) (p.allFrom fuel' cur' last') := by
  -- The texts differ in length, and so does the fuel. Each match shortens the text, so both last.
  induction fuel generalizing fuel' cur cur' last last' with
  | zero => exact absurd hfuel (Nat.not_lt_zero _)
  | succ fuel ih =>
    cases fuel' with
    | zero => exact absurd hfuel' (Nat.not_lt_zero _)
    | succ fuel' =>
      have hfound := hp.from? hw h
      rw [hp.allFrom_succ, hp.allFrom_succ]
      generalize hm : p.from? cur.previous cur.index cur.ahead = found,
        hm' : p.from? cur'.previous cur'.index cur'.ahead = found' at hfound ⊢
      cases hfound with
      | none => exact .nil
      | some hsame =>
        have hshorter := (hp.from?_moves hm).2
        have hshorter' := (hp.from?_moves hm').2
        exact .cons hsame (ih hsame.stop (by omega) (by omega))

theorem Keeps.takes_of_mem_allFrom {fuel : Nat} {cur : Cursor} {last : Option Nat} {m : Match}
    (h : m ∈ p.allFrom fuel cur last) : p.Takes m.text := by
  induction fuel generalizing cur last with
  | zero => cases h
  | succ fuel ih =>
    rw [hp.allFrom_succ] at h
    cases hfound : p.from? cur.previous cur.index cur.ahead with
    | none => simp [hfound] at h
    | some first =>
      rw [hfound] at h
      rcases List.mem_cons.mp h with rfl | h
      · obtain ⟨_, -, hat⟩ := exists_at?_of_from? hfound
        exact takes_of_at? hat
      · exact ih h

section

variable {w : Text} (hw : BlankLine indented w) (front back : Text)
include hw

theorem Keeps.findAll :
    List.Forall₂ (Match.Alike w) (p.findAll (front ++ '\n' :: back))
      (p.findAll (front ++ '\n' :: (w ++ back))) :=
  hp.allFrom hw (.before none front back 0) (Nat.lt_succ_self _) (Nat.lt_succ_self _)

theorem Keeps.map_eq {f f' : Match → β}
    (hf : ∀ {m m'}, p.Takes m.text → Match.Alike w m m' → f' m' = f m) :
    (p.findAll (front ++ '\n' :: (w ++ back))).map f' =
      (p.findAll (front ++ '\n' :: back)).map f := by
  have hfound := hp.findAll hw front back
  have htakes : ∀ m ∈ p.findAll (front ++ '\n' :: back), p.Takes m.text := fun m hm =>
    hp.takes_of_mem_allFrom hm
  generalize p.findAll (front ++ '\n' :: back) = ms,
    p.findAll (front ++ '\n' :: (w ++ back)) = ms' at hfound htakes ⊢
  induction hfound with
  | nil => rfl
  | cons hsame _ ih =>
    obtain ⟨hfirst, hothers⟩ := List.forall_mem_cons.mp htakes
    rw [List.map_cons, List.map_cons, hf hfirst hsame, ih hothers]

theorem Keeps.any_eq {test test' : Match → Bool}
    (htest : ∀ {m m'}, Match.Alike w m m' → test' m' = test m) :
    (p.findAll (front ++ '\n' :: (w ++ back))).any test' =
      (p.findAll (front ++ '\n' :: back)).any test := by
  have hmap := hp.map_eq hw front back fun _ hsame => htest hsame
  simpa only [List.any_map, Function.id_comp] using congrArg (·.any id) hmap

theorem Keeps.length_filter_eq {test test' : Match → Bool}
    (htest : ∀ {m m'}, Match.Alike w m m' → test' m' = test m) :
    ((p.findAll (front ++ '\n' :: (w ++ back))).filter test').length =
      ((p.findAll (front ++ '\n' :: back)).filter test).length := by
  have hmap := hp.map_eq hw front back fun _ hsame => htest hsame
  rw [← List.countP_eq_length_filter, ← List.countP_eq_length_filter]
  simpa only [List.countP_map, Function.id_comp] using congrArg (·.countP id) hmap

theorem Keeps.count_eq :
    p.count (front ++ '\n' :: (w ++ back)) = p.count (front ++ '\n' :: back) :=
  (hp.findAll hw front back).length_eq.symm

theorem Keeps.occursIn_eq :
    p.occursIn (front ++ '\n' :: (w ++ back)) = p.occursIn (front ++ '\n' :: back) := by
  have hfound := hp.from? hw (.before none front back 0)
  rw [occursIn, occursIn, find?, find?]
  generalize p.from? none 0 (front ++ '\n' :: back) = found,
    p.from? none 0 (front ++ '\n' :: (w ++ back)) = found' at hfound ⊢
  cases hfound <;> rfl

end

end

end Pattern
end Asymptote
