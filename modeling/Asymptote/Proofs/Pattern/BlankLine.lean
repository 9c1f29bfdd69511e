import Asymptote.Pattern
import Asymptote.Proofs.Text.Trim
import Mathlib.Data.List.Forall2
import Mathlib.Data.Option.Basic
import Mathlib.Tactic.SplitIfs

/-! # Patterns around an added blank line
Two texts differ by a line of spaces and tabs that the second has more. A pattern that takes up
breaks only in greedy runs of blanks matches in the one as it does in the other: where a run stops
within the added line, what comes behind it would match behind that line if it matched there. -/
namespace Asymptote

open Text (BlankLine)

def CharClass.hasBlanks (indented : Bool) (among : CharClass) : Bool :=
  among.has '\n' && (!indented || (among.has ' ' && among.has '\t'))

def CharClass.lacksIndents (indented : Bool) (among : CharClass) : Bool :=
  !indented || (!among.has ' ' && !among.has '\t')

/-- Places that are left in front of the added line, or behind it. -/
inductive Cursor.Alike (w : Text) : Cursor → Cursor → Prop
  | before (previous : Option Char) (front back : Text) (index : Nat) :
      Alike w ⟨previous, front ++ '\n' :: back, index⟩
        ⟨previous, front ++ '\n' :: (w ++ back), index⟩
  | behind (previous : Option Char) (ahead : Text) (index : Nat) :
      Alike w ⟨previous, ahead, index + 1⟩ ⟨previous, ahead, index + 1 + w.length⟩

namespace Cursor.Alike

variable {w : Text}

section

variable {cur cur' : Cursor} (h : cur.Alike w cur')
include h

theorem index_eq_zero_iff : cur'.index = 0 ↔ cur.index = 0 := by
  cases h <;> simp

theorem atEdge_eq : cur'.atEdge = cur.atEdge := by
  cases h with
  | before previous front back index => cases front <;> rfl
  | behind => rfl

theorem ahead_cases :
    (cur.ahead = [] ∧ cur'.ahead = []) ∨
      ∃ c rest rest', cur.ahead = c :: rest ∧ cur'.ahead = c :: rest' := by
  cases h with
  | before previous front back index =>
    right
    cases front with
    | nil => exact ⟨'\n', _, _, rfl, rfl⟩
    | cons c front => exact ⟨c, _, _, rfl, rfl⟩
  | behind previous ahead index =>
    cases ahead with
    | nil => exact .inl ⟨rfl, rfl⟩
    | cons c rest => exact .inr ⟨c, rest, rest, rfl, rfl⟩

end

theorem cons_cases {previous : Option Char} {c : Char} {rest : Text} {index : Nat} {cur' : Cursor}
    (h : Cursor.Alike w ⟨previous, c :: rest, index⟩ cur') :
    (∃ rest' index', cur' = ⟨previous, c :: rest', index'⟩ ∧
        Cursor.Alike w ⟨some c, rest, index + 1⟩ ⟨some c, rest', index' + 1⟩) ∨
      c = '\n' ∧ cur' = ⟨previous, '\n' :: (w ++ rest), index⟩ := by
  generalize hcur : (⟨previous, c :: rest, index⟩ : Cursor) = cur at h
  cases h with
  | before _ front back =>
    cases front with
    | nil =>
      cases hcur
      exact .inr ⟨rfl, rfl⟩
    | cons d front =>
      cases hcur
      exact .inl ⟨_, _, rfl, .before ..⟩
  | behind =>
    cases hcur
    refine .inl ⟨_, _, rfl, ?_⟩
    rw [Nat.add_right_comm _ w.length]
    exact .behind ..

end Cursor.Alike

namespace Pattern

variable {α β : Type} {R : α → β → Prop}

/-- Of the answer here and the one further on the first that there is, where laziness asks here
first. -/
def firstOf (lazy : Bool) (here further : Option α) : Option α :=
  if lazy then here <|> further else further <|> here

theorem firstOf_eq_none_iff {lazy : Bool} {here further : Option α} :
    firstOf lazy here further = none ↔ here = none ∧ further = none := by
  cases lazy <;> cases here <;> cases further <;> simp [firstOf]

theorem eq_some_of_firstOf {lazy : Bool} {here further : Option α} {a : α}
    (h : firstOf lazy here further = some a) : here = some a ∨ further = some a := by
  cases lazy <;> cases here <;> cases further <;> simp_all [firstOf]

theorem isSome_firstOf {lazy : Bool} {here further : Option α} :
    (firstOf lazy here further).isSome = (here.isSome || further.isSome) := by
  cases lazy <;> cases here <;> cases further <;> rfl

theorem match?_run_nil {among : CharClass} {lazy : Bool} {k : Continuation α} {groups : Groups}
    {previous : Option Char} {index : Nat} :
    match? (run among lazy) k ⟨previous, [], index⟩ groups = k ⟨previous, [], index⟩ groups := by
  cases lazy <;> rfl

theorem match?_run_cons {among : CharClass} {lazy : Bool} {k : Continuation α} {groups : Groups}
    {previous : Option Char} {index : Nat} {c : Char} {rest : Text} :
    match? (run among lazy) k ⟨previous, c :: rest, index⟩ groups =
      firstOf lazy (k ⟨previous, c :: rest, index⟩ groups)
        (if among.has c then match? (run among lazy) k ⟨some c, rest, index + 1⟩ groups
          else none) := by
  cases lazy with
  | false =>
    change longestRun among k groups previous index (c :: rest) = _
    rw [longestRun]
    split_ifs
    · change _ = (longestRun among k groups (some c) (index + 1) rest <|> _)
      cases longestRun among k groups (some c) (index + 1) rest <;> rfl
    · rfl
  | true =>
    change shortestRun among k groups previous index (c :: rest) = _
    rw [shortestRun]
    cases k ⟨previous, c :: rest, index⟩ groups <;> rfl

theorem match?_either (p q : Pattern) (k : Continuation α) (cur : Cursor) (groups : Groups) :
    match? (either p q) k cur groups = (match? p k cur groups <|> match? q k cur groups) := by
  rw [match?]
  cases match? p k cur groups <;> rfl

theorem rel_orElse {a b : Option α} {a' b' : Option β} (ha : Option.Rel R a a')
    (hb : Option.Rel R b b') : Option.Rel R (a <|> b) (a' <|> b') := by
  cases ha with
  | some h => exact .some h
  | none => exact hb

theorem rel_firstOf {lazy : Bool} {a b : Option α} {a' b' : Option β} (ha : Option.Rel R a a')
    (hb : Option.Rel R b b') : Option.Rel R (firstOf lazy a b) (firstOf lazy a' b') := by
  cases lazy with
  | false => exact rel_orElse hb ha
  | true => exact rel_orElse ha hb

def Plain (groups : Groups) : Prop :=
  ∀ kept ∈ groups, '\n' ∉ kept.2

def Follows (S : Cursor → Cursor → Prop) (R : α → β → Prop) (k : Continuation α)
    (k' : Continuation β) : Prop :=
  ∀ cur cur' groups, Plain groups → S cur cur' → Option.Rel R (k cur groups) (k' cur' groups)

/-! ## Within a line -/

def inLine : Pattern → Bool
  | one among | run among _ => !among.has '\n'
  | seq p q | either p q => inLine p && inLine q
  | group _ p => inLine p
  | many _ => false
  | empty | textStart | textEnd | edge => true

structure Tracks (w : Text) (S : Cursor → Cursor → Prop) : Prop where
  alike : ∀ {cur cur'}, S cur cur' → cur.Alike w cur'
  next : ∀ {previous previous' c rest rest' index index'}, c ≠ '\n' →
    S ⟨previous, c :: rest, index⟩ ⟨previous', c :: rest', index'⟩ →
      S ⟨some c, rest, index + 1⟩ ⟨some c, rest', index' + 1⟩

theorem tracks_alike (w : Text) : Tracks w (Cursor.Alike w) where
  alike h := h
  next hc h := by
    obtain ⟨rest', index', hcur, hnext⟩ | ⟨hbreak, -⟩ := h.cons_cases
    · cases hcur
      exact hnext
    · exact absurd hbreak hc

structure Passed (start start' : Cursor) (text text' : Text) (cur cur' : Cursor) : Prop where
  ahead : start.ahead = text ++ cur.ahead
  ahead' : start'.ahead = text' ++ cur'.ahead
  index : cur.index = start.index + text.length
  index' : cur'.index = start'.index + text'.length

namespace Passed

variable {start start' cur cur' : Cursor} {text text' : Text}

theorem refl (start start' : Cursor) : Passed start start' [] [] start start' :=
  ⟨rfl, rfl, rfl, rfl⟩

theorem upTo_eq (h : Passed start start' text text' cur cur') :
    start.upTo cur = text ∧ start'.upTo cur' = text' := by
  simp [Cursor.upTo, h.ahead, h.ahead', h.index, h.index']

theorem append {more more' : Text} {later later' : Cursor}
    (h : Passed start start' text text' cur cur')
    (hmore : Passed cur cur' more more' later later') :
    Passed start start' (text ++ more) (text' ++ more') later later' where
  ahead := by rw [h.ahead, hmore.ahead, List.append_assoc]
  ahead' := by rw [h.ahead', hmore.ahead', List.append_assoc]
  index := by rw [hmore.index, h.index, List.length_append, Nat.add_assoc]
  index' := by rw [hmore.index', h.index', List.length_append, Nat.add_assoc]

end Passed

section

variable {w : Text} {S : Cursor → Cursor → Prop} (hS : Tracks w S)
include hS

theorem Tracks.passed (start start' : Cursor) :
    Tracks w fun cur cur' =>
      S cur cur' ∧ ∃ text, '\n' ∉ text ∧ Passed start start' text text cur cur' where
  alike h := hS.alike h.1
  next {previous previous' c rest rest' index index'} hc h := by
    obtain ⟨hsame, text, hline, hpassed⟩ := h
    refine ⟨hS.next hc hsame, text ++ [c], ?_, hpassed.append ⟨rfl, rfl, rfl, rfl⟩⟩
    simp [hline, Ne.symm hc]

variable {among : CharClass} {k : Continuation α} {k' : Continuation β} (hk : Follows S R k k')
include hk

theorem run_follows {lazy : Bool} (hline : among.has '\n' = false) :
    Follows S R (match? (run among lazy) k) (match? (run among lazy) k') := by
  rintro ⟨previous, ahead, index⟩ ⟨previous', ahead', index'⟩ groups hplain h
  induction ahead generalizing ahead' previous previous' index index' with
  | nil =>
    obtain ⟨-, rfl⟩ | ⟨c, rest, rest', hnil, -⟩ := (hS.alike h).ahead_cases
    · rw [match?_run_nil, match?_run_nil]
      exact hk _ _ groups hplain h
    · cases hnil
  | cons c rest ih =>
    obtain ⟨hnil, -⟩ | ⟨d, rest, rest', hahead, rfl⟩ := (hS.alike h).ahead_cases
    · cases hnil
    · cases hahead
      rw [match?_run_cons, match?_run_cons]
      refine rel_firstOf (hk _ _ groups hplain h) ?_
      split_ifs with hc
      · have hbreak : c ≠ '\n' := by
          rintro rfl
          simp [hline] at hc
        exact ih _ _ _ _ _ (hS.next hbreak h)
      · exact .none

end

theorem match?_follows_of_inLine {p : Pattern} (hp : p.inLine = true) {w : Text}
    {S : Cursor → Cursor → Prop} (hS : Tracks w S) {k : Continuation α} {k' : Continuation β}
    (hk : Follows S R k k') : Follows S R (match? p k) (match? p k') := by
  -- The relation varies: behind the body of a group it also tells what the group has taken up.
  induction p generalizing S k k' with
  | empty => exact hk
  | one among =>
    rintro ⟨previous, ahead, index⟩ ⟨previous', ahead', index'⟩ groups hplain h
    obtain ⟨rfl, rfl⟩ | ⟨c, rest, rest', rfl, rfl⟩ := (hS.alike h).ahead_cases
    · exact .none
    · simp only [match?]
      split_ifs with hc
      · have hbreak : c ≠ '\n' := by
          rintro rfl
          simp [inLine, hc] at hp
        exact hk _ _ groups hplain (hS.next hbreak h)
      · exact .none
  | run among lazy =>
    have hline : among.has '\n' = false := by simpa [inLine] using hp
    exact run_follows hS hk hline
  | textStart =>
    intro cur cur' groups hplain h
    simp only [match?, (hS.alike h).index_eq_zero_iff]
    split_ifs
    · exact hk _ _ groups hplain h
    · exact .none
  | textEnd =>
    intro cur cur' groups hplain h
    have hempty : cur'.ahead.isEmpty = cur.ahead.isEmpty := by
      obtain ⟨hnil, hnil'⟩ | ⟨c, rest, rest', hcons, hcons'⟩ := (hS.alike h).ahead_cases
      · rw [hnil, hnil']
      · rw [hcons, hcons', List.isEmpty_cons, List.isEmpty_cons]
    simp only [match?, hempty]
    split_ifs
    · exact hk _ _ groups hplain h
    · exact .none
  | edge =>
    intro cur cur' groups hplain h
    simp only [match?, (hS.alike h).atEdge_eq]
    split_ifs
    · exact hk _ _ groups hplain h
    · exact .none
  | seq p q ihp ihq =>
    obtain ⟨hfirst, hsecond⟩ := Bool.and_eq_true_iff.mp hp
    exact ihp hfirst hS (ihq hsecond hS hk)
  | either p q ihp ihq =>
    obtain ⟨hfirst, hsecond⟩ := Bool.and_eq_true_iff.mp hp
    intro cur cur' groups hplain h
    rw [match?_either, match?_either]
    exact rel_orElse (ihp hfirst hS hk _ _ _ hplain h) (ihq hsecond hS hk _ _ _ hplain h)
  | many p => cases hp
  | group number p ih =>
    intro start start' groups hplain h
    refine ih hp (hS.passed start start') ?_ start start' groups hplain
      ⟨h, [], by simp, .refl start start'⟩
    rintro cur cur' groups hplain ⟨hsame, text, hline, hpassed⟩
    simp only [hpassed.upTo_eq.1, hpassed.upTo_eq.2]
    exact hk _ _ _ (List.forall_mem_cons.mpr ⟨hline, hplain⟩) hsame

/-! ## At a blank line -/

variable (indented : Bool)

def Halted (k : Continuation α) : Prop :=
  ∀ w, BlankLine indented w → ∀ previous back index groups,
    k ⟨previous, w ++ back, index⟩ groups = none

/-- The pattern does not match in front of a blank line, given whether what comes behind it does not
match there either. -/
def halts : Pattern → Bool → Bool
  | empty, d | textStart, d | edge, d => d
  | one among, d => !among.has '\n' && (d || among.lacksIndents indented)
  | run among _, d => !among.has '\n' && d
  | textEnd, _ => true
  | seq p q, d => halts p (halts q d)
  | either p q, d => halts p d && halts q d
  | many _, _ => false
  | group _ p, d => halts p d

variable {indented} in
theorem halted_run {among : CharClass} {lazy : Bool} (hline : among.has '\n' = false)
    {k : Continuation α} (hk : Halted indented k) : Halted indented (match? (run among lazy) k) := by
  intro w hw previous back index groups
  induction hw generalizing previous index with
  | close =>
    have hhere := hk _ .close previous back index groups
    rw [List.singleton_append] at hhere ⊢
    rw [match?_run_cons, hhere, hline]
    exact firstOf_eq_none_iff.mpr ⟨rfl, rfl⟩
  | @indent c w hindented hc hw ih =>
    have hhere := hk _ (.indent hindented hc hw) previous back index groups
    rw [List.cons_append] at hhere ⊢
    rw [match?_run_cons, hhere, ih]
    exact firstOf_eq_none_iff.mpr ⟨rfl, ite_self _⟩

variable {indented} in
theorem halted_match? {p : Pattern} {d : Bool} (hp : p.halts indented d = true) {k : Continuation α}
    (hk : d = true → Halted indented k) : Halted indented (match? p k) := by
  induction p generalizing d k with
  | empty => exact hk hp
  | one among =>
    intro w hw previous back index groups
    simp only [halts, CharClass.lacksIndents, Bool.and_eq_true, Bool.or_eq_true,
      Bool.not_eq_true'] at hp
    obtain ⟨hline, hothers⟩ := hp
    cases hw with
    | close => simp [match?, hline]
    | @indent c w hindented hc hw =>
      rcases hothers with hd | hunindented | ⟨hspace, htab⟩
      · simp only [match?, List.cons_append, hk hd w hw]
        exact ite_self _
      · simp [hindented] at hunindented
      · rcases hc with rfl | rfl <;> simp [match?, hspace, htab]
  | run among lazy =>
    obtain ⟨hline, hd⟩ : among.has '\n' = false ∧ d = true := by simpa [halts] using hp
    exact halted_run hline (hk hd)
  | textStart =>
    intro w hw previous back index groups
    simp only [match?, hk hp w hw]
    exact ite_self _
  | textEnd =>
    intro w hw previous back index groups
    cases hw <;> simp [match?]
  | edge =>
    intro w hw previous back index groups
    simp only [match?, hk hp w hw]
    exact ite_self _
  | seq p q ihp ihq => exact ihp hp fun hd => ihq hd hk
  | either p q ihp ihq =>
    obtain ⟨hfirst, hsecond⟩ := Bool.and_eq_true_iff.mp hp
    intro w hw previous back index groups
    rw [match?_either, ihp hfirst hk w hw, ihq hsecond hk w hw]
    rfl
  | many p => cases hp
  | group number p ih =>
    intro w hw previous back index groups
    refine ih hp (fun hd w hw previous back index groups => ?_) w hw previous back index groups
    exact hk hd w hw previous back index _

/-- What matches nothing behind a blank line matches nothing within it. -/
def Blind (k : Continuation α) : Prop :=
  ∀ w, BlankLine indented w → ∀ c, Text.isWord c = false → ∀ back index groups,
    k ⟨some '\n', back, index + 1 + w.length⟩ groups = none →
      k ⟨some c, w ++ back, index + 1⟩ groups = none

variable {indented} in
theorem Halted.blind {k : Continuation α} (h : Halted indented k) : Blind indented k :=
  fun w hw c _ back index groups _ => h w hw (some c) back (index + 1) groups

/-- What is known of what comes behind a pattern: that it is blind, and that it does not match in
front of a blank line. -/
structure Sequel where
  blind : Bool
  halts : Bool

def Sequel.Holds (d : Sequel) (k : Continuation α) : Prop :=
  (d.blind = true → Blind indented k) ∧ (d.halts = true → Halted indented k)

def blind : Pattern → Sequel → Bool
  | empty, d | run _ _, d => d.blind
  | one among, d => halts indented (one among) d.halts
  | textStart, _ | textEnd, _ | edge, _ => true
  | seq p q, d => blind p ⟨blind q d, halts indented q d.halts⟩
  | either p q, d => blind p d && blind q d
  | many _, _ => false
  | group _ p, d => halts indented p d.halts

variable {indented}

theorem eq_none_of_run {among : CharClass} {lazy : Bool} {k : Continuation α} {cur : Cursor}
    {groups : Groups} (h : match? (run among lazy) k cur groups = none) : k cur groups = none := by
  obtain ⟨previous, ahead, index⟩ := cur
  cases ahead with
  | nil => rwa [match?_run_nil] at h
  | cons c rest =>
    rw [match?_run_cons] at h
    exact (firstOf_eq_none_iff.mp h).1

theorem blind_run {among : CharClass} {lazy : Bool} {k : Continuation α} (hk : Blind indented k) :
    Blind indented (match? (run among lazy) k) := by
  intro w hw c hc back index groups h
  induction hw generalizing c index with
  | close =>
    have hhere := hk _ .close c hc back index groups (eq_none_of_run h)
    rw [List.singleton_append] at hhere ⊢
    rw [match?_run_cons, hhere, show index + 1 + 1 = index + 1 + ['\n'].length from rfl, h]
    exact firstOf_eq_none_iff.mpr ⟨rfl, ite_self _⟩
  | @indent d w hindented hd hw ih =>
    have hhere := hk _ (.indent hindented hd hw) c hc back index groups (eq_none_of_run h)
    have hword : Text.isWord d = false := by rcases hd with rfl | rfl <;> rfl
    have hshift : index + 1 + (d :: w).length = index + 1 + 1 + w.length := by
      rw [List.length_cons]
      omega
    rw [hshift] at h
    rw [List.cons_append] at hhere ⊢
    rw [match?_run_cons, hhere, ih d hword _ h]
    exact firstOf_eq_none_iff.mpr ⟨rfl, ite_self _⟩

theorem blind_match? {p : Pattern} {d : Sequel} (hp : p.blind indented d = true)
    {k : Continuation α} (hk : d.Holds indented k) : Blind indented (match? p k) := by
  induction p generalizing d k with
  | empty => exact hk.1 hp
  | one among => exact (halted_match? hp hk.2).blind
  | run among lazy => exact blind_run (hk.1 hp)
  | textStart =>
    intro w hw c hc back index groups _
    simp [match?]
  | textEnd =>
    intro w hw c hc back index groups _
    cases hw <;> simp [match?]
  | edge =>
    intro w hw c hc back index groups _
    have hedge : (⟨some c, w ++ back, index + 1⟩ : Cursor).atEdge = false := by
      rw [Cursor.atEdge, hw.head?_any_isWord, Option.any_some, hc]
      rfl
    simp [match?, hedge]
  | seq p q ihp ihq => exact ihp hp ⟨fun hd => ihq hd hk, fun hd => halted_match? hd hk.2⟩
  | either p q ihp ihq =>
    obtain ⟨hfirst, hsecond⟩ := Bool.and_eq_true_iff.mp hp
    intro w hw c hc back index groups h
    rw [match?_either] at h ⊢
    obtain ⟨hleft, hright⟩ := (Option.orElse_eq_none _ _).mp h
    rw [ihp hfirst hk w hw c hc back index groups hleft,
      ihq hsecond hk w hw c hc back index groups hright]
    rfl
  | many p => cases hp
  | group number p =>
    -- The group would keep what it takes up of the line. So it must not match in front of one.
    exact (halted_match? (p := group number p) hp hk.2).blind

/-! ## Over a line break -/

variable (indented) in
/-- A character and behind it as many as possible of a class that has the blanks. -/
def takesBreaks : Pattern → Pattern → Bool
  | one _, run among lazy => among.hasBlanks indented && !lazy
  | _, _ => false

variable (indented) in
/-- The pattern takes up breaks only in greedy runs with something blind behind them, given what
comes behind the pattern. -/
def steady : Pattern → Sequel → Bool
  | one among, _ => !among.has '\n'
  | run among lazy, d => !among.has '\n' || (among.hasBlanks indented && d.blind && !lazy)
  | seq p q, d =>
    (steady p ⟨blind indented q d, halts indented q d.halts⟩ && steady q d) ||
      (d.blind && takesBreaks indented p q)
  | either p q, d => steady p d && steady q d
  | group _ p, _ => inLine p
  | many _, _ => false
  | empty, _ | textStart, _ | textEnd, _ | edge, _ => true

structure TracksBreaks (w : Text) (S : Cursor → Cursor → Prop) : Prop extends Tracks w S where
  cross : ∀ {previous previous' rest rest' index index'},
    S ⟨previous, '\n' :: rest, index⟩ ⟨previous', '\n' :: rest', index'⟩ →
      Cursor.Alike w ⟨some '\n', rest, index + 1⟩ ⟨some '\n', rest', index' + 1⟩ →
        S ⟨some '\n', rest, index + 1⟩ ⟨some '\n', rest', index' + 1⟩
  skip : ∀ {previous previous' rest index},
    S ⟨previous, '\n' :: rest, index⟩ ⟨previous', '\n' :: (w ++ rest), index⟩ →
      S ⟨some '\n', rest, index + 1⟩ ⟨some '\n', rest, index + 1 + w.length⟩

section

variable {w : Text} (hw : BlankLine indented w) {S : Cursor → Cursor → Prop} (hS : TracksBreaks w S)
include hS

theorem TracksBreaks.step {previous previous' : Option Char} {c : Char} {rest rest' : Text}
    {index index' : Nat} (h : S ⟨previous, c :: rest, index⟩ ⟨previous', c :: rest', index'⟩)
    (hnext : Cursor.Alike w ⟨some c, rest, index + 1⟩ ⟨some c, rest', index' + 1⟩) :
    S ⟨some c, rest, index + 1⟩ ⟨some c, rest', index' + 1⟩ := by
  by_cases hc : c = '\n'
  · subst hc
    exact hS.cross h hnext
  · exact hS.next hc h

theorem TracksBreaks.cons_cases {previous : Option Char} {c : Char} {rest : Text} {index : Nat}
    {cur' : Cursor} (h : S ⟨previous, c :: rest, index⟩ cur') :
    (∃ rest' index', cur' = ⟨previous, c :: rest', index'⟩ ∧
        S ⟨some c, rest, index + 1⟩ ⟨some c, rest', index' + 1⟩) ∨
      c = '\n' ∧ cur' = ⟨previous, '\n' :: (w ++ rest), index⟩ ∧
        S ⟨some '\n', rest, index + 1⟩ ⟨some '\n', rest, index + 1 + w.length⟩ := by
  obtain ⟨rest', index', rfl, hnext⟩ | ⟨rfl, rfl⟩ := (hS.alike h).cons_cases
  · exact .inl ⟨rest', index', rfl, hS.step h hnext⟩
  · exact .inr ⟨rfl, rfl, hS.skip h⟩

variable {among : CharClass} {k : Continuation α} {k' : Continuation β}
  (hk : Follows S R k k') (hblind : Blind indented k') (hblanks : among.hasBlanks indented = true)
include hw hk hblind hblanks

omit hS hk in
/-- A run goes over a blank line. If it comes to nothing behind that line, it does not do better by
stopping before. -/
theorem match?_run_blankLine {c : Char} (hc : Text.isWord c = false) (back : Text) (index : Nat)
    (groups : Groups) :
    match? (run among false) k' ⟨some c, w ++ back, index + 1⟩ groups =
      match? (run among false) k' ⟨some '\n', back, index + 1 + w.length⟩ groups := by
  cases hlater : match? (run among false) k' ⟨some '\n', back, index + 1 + w.length⟩ groups with
  | none => exact blind_run hblind w hw c hc back index groups hlater
  | some a =>
    simp only [CharClass.hasBlanks, Bool.and_eq_true, Bool.or_eq_true,
      Bool.not_eq_true'] at hblanks
    obtain ⟨hbreak, hothers⟩ := hblanks
    clear hc
    induction hw generalizing c index with
    | close =>
      have hfirst : match? (run among false) k' ⟨some '\n', back, index + 1 + 1⟩ groups = some a :=
        hlater
      rw [List.singleton_append, match?_run_cons, if_pos hbreak, hfirst]
      rfl
    | @indent d w hindented hd hw ih =>
      have hhas : among.has d = true := by
        obtain hunindented | ⟨hspace, htab⟩ := hothers
        · simp [hindented] at hunindented
        · rcases hd with rfl | rfl <;> assumption
      have hshift : index + 1 + (d :: w).length = index + 1 + 1 + w.length := by
        rw [List.length_cons]
        omega
      rw [hshift] at hlater
      rw [List.cons_append, match?_run_cons, if_pos hhas, ih _ hlater]
      rfl

theorem run_follows_of_blind :
    Follows S R (match? (run among false) k) (match? (run among false) k') := by
  rintro ⟨previous, ahead, index⟩ ⟨previous', ahead', index'⟩ groups hplain h
  induction ahead generalizing ahead' previous previous' index index' with
  | nil =>
    obtain ⟨-, rfl⟩ | ⟨c, rest, rest', hnil, -⟩ := (hS.alike h).ahead_cases
    · exact hk _ _ groups hplain h
    · cases hnil
  | cons c rest ih =>
    obtain ⟨rest', index', hcur, hnext⟩ | ⟨rfl, hcur, hbehind⟩ := hS.cons_cases h
    · cases hcur
      rw [match?_run_cons, match?_run_cons]
      refine rel_firstOf (hk _ _ groups hplain h) ?_
      split_ifs
      · exact ih _ _ _ _ _ hnext
      · exact .none
    · cases hcur
      have hbreak : among.has '\n' = true := by
        simp only [CharClass.hasBlanks, Bool.and_eq_true] at hblanks
        exact hblanks.1
      rw [match?_run_cons, match?_run_cons, if_pos hbreak, if_pos hbreak,
        match?_run_blankLine hw hblind hblanks rfl]
      exact rel_firstOf (hk _ _ groups hplain h) (ih _ _ _ _ _ hbehind)

end

section

variable {w : Text} (hw : BlankLine indented w) {S : Cursor → Cursor → Prop} (hS : TracksBreaks w S)
include hw hS

theorem takesBreaks_follows {p q : Pattern} (htakes : takesBreaks indented p q = true)
    {k : Continuation α} {k' : Continuation β} (hk : Follows S R k k')
    (hblind : Blind indented k') : Follows S R (match? (seq p q) k) (match? (seq p q) k') := by
  obtain ⟨first, among, rfl, rfl, hblanks⟩ : ∃ first among,
      p = one first ∧ q = run among false ∧ among.hasBlanks indented = true := by
    unfold takesBreaks at htakes
    split at htakes
    · simp only [Bool.and_eq_true, Bool.not_eq_true'] at htakes
      obtain ⟨hblanks, rfl⟩ := htakes
      exact ⟨_, _, rfl, rfl, hblanks⟩
    · cases htakes
  rintro ⟨previous, ahead, index⟩ cur' groups hplain h
  cases ahead with
  | nil =>
    obtain ⟨-, hnil⟩ | ⟨c, rest, rest', hnil, -⟩ := (hS.alike h).ahead_cases
    · simp only [match?, hnil]
      exact .none
    · cases hnil
  | cons c rest =>
    have hrun := run_follows_of_blind hw hS hk hblind hblanks
    have hseq {δ : Type} {k : Continuation δ} {previous : Option Char} {c : Char} {rest : Text}
        {index : Nat} : match? (seq (one first) (run among false)) k ⟨previous, c :: rest, index⟩
          groups = if first.has c then
            match? (run among false) k ⟨some c, rest, index + 1⟩ groups else none := rfl
    obtain ⟨rest', index', rfl, hnext⟩ | ⟨rfl, rfl, hbehind⟩ := hS.cons_cases h
    · rw [hseq, hseq]
      split_ifs
      · exact hrun _ _ groups hplain hnext
      · exact .none
    · rw [hseq, hseq, match?_run_blankLine hw hblind hblanks rfl]
      split_ifs
      · exact hrun _ _ groups hplain hbehind
      · exact .none

/-- A steady pattern does not tell alike places apart, be the line added in a run of it. -/
theorem match?_follows {p : Pattern} {d : Sequel} (hp : p.steady indented d = true)
    {k : Continuation α} {k' : Continuation β} (hk : Follows S R k k') (hsequel : d.Holds indented k') :
    Follows S R (match? p k) (match? p k') := by
  induction p generalizing d k k' with
  | empty | textStart | textEnd | edge => exact match?_follows_of_inLine rfl hS.toTracks hk
  | one among => exact match?_follows_of_inLine (p := one among) hp hS.toTracks hk
  | run among lazy =>
    by_cases hbreak : among.has '\n' = true
    · obtain ⟨⟨hblanks, hd⟩, rfl⟩ :
          (among.hasBlanks indented = true ∧ d.blind = true) ∧ lazy = false := by
        simpa [steady, hbreak] using hp
      exact run_follows_of_blind hw hS hk (hsequel.1 hd) hblanks
    · have hline : (run among lazy).inLine = true := by simpa [inLine] using hbreak
      exact match?_follows_of_inLine hline hS.toTracks hk
  | seq p q ihp ihq =>
    simp only [steady, Bool.or_eq_true, Bool.and_eq_true] at hp
    obtain ⟨hfirst, hsecond⟩ | ⟨hd, htakes⟩ := hp
    · exact ihp hfirst (ihq hsecond hk hsequel)
        ⟨fun hd => blind_match? hd hsequel, fun hd => halted_match? hd hsequel.2⟩
    · exact takesBreaks_follows hw hS htakes hk (hsequel.1 hd)
  | either p q ihp ihq =>
    obtain ⟨hfirst, hsecond⟩ := Bool.and_eq_true_iff.mp hp
    intro cur cur' groups hplain h
    rw [match?_either, match?_either]
    exact rel_orElse (ihp hfirst hk hsequel _ _ _ hplain h)
      (ihq hsecond hk hsequel _ _ _ hplain h)
  | many p => cases hp
  | group number p => exact match?_follows_of_inLine (p := group number p) hp hS.toTracks hk

end

end Pattern
end Asymptote
