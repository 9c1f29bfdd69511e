import Asymptote.Proofs.GroundTruth.Acceptance
import Mathlib.Data.Prod.Lex

/-! # The closest approach
Among the approaches of an entry the closest one to a class has the least distance to it, and of
equally near ones the least time. It has the very class exactly if some approach has. -/
namespace Asymptote

namespace GroundTruth.Entry

/-- What `nearest` minimizes: the distance decides, the faster time breaks ties. -/
def nearness (time : Complexity) (k : Known) : ℕ ×ₗ ℕ :=
  toLex (k.time.distance time, k.time.rank)

variable (time : Complexity) (best a : Approach × Known) (others : List (Approach × Known))

theorem nearest_cons :
    nearest time best (a :: others) =
      nearest time (if nearness time a.2 < nearness time best.2 then a else best) others := by
  simp [nearest, nearness, Prod.Lex.toLex_lt_toLex]

theorem nearest_eq_foldl :
    nearest time best others =
      others.foldl (fun best a => if nearness time a.2 < nearness time best.2 then a else best)
        best := by
  induction others generalizing best with
  | nil => rfl
  | cons a others ih => rw [nearest_cons, ih, List.foldl_cons]

variable (e : Entry)

theorem leads_closest :
    Leads (fun k best => nearness time k.2 < nearness time best.2) e.approaches.toList
      (e.closest time) := by
  have hoptimal : (.optimal, e.optimal) ∈ e.approaches.toList := by
    simp [approaches, Triple.toList]
  rw [closest]
  cases h : e.approaches.toList with
  | nil => simp [h] at hoptimal
  | cons first others =>
    dsimp only
    rw [nearest_eq_foldl]
    exact leads_foldl (strictWeakOn_lt (fun k => nearness time k.2) (first :: others))

theorem closest_mem : e.closest time ∈ e.approaches.toList :=
  (e.leads_closest time).mem

theorem nearness_closest_le {k : Approach × Known} (h : k ∈ e.approaches.toList) :
    nearness time (e.closest time).2 ≤ nearness time k.2 :=
  not_lt.mp ((e.leads_closest time).unbeaten (fun _ _ => lt_asymm) k h)

theorem closest_time_eq_iff :
    (e.closest time).2.time = time ↔ ∃ k ∈ e.approaches.toList, k.2.time = time := by
  constructor
  · intro h
    exact ⟨e.closest time, e.closest_mem time, h⟩
  · rintro ⟨k, hk, htime⟩
    have hle := e.nearness_closest_le time hk
    have hzero : k.2.time.distance time = 0 := Complexity.distance_eq_zero_iff.mpr htime
    have hdistance : (e.closest time).2.time.distance time = 0 := by
      rcases Prod.Lex.toLex_le_toLex.mp hle with hlt | ⟨heq, _⟩
      · omega
      · omega
    exact Complexity.distance_eq_zero_iff.mp hdistance

end GroundTruth.Entry

/-! ## Equally near approaches
Of the approaches nearest to a class the closest one has the least time. Space is not compared: of
several approaches with that time the first is taken, which in an accepted entry is the most
expensive. So the closest one has the least cost exactly if all approaches with its time have its
space. -/

namespace GroundTruth.Entry

structure Nearest (e : Entry) (time : Complexity) (k : Approach × Known) : Prop where
  mem : k ∈ e.approaches.toList
  le : ∀ l ∈ e.approaches.toList, k.2.time.distance time ≤ l.2.time.distance time

variable {e : Entry} {time : Complexity} {k l : Approach × Known}

theorem Nearest.of_time_eq (hl : e.Nearest time l) (hk : k ∈ e.approaches.toList)
    (htime : k.2.time = l.2.time) : e.Nearest time k where
  mem := hk
  le := htime ▸ hl.le

theorem Nearest.distance_eq (hk : e.Nearest time k) (hl : e.Nearest time l) :
    k.2.time.distance time = l.2.time.distance time :=
  le_antisymm (hk.le l hl.mem) (hl.le k hk.mem)

theorem nearest_closest (e : Entry) (time : Complexity) : e.Nearest time (e.closest time) where
  mem := e.closest_mem time
  le l hl := by
    rcases Prod.Lex.toLex_le_toLex.mp (e.nearness_closest_le time hl) with hlt | ⟨heq, -⟩
    · exact hlt.le
    · exact heq.le

theorem Nearest.closest_time_le (hk : e.Nearest time k) : (e.closest time).2.time ≤ k.2.time := by
  have hdistance := (e.nearest_closest time).distance_eq hk
  rcases Prod.Lex.toLex_le_toLex.mp (e.nearness_closest_le time hk.mem) with hlt | ⟨-, hrank⟩
  · exact absurd hdistance hlt.ne
  · exact hrank

/-- The search keeps the first approach of a time, and costs fall along the slots. -/
theorem Valid.cost_le_closest (h : e.Valid) (hk : k ∈ e.approaches.toList)
    (htime : k.2.time = (e.closest time).2.time) : k.2.cost ≤ (e.closest time).2.cost := by
  obtain ⟨before, behind, hsplit, hbefore, -⟩ := e.leads_closest time
  have hfall := List.isChain_iff_pairwise.mp h.ordered
  rw [hsplit] at hk hfall
  obtain ⟨-, hfall, -⟩ := List.pairwise_append.mp hfall
  rcases List.mem_append.mp hk with hk | hk
  · -- What stands in front is strictly less near, so its time is another one.
    have hlt : nearness time (e.closest time).2 < nearness time k.2 := hbefore k hk
    have heq : nearness time (e.closest time).2 = nearness time k.2 := by
      rw [nearness, nearness, htime]
    exact absurd heq hlt.ne
  · rcases List.mem_cons.mp hk with rfl | hk
    · exact le_rfl
    · exact (List.pairwise_cons.mp hfall).1 k hk

/-- Of the nearest approaches the closest one has the least time, and of those with its time the
greatest cost. It is the cheapest exactly if the approaches with its time do not differ in space. -/
theorem closest_cost_le_iff (he : e.Accepted) :
    e.Nearest time (e.closest time) ∧
      (∀ k, e.Nearest time k → (e.closest time).2.time ≤ k.2.time) ∧
      (∀ k, e.Nearest time k → k.2.time = (e.closest time).2.time →
        k.2.cost ≤ (e.closest time).2.cost) ∧
      ((∀ k, e.Nearest time k → (e.closest time).2.cost ≤ k.2.cost) ↔
        ∀ k ∈ e.approaches.toList, k.2.time = (e.closest time).2.time →
          k.2.space = (e.closest time).2.space) := by
  have hnearest := e.nearest_closest time
  have hgreatest {k : Approach × Known} (hk : k ∈ e.approaches.toList)
      (htime : k.2.time = (e.closest time).2.time) : k.2.cost ≤ (e.closest time).2.cost :=
    he.valid.cost_le_closest hk htime
  refine ⟨hnearest, fun k hk => hk.closest_time_le, fun k hk => hgreatest hk.mem, ?_⟩
  constructor
  · intro hleast k hk htime
    have hcost : k.2.cost = (e.closest time).2.cost :=
      le_antisymm (hgreatest hk htime) (hleast k (hnearest.of_time_eq hk htime))
    exact congrArg (fun c => (ofLex c).2) hcost
  · intro hspace k hk
    refine Prod.Lex.toLex_le_toLex.mpr ?_
    rcases hk.closest_time_le.lt_or_eq with hlt | heq
    · exact .inl hlt
    · exact .inr ⟨heq, (hspace k hk.mem heq.symm).ge⟩

/-- Both approaches to reversing a linked list are linear; only the second needs no extra space. -/
def reversedListDraft : EntryDraft where
  id := "reverse-linked-list"
  titles := ["Reverse Linked List"]
  fingerprint := ["reverselist", "reverse", "nxt", "nexttemp", "prev"]
  bruteForce := some { time := "O(n)", space := "O(n)", algorithm := "copy values to a stack" }
  optimal := some { time := "O(n)", space := "O(1)", algorithm := "iterative pointer reversal" }
  hasLadder := false

def reversedList : Entry :=
  reversedListDraft.entry (some ⟨.linear, .linear, "copy values to a stack", none⟩) none
    ⟨.linear, .constant, "iterative pointer reversal", none⟩

theorem accepted_reversedList : reversedList.Accepted :=
  ⟨reversedListDraft, rfl⟩

theorem closest_cost_le_iff_reversedList :
    reversedList.Accepted ∧
      ¬ ∀ k, reversedList.Nearest .linear k → (reversedList.closest .linear).2.cost ≤ k.2.cost := by
  refine ⟨accepted_reversedList, ?_⟩
  rw [(closest_cost_le_iff accepted_reversedList).2.2.2]
  decide

theorem not_forall_closest_cost_le :
    ¬ ∀ (e : Entry) (time : Complexity), e.Accepted →
      e.Nearest time (e.closest time) ∧
        ∀ k, e.Nearest time k → (e.closest time).2.cost ≤ k.2.cost := by
  intro hleast
  have hnearest : reversedList.Nearest .linear (.optimal, reversedList.optimal) :=
    ⟨by decide, by decide⟩
  have hle := (hleast reversedList .linear accepted_reversedList).2 _ hnearest
  exact absurd hle (by decide)

end GroundTruth.Entry

end Asymptote
