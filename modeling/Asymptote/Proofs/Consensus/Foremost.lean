import Asymptote.Proofs.Order

/-! # The opinion that decides
Opinions are ranked by authority first, and by confidence among equals. -/
namespace Asymptote

/-! ## Ranking opinions
An opinion of strictly higher authority than all others decides, wherever it stands among them and
however sure the others are. -/

namespace Opinion

variable {α : Type} {best o : Opinion α}

theorem prefer_of_priority_lt (h : o.layer.priority < best.layer.priority) :
    prefer best o = o := by
  simp [prefer, beats, h]

theorem prefer_of_lt_priority (h : best.layer.priority < o.layer.priority) :
    prefer best o = best := by
  have hnot : ¬ o.layer.priority < best.layer.priority := by omega
  have hne : ¬ o.layer.priority = best.layer.priority := by omega
  simp [prefer, beats, hnot, hne]

theorem foldl_prefer_mem (best : Opinion α) (os : List (Opinion α)) :
    os.foldl prefer best ∈ best :: os :=
  foldl_mem_of_choice best os fun kept o => (ite_eq_or_eq _ o kept).symm

theorem foldl_prefer_eq_self {os : List (Opinion α)}
    (h : ∀ o ∈ os, best.layer.priority < o.layer.priority) : os.foldl prefer best = best := by
  induction os with
  | nil => rfl
  | cons o os ih =>
    rw [List.foldl_cons, prefer_of_lt_priority (h o (List.mem_cons_self ..))]
    exact ih fun x hx => h x (List.mem_cons_of_mem _ hx)

theorem rank_append_cons (before : List (Opinion α)) (o : Opinion α) (after : List (Opinion α))
    (hbefore : ∀ x ∈ before, o.layer.priority < x.layer.priority)
    (hafter : ∀ x ∈ after, o.layer.priority < x.layer.priority) :
    rank (before ++ o :: after) = some o := by
  cases before with
  | nil => exact congrArg some (foldl_prefer_eq_self hafter)
  | cons b before =>
    -- The best so far is one of those before, so it gives way to o, which none behind it beats.
    have hbest := hbefore _ (foldl_prefer_mem b before)
    simp only [List.cons_append, rank, List.foldl_append, List.foldl_cons]
    rw [prefer_of_priority_lt hbest, foldl_prefer_eq_self hafter]

theorem rank_of_pairwise {os : List (Opinion α)}
    (h : os.Pairwise fun a b => a.layer.priority < b.layer.priority) : rank os = os.head? := by
  cases os with
  | nil => rfl
  | cons o os =>
    have hall : ∀ x ∈ os, o.layer.priority < x.layer.priority := (List.pairwise_cons.mp h).1
    exact rank_append_cons [] o os (by simp) hall

end Opinion

/-! ## The foremost opinion
Opinions whose confidences are numbers are ranked by authority and then by confidence, and the first
of the foremost decides. An opinion that some other outranks has no say, wherever it stands. -/

namespace Opinion

open FloatOrder

variable {α : Type} {a b best o : Opinion α} {os before behind : List (Opinion α)}

def Foremost (os : List (Opinion α)) (o : Opinion α) : Prop :=
  (∀ x ∈ os, ¬ x.layer.priority < o.layer.priority) ∧
    ∀ x ∈ os, x.layer.priority = o.layer.priority → ¬ o.confidence < x.confidence

theorem beats_iff :
    a.beats b = true ↔ a.layer.priority < b.layer.priority ∨
      a.layer.priority = b.layer.priority ∧ b.confidence < a.confidence := by
  simp [beats]

theorem foremost_iff : Foremost os o ↔ ∀ x ∈ os, ¬ x.beats o = true := by
  simp only [Foremost, beats_iff, not_or, not_and]
  exact forall₂_and.symm

/-! ### The order of opinions -/

theorem beats_asymm (h : a.beats b = true) : ¬ b.beats a = true := by
  rw [beats_iff] at h ⊢
  rintro (hlt | ⟨heq, hless⟩)
  · omega
  · rcases h with hlt | ⟨-, hmore⟩
    · omega
    · exact lt_irrefl _ (lt_trans hless hmore)

/-- Between two opinions of which one beats the other, a third that is comparable with them beats
the one or is beaten by the other. -/
theorem strictWeakOn_beats (hnumbers : ∀ o ∈ os, IsNumber o.confidence) :
    StrictWeakOn (fun a b : Opinion α => a.beats b = true) os where
  asymm _ _ := beats_asymm
  split a _ b hb c _ h := by
    rw [beats_iff, beats_iff]
    rcases beats_iff.mp h with hlt | ⟨heq, hmore⟩
    · omega
    · rcases lt_trichotomy b.layer.priority a.layer.priority with hless | hsame | hgreater
      · exact .inr (.inl (by omega))
      · by_contra hnot
        obtain ⟨hab, hbc⟩ := not_or.mp hnot
        have hlow : ¬ c.confidence < b.confidence := fun h => hbc (.inr ⟨by omega, h⟩)
        have hhigh : ¬ b.confidence < a.confidence := fun h => hab (.inr ⟨hsame.symm, h⟩)
        exact not_lt_trans (hnumbers b hb) hlow hhigh hmore
      · exact .inl (.inl hgreater)

theorem leads_rank (hnumbers : ∀ o ∈ os, IsNumber o.confidence) (h : rank os = some best) :
    Leads (fun a b : Opinion α => a.beats b = true) os best := by
  cases os with
  | nil => cases h
  | cons first others =>
    cases h
    exact leads_foldl (strictWeakOn_beats hnumbers)

theorem rank_eq_none_iff : rank os = none ↔ os = [] := by
  cases os <;> simp [rank]

/-! ### Opinions without a say -/

theorem prefer_eq_or (best o : Opinion α) : prefer best o = best ∨ prefer best o = o :=
  (ite_eq_or_eq _ o best).symm

theorem lt_priority_prefer {n : ℕ} (hbest : n < best.layer.priority) (ho : n < o.layer.priority) :
    n < (prefer best o).layer.priority := by
  rcases prefer_eq_or best o with h | h <;> rwa [h]

theorem priority_prefer_le (best o : Opinion α) :
    (prefer best o).layer.priority ≤ best.layer.priority ∧
      (prefer best o).layer.priority ≤ o.layer.priority := by
  rw [prefer]
  split
  · next h =>
    rw [beats_iff] at h
    omega
  · next h =>
    rw [beats_iff] at h
    omega

theorem priority_foldl_prefer_le (best : Opinion α) (os : List (Opinion α)) :
    ∀ x ∈ best :: os, (os.foldl prefer best).layer.priority ≤ x.layer.priority := by
  induction os generalizing best with
  | nil => simp
  | cons o os ih =>
    have hstep := priority_prefer_le best o
    have hbest := ih (prefer best o) _ (List.mem_cons_self ..)
    rw [List.foldl_cons]
    refine List.forall_mem_cons.mpr ⟨hbest.trans hstep.1, List.forall_mem_cons.mpr ⟨?_, ?_⟩⟩
    · exact hbest.trans hstep.2
    · exact fun x hx => ih (prefer best o) x (List.mem_cons_of_mem _ hx)

theorem foldl_prefer_congr
    (h : ∃ x ∈ os, x.layer.priority < a.layer.priority ∧ x.layer.priority < b.layer.priority) :
    os.foldl prefer a = os.foldl prefer b := by
  induction os generalizing a b with
  | nil => simp at h
  | cons o os ih =>
    obtain ⟨x, hx, ha, hb⟩ := h
    rw [List.foldl_cons, List.foldl_cons]
    by_cases ho : o.layer.priority ≤ x.layer.priority
    · rw [prefer_of_priority_lt (ho.trans_lt ha), prefer_of_priority_lt (ho.trans_lt hb)]
    · have hmem : x ∈ os := (List.mem_cons.mp hx).resolve_left fun heq => ho (heq ▸ le_rfl)
      have hxo := not_le.mp ho
      exact ih ⟨x, hmem, lt_priority_prefer ha hxo, lt_priority_prefer hb hxo⟩

theorem rank_insert (h : ∃ x ∈ before ++ behind, x.layer.priority < o.layer.priority) :
    rank (before ++ o :: behind) = rank (before ++ behind) := by
  obtain ⟨x, hx, hlt⟩ := h
  cases before with
  | nil =>
    cases behind with
    | nil => cases hx
    | cons next behind =>
      rw [List.nil_append] at hx
      refine congrArg some ?_
      rw [List.foldl_cons]
      by_cases hnext : next.layer.priority < o.layer.priority
      · rw [prefer_of_priority_lt hnext]
      · have hmem : x ∈ behind := (List.mem_cons.mp hx).resolve_left fun heq => hnext (heq ▸ hlt)
        have hxnext := hlt.trans_le (not_lt.mp hnext)
        exact foldl_prefer_congr ⟨x, hmem, lt_priority_prefer hlt hxnext, hxnext⟩
  | cons first before =>
    have hbest := priority_foldl_prefer_le first before
    rw [List.cons_append, List.cons_append, rank, rank, List.foldl_append, List.foldl_append,
      List.foldl_cons]
    by_cases hoverruled : (before.foldl prefer first).layer.priority < o.layer.priority
    · rw [prefer_of_lt_priority hoverruled]
    · -- The best so far has no higher authority than o, so what outranks o comes behind it.
      have hmem : x ∈ behind := by
        refine (List.mem_append.mp hx).resolve_left fun hfront => ?_
        have hle := hbest x hfront
        omega
      have hxbest := hlt.trans_le (not_lt.mp hoverruled)
      exact congrArg some
        (foldl_prefer_congr ⟨x, hmem, lt_priority_prefer hxbest hlt, hxbest⟩)

/-- Of opinions whose confidences are numbers the first foremost one decides, and there is one
unless there is no opinion at all. An opinion that another outranks can be put in anywhere. -/
theorem rank_first_foremost (os : List (Opinion α)) :
    (rank os = none ↔ os = []) ∧
    (os ≠ [] → (∀ o ∈ os, IsNumber o.confidence) →
      ∃ (i : ℕ) (hi : i < os.length), rank os = some os[i] ∧ Foremost os os[i] ∧
        ∀ (j : ℕ) (hj : j < i), ¬ Foremost os os[j]) ∧
    ∀ before behind o, os = before ++ behind →
      (∃ x ∈ os, x.layer.priority < o.layer.priority) → rank (before ++ o :: behind) = rank os := by
  refine ⟨rank_eq_none_iff, fun hne hnumbers => ?_, ?_⟩
  · obtain ⟨best, hbest⟩ := Option.ne_none_iff_exists'.mp (mt rank_eq_none_iff.mp hne)
    have hleads := leads_rank hnumbers hbest
    have hforemost := foremost_iff.mpr (hleads.unbeaten fun _ _ => beats_asymm)
    obtain ⟨i, hi, rfl, hbefore⟩ := hleads.exists_getElem
    refine ⟨i, hi, hbest, hforemost, fun j hj h => ?_⟩
    exact foremost_iff.mp h os[i] (List.getElem_mem hi) (hbefore j hj)
  · rintro before behind o rfl h
    exact rank_insert h

def fourOpinions : List (Opinion String) :=
  [⟨.externalClaim, 0.99, "claim"⟩, ⟨.ruleEngine, 0.7, "rules"⟩, ⟨.ruleEngine, 0.9, "hazard"⟩,
    ⟨.patternDetector, 0.95, "amortized"⟩]

theorem rank_first_foremost_fourOpinions :
    fourOpinions ≠ [] ∧ (∀ o ∈ fourOpinions, IsNumber o.confidence) ∧
      (rank fourOpinions).map (·.candidate) = some "hazard" ∧
      (∃ (i : ℕ) (hi : i < fourOpinions.length), rank fourOpinions = some fourOpinions[i] ∧
        Foremost fourOpinions fourOpinions[i] ∧
        ∀ (j : ℕ) (hj : j < i), ¬ Foremost fourOpinions fourOpinions[j]) ∧
      (∃ x ∈ fourOpinions, x.layer.priority < Layer.externalClaim.priority) ∧
      rank (⟨.externalClaim, 1.0, "sure"⟩ :: fourOpinions) = rank fourOpinions := by
  have hne : fourOpinions ≠ [] := by simp [fourOpinions]
  have hnumbers : ∀ o ∈ fourOpinions, IsNumber o.confidence := by
    simp only [isNumber_iff]
    decide
  have houtranked : ∃ x ∈ fourOpinions, x.layer.priority < Layer.externalClaim.priority := by decide
  obtain ⟨-, hfirst, hinsert⟩ := rank_first_foremost fourOpinions
  exact ⟨hne, hnumbers, by decide, hfirst hne hnumbers, houtranked,
    hinsert [] fourOpinions ⟨.externalClaim, 1.0, "sure"⟩ rfl houtranked⟩

end Opinion

end Asymptote
