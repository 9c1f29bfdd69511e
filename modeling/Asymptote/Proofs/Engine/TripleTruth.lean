import Asymptote.Proofs.Engine.Authority

/-! # Ground truth of a triple
The analysis of one snippet trusts a fingerprint only if some approach of the entry has the time of
the heuristic verdict. A triple trusts it in any case: whatever the fingerprint of the code that it
looks up finds decides each slot that the entry knows and that has code or a claim. -/
namespace Asymptote
open GroundTruth (Entry Finding)

namespace Consensus

variable {truth : Option Finding} {evidence : Triple Evidence} {claimConfidence : Float}

theorem highest_eq_groundTruth_iff {layers : List Layer} :
    highest layers = some .groundTruth ↔ .groundTruth ∈ layers := by
  cases layers with
  | nil => simp [highest]
  | cons first others =>
    have hleads := leads_foldl (strictWeakOn_lt Layer.priority (first :: others))
    rw [highest, Option.some_inj]
    constructor
    · intro h
      exact h ▸ hleads.mem
    · intro h
      have hnot := hleads.unbeaten (fun _ _ => lt_asymm) _ h
      revert hnot
      generalize others.foldl _ first = best
      cases best <;> simp [Layer.priority]

theorem source_eq_groundTruth_iff :
    (build truth evidence claimConfidence).source = Layer.groundTruth.name ↔
      ∃ a, (.groundTruth, a) ∈ decided truth evidence claimConfidence := by
  have hname (o : Option Layer) :
      (o.map Layer.name).getD "none" = Layer.groundTruth.name ↔ o = some .groundTruth := by
    cases o with
    | none => decide
    | some layer => cases layer <;> decide
  rw [source_build, hname, highest_eq_groundTruth_iff]
  constructor
  · intro h
    obtain ⟨⟨_, a⟩, hv, rfl⟩ := List.mem_map.mp h
    exact ⟨a, Triple.mem_map_snd_toList.mp hv⟩
  · rintro ⟨a, hv⟩
    exact List.mem_map.mpr ⟨_, Triple.mem_map_snd_toList.mpr hv, rfl⟩

theorem layer_ne_groundTruth {e : Evidence} {layer : Layer} {a : Solution}
    (h : (layer, a) ∈ e.verdict? claimConfidence) : layer ≠ .groundTruth := by
  rintro rfl
  revert h
  rw [Evidence.verdict?]
  cases e.analysis? <;> cases e.amortized? <;> cases e.claim?.bind Claim.classes? <;> simp

theorem exists_groundTruth_mem_decided :
    (∃ a, (.groundTruth, a) ∈ decided truth evidence claimConfidence) ↔
      ∃ f ∈ truth, ∃ slot, (f.entry.approaches.get? slot).isSome ∧
        ∃ e ∈ evidence.get? slot, e.isEmpty = false := by
  simp only [Triple.mem_iff_get?, mem_get?_decided]
  constructor
  · rintro ⟨a, slot, e, he, hsome, hv⟩
    rcases (Option.orElse_eq_some ..).mp hv with hv | ⟨_, hv⟩
    · obtain ⟨f, hf, hv⟩ := Option.bind_eq_some_iff.mp hv
      obtain ⟨k, hk, _⟩ := Option.map_eq_some_iff.mp hv
      exact ⟨f, hf, slot, Option.isSome_of_mem hk, e, he, hsome⟩
    · exact absurd rfl (layer_ne_groundTruth hv)
  · rintro ⟨f, rfl, slot, hk, e, he, hsome⟩
    obtain ⟨k, hk⟩ := Option.isSome_iff_exists.mp hk
    refine ⟨.ofKnown k f.confidence, slot, e, he, hsome, ?_⟩
    simp [Finding.verdict?, hk]

end Consensus

def GroundTruth.Entry.Covers (entry : Entry) (code : Triple Text) (claims : Triple Claim) : Prop :=
  ∃ slot, (entry.approaches.get? slot).isSome ∧
    ((code.get? slot).isSome ∨ (claims.get? slot).isSome)

namespace Engine

variable {e : Engine} {title : Option Text} {l : Language} {code : Triple Text}
  {claims : Triple Claim} {text : Text} {f : Finding}

/-- The finding that a triple without a title takes: that of its optimal code, or of the brute force
if there is no optimal code. -/
structure Consults (e : Engine) (l : Language) (code : Triple Text) (text : Text) (f : Finding) :
    Prop where
  consulted : text ∈ (code.optimal <|> code.bruteForce)
  found : f ∈ e.lookup? (Snippet.ofCode l text) none

def SharesTime (e : Engine) (l : Language) (text : Text) (f : Finding) : Prop :=
  ∃ k ∈ f.entry.approaches.toList,
    k.2.time = (heuristicVerdict (Snippet.ofCode l text) e.settings.disabledHazards).time

theorem mem_tripleTruth?_iff (htitle : title.bind e.groundTruth.byTitle? = none) :
    f ∈ e.tripleTruth? title l code ↔ ∃ text, e.Consults l code text f := by
  rw [tripleTruth?, htitle]
  constructor
  · intro hf
    obtain ⟨text, htext, hfound⟩ := Option.bind_eq_some_iff.mp hf
    exact ⟨text, htext, hfound⟩
  · rintro ⟨text, htext, hfound⟩
    exact Option.bind_eq_some_iff.mpr ⟨text, htext, hfound⟩

theorem Consults.unique {text' : Text} {f' : Finding} (h : e.Consults l code text f)
    (h' : e.Consults l code text' f') : text' = text ∧ f' = f := by
  have htext := Option.mem_unique h'.consulted h.consulted
  subst htext
  exact ⟨rfl, Option.mem_unique h'.found h.found⟩

theorem exists_evidence_iff {slot : Approach} :
    (∃ ev ∈ (e.tripleEvidence l code claims).get? slot, ev.isEmpty = false) ↔
      (code.get? slot).isSome ∨ (claims.get? slot).isSome := by
  rw [get?_tripleEvidence]
  cases code.get? slot <;> cases claims.get? slot <;> simp [evidence?, Evidence.isEmpty]

theorem source_reconcile_iff (htitle : title.bind e.groundTruth.byTitle? = none) :
    (e.reconcile title l code claims).source = Layer.groundTruth.name ↔
      ∃ text f, e.Consults l code text f ∧ f.entry.Covers code claims := by
  rw [reconcile, Consensus.source_eq_groundTruth_iff, Consensus.exists_groundTruth_mem_decided]
  simp only [exists_evidence_iff, mem_tripleTruth?_iff htitle, Entry.Covers]
  constructor
  · rintro ⟨f, ⟨text, hconsults⟩, hcovers⟩
    exact ⟨text, f, hconsults, hcovers⟩
  · rintro ⟨text, f, hconsults, hcovers⟩
    exact ⟨f, ⟨text, hconsults⟩, hcovers⟩

theorem source_heuristicVerdict_ne (s : Snippet) (disabled : List String) :
    (heuristicVerdict s disabled).source ≠ Layer.groundTruth.name := by
  intro h
  have hhead := head?_source_heuristicVerdict s disabled
  rw [h] at hhead
  exact absurd hhead (by decide)

theorem source_analyze_iff (hf : f ∈ e.lookup? (Snippet.ofCode l text) none) :
    (e.analyze text l none).source = Layer.groundTruth.name ↔ e.SharesTime l text f := by
  rw [SharesTime, ← agrees_fingerprint_iff (e.lookup?_none_eq_some hf).1, analyze,
    analyzeSnippet_eq, Option.mem_def.mp hf, Option.filter_some]
  split
  next hagrees => simp [hagrees, ofGroundTruth]
  next hnot => simpa [hnot] using source_heuristicVerdict_ne _ _

theorem source_of_mem_reconcile {a : Solution}
    (ha : a ∈ (e.reconcile title l code claims).solution)
    (hsource : a.source = Layer.groundTruth.name) :
    (e.reconcile title l code claims).source = Layer.groundTruth.name := by
  obtain ⟨layer, hdecided⟩ := Consensus.exists_mem_decided ha
  rw [reconcile, Consensus.source_eq_groundTruth_iff]
  obtain ⟨slot, ev, hev, hv | hv⟩ := Consensus.mem_decided hdecided
  · obtain ⟨f, _, hv⟩ := Option.bind_eq_some_iff.mp hv
    obtain ⟨k, _, heq⟩ := Option.map_eq_some_iff.mp hv
    cases heq
    exact ⟨_, hdecided⟩
  · rcases verdict?_evidence_cases hev hv with ⟨c, _, rfl⟩ | ⟨_, c, _, _, _, _, rfl⟩
    · exact absurd hsource (source_heuristicVerdict_ne _ _)
    · exact absurd hsource (by simp [Solution.ofClaim, Layer.name])

theorem exists_known_of_mem_reconcile (htitle : title.bind e.groundTruth.byTitle? = none)
    {a : Solution} (ha : a ∈ (e.reconcile title l code claims).solution)
    (hsource : a.source = Layer.groundTruth.name) :
    ∃ text f, e.Consults l code text f ∧
      ∃ slot, ∃ k ∈ f.entry.approaches.get? slot, a = .ofKnown k f.confidence := by
  cases supplied_of_mem_reconcile ha with
  | @known f slot k hf hk =>
    obtain ⟨text, hconsults⟩ := (mem_tripleTruth?_iff htitle).mp hf
    exact ⟨text, f, hconsults, slot, k, hk, rfl⟩
  | analyzed => exact absurd hsource (source_heuristicVerdict_ne _ _)
  | claimed => exact absurd hsource (by simp [Solution.ofClaim, Layer.name])

/-- Without a title ground truth is the source of a triple exactly if the finding of its code knows
a slot with code or a claim, and what a slot then holds of it is an approach of that entry. So the
entry shares the time of the verdict on the code only if analysis, which asks for it, reports ground
truth for that code too. -/
theorem reconcile_consults (e : Engine) (title : Option Text) (l : Language) (code : Triple Text)
    (claims : Triple Claim) (htitle : title.bind e.groundTruth.byTitle? = none) :
    let c := e.reconcile title l code claims
    (c.source = Layer.groundTruth.name ↔
      ∃ text f, e.Consults l code text f ∧ f.entry.Covers code claims) ∧
    (∀ a ∈ c.solution, a.source = Layer.groundTruth.name →
      c.source = Layer.groundTruth.name ∧ ∃ text f, e.Consults l code text f ∧
        ∃ slot, ∃ k ∈ f.entry.approaches.get? slot, a = .ofKnown k f.confidence) ∧
    ((c.source = Layer.groundTruth.name →
        ∃ text f, e.Consults l code text f ∧ e.SharesTime l text f) ↔
      ∀ text f, e.Consults l code text f → f.entry.Covers code claims →
        (e.analyze text l none).source = Layer.groundTruth.name) := by
  intro c
  have hiff : c.source = Layer.groundTruth.name ↔
      ∃ text f, e.Consults l code text f ∧ f.entry.Covers code claims :=
    source_reconcile_iff htitle
  refine ⟨hiff, fun a ha hsource => ⟨source_of_mem_reconcile ha hsource,
    exists_known_of_mem_reconcile htitle ha hsource⟩, ?_, ?_⟩
  · intro hlaw text f hconsults hcovers
    obtain ⟨text', f', hconsults', hshares⟩ := hlaw (hiff.mpr ⟨text, f, hconsults, hcovers⟩)
    obtain ⟨rfl, rfl⟩ := hconsults.unique hconsults'
    exact (source_analyze_iff hconsults.found).mpr hshares
  · intro hanalyze hsource
    obtain ⟨text, f, hconsults, hcovers⟩ := hiff.mp hsource
    exact ⟨text, f, hconsults,
      (source_analyze_iff hconsults.found).mp (hanalyze text f hconsults hcovers)⟩

def sumEngine : Engine where
  groundTruth := sumTable

def addition : Text := "grand_total += x".toList

theorem reported_addition :
    ∃ a ∈ (sumEngine.reconcile none .python { optimal := some addition } {}).solution,
      a.source = Layer.groundTruth.name := by
  have hoptimal :
      (sumEngine.reconcile none .python { optimal := some addition } {}).solution.optimal.map
        (·.source) = some Layer.groundTruth.name := by
    decide
  obtain ⟨a, ha, hsource⟩ := Option.map_eq_some_iff.mp hoptimal
  exact ⟨a, .inr (.inr ha), hsource⟩

theorem reconcile_consults_addition :
    (none : Option Text).bind sumEngine.groundTruth.byTitle? = none ∧
      ∃ f, sumEngine.Consults .python { optimal := some addition } addition f ∧
        f.entry.Covers { optimal := some addition } {} := by
  obtain ⟨hiff, hslot, _⟩ :=
    reconcile_consults sumEngine none .python { optimal := some addition } {} rfl
  obtain ⟨a, ha, hsource⟩ := reported_addition
  obtain ⟨text, f, hconsults, hcovers⟩ := hiff.mp (hslot a ha hsource).1
  obtain rfl : addition = text := Option.some_inj.mp hconsults.consulted
  exact ⟨rfl, f, hconsults, hcovers⟩

/-- What a triple reports of an entry need not share the time of the code that found it. -/
theorem not_forall_sharesTime :
    ¬ ∀ (e : Engine) (title : Option Text) (l : Language) (code : Triple Text)
        (claims : Triple Claim), title.bind e.groundTruth.byTitle? = none →
      (∃ a ∈ (e.reconcile title l code claims).solution, a.source = Layer.groundTruth.name) →
        ∃ text f, e.Consults l code text f ∧ e.SharesTime l text f := by
  intro hall
  obtain ⟨text, f, hconsults, hshares⟩ :=
    hall sumEngine none .python { optimal := some addition } {} rfl reported_addition
  obtain rfl : addition = text := Option.some_inj.mp hconsults.consulted
  have htruth := (source_analyze_iff hconsults.found).mpr hshares
  have hanalyzed : (sumEngine.analyze addition .python none).source = "rule_engine" := by
    decide
  exact absurd (hanalyzed.symm.trans htruth) (by decide)

end Engine
end Asymptote
