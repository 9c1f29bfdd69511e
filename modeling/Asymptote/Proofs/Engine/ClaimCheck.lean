import Asymptote.Proofs.Consensus.Confirmation
import Asymptote.Proofs.Engine.Authority

/-! # The two checks of a claim
A claim about one snippet is checked on its own, or as the optimal slot of a triple that holds
nothing else. Both accept it exactly if its texts stand for the classes that they report, and without
ground truth they report the same classes. The check on its own adds an objection to each text that
fails, behind what analysis has recorded. -/
namespace Asymptote
open GroundTruth (Finding)

theorem Settled.of_lone {truth : Option Finding} (a : Solution) :
    Settled truth { optimal := some a } where
  better_eq_none _ _ _ := rfl
  optimal_le_brute _ hb := by cases hb
  between _ hb := by cases hb
  optimal_isSome hb := by cases hb

theorem Analysis.corrections_noting (a : Analysis) (corrections : List Correction) :
    (a.noting corrections).corrections = a.corrections ++ corrections := rfl

namespace Consensus

variable {truth : Option Finding} {evidence : Evidence} {claimConfidence : Float} {layer : Layer}
  {a : Solution}

/-- With evidence for the optimal slot alone there is nothing to repair. -/
theorem build_lone
    (hverdict : (Decision.ofEvidence truth claimConfidence .optimal evidence).verdict? =
      some (layer, a)) :
    let c := build truth { optimal := some evidence } claimConfidence
    c.solution = { optimal := some a } ∧
      c.corrections = (Decision.ofEvidence truth claimConfidence .optimal evidence).corrections := by
  intro c
  obtain ⟨hsolution, _, hcorrections⟩ :=
    build_eq_repair truth { optimal := some evidence } claimConfidence
  have hdecided : unrepaired (decided truth { optimal := some evidence } claimConfidence) =
      { solution := { optimal := some a } } := by
    simp [unrepaired, decided, Triple.map, hverdict]
  have hrepair : Progression.repair { solution := { optimal := some a } } truth =
      { solution := { optimal := some a } } :=
    Progression.repair_eq_self (.of_lone a)
  rw [hdecided, hrepair] at hsolution hcorrections
  refine ⟨hsolution, hcorrections.trans ?_⟩
  simp [slotCorrections, Triple.toList]

theorem valid_build_lone_iff {c : Claim} (hclaim : c ∈ evidence.claim?)
    (hverdict : (Decision.ofEvidence truth claimConfidence .optimal evidence).verdict? =
      some (layer, a)) :
    (build truth { optimal := some evidence } claimConfidence).valid = true ↔
      c.StandsFor a.time a.space := by
  have hcorrections := (build_lone hverdict).2
  rw [Decision.corrections_ofEvidence, hverdict, Option.mem_def.mp hclaim, Option.map_some,
    Option.getD_some] at hcorrections
  have hnil : Decision.claimCorrections .optimal (some (layer, a)) c = [] ↔
      c.StandsFor a.time a.space := Decision.claimCorrections_eq_nil_iff
  rw [← hnil, ← hcorrections]
  exact List.isEmpty_iff

end Consensus

namespace Engine

theorem claimCorrection_eq_nil_iff {field : CorrectedField} {claimed override : String}
    {reported : Complexity} :
    claimCorrection field claimed reported override = [] ↔
      Complexity.read claimed.toList = .ok reported := by
  rw [claimCorrection]
  cases Complexity.read claimed.toList with
  | error => simp
  | ok c => by_cases h : c = reported <;> simp [h]

/-- What the check of one claimed text may say: with which class it was overridden, or that the text
cannot be read. -/
inductive Objection (field : CorrectedField) (claimed : String) (reported : Complexity)
    (override : String) : Correction → Prop
  | overridden {c : Complexity} (hread : Complexity.read claimed.toList = .ok c)
      (hne : c ≠ reported) :
      Objection field claimed reported override
        ⟨.single, field, c.canonical, reported.canonical, override⟩
  | unreadable {unknown : UnknownNotation}
      (hread : Complexity.read claimed.toList = .error unknown) :
      Objection field claimed reported override
        ⟨.single, field, claimed, reported.canonical, unknown.message⟩

structure Objects (field : CorrectedField) (reported : Complexity) (override : String)
    (objection? : String → Option Correction) : Prop where
  eq_none_iff : ∀ text, objection? text = none ↔ Complexity.read text.toList = .ok reported
  of_mem : ∀ text, ∀ c ∈ objection? text, Objection field text reported override c

theorem claimCorrection_cases (field : CorrectedField) (claimed : String) (reported : Complexity)
    (override : String) :
    claimCorrection field claimed reported override = [] ∨
      ∃ c, claimCorrection field claimed reported override = [c] ∧
        Objection field claimed reported override c := by
  rw [claimCorrection]
  cases hread : Complexity.read claimed.toList with
  | error unknown => exact .inr ⟨_, rfl, .unreadable hread⟩
  | ok c =>
    by_cases hc : c = reported
    · exact .inl (if_pos hc)
    · exact .inr ⟨_, if_neg hc, .overridden hread hc⟩

theorem objection_of_mem {field : CorrectedField} {claimed override : String}
    {reported : Complexity} {c : Correction}
    (hc : c ∈ claimCorrection field claimed reported override) :
    Objection field claimed reported override c := by
  rcases claimCorrection_cases field claimed reported override with h | ⟨d, h, hobjection⟩
  · rw [h] at hc
    cases hc
  · rw [h] at hc
    exact List.mem_singleton.mp hc ▸ hobjection

def objection? (field : CorrectedField) (reported : Complexity) (override claimed : String) :
    Option Correction :=
  (claimCorrection field claimed reported override).head?

theorem toList_objection? (field : CorrectedField) (reported : Complexity)
    (override claimed : String) :
    (objection? field reported override claimed).toList =
      claimCorrection field claimed reported override := by
  rw [objection?]
  rcases claimCorrection_cases field claimed reported override with h | ⟨c, h, _⟩ <;> rw [h] <;> rfl

theorem objects_objection? (field : CorrectedField) (reported : Complexity) (override : String) :
    Objects field reported override (objection? field reported override) where
  eq_none_iff text := by rw [objection?, List.head?_eq_none_iff, claimCorrection_eq_nil_iff]
  of_mem _ _ hc := objection_of_mem (List.mem_of_head? hc)

/-- The check of a claim is the analysis without a title and what the two texts add to its record.
What each text adds hangs on that text alone, and the claim is valid if they add nothing. -/
theorem check_appends (e : Engine) (code : Text) (l : Language) :
    let a := e.analyze code l none
    let override (reason : String) := a.source ++ " overrides the claim: " ++ reason
    ∃ time? space? : String → Option Correction,
      Objects .time a.time (override a.timeReason) time? ∧
      Objects .space a.space (override a.spaceReason) space? ∧
      ∀ claim : Claim,
        let check := e.check code l claim
        check.corrected =
          { a with corrections :=
              a.corrections ++ (time? claim.time).toList ++ (space? claim.space).toList } ∧
        (check.valid = true ↔ check.corrected.corrections = a.corrections) := by
  intro a override
  refine ⟨objection? .time a.time (override a.timeReason),
    objection? .space a.space (override a.spaceReason), objects_objection? .., objects_objection? ..,
    fun claim => ?_⟩
  let added := claimCorrection .time claim.time a.time (override a.timeReason) ++
    claimCorrection .space claim.space a.space (override a.spaceReason)
  have hcheck : e.check code l claim = ⟨added.isEmpty, a.noting added⟩ := rfl
  rw [hcheck, toList_objection?, toList_objection?, List.append_assoc]
  refine ⟨rfl, ?_⟩
  rw [Analysis.corrections_noting, List.isEmpty_iff, List.append_right_eq_self]

variable (e : Engine) (code : Text) (l : Language) (claim : Claim)

theorem valid_check_iff :
    (e.check code l claim).valid = true ↔
      claim.StandsFor (e.analyze code l none).time (e.analyze code l none).space := by
  simp only [check, List.isEmpty_iff, List.append_eq_nil_iff, claimCorrection_eq_nil_iff]
  exact ⟨fun h => ⟨h.1, h.2⟩, fun h => ⟨h.time, h.space⟩⟩

theorem analyze_of_lookup?_eq_none (h : e.lookup? (Snippet.ofCode l code) none = none) :
    e.analyze code l none = heuristicVerdict (Snippet.ofCode l code) e.settings.disabledHazards := by
  rw [analyze, analyzeSnippet_eq, h]
  rfl

def claimedEvidence : Evidence :=
  let h := Heuristic.ofSnippet (Snippet.ofCode l code) e.settings.disabledHazards
  { analysis? := some h.verdict, amortized? := h.amortized?, claim? := some claim }

theorem reconcile_lone (h : e.lookup? (Snippet.ofCode l code) none = none) :
    e.reconcile none l { optimal := some code } { optimal := some claim } =
      Consensus.build none { optimal := some (e.claimedEvidence code l claim) }
        e.settings.claimConfidence := by
  have htruth : e.tripleTruth? none l { optimal := some code } = none := by
    simp [tripleTruth?, h]
  rw [reconcile, htruth]
  rfl

theorem verdict?_claimedEvidence (claimConfidence : Float) :
    (Decision.ofEvidence none claimConfidence .optimal (e.claimedEvidence code l claim)).verdict? =
      some (.ruleEngine,
        .ofAnalysis (heuristicVerdict (Snippet.ofCode l code) e.settings.disabledHazards)) := by
  rw [Decision.verdict?_ofEvidence, ← verdict_ofSnippet]
  rfl

/-- Where ground truth knows nothing of a snippet, the check of a claim and the reconciliation of the
triple with that snippet and claim alone accept the same claims and report the same classes. -/
theorem valid_reconcile_eq_valid_check (h : e.lookup? (Snippet.ofCode l code) none = none) :
    let check := e.check code l claim
    let c := e.reconcile none l { optimal := some code } { optimal := some claim }
    c.valid = check.valid ∧
      ∃ a ∈ c.solution.optimal,
        a.time = check.corrected.time ∧ a.space = check.corrected.space := by
  intro check c
  let a := heuristicVerdict (Snippet.ofCode l code) e.settings.disabledHazards
  have hanalyze : e.analyze code l none = a := e.analyze_of_lookup?_eq_none code l h
  have hverdict := e.verdict?_claimedEvidence code l claim e.settings.claimConfidence
  have hreconcile : c = _ := e.reconcile_lone code l claim h
  constructor
  · have hcheck := e.valid_check_iff code l claim
    rw [hanalyze] at hcheck
    have hvalid : c.valid = true ↔ claim.StandsFor a.time a.space := by
      rw [hreconcile]
      exact Consensus.valid_build_lone_iff rfl hverdict
    exact Bool.eq_iff_iff.mpr (hvalid.trans hcheck.symm)
  · have hsolution : c.solution = { optimal := some (.ofAnalysis a) } := by
      rw [hreconcile]
      exact (Consensus.build_lone hverdict).1
    have hcorrected : check.corrected.time = a.time ∧ check.corrected.space = a.space := by
      rw [← hanalyze]
      exact ⟨rfl, rfl⟩
    rw [hsolution]
    exact ⟨.ofAnalysis a, rfl, hcorrected.1.symm, hcorrected.2.symm⟩

theorem valid_reconcile_eq_valid_check_total :
    let e : Engine := { groundTruth := sumTable }
    let code := "for x in a:\n    total += x".toList
    let claim : Claim := ⟨"O(N)", "fast"⟩
    e.lookup? (Snippet.ofCode .python code) none = none ∧
      (e.reconcile none .python { optimal := some code } { optimal := some claim }).valid =
        (e.check code .python claim).valid := by
  intro e code claim
  have hlookup : e.lookup? (Snippet.ofCode .python code) none = none :=
    Option.isNone_iff_eq_none.mp (by decide)
  exact ⟨hlookup, (valid_reconcile_eq_valid_check e code .python claim hlookup).1⟩

end Engine
end Asymptote
