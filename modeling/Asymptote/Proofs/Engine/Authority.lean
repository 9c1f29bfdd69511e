import Asymptote.Engine
import Asymptote.Proofs.Consensus.Progression
import Asymptote.Proofs.GroundTruth.Closest
import Asymptote.Proofs.Verdict.Clamp

/-! # What the engine reports
Ground truth outranks the rules, and these outrank a claim. Titles, fingerprints and claims have
effects of their own, which the sections treat one by one. -/
namespace Asymptote

open GroundTruth (Entry Finding)

/-! ## Claims beside code
A claim is the opinion of the lowest authority. Where a slot has code, its analysis goes before the
claim, so the claim decides nothing there and is only recorded when it is overridden. -/

namespace Engine

variable (e : Engine) (l : Language)

def codeVerdict? (truth : Option Finding) (slot : Approach) (code : Text) :
    Option (Layer × Solution) :=
  let h := Heuristic.ofSnippet (Snippet.ofCode l code) e.settings.disabledHazards
  truth.bind (·.verdict? slot) <|> some (.ruleEngine, .ofAnalysis h.verdict)

theorem verdict?_evidence? (truth : Option Finding) (claimConfidence : Float) (slot : Approach)
    {code : Option Text} {claim : Option Claim} (h : claim.isSome → code.isSome) :
    (e.evidence? l code claim).bind
        (fun evidence => (Decision.ofEvidence truth claimConfidence slot evidence).verdict?) =
      code.bind (e.codeVerdict? l truth slot) := by
  cases code with
  | none =>
    have hclaim : claim = none := by simpa using h
    rw [hclaim]
    rfl
  | some c =>
    simp only [evidence?, Option.isNone_some, Bool.false_and, Bool.false_eq_true, if_false,
      Option.map_some, Option.bind_some, Decision.verdict?_ofEvidence, Evidence.isEmpty,
      Evidence.verdict?, codeVerdict?]
    rfl

theorem decided_tripleEvidence (truth : Option Finding) (claimConfidence : Float)
    {code : Triple Text} {claims : Triple Claim}
    (h : ∀ slot, (claims.get? slot).isSome → (code.get? slot).isSome) :
    Consensus.decided truth (e.tripleEvidence l code claims) claimConfidence =
      ⟨code.bruteForce.bind (e.codeVerdict? l truth .bruteForce),
        code.better.bind (e.codeVerdict? l truth .better),
        code.optimal.bind (e.codeVerdict? l truth .optimal)⟩ := by
  have hbrute : claims.bruteForce.isSome → code.bruteForce.isSome := h .bruteForce
  have hbetter : claims.better.isSome → code.better.isSome := h .better
  have hoptimal : claims.optimal.isSome → code.optimal.isSome := h .optimal
  simp only [Consensus.decided, tripleEvidence, verdict?_evidence? e l _ _ _ hbrute,
    verdict?_evidence? e l _ _ _ hbetter, verdict?_evidence? e l _ _ _ hoptimal]

/-- Claims for slots with code cannot influence a consensus beyond its record of corrections. -/
theorem reconcile_sameVerdict (title : Option Text) (code : Triple Text)
    {claims₁ claims₂ : Triple Claim}
    (h₁ : ∀ slot, (claims₁.get? slot).isSome → (code.get? slot).isSome)
    (h₂ : ∀ slot, (claims₂.get? slot).isSome → (code.get? slot).isSome) :
    Consensus.SameVerdict (e.reconcile title l code claims₁)
      (e.reconcile title l code claims₂) := by
  apply Consensus.build_congr
  rw [e.decided_tripleEvidence l _ _ h₁, e.decided_tripleEvidence l _ _ h₂]

theorem reconcile_sameVerdict_constant :
    let code : Triple Text := { optimal := some "return 1".toList }
    let claims : Triple Claim := { optimal := some ⟨"fast", "O(1)"⟩ }
    (∀ slot, (claims.get? slot).isSome → (code.get? slot).isSome) ∧
      (∀ slot, (({} : Triple Claim).get? slot).isSome → (code.get? slot).isSome) ∧
      Consensus.SameVerdict (Engine.reconcile {} none .python code claims)
        (Engine.reconcile {} none .python code {}) := by
  intro code claims
  have hclaims : ∀ slot, (claims.get? slot).isSome → (code.get? slot).isSome := by
    intro slot
    cases slot <;> simp [code, claims, Triple.get?]
  have hnone : ∀ slot, (({} : Triple Claim).get? slot).isSome → (code.get? slot).isSome := by
    intro slot
    cases slot <;> simp [Triple.get?]
  exact ⟨hclaims, hnone, reconcile_sameVerdict {} .python none code hclaims hnone⟩

end Engine

/-! ## The authority of the layers
What `Engine.analyze` reports is ground truth found by title, or ground truth found by fingerprint
that agrees with the heuristic verdict, or the heuristic verdict itself. The amortized cross-check
is never reported, neither for a snippet nor for a slot of a triple. -/

def heuristicVerdict (s : Snippet) (disabled : List String) : Analysis :=
  match Hazard.find? s disabled with
  | some hazard => hazard.verdict
  | none =>
    let f := FeatureSet.ofForest s (LoopForest.ofSnippet s)
    (Heuristic.ofFeatures f).verify f

theorem verdict_ofSnippet (s : Snippet) (disabled : List String) :
    (Heuristic.ofSnippet s disabled).verdict = heuristicVerdict s disabled := by
  rw [Heuristic.ofSnippet, heuristicVerdict]
  cases Hazard.find? s disabled <;> rfl

theorem Analysis.source_verify (a : Analysis) (f : FeatureSet) :
    (a.verify f).source = a.source := by
  refine verify_induction (P := fun b => b.source = a.source) (fun b hb clamp _ => ?_) rfl
  rcases Clamp.apply_cases f b clamp with hsame | ⟨_, _, _, _, happly⟩
  · rw [hsame]
    exact hb
  · rw [happly]
    exact hb

theorem source_heuristicVerdict (s : Snippet) (disabled : List String) :
    (heuristicVerdict s disabled).source = "rule_engine" ∨
      ∃ name, (heuristicVerdict s disabled).source = "hazard:" ++ name := by
  rw [heuristicVerdict]
  cases Hazard.find? s disabled with
  | none => exact .inl (Analysis.source_verify _ _)
  | some hazard => exact .inr ⟨hazard.name, rfl⟩

def NotAmortized (source : String) : Prop := ∀ pattern, source ≠ "amortized:" ++ pattern

theorem notAmortized_of_head {source : String} (h : source.toList.head? ≠ some 'a') :
    NotAmortized source := by
  rintro pattern rfl
  simp at h

theorem head?_source_heuristicVerdict (s : Snippet) (disabled : List String) :
    (heuristicVerdict s disabled).source.toList.head? = some 'r' ∨
      (heuristicVerdict s disabled).source.toList.head? = some 'h' := by
  rcases source_heuristicVerdict s disabled with h | ⟨name, h⟩
  · rw [h]
    exact .inl (by decide)
  · rw [h]
    exact .inr (by simp)

theorem notAmortized_heuristicVerdict (s : Snippet) (disabled : List String) :
    NotAmortized (heuristicVerdict s disabled).source := by
  apply notAmortized_of_head
  rcases head?_source_heuristicVerdict s disabled with h | h <;> simp [h]

namespace Engine

variable (e : Engine)

theorem analyzeSnippet_eq (s : Snippet) (title : Option Text) :
    let h := heuristicVerdict s e.settings.disabledHazards
    e.analyzeSnippet s title =
      (((e.lookup? s title).filter fun f => agrees f h).map fun f => ofGroundTruth f h).getD h := by
  intro h
  simp only [analyzeSnippet, verdict_ofSnippet]
  let amortized : List (Opinion Analysis) :=
    ((Heuristic.ofSnippet s e.settings.disabledHazards).amortized?.map fun v =>
      ⟨.patternDetector, amortizedConfidence, ofAmortized v⟩).toList
  have hamortized : ∀ x ∈ amortized, x.layer = .patternDetector := by
    intro x hx
    obtain ⟨v, _, rfl⟩ := Option.map_eq_some_iff.mp (Option.mem_toList.mp hx)
    rfl
  cases (e.lookup? s title).filter fun f => agrees f h with
  | none =>
    have hrank := Opinion.rank_append_cons [] ⟨.ruleEngine, h.confidence, h⟩ (amortized ++ [])
      (by simp) (by simp +contextual [hamortized, Layer.priority])
    exact congrArg (fun o => (o.map (·.candidate)).getD h) hrank
  | some f =>
    have hrank := Opinion.rank_append_cons (⟨.ruleEngine, h.confidence, h⟩ :: amortized)
      ⟨.groundTruth, f.confidence, ofGroundTruth f h⟩ []
      (by simp +contextual [hamortized, Layer.priority]) (by simp)
    exact congrArg (fun o => (o.map (·.candidate)).getD h) hrank

/-- What holds of hazards, of verified rules and of ground truth holds of every verdict. -/
theorem analyze_induction {P : Analysis → Prop} (hhazard : ∀ hazard : Hazard, P hazard.verdict)
    (hrules : ∀ f, P ((Heuristic.ofFeatures f).verify f))
    (htruth : ∀ finding heuristic, P (ofGroundTruth finding heuristic)) (text : Text)
    (l : Language) (title : Option Text) : P (e.analyze text l title) := by
  rw [analyze, analyzeSnippet_eq]
  cases (e.lookup? (Snippet.ofCode l text) title).filter fun finding =>
      agrees finding (heuristicVerdict (Snippet.ofCode l text) e.settings.disabledHazards) with
  | some finding => exact htruth finding _
  | none =>
    rw [Option.map_none, Option.getD_none, heuristicVerdict]
    cases Hazard.find? (Snippet.ofCode l text) e.settings.disabledHazards with
    | some hazard => exact hhazard hazard
    | none => exact hrules _

structure Reports (a : Analysis) (entry : Entry) (near : Complexity) (sure : Float) : Prop where
  source : a.source = "ground_truth"
  confidence : a.confidence = sure
  time : a.time = (entry.closest near).2.time
  space : a.space = (entry.closest near).2.space

theorem reports_ofGroundTruth (f : Finding) (h : Analysis) :
    Reports (ofGroundTruth f h) f.entry h.time f.confidence :=
  ⟨rfl, rfl, rfl, rfl⟩

theorem lookup?_of_title {title : Option Text} {entry : Entry}
    (h : title.bind e.groundTruth.byTitle? = some entry) (s : Snippet) :
    e.lookup? s title = some ⟨entry, .title, 1.0⟩ := by
  simp [lookup?, GroundTruth.Table.lookup?, h]

theorem lookup?_of_no_title {title : Option Text}
    (h : title.bind e.groundTruth.byTitle? = none) (s : Snippet) :
    e.lookup? s title = e.lookup? s none := by
  simp [lookup?, GroundTruth.Table.lookup?, h]

theorem lookup?_none_eq_some {s : Snippet} {f : Finding} (h : e.lookup? s none = some f) :
    f.kind = .fingerprint ∧ f.confidence = 0.95 := by
  simp only [lookup?, GroundTruth.Table.lookup?, Option.bind_none] at h
  split at h
  · cases h
  · obtain ⟨entry, _, rfl⟩ := Option.map_eq_some_iff.mp h
    exact ⟨rfl, rfl⟩

theorem agrees_fingerprint_iff {f : Finding} (hkind : f.kind = .fingerprint) (h : Analysis) :
    agrees f h ↔ ∃ k ∈ f.entry.approaches.toList, k.2.time = h.time := by
  rw [← Entry.closest_time_eq_iff]
  simp [agrees, hkind]

/-- What may stand in a slot of a reconciled triple: a known approach, the verdict on the code of a
slot, or the claim about a slot without code. -/
inductive Supplied (title : Option Text) (l : Language) (code : Triple Text)
    (claims : Triple Claim) : Solution → Prop
  | known {f : Finding} {slot : Approach} {k : GroundTruth.Known}
      (hf : f ∈ e.tripleTruth? title l code) (hk : k ∈ f.entry.approaches.get? slot) :
      Supplied title l code claims (.ofKnown k f.confidence)
  | analyzed {slot : Approach} {c : Text} (hc : c ∈ code.get? slot) :
      Supplied title l code claims
        (.ofAnalysis (heuristicVerdict (Snippet.ofCode l c) e.settings.disabledHazards))
  | claimed {slot : Approach} {c : Claim} {time space : Complexity}
      (hcode : code.get? slot = none) (hc : c ∈ claims.get? slot)
      (hread : c.classes? = some (time, space)) :
      Supplied title l code claims (.ofClaim time space e.settings.claimConfidence)

variable {e} {title : Option Text} {l : Language} {code : Triple Text} {claims : Triple Claim}

theorem get?_tripleEvidence (slot : Approach) :
    (e.tripleEvidence l code claims).get? slot =
      e.evidence? l (code.get? slot) (claims.get? slot) := by
  cases slot <;> rfl

theorem verdict?_evidence_cases {slot : Approach} {evidence : Evidence} {layer : Layer}
    {a : Solution} (he : evidence ∈ (e.tripleEvidence l code claims).get? slot)
    (hv : (layer, a) ∈ evidence.verdict? e.settings.claimConfidence) :
    (∃ c ∈ code.get? slot,
      a = .ofAnalysis (heuristicVerdict (Snippet.ofCode l c) e.settings.disabledHazards)) ∨
    code.get? slot = none ∧ ∃ c ∈ claims.get? slot, ∃ time space,
      c.classes? = some (time, space) ∧ a = .ofClaim time space e.settings.claimConfidence := by
  rw [get?_tripleEvidence] at he
  cases hcode : code.get? slot with
  | some c =>
    simp only [hcode, evidence?, Option.isNone_some, Bool.false_and, Bool.false_eq_true, if_false,
      Option.map_some, Option.mem_some_iff] at he
    subst he
    cases hv
    rw [verdict_ofSnippet]
    exact .inl ⟨c, rfl, rfl⟩
  | none =>
    cases hclaim : claims.get? slot with
    | none => simp [hcode, hclaim, evidence?] at he
    | some c =>
      simp only [hcode, hclaim, evidence?, Option.isNone_none, Option.isNone_some, Bool.and_false,
        Bool.false_eq_true, if_false, Option.map_none, Option.bind_none,
        Option.mem_some_iff] at he
      subst he
      rw [Evidence.verdict?_claim] at hv
      obtain ⟨⟨time, space⟩, hread, heq⟩ := Option.map_eq_some_iff.mp hv
      cases heq
      exact .inr ⟨rfl, c, rfl, time, space, hread, rfl⟩

theorem supplied_of_mem_reconcile {a : Solution}
    (h : a ∈ (e.reconcile title l code claims).solution) : e.Supplied title l code claims a := by
  obtain ⟨layer, slot, evidence, he, hv | hv⟩ := Consensus.mem_build h
  · obtain ⟨f, hf, hv⟩ := Option.bind_eq_some_iff.mp hv
    obtain ⟨k, hk, heq⟩ := Option.map_eq_some_iff.mp hv
    cases heq
    exact .known hf hk
  · rcases verdict?_evidence_cases he hv with ⟨c, hc, rfl⟩ | ⟨hcode, c, hc, _, _, hread, rfl⟩
    · exact .analyzed hc
    · exact .claimed hcode hc hread

theorem Supplied.notAmortized {a : Solution} (h : e.Supplied title l code claims a) :
    NotAmortized a.source := by
  cases h with
  | known => exact notAmortized_of_head (by simp [Solution.ofKnown, Layer.name])
  | analyzed => exact notAmortized_heuristicVerdict _ _
  | claimed => exact notAmortized_of_head (by simp [Solution.ofClaim, Layer.name])

/-- A title that resolves decides with full confidence, a fingerprint that agrees with the heuristic
time decides next, and otherwise the heuristic verdict stands as it is. No amortized verdict is
reported, be it for a snippet or in a triple. -/
theorem analyze_authority (e : Engine) (text : Text) (l : Language) (title : Option Text) :
    let s := Snippet.ofCode l text
    let h := heuristicVerdict s e.settings.disabledHazards
    let a := e.analyze text l title
    (∀ entry, title.bind e.groundTruth.byTitle? = some entry → Reports a entry h.time 1.0) ∧
    (title.bind e.groundTruth.byTitle? = none →
      (∀ f, e.lookup? s none = some f → (∃ k ∈ f.entry.approaches.toList, k.2.time = h.time) →
        Reports a f.entry h.time 0.95) ∧
      ((∀ f, e.lookup? s none = some f → ¬ ∃ k ∈ f.entry.approaches.toList, k.2.time = h.time) →
        a = h)) ∧
    NotAmortized a.source ∧
    ∀ code claims slot, ∀ b ∈ (e.reconcile title l code claims).solution.get? slot,
      e.Supplied title l code claims b ∧ NotAmortized b.source := by
  intro s h a
  have ha : a = (((e.lookup? s title).filter fun f => agrees f h).map fun f =>
      ofGroundTruth f h).getD h := e.analyzeSnippet_eq s title
  refine ⟨?title, ?fingerprint, ?amortized, ?triple⟩
  case title =>
    intro entry hentry
    rw [ha, e.lookup?_of_title hentry]
    exact reports_ofGroundTruth ⟨entry, .title, 1.0⟩ h
  case fingerprint =>
    intro hnone
    rw [e.lookup?_of_no_title hnone] at ha
    constructor
    · intro f hf hk
      obtain ⟨hkind, hsure⟩ := e.lookup?_none_eq_some hf
      have hagrees := (agrees_fingerprint_iff hkind h).mpr hk
      rw [ha, hf, Option.filter_some, if_pos hagrees, ← hsure]
      exact reports_ofGroundTruth f h
    · intro hdisagree
      cases hf : e.lookup? s none with
      | none => rw [ha, hf]; rfl
      | some f =>
        have hkind := (e.lookup?_none_eq_some hf).1
        have hnot := mt (agrees_fingerprint_iff hkind h).mp (hdisagree f hf)
        rw [ha, hf, Option.filter_some, if_neg hnot]
        rfl
  case amortized =>
    rw [ha]
    cases (e.lookup? s title).filter fun f => agrees f h with
    | none => exact notAmortized_heuristicVerdict _ _
    | some f => exact notAmortized_of_head (by simp [ofGroundTruth, Layer.name])
  case triple =>
    intro code claims slot b hb
    have hsupplied := supplied_of_mem_reconcile (Triple.mem_iff_get?.mpr ⟨slot, hb⟩)
    exact ⟨hsupplied, hsupplied.notAmortized⟩

end Engine

/-! ## Snippets without a title
Without a title ground truth is found by the fingerprint alone, and then it stands only if one of
its approaches has the time of the heuristic verdict. So no table changes the time of such a
snippet; what ground truth corrects there is the space. -/

/-- The result keeps the time of a heuristic verdict: it is the verdict itself, or a report of
ground truth that corrects nothing but the space. -/
structure KeepsTime (heuristic a : Analysis) : Prop where
  time : a.time = heuristic.time
  corrections : a = heuristic ∨
    a.source = "ground_truth" ∧ ∀ c ∈ a.corrections, c.field = .space

namespace Engine

theorem closest_time_of_agrees {f : Finding} {h : Analysis} (hkind : f.kind = .fingerprint)
    (hagrees : agrees f h) : (f.entry.closest h.time).2.time = h.time := by
  simpa [agrees, hkind] using hagrees

theorem keepsTime_ofGroundTruth {f : Finding} {h : Analysis}
    (htime : (f.entry.closest h.time).2.time = h.time) : KeepsTime h (ofGroundTruth f h) := by
  refine ⟨htime, .inr ⟨rfl, ?_⟩⟩
  intro c hc
  simp only [ofGroundTruth, htime, if_true, List.nil_append] at hc
  split at hc
  · cases hc
  · rw [List.mem_singleton.mp hc]

variable {e : Engine} {title : Option Text}

theorem keepsTime_analyzeSnippet (htitle : title.bind e.groundTruth.byTitle? = none)
    (s : Snippet) :
    KeepsTime (heuristicVerdict s e.settings.disabledHazards) (e.analyzeSnippet s title) := by
  rw [e.analyzeSnippet_eq s title, e.lookup?_of_no_title htitle]
  cases hf : e.lookup? s none with
  | none => exact ⟨rfl, .inl rfl⟩
  | some f =>
    -- What is reported is the approach that `agrees` asked for: `closest` is asked for one class.
    have hkind := (e.lookup?_none_eq_some hf).1
    rw [Option.filter_some]
    split
    next hagrees => exact keepsTime_ofGroundTruth (closest_time_of_agrees hkind hagrees)
    next => exact ⟨rfl, .inl rfl⟩

/-- Two engines that differ in their tables and thresholds alone find the same time for a snippet
whose title neither table knows, and neither corrects anything but the space. -/
theorem analyze_time_eq_of_no_title {e₁ e₂ : Engine} (text : Text) (l : Language)
    (hdisabled : e₁.settings.disabledHazards = e₂.settings.disabledHazards)
    (h₁ : title.bind e₁.groundTruth.byTitle? = none)
    (h₂ : title.bind e₂.groundTruth.byTitle? = none) :
    let h := heuristicVerdict (Snippet.ofCode l text) e₁.settings.disabledHazards
    (e₁.analyze text l title).time = (e₂.analyze text l title).time ∧
      KeepsTime h (e₁.analyze text l title) ∧ KeepsTime h (e₂.analyze text l title) := by
  intro h
  have hfirst : KeepsTime h (e₁.analyze text l title) := keepsTime_analyzeSnippet h₁ _
  have hsecond : KeepsTime h (e₂.analyze text l title) := by
    have hkeeps := keepsTime_analyzeSnippet h₂ (Snippet.ofCode l text)
    rwa [← hdisabled] at hkeeps
  exact ⟨hfirst.time.trans hsecond.time.symm, hfirst, hsecond⟩

def sumTable : GroundTruth.Table where
  entries :=
    [{ id := "sum", titles := ["sum".toList], fingerprint := ["grandtotal".toList],
       optimal := ⟨.linear, .linear, "scan", none⟩ }]

theorem analyze_time_eq_of_no_title_sum :
    let e₁ : Engine := { groundTruth := sumTable, settings := { fingerprintThreshold := 0.9 } }
    let e₂ : Engine := { groundTruth := {} }
    let text := "for x in a:\n    grand_total += x".toList
    let title := some "Product".toList
    e₁.settings.disabledHazards = e₂.settings.disabledHazards ∧
      title.bind e₁.groundTruth.byTitle? = none ∧ title.bind e₂.groundTruth.byTitle? = none ∧
      (e₁.analyze text .python title).time = (e₂.analyze text .python title).time := by
  intro e₁ e₂ text title
  have h₁ : title.bind e₁.groundTruth.byTitle? = none := by decide
  have h₂ : title.bind e₂.groundTruth.byTitle? = none := by decide
  have heq := @analyze_time_eq_of_no_title title e₁ e₂ text .python rfl h₁ h₂
  exact ⟨rfl, h₁, h₂, heq.1⟩

end Engine

end Asymptote
