import Asymptote.Proofs.Engine.Authority
import Asymptote.Proofs.Hazard.View
import Asymptote.Proofs.Verdict.Candidates

/-! # Verdicts around a comment line
Only sieves are told by what stands on the line before a loop, so only these can a comment line
hide. -/
namespace Asymptote

open Snippet AlgorithmFeatures

/-! ## The class of sieves
A class between linear and linearithmic is reported for sieves alone: no other rule proposes it, no
clamp sets it and no other hazard has it. -/

namespace FeatureSet

variable {f : FeatureSet}

theorem sieve_of_time (h : f.time.complexity = .linearLogLog) : f.algorithms.sieve = true := by
  obtain ⟨c, hselect, hc⟩ := exists_select_of_time h (by decide)
  have hmem := Candidate.mem_of_select hselect
  have hsource : c.source = .sieve := by
    have hclass := mem_classes_of_mem_candidates hmem
    rw [hc] at hclass
    revert hclass
    cases c.source <;> simp [CandidateSource.classes]
  have hproposes := proposes_source hmem
  rw [hsource] at hproposes
  exact (shows_of_proposes (by decide) hproposes).2

end FeatureSet

theorem Hazard.isSieve_of_time : ∀ z ∈ table, z.time = .linearLogLog →
    z.recognizes = HazardView.isSieveOfEratosthenes := by
  simp [table]

theorem isSieve_of_time {s : Snippet} {disabled : List String}
    (h : (heuristicVerdict s disabled).time = .linearLogLog) :
    isSieve s (LoopForest.ofSnippet s) = true := by
  rw [heuristicVerdict] at h
  cases hfound : Hazard.find? s disabled with
  | some z =>
    rw [hfound] at h
    rw [Hazard.find?] at hfound
    split at hfound
    · cases hfound
    · have hrecognizes := List.find?_some hfound
      rw [Bool.and_eq_true, Hazard.isSieve_of_time z (List.mem_of_find?_eq_some hfound) h]
        at hrecognizes
      exact hrecognizes.2
  | none =>
    rw [hfound] at h
    rcases Analysis.time_verify _ _ with htime | hclamped
    · exact FeatureSet.sieve_of_time (htime.symm.trans h)
    · rw [h] at hclamped
      simp [Clamp.classes] at hclamped

/-! ## Comment lines and the verdict
A line of nothing but a comment changes the verdict on a text in one case only: it stands between a
loop and the line before it that squares the variable of the outer loop, where the header of the
loop takes no such square. If the comment is indented there is another: its indentation completes
what reads as a buffer. -/

namespace GroundTruth

variable {k : Nat} {s s' : Snippet} (h : Snippet.Interlined k s s')
include h

theorem Token.fingerprint_interlined : Token.fingerprint s' = Token.fingerprint s := by
  have hview := HazardView.interlined_ofSnippet h
  have hrecurses : (s'.functions.any fun g => !(s'.selfCalls g).isEmpty) =
      s.functions.any fun g => !(s.selfCalls g).isEmpty := HazardView.recurses_eq hview
  simp (disch := exact Pattern.keeps_of_isSafe rfl) only [fingerprint, shapes, h.identifiers,
    LoopForest.ofSnippet_widened h.toWidened, List.isEmpty_map, LoopForest.maxDepth_pushed,
    hrecurses, LiteralContainers.detect_interlined h, StructureFeatures.detect_interlined h,
    h.shows_eq]

theorem Table.lookup?_interlined (t : Table) (title : Option Text) (threshold : Float) :
    t.lookup? s' title threshold = t.lookup? s title threshold := by
  rw [lookup?, lookup?, h.isEmpty_eq, Token.fingerprint_interlined h]

end GroundTruth

namespace Engine

theorem heuristic_interlined {k : Nat} {s s' : Snippet} (h : Snippet.Interlined k s s')
    (hbuffers : SameBuffers s s')
    (hsquare : ∀ l ∈ LoopForest.ofSnippet s, l.line = k →
      squaredBefore s (LoopForest.ofSnippet s) l = false) (disabled : List String) :
    Heuristic.ofSnippet s' disabled = Heuristic.ofSnippet s disabled := by
  have hforest := LoopForest.ofSnippet_widened h.toWidened
  have hsieve := isSieve_interlined h hsquare
  have hfeatures := FeatureSet.ofForest_interlined h hbuffers hsieve
  rw [← hforest] at hsieve
  rw [Heuristic.ofSnippet, Heuristic.ofSnippet, Hazard.find?_interlined h hsieve]
  simp only [hforest, hfeatures, AmortizedVerdict.detect?_interlined h]

/-- A comment line changes nothing in the analysis of a text, unless it parts a loop from the line
before that squares the outer variable and the header of the loop does not square it itself, or it
is indented and some buffer is read off its indentation. -/
theorem analyze_insertsComment (e : Engine) {l : Language} (hl : l ≠ .unknown)
    {indent past code commented : Text} (h : InsertsComment l indent past code commented)
    (hindent : indent = [] ∨ SameBuffers (ofCode l code) (ofCode l commented))
    (hsquare : ∀ loop ∈ LoopForest.ofSnippet (ofCode l code),
      loop.line = (ofCode l past).lines.length →
        squaredBefore (ofCode l code) (LoopForest.ofSnippet (ofCode l code)) loop = false)
    (title : Option Text) :
    e.analyze commented l title = e.analyze code l title := by
  have hinterlined := interlined_ofCode hl h
  have hbuffers : SameBuffers (ofCode l code) (ofCode l commented) := by
    obtain rfl | hbuffers := hindent
    · obtain ⟨back, hcode, hcommented⟩ := scrub_insertsComment h
      refine @sameBuffers_of_break _ _ (scrub l past) back ?_ ?_
      · simpa only [ofCode, if_neg hl] using hcode
      · simpa only [ofCode, if_neg hl, List.nil_append] using hcommented
    · exact hbuffers
  have hheuristic := heuristic_interlined hinterlined hbuffers hsquare
  have hlookup := GroundTruth.Table.lookup?_interlined hinterlined
  simp only [analyze, analyzeSnippet, lookup?, hheuristic, hlookup]

theorem analyze_insertsComment_pairs :
    let past := "for i in a:".toList
    let indent := "    ".toList
    let rest := "    for j in b:\n        t += i * j".toList
    let code := past ++ '\n' :: rest
    let commented :=
      past ++ '\n' :: (indent ++ ("#".toList ++ (" all pairs".toList ++ '\n' :: rest)))
    Language.python ≠ .unknown ∧ InsertsComment .python indent past code commented ∧
      SameBuffers (ofCode .python code) (ofCode .python commented) ∧
      (∀ loop ∈ LoopForest.ofSnippet (ofCode .python code),
        loop.line = (ofCode .python past).lines.length →
          squaredBefore (ofCode .python code) (LoopForest.ofSnippet (ofCode .python code)) loop =
            false) ∧
      Engine.analyze {} commented .python none = Engine.analyze {} code .python none := by
  intro past indent rest code commented
  have hl : Language.python ≠ .unknown := by decide
  have hinserts : InsertsComment .python indent past code commented :=
    .intro (by decide) (by simp [indent, Text.IsIndent]) (by decide) (by decide)
  have hbuffers : SameBuffers (ofCode .python code) (ofCode .python commented) :=
    ⟨by decide, by decide⟩
  have hsquare : ∀ loop ∈ LoopForest.ofSnippet (ofCode .python code),
      loop.line = (ofCode .python past).lines.length →
        squaredBefore (ofCode .python code) (LoopForest.ofSnippet (ofCode .python code)) loop =
          false := by decide
  exact ⟨hl, hinserts, hbuffers, hsquare,
    analyze_insertsComment {} hl hinserts (.inr hbuffers) hsquare none⟩

/-! ### Between a square and its loop -/

def sieveHead : Text :=
  "for i in range(2, n):\n    j = i * i".toList

def sieveLoop : Text :=
  "    while j < n:\n        crossed[j] = True\n        j += i\n".toList

theorem not_forall_analyze_commented :
    ¬ ∀ (e : Engine) (l : Language) (title : Option Text) (past code commented : Text),
      l ≠ .unknown → InsertsComment l [] past code commented →
        (e.analyze commented l title).time = (e.analyze code l title).time ∧
          (e.analyze commented l title).space = (e.analyze code l title).space := by
  intro h
  let code := sieveHead ++ '\n' :: sieveLoop
  let commented :=
    sieveHead ++ '\n' :: ("#".toList ++ (" cross off the multiples".toList ++ '\n' :: sieveLoop))
  have hinserts : InsertsComment .python [] sieveHead code commented :=
    @InsertsComment.intro .python [] _ _ "#".toList _ (by decide) (by simp [Text.IsIndent])
      (by decide) (by decide)
  have htime := (h {} .python none sieveHead code commented (by decide) hinserts).1
  have hcode : (heuristicVerdict (ofCode .python code) []).time = .linearLogLog := by
    decide
  have hcommented : isSieve (ofCode .python commented)
      (LoopForest.ofSnippet (ofCode .python commented)) = false := by decide
  rw [analyze, analyze, (keepsTime_analyzeSnippet rfl _).time,
    (keepsTime_analyzeSnippet rfl _).time] at htime
  have hsieve := isSieve_of_time (htime.trans hcode)
  rw [hcommented] at hsieve
  cases hsieve

end Engine

end Asymptote
