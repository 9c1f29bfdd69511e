import Asymptote.Proofs.Loop.Depth
import Asymptote.Proofs.Pattern.Phrase

/-! # Logarithmic growth
A loop counts as logarithmic if one of the texts in which it may update its variables rescales a
variable that it tracks. It tracks the names in its condition, and beside them its counter, which an
element loop does not compare with anything. -/
namespace Asymptote

namespace Text

def Names (t name : Text) : Prop :=
  ∃ front back, t = front ++ (name ++ back) ∧ name.StandsWhole front back ∧
    name.head?.any CharClass.nameStart.has = true

end Text

namespace Loop
open Pattern Cursor

/-! ## Geometric updates -/

def compoundOperators : List String :=
  ["*=", "/=", "//=", ">>=", "<<=", ">>>="]

def scalingOperators : List String :=
  ["*", "//", "/", ">>", "<<"]

/-- The pieces multiply, divide, shift or reduce the assigned variables. -/
inductive Rescaling : List Text → List Text → Prop
  | compound {v factor : Text} {op : String} (hv : v.IsWord) (hop : op ∈ compoundOperators)
      (hfactor : factor.IsWord) : Rescaling [v] [v, op.toList, factor]
  | spelled {v factor : Text} {op : String} (hv : v.IsWord) (hop : op ∈ scalingOperators)
      (hfactor : factor.IsWord) : Rescaling [v] [v, "=".toList, v, op.toList, factor]
  | remainder {v dividend : Text} (hv : v.IsWord)
      (hdividend : ∀ c ∈ dividend, (CharClass.except "=;%").has c = true) :
      Rescaling [v] [v, "=".toList, dividend, "%".toList, v]
  | euclid {a b : Text} (ha : a.IsWord) (hb : b.IsWord) :
      Rescaling [a, b] [a, ",".toList, b, "=".toList, b, ",".toList, a, "%".toList, b]

/-- The line rescales the assigned variables, and no word goes on where the update ends. -/
def GeometricUpdate (line : Text) (assigned : List Text) : Prop :=
  ∃ front text back pieces, line = front ++ (text ++ back) ∧
    front.getLast?.any Text.isWord = false ∧ back.head?.any Text.isWord = false ∧
      text.Spells pieces ∧ Rescaling assigned pieces

variable {line name t : Text} {m : Match}

theorem mem_of_rescaling {assigned pieces : List Text} (h : Rescaling assigned pieces) :
    ∀ v ∈ assigned, v ∈ pieces := by
  cases h <;> simp

theorem GeometricUpdate.isInfix {assigned : List Text} (h : GeometricUpdate line assigned) :
    ∀ v ∈ assigned, v <:+: line := by
  obtain ⟨front, text, back, pieces, rfl, -, -, hspells, hpieces⟩ := h
  intro v hv
  refine (hspells.isInfix (mem_of_rescaling hpieces v hv)).trans ⟨front, back, ?_⟩
  rw [List.append_assoc]

theorem mem_identifiersIn_iff : name ∈ identifiersIn t ↔ t.Names name := by
  rw [identifiersIn, List.mem_map, bareWords_identifier.exists_mem_findAll_iff]
  simp only [fits_identifier]
  constructor
  · rintro ⟨front, back, _, ht, hstands, hstart, rfl⟩
    exact ⟨front, back, ht, hstands, hstart⟩
  · rintro ⟨front, back, ht, hstands, hstart⟩
    exact ⟨front, back, [], ht, hstands, hstart, rfl⟩

/-! ## The updates that are found -/

theorem geometricUpdate_of_phrase {p : Pattern} {reads : List Text → Groups → Prop}
    (hp : p.Phrase reads) {front text back : Text} {kept : Groups}
    (hfits : p.Fits front text back kept) (hback : back.head?.any Text.isWord = false) :
    ∃ pieces, reads pieces kept ∧ ∀ assigned, Rescaling assigned pieces →
      GeometricUpdate (front ++ (text ++ back)) assigned := by
  obtain ⟨hfront, t, gap, pieces, rfl, hspells, hgap, hreads⟩ := hp.of_fits hfits
  have hend : (gap ++ back).head?.any Text.isWord = false :=
    Text.head?_any_append (fun c hc => Text.isWord_eq_false_of_isBlank (hgap c hc)) hback
  exact ⟨pieces, hreads, fun assigned hassigned =>
    ⟨front, t, gap ++ back, pieces, by simp, hfront, hend, hspells, hassigned⟩⟩

-- In the lemmas below, the pieces and groups of a phrase are opened from the last one on.

theorem geometricUpdate_of_compound (h : m ∈ compoundUpdate.findAll line) :
    GeometricUpdate line [m.group 1] := by
  obtain ⟨front, back, rfl, hm⟩ := at?_of_mem_findAll h
  have hback := endsWords_word.head?_of_at? hm
  have hops := describes_anyOf compoundOperators (by decide)
  have hphrase := ((phrase_word 1).ws.piece hops).ws.piece describes_word
  obtain ⟨_, ⟨_, factor, rfl, hfactor, _, _, rfl, ⟨op, hop, rfl⟩, v, hv, rfl, hkept⟩, hupdate⟩ :=
    geometricUpdate_of_phrase hphrase (stands_of_at?_append hm).fits hback
  have hgroup : m.group 1 = v := Match.group_eq_lookup hkept 1
  exact hgroup ▸ hupdate _ (.compound hv hop hfactor)

theorem geometricUpdate_of_spelled (h : m ∈ spelledUpdate.findAll line)
    (heq : m.group 1 = m.group 2) : GeometricUpdate line [m.group 1] := by
  obtain ⟨front, back, rfl, hm⟩ := at?_of_mem_findAll h
  have hback := endsWords_word.head?_of_at? hm
  have hops := describes_anyOf scalingOperators (by decide)
  have hphrase := (((phrase_word 1).spaced_word "=" 2).ws.piece hops).ws.piece describes_word
  obtain ⟨_, ⟨_, factor, rfl, hfactor, _, _, rfl, ⟨op, hop, rfl⟩, _, w, _, rfl, hkept, -, v, hv,
    rfl, rfl⟩, hupdate⟩ :=
    geometricUpdate_of_phrase hphrase (stands_of_at?_append hm).fits hback
  have hv' : m.group 1 = v := Match.group_eq_lookup hkept 1
  have hw' : m.group 2 = w := Match.group_eq_lookup hkept 2
  obtain rfl : v = w := hv'.symm.trans (heq.trans hw')
  exact hv' ▸ hupdate _ (.spelled hv hop hfactor)

theorem geometricUpdate_of_remainder (h : m ∈ remainderUpdate.findAll line)
    (heq : m.group 1 = m.group 2) : GeometricUpdate line [m.group 1] := by
  obtain ⟨front, back, rfl, hm⟩ := at?_of_mem_findAll h
  have hfits := (stands_of_at?_append hm).fits
  have hback := head?_of_fits_word_edge hfits
  have hphrase := ((((phrase_word 1).spaced "=").piece (describes_any (.except "=;%"))).piece
    (describes_literal "%")).ws.group 2 describes_word
  obtain ⟨_, ⟨_, w, _, rfl, hkept, -, _, _, rfl, rfl, _, dividend, rfl, hdividend, _, rfl, v, hv,
    rfl, rfl⟩, hupdate⟩ :=
    geometricUpdate_of_phrase hphrase.edge hfits hback
  have hv' : m.group 1 = v := Match.group_eq_lookup hkept 1
  have hw' : m.group 2 = w := Match.group_eq_lookup hkept 2
  obtain rfl : v = w := hv'.symm.trans (heq.trans hw')
  exact hv' ▸ hupdate _ (.remainder hv hdividend)

theorem geometricUpdate_of_euclid (h : m ∈ euclidUpdate.findAll line)
    (h3 : m.group 3 = m.group 2) (h4 : m.group 4 = m.group 1) (h5 : m.group 5 = m.group 2) :
    GeometricUpdate line [m.group 1, m.group 2] := by
  obtain ⟨front, back, rfl, hm⟩ := at?_of_mem_findAll h
  have hback := (endsWords_group_word 5).head?_of_at? hm
  have hphrase := ((((phrase_word 1).spaced_word "," 2).spaced_word "=" 3).spaced_word ","
    4).spaced_word "%" 5
  obtain ⟨_, ⟨_, w5, _, rfl, hkept, -, _, w4, _, rfl, rfl, -, _, w3, _, rfl, rfl, -, _, b, _, rfl,
    rfl, hb, a, ha, rfl, rfl⟩, hupdate⟩ :=
    geometricUpdate_of_phrase hphrase (stands_of_at?_append hm).fits hback
  have hgroup := Match.group_eq_lookup hkept
  have ha' : m.group 1 = a := hgroup 1
  have hb' : m.group 2 = b := hgroup 2
  obtain rfl : b = w3 := hb'.symm.trans (h3.symm.trans (hgroup 3))
  obtain rfl : a = w4 := ha'.symm.trans (h4.symm.trans (hgroup 4))
  obtain rfl : b = w5 := hb'.symm.trans (h5.symm.trans (hgroup 5))
  rw [ha', hb']
  exact hupdate _ (.euclid ha hb)

theorem exists_geometricUpdate_of_rescales {tracked : List Text}
    (h : rescales tracked line = true) :
    ∃ assigned, GeometricUpdate line assigned ∧ ∃ v ∈ assigned, v ∈ tracked := by
  simp only [rescales, Bool.or_eq_true, List.any_eq_true, Bool.and_eq_true, decide_eq_true_eq,
    List.contains_iff_mem] at h
  obtain ((⟨m, hm, htracked⟩ | ⟨m, hm, heq, htracked⟩) | ⟨m, hm, heq, htracked⟩) |
    ⟨m, hm, ⟨⟨h3, h4⟩, h5⟩, htracked⟩ := h
  · exact ⟨_, geometricUpdate_of_compound hm, _, List.mem_singleton_self _, htracked⟩
  · exact ⟨_, geometricUpdate_of_spelled hm heq, _, List.mem_singleton_self _, htracked⟩
  · exact ⟨_, geometricUpdate_of_remainder hm heq, _, List.mem_singleton_self _, htracked⟩
  · refine ⟨_, geometricUpdate_of_euclid hm h3 h4 h5, ?_⟩
    rcases htracked with htracked | htracked
    · exact ⟨m.group 1, by simp, htracked⟩
    · exact ⟨m.group 2, by simp, htracked⟩

/-! ## What a loop tracks -/

theorem mem_of_mem_firstPlaces {ts : List Text} (h : t ∈ firstPlaces ts) : t ∈ ts := by
  refine List.foldlRecOn ts _ (motive := fun seen => ∀ u ∈ seen, u ∈ ts) (by simp) ?_ t h
  intro seen hseen u hu
  split
  · exact hseen
  · exact List.forall_mem_append.mpr ⟨hseen, List.forall_mem_singleton.mpr hu⟩

theorem mem_tracked_iff {header : Header} :
    name ∈ header.tracked ↔ header.condition.Names name ∨ header.counter? = some name := by
  have hbounds : name ∈ header.bounds → name ∈ identifiersIn header.condition := fun h =>
    (List.mem_filter.mp (mem_of_mem_firstPlaces h)).1
  rw [Header.tracked, List.mem_append, List.mem_append, Option.mem_toList, ← mem_identifiersIn_iff]
  tauto

theorem exists_rescales_of_growth {header : Header} {lines : List Text}
    (h : header.growth lines = .logarithmic) :
    ∃ t ∈ header.update :: lines, rescales header.tracked t = true := by
  rw [Header.growth] at h
  split_ifs at h with hroot hrescales
  exact List.any_eq_true.mp hrescales

/-- The texts in which a loop may update its variables: the update of its header, and the lines of
its body or its only line. -/
def updateTexts (s : Snippet) (l : Loop) : List Text :=
  (readHeader l.kind (Text.trim (s.line l.line))).update ::
    if l.last = l.line then [s.line l.line] else l.body.map s.line

theorem exists_rescales_of_mem_detect {s : Snippet} {l : Loop} (hl : l ∈ detect s)
    (hgrowth : l.growth = .logarithmic) : ∃ t ∈ updateTexts s l, ∃ header : Header,
      header.condition = l.condition ∧ header.counter? = l.counter? ∧
        rescales header.tracked t = true := by
  obtain ⟨line, hline, hl⟩ := mem_detect_iff.mp hl
  obtain ⟨kind, last, column, heq⟩ := eq_make_of_mem_ofLine hl
  have htext : line.text = s.line l.line := by
    rw [Snippet.line, hline]
  rw [htext] at heq
  generalize l.line = number at heq
  subst heq
  obtain ⟨t, ht, hrescales⟩ := exists_rescales_of_growth hgrowth
  exact ⟨t, ht, _, rfl, rfl, hrescales⟩

end Loop

namespace LoopForest
open Loop

/-- A loop is logarithmic only if a text in which it may update its variables rescales a name of its
condition or its counter. -/
theorem exists_geometricUpdate {s : Snippet} {l : NestedLoop} (hl : l ∈ ofSnippet s)
    (hgrowth : l.growth = .logarithmic) : ∃ t ∈ updateTexts s l.toLoop, ∃ assigned,
      GeometricUpdate t assigned ∧
        ∃ name ∈ assigned, l.condition.Names name ∨ l.counter? = some name := by
  obtain ⟨t, ht, header, hcondition, hcounter, hrescales⟩ :=
    exists_rescales_of_mem_detect (toLoop_mem_detect hl) hgrowth
  obtain ⟨assigned, hupdate, name, hname, htracked⟩ := exists_geometricUpdate_of_rescales hrescales
  refine ⟨t, ht, assigned, hupdate, name, hname, ?_⟩
  rw [← hcondition, ← hcounter]
  exact mem_tracked_iff.mp htracked

def doubledElements : Text :=
  "for x in nums:\n    x *= 2\n".toList

def elementLoop : NestedLoop where
  kind := .forLoop
  line := 0
  last := 1
  column := 0
  counter? := some "x".toList
  condition := "nums".toList
  bounds := ["nums".toList]
  growth := .logarithmic
  exitsEarly := false
  parent? := none
  depth := 1
  amortization? := none
  creditedDepth := 1

theorem exists_geometricUpdate_element :
    let s := Snippet.ofCode .python doubledElements
    elementLoop ∈ ofSnippet s ∧ elementLoop.growth = .logarithmic ∧
      ∃ t ∈ updateTexts s elementLoop.toLoop, ∃ assigned, GeometricUpdate t assigned ∧
        ∃ name ∈ assigned, elementLoop.condition.Names name ∨ elementLoop.counter? = some name := by
  intro s
  have hl : elementLoop ∈ ofSnippet s := by decide
  exact ⟨hl, rfl, exists_geometricUpdate hl rfl⟩

/-- The element counts as a variable of the loop, although the condition does not name it. -/
theorem not_forall_exists_geometricUpdate :
    ¬ ∀ (language : Language) (code : Text), ∀ l ∈ ofSnippet (Snippet.ofCode language code),
      l.growth = .logarithmic → ∃ t ∈ updateTexts (Snippet.ofCode language code) l.toLoop,
        ∃ assigned, GeometricUpdate t assigned ∧ ∃ name ∈ assigned, l.condition.Names name := by
  intro h
  obtain ⟨t, ht, assigned, hupdate, name, hname, hcondition⟩ :=
    h .python doubledElements elementLoop (by decide) rfl
  have hnames : ∀ name ∈ identifiersIn elementLoop.condition, name = "nums".toList := by
    decide
  have htexts : ∀ t ∈ updateTexts (Snippet.ofCode .python doubledElements) elementLoop.toLoop,
      ¬ "nums".toList <:+: t := by
    decide +kernel
  obtain rfl := hnames name (mem_identifiersIn_iff.mpr hcondition)
  exact htexts t ht (hupdate.isInfix _ hname)

end LoopForest
end Asymptote
