import Asymptote.Proofs.Feature.Coherence
import Asymptote.Proofs.Pattern.Group
import Asymptote.Proofs.Snippet.Call

/-! # Calls of a function in its own lines
On the line of its definition a function may be called only behind the first place of its name. That
is not always the place by which the definition was found: a value may have the name of the function
expression it is set to, and then the name of the value stands first and the other one is found. The
definition is then taken for a call of itself. -/
namespace Asymptote.Snippet

/-! ## The name that defines -/

namespace DefinitionForm

def lead? (form : DefinitionForm) (line : Text) : Option Text :=
  (form.shape.find? line).bind fun m =>
    (form.shape.groupStart? form.name m.start).map fun cur => line.take cur.index

variable {form : DefinitionForm} {line name : Text}

theorem exists_lead? (hsplit : (form.shape.split? form.name).isSome)
    (h : form.definedName? line = some name) :
    ∃ lead behind, form.lead? line = some lead ∧ line = lead ++ (name ++ behind) := by
  rw [definedName?] at h
  split at h
  · cases h
  next m hm =>
    split_ifs at h
    obtain ⟨front, back, rfl, hfirst⟩ := @Pattern.comesFirst_of_from? form.shape [] line m hm
    obtain ⟨text, name', behind, hahead, hname, hplace⟩ :=
      Pattern.exists_groupStart? hsplit hfirst.found
    obtain rfl : name = name' := Option.some.inj (h.symm.trans hname)
    have hstart := (Pattern.stands_of_at?_append hfirst.found).start
    refine ⟨front ++ text, behind, ?_, ?_⟩
    · rw [lead?, hm, Option.bind_some, hstart, hplace, hahead, ← List.append_assoc]
      exact congrArg some List.take_left
    · rw [hahead, List.append_assoc]

theorem isSome_split? {l : Language} (h : form ∈ ofLanguage l) :
    (form.shape.split? form.name).isSome := by
  have hall : ∀ form ∈ ofLanguage l, (form.shape.split? form.name).isSome := by
    cases l <;> decide
  exact hall form h

end DefinitionForm

def definitionLead? (l : Language) (line : Text) : Option Text :=
  (DefinitionForm.ofLanguage l).findSome? fun form =>
    (form.definedName? line).bind fun _ => form.lead? line

theorem exists_definitionLead? {l : Language} {line name : Text}
    (h : definedName? l line = some name) :
    ∃ lead behind, definitionLead? l line = some lead ∧ line = lead ++ (name ++ behind) := by
  obtain ⟨before, form, after, hforms, hfound, hnone⟩ := List.findSome?_eq_some_iff.mp h
  have hform : form ∈ DefinitionForm.ofLanguage l := by simp [hforms]
  obtain ⟨lead, behind, hlead, hline⟩ :=
    DefinitionForm.exists_lead? (DefinitionForm.isSome_split? hform) hfound
  refine ⟨lead, behind, ?_, hline⟩
  refine List.findSome?_eq_some_iff.mpr ⟨before, form, after, hforms, ?_, fun other hother => ?_⟩
  · rw [hfound, Option.bind_some, hlead]
  · rw [hnone other hother, Option.bind_none]

/-! ## Calls behind the first place of the name -/

structure CallsAt (s : Snippet) (f : Function) (number : Nat) (front : Text) : Prop where
  first : f.line ≤ number
  last : number ≤ f.last
  call : CallAt f.name (s.line number) front

def IsFirst (name t front : Text) : Prop :=
  ∀ front' behind, Text.NameAt name t front' behind → front.length ≤ front'.length

variable {s : Snippet} {f : Function} {number : Nat}

theorem callAt_iff_isFirst (hname : f.name.IsName) :
    ((callable? s f number).map (callArguments f.name)).getD [] = [] ↔
      ∀ front, CallAt f.name (s.line number) front →
        number = f.line ∧ IsFirst f.name (s.line number) front := by
  rw [callable?]
  split_ifs with hnumber
  · simp only [hnumber, true_and]
    cases hfound : Text.afterWord f.name (s.line f.line) with
    | nil =>
      have hnone : ∀ front behind, ¬ Text.NameAt f.name (s.line f.line) front behind := by
        intro front behind h
        have hmem := (Text.mem_afterWord_iff hname).mpr ⟨front, h⟩
        rw [hfound] at hmem
        cases hmem
      refine iff_of_true rfl fun front hcall front' behind h => absurd h (hnone _ _)
    | cons behind others =>
      obtain ⟨first, hplace, hfirst⟩ := Text.exists_nameAt_of_afterWord hname hfound
      have hlater : callArguments f.name behind = [] ↔
          ∀ front, first.length < front.length → ¬ CallAt f.name (s.line f.line) front := by
        rw [callArguments_eq_nil_iff hname, ← not_exists, exists_callAt_behind_iff hname hplace]
        simp only [not_exists, not_and]
      rw [List.head?_cons, Option.map_some, Option.getD_some, hlater]
      constructor
      · intro h front hcall front' behind' hfront'
        exact (le_of_not_gt fun hlt => h front hlt hcall).trans (hfirst front' behind' hfront')
      · intro h front hlt hcall
        exact absurd (h front hcall first behind hplace) (not_le_of_gt hlt)
  · simp [callArguments_eq_nil_iff hname, hnumber]

theorem line_eq_nil (h : s.lines.length ≤ number) : s.line number = [] := by
  rw [line, List.getElem?_eq_none h]

theorem exists_line_of_mem_functionsOf {l : Language} {lines : List Line}
    (hf : f ∈ functionsOf l lines) :
    ∃ line, lines[f.line]? = some line ∧ definedName? l line.text = some f.name := by
  obtain ⟨⟨line, number⟩, hmem, hfound⟩ := List.mem_filterMap.mp hf
  dsimp only at hfound
  split_ifs at hfound
  obtain ⟨name, hname, rfl⟩ := Option.map_eq_some_iff.mp hfound
  exact ⟨line, List.mk_mem_zipIdx_iff_getElem?.mp hmem, hname⟩

theorem definedName?_of_mem_functions {l : Language} {code : Text}
    (hf : f ∈ (ofCode l code).functions) :
    definedName? (ofCode l code).language ((ofCode l code).line f.line) = some f.name := by
  obtain ⟨line, hline, hname⟩ := exists_line_of_mem_functionsOf hf
  have hlines : (ofCode l code).lines[f.line]? = some line := hline
  rw [Snippet.line, hlines]
  exact hname

theorem selfCalls_eq_nil_iff_callsAt (hname : f.name.IsName) :
    s.selfCalls f = [] ↔ ∀ number front, s.CallsAt f number front →
      number = f.line ∧ IsFirst f.name (s.line number) front := by
  simp only [selfCalls, List.flatMap_eq_nil_iff, List.map_eq_nil_iff, List.mem_range'_1,
    callAt_iff_isFirst hname]
  constructor
  · rintro h number front ⟨hfirst, hlast, hcall⟩
    have hnumber : number < s.lines.length := by
      by_contra hpast
      obtain ⟨behind, hplace, -⟩ := hcall
      have hlength := hplace.length_eq
      have hpos := List.length_pos_iff.mpr hname.ne_nil
      rw [line_eq_nil (not_lt.mp hpast), List.length_nil] at hlength
      omega
    exact h number ⟨hfirst, by omega⟩ front hcall
  · rintro h number ⟨hfirst, hlast⟩ front hcall
    exact h number front ⟨hfirst, by omega, hcall⟩

/-- If a function is called nowhere but where its definition was found, then calls of itself are
found exactly if the definition reads like a call and the name stands in front of it too. -/
theorem selfCalls_eq_nil_iff {l : Language} {code : Text} (hf : f ∈ (ofCode l code).functions)
    (hname : f.name.IsName) :
    let s := ofCode l code
    ∃ lead behind, definitionLead? s.language (s.line f.line) = some lead ∧
      s.line f.line = lead ++ (f.name ++ behind) ∧
      ((∀ number front, s.CallsAt f number front → number = f.line ∧ front = lead) →
        (s.selfCalls f = [] ↔
          (s.CallsAt f f.line lead → IsFirst f.name (s.line f.line) lead)) ∧
        (RecursiveFunction.of? s f = none ↔
          (s.CallsAt f f.line lead → IsFirst f.name (s.line f.line) lead))) := by
  intro s
  obtain ⟨lead, behind, hlead, hline⟩ := exists_definitionLead? (definedName?_of_mem_functions hf)
  refine ⟨lead, behind, hlead, hline, fun honly => ?_⟩
  have hcalls : s.selfCalls f = [] ↔
      (s.CallsAt f f.line lead → IsFirst f.name (s.line f.line) lead) := by
    rw [selfCalls_eq_nil_iff_callsAt hname]
    constructor
    · exact fun h hcall => (h f.line lead hcall).2
    · intro h number front hcall
      obtain ⟨rfl, rfl⟩ := honly number front hcall
      exact ⟨rfl, h hcall⟩
  exact ⟨hcalls, RecursiveFunction.of?_eq_none_iff.trans hcalls⟩

/-! ## A value with the name of its function expression -/

def namedTwice : Text :=
  "const total = function total(a, b) \x7b\n  return a + b;\n\x7d;".toList

def total : Function where
  name := "total".toList
  line := 0
  last := 2

theorem total_mem_functions : total ∈ (ofCode .javaScript namedTwice).functions := by
  decide

theorem isName_total : total.name.IsName := by
  decide

theorem definitionLead?_namedTwice :
    definitionLead? (ofCode .javaScript namedTwice).language
      ((ofCode .javaScript namedTwice).line total.line) =
        some "const total = function ".toList := by
  decide

theorem callsAt_namedTwice {front : Text}
    (h : (ofCode .javaScript namedTwice).CallsAt total number front) :
    number = total.line ∧ front = "const total = function ".toList := by
  have hall : ∀ number ∈ List.range 3,
      ∀ following ∈ Text.afterWord total.name ((ofCode .javaScript namedTwice).line number),
        (arguments? following).isSome → number = total.line ∧
          ((ofCode .javaScript namedTwice).line number).take
            (((ofCode .javaScript namedTwice).line number).length -
              (total.name.length + following.length)) = "const total = function ".toList := by
    decide
  have hnumber : number ∈ List.range 3 := List.mem_range.mpr (Nat.lt_succ_of_le h.last)
  exact (forall_callAt_iff isName_total
    (P := fun front => number = total.line ∧ front = _)).mpr (hall number hnumber) front h.call

theorem line_namedTwice :
    (ofCode .javaScript namedTwice).line total.line =
      "const total = function total(a, b) \x7b".toList := by
  decide

theorem selfCalls_eq_nil_iff_namedTwice :
    total ∈ (ofCode .javaScript namedTwice).functions ∧ total.name.IsName ∧
      RecursiveFunction.of? (ofCode .javaScript namedTwice) total ≠ none := by
  refine ⟨total_mem_functions, isName_total, fun hnone => ?_⟩
  obtain ⟨lead, behind, hlead, -, hiff⟩ := selfCalls_eq_nil_iff total_mem_functions isName_total
  obtain rfl := Option.some.inj (definitionLead?_namedTwice.symm.trans hlead)
  have hcall : CallAt total.name ((ofCode .javaScript namedTwice).line total.line)
      "const total = function ".toList := by
    rw [line_namedTwice]
    exact ⟨"(a, b) \x7b".toList, ⟨by decide, by decide, by decide⟩, [], _, rfl, by simp⟩
  have hvalue : Text.NameAt total.name ((ofCode .javaScript namedTwice).line total.line)
      "const ".toList " = function total(a, b) \x7b".toList := by
    rw [line_namedTwice]
    exact ⟨by decide, by decide, by decide⟩
  have hfirst := (hiff fun _ _ => callsAt_namedTwice).2.mp hnone
    ⟨Nat.le_refl _, Nat.zero_le _, hcall⟩
  exact absurd (hfirst _ _ hvalue) (by decide)

theorem not_forall_selfCalls_eq_nil :
    ¬ ∀ (l : Language) (code : Text) (f : Function) (lead : Text),
      f ∈ (ofCode l code).functions →
      definitionLead? (ofCode l code).language ((ofCode l code).line f.line) = some lead →
      (∀ number front, (ofCode l code).CallsAt f number front → number = f.line ∧ front = lead) →
        (ofCode l code).selfCalls f = [] := by
  intro hnone
  have hempty := hnone .javaScript namedTwice total _ total_mem_functions
    definitionLead?_namedTwice fun _ _ => callsAt_namedTwice
  have hfound : (ofCode .javaScript namedTwice).selfCalls total = [⟨0, "a, b".toList⟩] := by
    decide
  rw [hfound] at hempty
  cases hempty

end Asymptote.Snippet
