import Asymptote.Proofs.Complexity.Layout
import Asymptote.Proofs.Complexity.Product

/-! # Sums and products of size variables
A sum of size variables is linear, whatever their coefficients, but for the four sums that stand for
the vertices and edges of a graph. A product of two is quadratic and any longer one cubic. No stage
of the reader before the last takes such a claim for something else. -/
namespace Asymptote.Complexity

structure Term where
  coefficient : Text := []
  letter : Char
  isDigit : ∀ c ∈ coefficient, c.isDigit = true := by simp
  isAlpha : letter.isAlpha = true := by decide

structure Terms where
  first : Term
  others : List (Char × Term)
  others_ne_nil : others ≠ []

def Term.text (t : Term) : Text :=
  t.coefficient ++ [t.letter]

def Term.lower (t : Term) : Text :=
  t.coefficient ++ [t.letter.toLower]

namespace Terms

def text (ts : Terms) : Text :=
  ts.first.text ++ ts.others.flatMap fun o => o.1 :: o.2.text

def terms (ts : Terms) : List Term :=
  ts.first :: ts.others.map (·.2)

def operators (ts : Terms) : List Char :=
  ts.others.map (·.1)

def joined (ts : Terms) (sign : Char) : Text :=
  Text.join sign (ts.terms.map Term.lower)

end Terms

def timesSigns : Text :=
  ['*', '·', '×', '⋅']

def graphSums : List Text :=
  ["v+e", "e+v", "n+e", "v+m"].map String.toList

variable {t : Term} {ts : Terms} {claim part body : Text} {sign c : Char}

/-! ## Characters -/

theorem Term.isAlphanum_of_mem_text (h : c ∈ t.text) : c.isAlphanum = true := by
  rw [Char.isAlphanum, Bool.or_eq_true]
  rcases List.mem_append.mp h with hdigit | hletter
  · exact .inr (t.isDigit c hdigit)
  · exact .inl (List.mem_singleton.mp hletter ▸ t.isAlpha)

theorem Term.isAlphanum_of_mem_lower (h : c ∈ t.lower) : c.isAlphanum = true := by
  rw [Char.isAlphanum, Bool.or_eq_true]
  rcases List.mem_append.mp h with hdigit | hletter
  · exact .inr (t.isDigit c hdigit)
  · rw [List.mem_singleton.mp hletter, Char.isAlpha_toLower_eq_isAlpha]
    exact .inl t.isAlpha

theorem Term.notMem_lower (t : Term) (hc : c.isAlphanum = false) : c ∉ t.lower := by
  intro hmem
  simp [isAlphanum_of_mem_lower hmem] at hc

theorem Terms.mem_text (h : c ∈ ts.text) : c.isAlphanum = true ∨ c ∈ ts.operators := by
  rw [Terms.text, List.mem_append, List.mem_flatMap] at h
  rcases h with hfirst | ⟨o, ho, hother⟩
  · exact .inl (Term.isAlphanum_of_mem_text hfirst)
  · rcases List.mem_cons.mp hother with rfl | hterm
    · exact .inr (List.mem_map_of_mem ho)
    · exact .inl (Term.isAlphanum_of_mem_text hterm)

/-! ## The body of a claim -/

def unify (c : Char) : Char :=
  if c ∈ ['·', '×', '⋅'] then '*' else c

theorem replace_sign (c d : Char) (t : Text) :
    Text.replace [c] [d] t = t.map fun e => if e = c then d else e := by
  rw [Text.replace]
  induction t with
  | nil => rfl
  | cons e t ih =>
    by_cases he : e = c
    · simp [Text.replace.go, he, ih]
    · simp [Text.replace.go, he, Ne.symm he, ih]

theorem notMem_map_unify (hstar : c ≠ '*') (hc : c ∉ body) : c ∉ body.map unify := by
  intro hmem
  obtain ⟨d, hd, rfl⟩ := List.mem_map.mp hmem
  rw [unify] at hstar hc
  split_ifs at hstar hc
  · exact hstar rfl
  · exact hc hd

theorem unify_of_isAlphanum (h : c.isAlphanum = true) : unify c = c := by
  rw [unify, if_neg]
  intro hsign
  have hascii := (Text.toNat_of_isAlphanum h).2
  simp only [List.mem_cons, List.not_mem_nil, or_false] at hsign
  rcases hsign with rfl | rfl | rfl <;> exact absurd hascii (by decide)

theorem of_mem_signs {p : Char → Prop} (h : p '+' ∧ p '*' ∧ p '·' ∧ p '×' ∧ p '⋅')
    (hsign : sign ∈ '+' :: timesSigns) : p sign := by
  have hall : ∀ c ∈ '+' :: timesSigns, p c := by simpa [timesSigns] using h
  exact hall sign hsign

theorem toLower_sign (h : sign ∈ '+' :: timesSigns) : sign.toLower = sign :=
  of_mem_signs (p := fun c => c.toLower = c) (by decide) h

theorem Term.map_text (t : Term) : t.text.map (unify ∘ Char.toLower) = t.lower := by
  have hdigits : t.coefficient.map (unify ∘ Char.toLower) = t.coefficient := by
    rw [List.map_congr_left fun c hc => ?_, List.map_id]
    have hdigit := t.isDigit c hc
    rw [Function.comp_apply, Text.toLower_of_isDigit hdigit,
      unify_of_isAlphanum (by simp [Char.isAlphanum, hdigit]), id]
  have hletter : unify t.letter.toLower = t.letter.toLower :=
    unify_of_isAlphanum (by simp [Char.isAlphanum, t.isAlpha])
  rw [text, lower, List.map_append, hdigits, List.map_singleton, Function.comp_apply, hletter]

theorem respell_eq_map (h : ∀ c ∈ ['²', '³', '√', '('], c ∉ body)
    (hstars : ¬ "**".toList <:+: body) : respell body = body.map unify := by
  have hunify : ((body.map fun e => if e = '·' then '*' else e).map
      fun e => if e = '×' then '*' else e).map (fun e => if e = '⋅' then '*' else e) =
        body.map unify := by
    rw [List.map_map, List.map_map]
    refine List.map_congr_left fun c _ => ?_
    simp only [unify, Function.comp_apply, List.mem_cons, List.not_mem_nil, or_false]
    grind
  have hroot : '√' ∉ body.map unify := notMem_map_unify (by decide) (h '√' (by decide))
  have hopen : '(' ∉ body.map unify := notMem_map_unify (by decide) (h '(' (by decide))
  simp only [respell, respellings, List.map, List.foldl]
  rw [Text.replace_of_notMem '²' (by decide) (h '²' (by decide)),
    Text.replace_of_notMem '³' (by decide) (h '³' (by decide)), Text.replace_of_not_infix hstars]
  simp only [String.reduceToList, replace_sign, hunify]
  rw [Text.replace_of_notMem '√' (by decide) hroot, Text.replace_of_notMem '(' (by decide) hopen,
    Text.replace_of_notMem '(' (by decide) hopen, Text.replace_of_notMem '(' (by decide) hopen,
    Text.replace_of_notMem '(' (by decide) hopen]

def Terms.UnifiedTo (ts : Terms) (sign : Char) : Prop :=
  ∀ c ∈ ts.operators, c ∈ '+' :: timesSigns ∧ unify c = sign

namespace Terms

theorem UnifiedTo.eq_plus_or_star (h : ts.UnifiedTo sign) : sign = '+' ∨ sign = '*' := by
  obtain ⟨o, others, hothers⟩ := List.exists_cons_of_ne_nil ts.others_ne_nil
  obtain ⟨hoperator, rfl⟩ := h o.1 (by simp [operators, hothers])
  exact of_mem_signs (p := fun c => unify c = '+' ∨ unify c = '*') (by decide) hoperator

theorem lowerChar_of_mem_text (hunified : ts.UnifiedTo sign) (h : c ∈ ts.text) :
    Text.isBlank c = false ∧ c ≠ 'Σ' ∧ Text.lowerChar c = [c.toLower] := by
  rcases mem_text h with halphanum | hsign
  · have hascii := (Text.toNat_of_isAlphanum halphanum).2
    refine ⟨Text.isBlank_eq_false_of_isAlphanum halphanum, ?_, if_pos hascii⟩
    rintro rfl
    exact absurd hascii (by decide)
  · exact of_mem_signs (p := fun c => Text.isBlank c = false ∧ c ≠ 'Σ' ∧
      Text.lowerChar c = [c.toLower]) (by decide) (hunified c hsign).1

theorem compact_text (hunified : ts.UnifiedTo sign) :
    compact ts.text = ts.text.map Char.toLower := by
  have hchars := fun c => @lowerChar_of_mem_text ts sign c hunified
  have hkeeps : ts.text.filter (fun c => !Text.isBlank c) = ts.text :=
    List.filter_eq_self.mpr fun c hc => by simp [(hchars c hc).1]
  have hsigma : 'Σ' ∉ ts.text := fun hmem => (hchars _ hmem).2.1 rfl
  rw [compact, hkeeps, Text.lowercase_eq_flatMap hsigma, List.map_eq_flatMap]
  exact List.flatMap_congr fun c hc => (hchars c hc).2.2

theorem map_unify_text (hunified : ts.UnifiedTo sign) :
    (ts.text.map Char.toLower).map unify = ts.joined sign := by
  have hothers : (ts.others.flatMap fun o => o.1 :: o.2.text).map (unify ∘ Char.toLower) =
      ts.others.flatMap fun o => sign :: o.2.lower := by
    rw [List.map_flatMap]
    refine List.flatMap_congr fun o ho => ?_
    obtain ⟨hsign, hunify⟩ := hunified o.1 (List.mem_map_of_mem ho)
    rw [List.map_cons, Term.map_text, Function.comp_apply, toLower_sign hsign, hunify]
  rw [List.map_map, text, List.map_append, Term.map_text, hothers, joined, terms, List.map_cons,
    Text.join_cons, List.flatMap_map, List.flatMap_map]

theorem notMem_joined (hsign : c ≠ sign) (hc : c.isAlphanum = false) : c ∉ ts.joined sign := by
  apply Text.notMem_join hsign
  rw [List.forall_mem_map]
  exact fun t _ => t.notMem_lower hc

end Terms

/-! ## The shape of the body -/

theorem ofShape?_of_plain (hmark : '!' ∉ body) (hcaret : '^' ∉ body)
    (hlog : ¬ "log".toList <:+: body) (hsqrt : ¬ "sqrt".toList <:+: body) :
    ofShape? body = ofVariables? body := by
  have hmark' : ¬ "!".toList <:+: body := fun h => hmark (h.subset List.mem_cons_self)
  have hcaret' : ¬ "^".toList <:+: body := fun h => hcaret (h.subset List.mem_cons_self)
  have hloglog : ¬ "loglog".toList <:+: body := fun h =>
    hlog (List.IsInfix.trans (by decide) h)
  have hfactorial : ofFactorial? body = none := by
    rw [ofFactorial?, if_pos (by simpa [← Text.contains_iff] using hmark')]
  have hpower : ofPower? body = none := by
    rw [ofPower?, Text.split?_eq_none_iff.mpr hcaret']
  have hlogarithm : ofLogarithm? body = none := by
    rw [ofLogarithm?, Text.split?_eq_none_iff.mpr hloglog, Text.split?_eq_none_iff.mpr hlog]
    simpa [Text.contains_iff] using hsqrt
  rw [ofShape?, hfactorial, hpower, hlogarithm]
  rfl

theorem polynomial_of_le {degree : Nat} (h : 2 ≤ degree) :
    polynomial degree = if degree = 2 then quadratic else cubic := by
  obtain ⟨excess, rfl⟩ := Nat.exists_eq_add_of_le' h
  cases excess with
  | zero => rfl
  | succ excess => simp [polynomial]

namespace Term

theorem countP_isAlpha_lower (t : Term) : t.lower.countP Char.isAlpha ≤ 1 := by
  have hdigits : t.coefficient.countP Char.isAlpha = 0 := by
    rw [List.countP_eq_zero]
    intro c hc
    simp [Text.isAlpha_eq_false_of_isDigit (t.isDigit c hc)]
  rw [lower, List.countP_append, hdigits, Nat.zero_add]
  exact List.countP_le_length

theorem isVariable_lower (t : Term) : isVariable t.lower = true := by
  have hletter : t.letter.toLower.isDigit = false := by
    rw [← Bool.not_eq_true]
    intro hdigit
    have halpha := Text.isAlpha_eq_false_of_isDigit hdigit
    simp [t.isAlpha] at halpha
  rw [isVariable_of_notMem (t.notMem_lower (by decide)) (t.notMem_lower (by decide)), lower,
    List.dropWhile_append_of_pos t.isDigit]
  simp [hletter, t.isAlpha]

end Term

namespace Terms

theorem length_terms (ts : Terms) : 2 ≤ ts.terms.length := by
  have hothers := List.length_pos_iff.mpr ts.others_ne_nil
  simp [terms]
  omega

theorem not_infix_joined (hpart : sign ∉ part) (hletters : 2 ≤ part.countP Char.isAlpha) :
    ¬ part <:+: ts.joined sign := by
  have hne : part ≠ [] := by
    rintro rfl
    simp at hletters
  rw [joined, Text.infix_join_iff hpart hne]
  rintro ⟨u, hu, hoccurs⟩
  obtain ⟨t, -, rfl⟩ := List.mem_map.mp hu
  have hfew := (hoccurs.sublist.countP_le (p := Char.isAlpha)).trans t.countP_isAlpha_lower
  omega

theorem pieces_joined (hsign : sign.isAlphanum = false) :
    Text.pieces sign (ts.joined sign) = ts.terms.map Term.lower := by
  apply Text.pieces_join (by simp [terms])
  rw [List.forall_mem_map]
  exact fun t _ => t.notMem_lower hsign

theorem mem_joined (hsign : sign.isAlphanum = false) : sign ∈ ts.joined sign := by
  have hcount := Text.length_pieces sign (ts.joined sign)
  rw [pieces_joined hsign, List.length_map] at hcount
  have hterms := ts.length_terms
  exact List.count_pos_iff.mp (by omega)

theorem not_stars_infix_joined (hsign : sign = '+' ∨ sign = '*') :
    ¬ "**".toList <:+: ts.joined sign := by
  rcases hsign with rfl | rfl
  · exact fun hstars => notMem_joined (by decide) (by decide) (hstars.subset List.mem_cons_self)
  · apply Text.not_pair_infix_join (by simp [terms])
    rw [List.forall_mem_map]
    exact fun t _ => ⟨t.notMem_lower (by decide), by simp [Term.lower]⟩

theorem ofShape?_joined (hsign : sign = '+' ∨ sign = '*') :
    ofShape? (ts.joined sign) = ofVariables? (ts.joined sign) := by
  rcases hsign with rfl | rfl <;>
    exact ofShape?_of_plain (notMem_joined (by decide) (by decide))
      (notMem_joined (by decide) (by decide)) (not_infix_joined (by decide) (by decide))
      (not_infix_joined (by decide) (by decide))

theorem all_isVariable_lower (ts : Terms) : (ts.terms.map Term.lower).all isVariable = true := by
  rw [List.all_eq_true, List.forall_mem_map]
  exact fun t _ => t.isVariable_lower

theorem variables_joined (hsign : sign.isAlphanum = false) (hbody : body = ts.joined sign) :
    2 ≤ (Text.pieces sign body).length ∧ (Text.pieces sign body).all isVariable = true := by
  rw [hbody, pieces_joined hsign, List.length_map]
  exact ⟨ts.length_terms, ts.all_isVariable_lower⟩

theorem ofShape?_sum (ts : Terms) : ofShape? (ts.joined '+') = some linear := by
  rw [ofShape?_joined (.inl rfl), ofVariables?, pieces_joined (by decide),
    if_pos ts.all_isVariable_lower]

theorem ofShape?_product (ts : Terms) : ofShape? (ts.joined '*') =
    some (if ts.terms.length = 2 then quadratic else cubic) := by
  have hwhole : isVariable (ts.joined '*') = false := by
    rw [← Bool.not_eq_true]
    intro hvariable
    exact notMem_of_isVariable (notMem_joined (by decide) (by decide))
      (notMem_joined (by decide) (by decide)) hvariable (by decide) (by decide)
      (mem_joined (by decide))
  have hsum : Text.pieces '+' (ts.joined '*') = [ts.joined '*'] :=
    Text.pieces_of_notMem (notMem_joined (by decide) (by decide))
  rw [ofShape?_joined (.inr rfl), ofVariables?, hsum, pieces_joined (by decide)]
  simp only [List.all_cons, hwhole, Bool.false_and, Bool.false_eq_true, if_false,
    ts.all_isVariable_lower, if_true, List.length_map, polynomial_of_le ts.length_terms]

end Terms

/-! ## Known spellings -/

theorem spelling_sum : ∀ s ∈ spellings, ∀ spelling ∈ s.2,
    2 ≤ (Text.pieces '+' spelling).length → (Text.pieces '+' spelling).all isVariable = true →
      s.1 = if spelling.toList ∈ graphSums then graph else linear := by
  decide

theorem spelling_product : ∀ s ∈ spellings, ∀ spelling ∈ s.2,
    2 ≤ (Text.pieces '*' spelling).length → (Text.pieces '*' spelling).all isVariable = true →
      s.1 = if (Text.pieces '*' spelling).length = 2 then quadratic else cubic := by
  decide

theorem isSome_ofSpelling?_graphSums : ∀ sum ∈ graphSums, (ofSpelling? sum).isSome = true := by
  decide

theorem read?_of_body {d : Complexity} (hbody : Complexity.body claim = body) (hne : body ≠ [])
    (hspelling : ∀ s ∈ spellings, ∀ spelling ∈ s.2, spelling.toList = body → s.1 = d)
    (hshape : ofSpelling? body = none → ofShape? body = some d) : read? claim = some d := by
  rw [read?, hbody, if_neg (by simpa using hne)]
  cases hfound : ofSpelling? body with
  | none => exact hshape hfound
  | some found =>
    obtain ⟨s, hs, rfl, spelling, hmem, htext⟩ := exists_spelling hfound
    rw [hspelling s hs spelling hmem htext]
    rfl

/-! ## Reading terms -/

def Terms.WrittenAs (ts : Terms) (claim : Text) : Prop :=
  ∃ form ∈ ts.text :: wrapperNames.map fun name => wrap name ts.text, Relaid form claim

namespace Terms

theorem notMem_compact_text (hunified : ts.UnifiedTo sign)
    (hc : c ∈ ['²', '³', '√', '(']) : c ∉ compact ts.text := by
  rw [compact_text hunified]
  intro hmem
  have hjoined := List.mem_map_of_mem (f := unify) hmem
  rw [map_unify_text hunified] at hjoined
  simp only [List.mem_cons, List.not_mem_nil, or_false] at hc
  rcases hc with rfl | rfl | rfl | rfl <;> rcases hunified.eq_plus_or_star with rfl | rfl <;>
    exact notMem_joined (by decide) (by decide) hjoined

theorem not_isPrefix_compact_text (hunified : ts.UnifiedTo sign) :
    ∀ wrapper ∈ wrappers, ¬ wrapper <+: compact ts.text := by
  intro wrapper hwrapper hstarts
  have hopen : '(' ∈ wrapper :=
    (by decide : ∀ wrapper ∈ wrappers, '(' ∈ wrapper) wrapper hwrapper
  exact notMem_compact_text hunified (by simp) (hstarts.subset hopen)

theorem body_text (hunified : ts.UnifiedTo sign) : Complexity.body ts.text = ts.joined sign := by
  have hcompact := compact_text hunified
  have hstars : ¬ "**".toList <:+: compact ts.text := by
    intro hinfix
    have hjoined := hinfix.map unify
    rw [hcompact, map_unify_text hunified] at hjoined
    exact not_stars_infix_joined hunified.eq_plus_or_star hjoined
  rw [Complexity.body, unwrap_of_not_isPrefix (not_isPrefix_compact_text hunified),
    respell_eq_map (fun c => notMem_compact_text hunified) hstars, hcompact,
    map_unify_text hunified]

theorem body_of_writtenAs (hunified : ts.UnifiedTo sign) (h : ts.WrittenAs claim) :
    Complexity.body claim = ts.joined sign := by
  obtain ⟨form, hform, hrelaid⟩ := h
  rw [Complexity.body, ← compact_relaid hrelaid, ← Complexity.body]
  rcases List.mem_cons.mp hform with rfl | hwrapped
  · exact body_text hunified
  · obtain ⟨name, hname, rfl⟩ := List.mem_map.mp hwrapped
    rw [body_wrap hname (not_isPrefix_compact_text hunified), body_text hunified]

theorem read?_sum (hsum : ∀ c ∈ ts.operators, c = '+') (h : ts.WrittenAs claim) :
    read? claim = some (if ts.joined '+' ∈ graphSums then graph else linear) := by
  have hunified : ts.UnifiedTo '+' := by
    intro c hc
    rw [hsum c hc]
    decide
  apply read?_of_body (body_of_writtenAs hunified h)
    (List.ne_nil_of_mem (mem_joined (by decide)))
  · intro s hs spelling hspelling htext
    obtain ⟨hseveral, hvariables⟩ := variables_joined (by decide) htext
    rw [← htext]
    exact spelling_sum s hs spelling hspelling hseveral hvariables
  · intro hnone
    rw [if_neg, ofShape?_sum]
    intro hgraph
    simpa [hnone] using isSome_ofSpelling?_graphSums _ hgraph

theorem read?_product (hproduct : ∀ c ∈ ts.operators, c ∈ timesSigns) (h : ts.WrittenAs claim) :
    read? claim = some (if ts.terms.length = 2 then quadratic else cubic) := by
  have hunified : ts.UnifiedTo '*' := by
    intro c hc
    have hsign := hproduct c hc
    refine ⟨List.mem_cons_of_mem _ hsign, ?_⟩
    simp only [timesSigns, List.mem_cons, List.not_mem_nil, or_false] at hsign
    rcases hsign with rfl | rfl | rfl | rfl <;> decide
  apply read?_of_body (body_of_writtenAs hunified h)
    (List.ne_nil_of_mem (mem_joined (by decide)))
  · intro s hs spelling hspelling htext
    obtain ⟨hseveral, hvariables⟩ := variables_joined (by decide) htext
    rw [spelling_product s hs spelling hspelling hseveral hvariables, htext,
      pieces_joined (by decide), List.length_map]
  · intro _
    exact ts.ofShape?_product

/-- A sum of size variables is read as linear, unless it is one of the four that stand for the
vertices and edges of a graph; a product of two is read as quadratic, and a longer one as cubic. -/
theorem read?_terms (h : ts.WrittenAs claim) :
    ((∀ c ∈ ts.operators, c = '+') →
      read? claim = some (if ts.joined '+' ∈ graphSums then graph else linear)) ∧
    ((∀ c ∈ ts.operators, c ∈ timesSigns) →
      read? claim = some (if ts.terms.length = 2 then quadratic else cubic)) :=
  ⟨fun hsum => read?_sum hsum h, fun hproduct => read?_product hproduct h⟩

def verticesAndEdges : Terms :=
  ⟨{ letter := 'V' }, [('+', { letter := 'e' })], by simp⟩

def threeFactors : Terms :=
  ⟨{ coefficient := "2", letter := 'n' },
    [('·', { letter := 'M' }), ('*', { coefficient := "10", letter := 'k' })], by simp⟩

theorem read?_terms_verticesAndEdges :
    (verticesAndEdges.WrittenAs "Θ(V + e)" ∧ (∀ c ∈ verticesAndEdges.operators, c = '+') ∧
      read? "Θ(V + e)" = some graph) ∧
    threeFactors.WrittenAs "2n·M*10k" ∧ (∀ c ∈ threeFactors.operators, c ∈ timesSigns) ∧
      read? "2n·M*10k" = some cubic := by
  have hsum : verticesAndEdges.WrittenAs "Θ(V + e)" :=
    ⟨wrap "Θ" "V+e", by decide, by decide⟩
  have hplus : ∀ c ∈ verticesAndEdges.operators, c = '+' := by simp [verticesAndEdges, operators]
  have hproduct : threeFactors.WrittenAs "2n·M*10k" := ⟨_, List.mem_cons_self, .refl⟩
  have htimes : ∀ c ∈ threeFactors.operators, c ∈ timesSigns := by
    simp [threeFactors, operators, timesSigns]
  have hgraph : verticesAndEdges.joined '+' ∈ graphSums := by decide
  have hclass := (read?_terms hsum).1 hplus
  rw [if_pos hgraph] at hclass
  exact ⟨⟨hsum, hplus, hclass⟩, hproduct, htimes, (read?_terms hproduct).2 htimes⟩

end Terms

end Asymptote.Complexity
