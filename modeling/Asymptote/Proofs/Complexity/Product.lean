import Asymptote.Complexity
import Asymptote.Proofs.Text.Parts
import Mathlib.Data.List.TakeWhile

/-! # Claimed products
A claim may be a product of powers, logarithms and roots of `n`. The reader does not multiply: the
first digit of the first exponent decides alone, then whether there is a logarithm, then whether
there is a root. -/
namespace Asymptote.Complexity

structure Numeral where
  first : Fin 10
  rest : List (Fin 10) := []
  fraction : List (Fin 10) := []
  deriving DecidableEq

inductive Factor where
  | size
  | power (exponent : Numeral)
  | log
  | sqrt
  deriving DecidableEq

namespace Numeral

def digit (d : Fin 10) : Char :=
  Nat.digitChar d

def text (e : Numeral) : Text :=
  digit e.first :: e.rest.map digit ++
    if e.fraction = [] then [] else '.' :: e.fraction.map digit

def IsWhole (e : Numeral) : Prop :=
  ∃ d ∈ e.first :: e.rest, d ≠ 0

end Numeral

namespace Factor

def text : Factor → Text
  | size => "n"
  | power e => 'n' :: '^' :: e.text
  | log => "logn"
  | sqrt => "sqrt(n)"

def body : Factor → Text
  | sqrt => "sqrt"
  | f => f.text

def lead? : Factor → Option (Fin 10)
  | power e => some e.first
  | _ => none

end Factor

def productText (fs : List Factor) : Text :=
  Text.join '*' (fs.map Factor.text)

def productBody (fs : List Factor) : Text :=
  Text.join '*' (fs.map Factor.body)

def Writes (t : Text) (fs : List Factor) : Prop :=
  compact t = productText fs ∨ compact t = 'o' :: '(' :: productText fs ++ [')']

def lead? (fs : List Factor) : Option (Fin 10) :=
  fs.findSome? Factor.lead?

def ofProduct? (fs : List Factor) : Option Complexity :=
  if lead? fs = some 3 then some cubic
  else if lead? fs = some 2 then
    if .log ∈ fs then some quadraticLog else some quadratic
  else if .log ∈ fs then
    if fs.head? = some .log then some log else some linearLog
  else if .sqrt ∈ fs then some sqrt
  else if lead? fs = none then some (polynomial fs.length)
  else none

variable {fs : List Factor} {f : Factor} {t : Text} {c : Char}

/-! ## Characters -/

def alphabet : Text :=
  "nlogsqrt^.0123456789"

theorem Numeral.digit_spec (d : Fin 10) : digit d ≠ '(' ∧ (digit d).isAlpha = false ∧
    (digit d = '3' ↔ d = 3) ∧ (digit d = '2' ↔ d = 2) := by
  revert d
  decide

theorem Numeral.mem_text {e : Numeral} (h : c ∈ e.text) : c ∈ ".0123456789".toList := by
  have hdigits {ds : List (Fin 10)} (h : c ∈ ds.map digit) : c ∈ ".0123456789".toList := by
    obtain ⟨d, -, rfl⟩ := List.mem_map.mp h
    exact (by decide : ∀ d, digit d ∈ ".0123456789".toList) d
  rw [text, List.mem_append] at h
  obtain hwhole | hfraction := h
  · exact @hdigits (e.first :: e.rest) hwhole
  · split_ifs at hfraction
    · simp at hfraction
    · obtain rfl | hdigit := List.mem_cons.mp hfraction
      · decide
      · exact hdigits hdigit

theorem Factor.body_power (e : Numeral) : (power e).body = 'n' :: '^' :: e.text :=
  rfl

theorem Factor.mem_power {e : Numeral} (h : c ∈ (power e).body) : c ∈ "n^.0123456789".toList := by
  rw [body_power, List.mem_cons, List.mem_cons] at h
  obtain rfl | rfl | hexponent := h
  · decide
  · decide
  · exact (by decide : ".0123456789".toList ⊆ "n^.0123456789".toList) (Numeral.mem_text hexponent)

theorem Factor.mem_alphabet (h : c ∈ f.body) : c ∈ alphabet := by
  cases f with
  | size => exact (by decide : Factor.size.body ⊆ alphabet) h
  | log => exact (by decide : Factor.log.body ⊆ alphabet) h
  | sqrt => exact (by decide : Factor.sqrt.body ⊆ alphabet) h
  | power e => exact (by decide : "n^.0123456789".toList ⊆ alphabet) (mem_power h)

theorem Factor.mem_text (h : c ∈ f.text) : c = '(' ∨ c = ')' ∨ c ∈ alphabet := by
  cases f with
  | sqrt =>
    have hletters : Factor.sqrt.text ⊆ '(' :: ')' :: alphabet := by decide
    simpa using hletters h
  | size => exact .inr (.inr (Factor.mem_alphabet (f := .size) h))
  | log => exact .inr (.inr (Factor.mem_alphabet (f := .log) h))
  | power e => exact .inr (.inr (Factor.mem_alphabet (f := .power e) h))

theorem notMem_productBody (hc : c ∉ alphabet) (hseparator : c ≠ '*') : c ∉ productBody fs := by
  apply Text.notMem_join hseparator
  rw [List.forall_mem_map]
  exact fun f _ hmem => hc (Factor.mem_alphabet hmem)

theorem notMem_productText (hc : c ∉ alphabet) (hother : c ∉ ['*', '(', ')']) :
    c ∉ productText fs := by
  simp only [List.mem_cons, List.not_mem_nil, or_false, not_or] at hother
  obtain ⟨hseparator, hopen, hclose⟩ := hother
  apply Text.notMem_join hseparator
  rw [List.forall_mem_map]
  intro f _ hmem
  rcases Factor.mem_text hmem with h | h | h
  · exact hopen h
  · exact hclose h
  · exact hc h

/-! ## The body of a product -/

theorem Factor.text_eq_cons (f : Factor) :
    ∃ c rest, f.text = c :: rest ∧ c ∈ ['n', 'l', 's'] := by
  cases f with
  | size => exact ⟨_, _, rfl, by decide⟩
  | power e => exact ⟨_, _, rfl, by simp⟩
  | log => exact ⟨_, _, rfl, by decide⟩
  | sqrt => exact ⟨_, _, rfl, by decide⟩

theorem productText_eq_cons (hne : fs ≠ []) :
    ∃ c rest, productText fs = c :: rest ∧ c ∈ ['n', 'l', 's'] := by
  match fs, hne with
  | f :: fs, _ =>
    obtain ⟨c, rest, htext, hc⟩ := f.text_eq_cons
    obtain ⟨back, hback⟩ := Text.exists_join_cons '*' f.text (fs.map Factor.text)
    refine ⟨c, rest ++ back, ?_, hc⟩
    rw [productText, List.map_cons, hback, htext, List.cons_append]

theorem unwrap_compact (hne : fs ≠ []) (h : Writes t fs) : unwrap (compact t) = productText fs := by
  obtain hbare | hwrapped := h
  · obtain ⟨c, rest, htext, hc⟩ := productText_eq_cons hne
    rw [hbare, htext]
    simp only [List.mem_cons, List.not_mem_nil, or_false] at hc
    rcases hc with rfl | rfl | rfl <;> rfl
  · rw [hwrapped]
    simp [unwrap, wrappers, Text.after?, Text.withoutEnd, Text.before?, Text.endsWith]

theorem Factor.replace_root (f : Factor) : Text.replace "sqrt(n)" "sqrt" f.text = f.body := by
  cases f with
  | size => rfl
  | log => rfl
  | sqrt => rfl
  | power e =>
    refine Text.replace_of_notMem '(' (by decide) fun hparen => ?_
    exact absurd (mem_power hparen) (by decide)

theorem not_stars_infix_productText (hne : fs ≠ []) : ¬ "**".toList <:+: productText fs := by
  apply Text.not_pair_infix_join (by simpa using hne)
  intro t ht
  obtain ⟨f, -, rfl⟩ := List.mem_map.mp ht
  constructor
  · intro hstar
    rcases Factor.mem_text hstar with h | h | h <;> exact absurd h (by decide)
  · obtain ⟨c, rest, htext, -⟩ := f.text_eq_cons
    simp [htext]

theorem respell_productText (hne : fs ≠ []) : respell (productText fs) = productBody fs := by
  have hsymbol {old new : Text} (c : Char) (hold : c ∈ old) (hc : c ∉ alphabet)
      (hother : c ∉ ['*', '(', ')']) : Text.replace old new (productText fs) = productText fs :=
    Text.replace_of_notMem c hold (notMem_productText hc hother)
  have hparen {old new : Text} (hold : '(' ∈ old) :
      Text.replace old new (productBody fs) = productBody fs :=
    Text.replace_of_notMem '(' hold (notMem_productBody (by decide) (by decide))
  have hroot : Text.replace "sqrt(n)" "sqrt" (productText fs) = productBody fs := by
    rw [productText, Text.replace_join (by decide) (by decide), List.map_map]
    exact congrArg (Text.join '*') (List.map_congr_left fun f _ => f.replace_root)
  simp only [respell, respellings, List.map, List.foldl]
  rw [hsymbol '²' (by decide) (by decide) (by decide),
    hsymbol '³' (by decide) (by decide) (by decide),
    Text.replace_of_not_infix (not_stars_infix_productText hne),
    hsymbol '·' (by decide) (by decide) (by decide),
    hsymbol '×' (by decide) (by decide) (by decide),
    hsymbol '⋅' (by decide) (by decide) (by decide),
    hsymbol '√' (by decide) (by decide) (by decide),
    hroot, hparen (by decide), hparen (by decide), hparen (by decide)]

theorem body_of_writes (hne : fs ≠ []) (h : Writes t fs) : Complexity.body t = productBody fs := by
  rw [Complexity.body, unwrap_compact hne h, respell_productText hne]

/-! ## The shape of the body -/

theorem productBody_cons (hne : fs ≠ []) :
    productBody (f :: fs) = f.body ++ '*' :: productBody fs := by
  match fs, hne with
  | g :: gs, _ => exact Text.join_cons_cons f.body g.body

theorem productBody_ne_nil (hne : fs ≠ []) : productBody fs ≠ [] := by
  cases fs with
  | nil => exact absurd rfl hne
  | cons f fs =>
    obtain ⟨back, hback⟩ := Text.exists_join_cons '*' f.body (fs.map Factor.body)
    rw [productBody, List.map_cons, hback]
    cases f <;> exact List.cons_ne_nil _ _

theorem pieces_productBody (hne : fs ≠ []) :
    Text.pieces '*' (productBody fs) = fs.map Factor.body := by
  apply Text.pieces_join (by simpa using hne)
  intro t ht hstar
  obtain ⟨f, -, rfl⟩ := List.mem_map.mp ht
  exact absurd (Factor.mem_alphabet hstar) (by decide)

theorem infix_productBody_iff {part : Text} (h : '*' ∉ part) (hne : part ≠ []) :
    part <:+: productBody fs ↔ ∃ f ∈ fs, part <:+: f.body := by
  rw [productBody, Text.infix_join_iff h hne]
  simp

theorem Factor.not_infix_power {part : Text} (h : ¬ part ⊆ "n^.0123456789".toList) (e : Numeral) :
    ¬ part <:+: (power e).body := by
  intro hoccurs
  exact h fun _ hc => mem_power (hoccurs.subset hc)

theorem infix_productBody_iff_mem {part : Text} {word : Factor} (hseparator : '*' ∉ part)
    (hother : ¬ part ⊆ "n^.0123456789".toList) (hpower : ∀ e, .power e ≠ word)
    (hword : ∀ f ∈ [Factor.size, .log, .sqrt], part <:+: f.body ↔ f = word) :
    part <:+: productBody fs ↔ word ∈ fs := by
  have hfactor (f : Factor) : part <:+: f.body ↔ f = word := by
    cases f with
    | size => exact hword _ (by simp)
    | log => exact hword _ (by simp)
    | sqrt => exact hword _ (by simp)
    | power e => exact iff_of_false (Factor.not_infix_power hother e) (hpower e)
  have hne : part ≠ [] := by
    rintro rfl
    simp at hother
  rw [infix_productBody_iff hseparator hne]
  simp only [hfactor, exists_eq_right]

theorem log_infix_iff : "log".toList <:+: productBody fs ↔ .log ∈ fs :=
  infix_productBody_iff_mem (by decide) (by decide) (by simp) (by decide)

theorem sqrt_infix_iff : "sqrt".toList <:+: productBody fs ↔ .sqrt ∈ fs :=
  infix_productBody_iff_mem (by decide) (by decide) (by simp) (by decide)

theorem not_loglog_infix : ¬ "loglog".toList <:+: productBody fs := by
  rw [infix_productBody_iff (by decide) (by decide)]
  rintro ⟨f, -, hoccurs⟩
  cases f with
  | size => exact absurd hoccurs (by decide)
  | log => exact absurd hoccurs (by decide)
  | sqrt => exact absurd hoccurs (by decide)
  | power e => exact Factor.not_infix_power (by decide) e hoccurs

theorem log_isPrefix_iff : "log".toList <+: productBody fs ↔ fs.head? = some .log := by
  have hfactor (f : Factor) : "log".toList <+: f.body ↔ f = .log := by
    cases f with
    | size => decide
    | log => decide
    | sqrt => decide
    | power e =>
      refine iff_of_false (fun hstarts => ?_) (by simp)
      exact Factor.not_infix_power (by decide) e hstarts.isInfix
  match fs with
  | [] => decide
  | [f] => simpa [productBody] using hfactor f
  | f :: g :: fs =>
    rw [productBody_cons (List.cons_ne_nil g fs), Text.isPrefix_append_cons_iff (by decide),
      hfactor f]
    simp

theorem exists_power {d : Fin 10} (h : lead? fs = some d) :
    ∃ front back, '^' ∉ front ∧ productBody fs = front ++ '^' :: Numeral.digit d :: back := by
  induction fs with
  | nil => cases h
  | cons f fs ih =>
    have hlater (hlead : lead? fs = some d) (hcaret : '^' ∉ f.body) : ∃ front back,
        '^' ∉ front ∧ productBody (f :: fs) = front ++ '^' :: Numeral.digit d :: back := by
      obtain ⟨front, back, hfront, hbody⟩ := ih hlead
      refine ⟨f.body ++ '*' :: front, back, by simp [hcaret, hfront], ?_⟩
      have hne : fs ≠ [] := by
        rintro rfl
        cases hlead
      rw [productBody_cons hne, hbody, List.append_assoc, List.cons_append]
    cases f with
    | size => exact hlater h (by decide)
    | log => exact hlater h (by decide)
    | sqrt => exact hlater h (by decide)
    | power e =>
      obtain rfl : e.first = d := Option.some.inj h
      obtain ⟨back, hback⟩ :=
        Text.exists_join_cons '*' (Factor.power e).body (fs.map Factor.body)
      exact ⟨['n'], _, by decide, hback⟩

theorem caret_notMem (h : lead? fs = none) : '^' ∉ productBody fs := by
  apply Text.notMem_join (by decide)
  rw [List.forall_mem_map]
  intro f hf hmem
  have hnone : f.lead? = none := List.findSome?_eq_none_iff.mp h f hf
  cases f with
  | size => exact absurd hmem (by decide)
  | log => exact absurd hmem (by decide)
  | sqrt => exact absurd hmem (by decide)
  | power e => cases hnone

theorem ofFactorial?_productBody : ofFactorial? (productBody fs) = none := by
  have hmark : ¬ "!".toList <:+: productBody fs := fun hoccurs =>
    notMem_productBody (by decide) (by decide) (hoccurs.subset List.mem_cons_self)
  rw [ofFactorial?, if_pos (by simpa [← Text.contains_iff] using hmark)]

theorem ofPower?_productBody : ofPower? (productBody fs) =
    if lead? fs = some 3 then some cubic
    else if lead? fs = some 2 then
      if .log ∈ fs then some quadraticLog else some quadratic
    else none := by
  have hlog : Text.contains (productBody fs) "log" = decide (.log ∈ fs) := by
    rw [Bool.eq_iff_iff, Text.contains_iff, log_infix_iff, decide_eq_true_eq]
  cases hlead : lead? fs with
  | none =>
    have hcaret : ¬ "^".toList <:+: productBody fs := fun hoccurs =>
      caret_notMem hlead (hoccurs.subset List.mem_cons_self)
    rw [ofPower?, Text.split?_eq_none_iff.mpr hcaret]
    simp
  | some d =>
    obtain ⟨front, back, hfront, hbody⟩ := exists_power hlead
    have hsplit : Text.split? "^" (productBody fs) = some (front, Numeral.digit d :: back) := by
      rw [hbody]
      exact Text.split?_singleton hfront
    obtain ⟨hopen, halpha, hthree, htwo⟩ := Numeral.digit_spec d
    rw [ofPower?, hsplit]
    simp [-String.reduceToList, hopen, halpha, hthree, htwo, hlog]

theorem ofLogarithm?_productBody : ofLogarithm? (productBody fs) =
    if .log ∈ fs then
      if fs.head? = some .log then some log else some linearLog
    else if .sqrt ∈ fs then some sqrt
    else none := by
  rw [ofLogarithm?, Text.split?_eq_none_iff.mpr not_loglog_infix]
  by_cases hlog : .log ∈ fs
  · obtain ⟨⟨front, back⟩, hsplit⟩ := Option.isSome_iff_exists.mp
      (Text.contains_iff.mpr (log_infix_iff.mpr hlog))
    by_cases hhead : fs.head? = some .log
    · have hfront := Text.split?_of_isPrefix (log_isPrefix_iff.mpr hhead)
      simp [-String.reduceToList, hfront, hlog, hhead]
    · have hfront := Text.fst_ne_nil_of_split? hsplit (mt log_isPrefix_iff.mp hhead)
      simp [-String.reduceToList, hsplit, hfront, hlog, hhead]
  · have hsqrt : Text.contains (productBody fs) "sqrt" = decide (.sqrt ∈ fs) := by
      rw [Bool.eq_iff_iff, Text.contains_iff, sqrt_infix_iff, decide_eq_true_eq]
    rw [Text.split?_eq_none_iff.mpr (mt log_infix_iff.mp hlog)]
    simp [-String.reduceToList, hsqrt, hlog]

theorem isVariable_of_notMem (hopen : '(' ∉ t) (hclose : ')' ∉ t) :
    isVariable t = match t.dropWhile Char.isDigit with
      | [c] => c.isAlpha
      | _ => false := by
  have htrim {u : Text} (hsub : u ⊆ t) : u.dropWhile (fun c => c = '(' || c = ')') = u := by
    cases u with
    | nil => rfl
    | cons c u =>
      have hc : c ∈ t := hsub List.mem_cons_self
      simp [ne_of_mem_of_not_mem hc hopen, ne_of_mem_of_not_mem hc hclose]
  rewrite [isVariable, htrim (List.Subset.refl t), Text.dropEndWhile, htrim (by simp),
    List.reverse_reverse]
  rfl

theorem isVariable_cons {rest : Text} (hopen : '(' ∉ rest) (hclose : ')' ∉ rest) :
    isVariable ('n' :: rest) = rest.isEmpty := by
  rw [isVariable_of_notMem (by simp [hopen]) (by simp [hclose])]
  cases rest <;> rfl

theorem notMem_of_isVariable (hopen : '(' ∉ t) (hclose : ')' ∉ t) (h : isVariable t = true)
    (hdigit : c.isDigit = false) (halpha : c.isAlpha = false) : c ∉ t := by
  rw [isVariable_of_notMem hopen hclose] at h
  split at h
  next letter hletter =>
    rw [← List.takeWhile_append_dropWhile (p := Char.isDigit) (l := t), hletter, List.mem_append,
      List.mem_singleton]
    rintro (hc | rfl)
    · simp [List.mem_takeWhile_imp hc] at hdigit
    · simp [h] at halpha
  next => cases h

theorem Factor.isVariable_body (hlog : f ≠ .log) (hsqrt : f ≠ .sqrt) :
    isVariable f.body = true ↔ f.lead? = none := by
  cases f with
  | size => decide
  | log => exact absurd rfl hlog
  | sqrt => exact absurd rfl hsqrt
  | power e =>
    have hrest {c : Char} (hc : c ∉ "n^.0123456789".toList) : c ∉ '^' :: e.text := fun hmem =>
      hc (mem_power (List.mem_cons_of_mem _ hmem))
    have hvariable : isVariable (power e).body = false :=
      isVariable_cons (hrest (by decide)) (hrest (by decide))
    simp [hvariable, lead?]

theorem not_isVariable_productBody {g : Factor} {fs : List Factor} :
    isVariable (productBody (f :: g :: fs)) = false := by
  rw [← Bool.not_eq_true]
  intro hvariable
  have hseparator := notMem_of_isVariable (notMem_productBody (by decide) (by decide))
    (notMem_productBody (by decide) (by decide)) hvariable (c := '*') (by decide) (by decide)
  simp [productBody_cons (List.cons_ne_nil g fs)] at hseparator

theorem ofVariables?_productBody (hne : fs ≠ []) (hlog : .log ∉ fs) (hsqrt : .sqrt ∉ fs) :
    ofVariables? (productBody fs) =
      if lead? fs = none then some (polynomial fs.length) else none := by
  have hsum : Text.pieces '+' (productBody fs) = [productBody fs] :=
    Text.pieces_of_notMem (notMem_productBody (by decide) (by decide))
  have hvariables : (fs.map Factor.body).all isVariable = decide (lead? fs = none) := by
    rw [Bool.eq_iff_iff, List.all_eq_true, List.forall_mem_map, decide_eq_true_eq, lead?,
      List.findSome?_eq_none_iff]
    exact forall₂_congr fun f hf => Factor.isVariable_body
      (ne_of_mem_of_not_mem hf hlog) (ne_of_mem_of_not_mem hf hsqrt)
  simp only [ofVariables?, hsum, pieces_productBody hne, hvariables, List.length_map,
    decide_eq_true_eq]
  match fs, hne with
  | [f], _ =>
    have hsingle : [productBody [f]].all isVariable = decide (lead? [f] = none) := by
      simpa [productBody] using hvariables
    simp [hsingle, polynomial]
  | f :: g :: fs, _ =>
    simp [not_isVariable_productBody]

theorem ofShape?_productBody (hne : fs ≠ []) : ofShape? (productBody fs) = ofProduct? fs := by
  rw [ofShape?, ofFactorial?_productBody, ofPower?_productBody, ofLogarithm?_productBody,
    ofProduct?]
  by_cases hthree : lead? fs = some 3
  · simp [hthree]
  by_cases htwo : lead? fs = some 2
  · by_cases hlog : .log ∈ fs <;> simp [htwo, hlog]
  by_cases hlog : .log ∈ fs
  · by_cases hhead : fs.head? = some .log <;> simp [hthree, htwo, hlog, hhead]
  by_cases hsqrt : .sqrt ∈ fs
  · simp [hthree, htwo, hlog, hsqrt]
  · simp [hthree, htwo, hlog, hsqrt, ofVariables?_productBody hne hlog hsqrt]

/-! ## Known spellings -/

theorem exists_spelling {body : Text} {c : Complexity} (h : ofSpelling? body = some c) :
    ∃ s ∈ spellings, s.1 = c ∧ ∃ spelling ∈ s.2, spelling.toList = body := by
  obtain ⟨s, hfound, rfl⟩ := Option.map_eq_some_iff.mp h
  have hany := List.find?_some hfound
  obtain ⟨spelling, hspelling, hbody⟩ := List.any_eq_true.mp hany
  exact ⟨s, List.mem_of_find?_eq_some hfound, rfl, spelling, hspelling, of_decide_eq_true hbody⟩

def isFactorBody (part : Text) : Bool :=
  [Factor.size, .log, .sqrt].any (·.body = part) ||
    (part.startsWith "n^" && ((part.drop 2).takeWhile Char.isDigit).any (· ≠ '0'))

theorem Factor.isFactorBody_body (h : ∀ e, f = .power e → e.IsWhole) :
    isFactorBody f.body = true := by
  cases f with
  | size => decide
  | log => decide
  | sqrt => decide
  | power e =>
    obtain ⟨d, hd, hzero⟩ := h e rfl
    have hdigit (d : Fin 10) : (Numeral.digit d).isDigit ∧ (Numeral.digit d = '0' → d = 0) := by
      revert d
      decide
    have hwhole : ∀ c ∈ (e.first :: e.rest).map Numeral.digit, c.isDigit := by
      intro c hc
      obtain ⟨d, -, rfl⟩ := List.mem_map.mp hc
      exact (hdigit d).1
    have hdrop : (Factor.power e).body.drop 2 = (e.first :: e.rest).map Numeral.digit ++
      if e.fraction = [] then [] else '.' :: e.fraction.map Numeral.digit := rfl
    have hstart : (Factor.power e).body.startsWith "n^" = true := by
      simp [body_power]
    rw [isFactorBody, hstart, hdrop, List.takeWhile_append_of_pos hwhole, List.any_append,
      List.any_eq_true.mpr ⟨_, List.mem_map_of_mem hd, by simpa using mt (hdigit d).2 hzero⟩]
    simp

theorem ofShape?_spelling : ∀ s ∈ spellings, ∀ spelling ∈ s.2,
    (Text.pieces '*' spelling).all isFactorBody = true → ofShape? spelling = some s.1 := by
  decide

theorem ofShape?_of_ofSpelling? {c : Complexity} (hne : fs ≠ [])
    (hwhole : ∀ e, .power e ∈ fs → e.IsWhole) (h : ofSpelling? (productBody fs) = some c) :
    ofShape? (productBody fs) = some c := by
  obtain ⟨s, hs, rfl, spelling, hspelling, hbody⟩ := exists_spelling h
  -- The spelling that was found is a product itself, so its shape is among those that were checked.
  rw [← hbody]
  apply ofShape?_spelling s hs spelling hspelling
  rw [hbody, pieces_productBody hne, List.all_eq_true, List.forall_mem_map]
  intro f hf
  exact Factor.isFactorBody_body fun e he => hwhole e (he ▸ hf)

theorem read?_of_writes (hne : fs ≠ []) (hwhole : ∀ e, .power e ∈ fs → e.IsWhole)
    (h : Writes t fs) : read? t = ofProduct? fs := by
  have hbody := body_of_writes hne h
  have hempty : ¬ (productBody fs).isEmpty = true := by
    rw [List.isEmpty_iff]
    exact productBody_ne_nil hne
  rw [read?, hbody, if_neg hempty]
  cases hspelling : ofSpelling? (productBody fs) with
  | none => exact ofShape?_productBody hne
  | some c =>
    rw [← ofShape?_productBody hne, ofShape?_of_ofSpelling? hne hwhole hspelling]
    rfl

end Asymptote.Complexity
