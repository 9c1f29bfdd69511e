import Asymptote.Complexity
import Asymptote.Proofs.Text.Case

/-! # Layout of claims
White space, the case of ASCII letters and the wrapper are the layout of a claim. A claim is read
alike in every layout, so each class is read back from its notation. -/
namespace Asymptote.Complexity

variable {s t body claim name : Text} {c : Char}

/-! ## Changes of layout -/

inductive LayoutStep : Text → Text → Prop
  | insert {c : Char} (front back : Text) (hc : Text.isBlank c = true) :
      LayoutStep (front ++ back) (front ++ c :: back)
  | remove {c : Char} (front back : Text) (hc : Text.isBlank c = true) :
      LayoutStep (front ++ c :: back) (front ++ back)
  | recase {c d : Char} (front back : Text) (hcd : c.toLower = d.toLower) :
      LayoutStep (front ++ c :: back) (front ++ d :: back)

def Relaid : Text → Text → Prop :=
  Relation.ReflTransGen LayoutStep

def essence (t : Text) : Text :=
  (t.filter fun c => !Text.isBlank c).map Char.toLower

theorem LayoutStep.essence_eq (h : LayoutStep s t) : essence s = essence t := by
  cases h with
  | insert front back hc => simp [essence, hc]
  | remove front back hc => simp [essence, hc]
  | recase front back hcd =>
    simp only [essence, List.filter_append, List.filter_cons, Text.isBlank_congr hcd]
    split_ifs
    · simp [hcd]
    · rfl

theorem LayoutStep.cons (c : Char) (h : LayoutStep s t) : LayoutStep (c :: s) (c :: t) := by
  cases h with
  | insert front back hc => exact .insert (c :: front) back hc
  | remove front back hc => exact .remove (c :: front) back hc
  | recase front back hcd => exact .recase (c :: front) back hcd

instance : Std.Symm LayoutStep where
  symm _ _ h := by
    cases h with
    | insert front back hc => exact .remove front back hc
    | remove front back hc => exact .insert front back hc
    | recase front back hcd => exact .recase front back hcd.symm

theorem Relaid.essence_eq (h : Relaid s t) : essence s = essence t := by
  induction h with
  | refl => rfl
  | tail _ hstep ih => exact ih.trans hstep.essence_eq

theorem relaid_essence (t : Text) : Relaid t (essence t) := by
  induction t with
  | nil => exact .refl
  | cons c t ih =>
    by_cases hc : Text.isBlank c = true
    · have hskip : essence (c :: t) = essence t := by simp [essence, hc]
      rw [hskip]
      exact .head (.remove [] t hc) ih
    · have hkeep : essence (c :: t) = c.toLower :: essence t := by simp [essence, hc]
      rw [hkeep]
      refine .head (.recase [] t (Char.toLower_toLower_eq_toLower c).symm) ?_
      exact Relation.ReflTransGen.lift (c.toLower :: ·) (fun _ _ => .cons c.toLower) _ _ ih

theorem relaid_iff : Relaid s t ↔ essence s = essence t := by
  constructor
  · exact Relaid.essence_eq
  · intro h
    have hback : Relaid (essence t) t := Relation.ReflTransGen.stdSymm.symm _ _ (relaid_essence t)
    exact (relaid_essence s).trans (h ▸ hback)

instance (s t : Text) : Decidable (Relaid s t) :=
  decidable_of_iff _ relaid_iff.symm

theorem compact_relaid (h : Relaid s t) : compact s = compact t :=
  (Text.sameButCase_iff.mpr h.essence_eq).lowercase_eq

theorem read?_relaid (h : Relaid s t) : read? s = read? t := by
  rw [read?, read?, Complexity.body, Complexity.body, compact_relaid h]

/-! ## Wrappers -/

def wrapperNames : List Text :=
  ["O", "Θ", "Ω", "big-O", "BigO"].map String.toList

def wrap (name body : Text) : Text :=
  name ++ '(' :: (body ++ [')'])

theorem compact_append (hc : Text.Separates c) (hblank : Text.isBlank c = false)
    (front back : Text) :
    compact (front ++ c :: back) = compact front ++ (Text.lowerChar c ++ compact back) := by
  rw [compact, List.filter_append, List.filter_cons, if_pos (by simp [hblank]),
    hc.lowercase_append]
  rfl

theorem compact_wrap (name body : Text) :
    compact (wrap name body) = compact name ++ '(' :: (compact body ++ [')']) := by
  have hopen : Text.Separates '(' ∧ Text.lowerChar '(' = ['('] := by decide
  have hclose : Text.Separates ')' ∧ Text.lowerChar ')' = [')'] := by decide
  rw [wrap, compact_append hopen.1 (by decide), compact_append hclose.1 (by decide), hopen.2,
    hclose.2]
  rfl

theorem unwrap_wrapped (hname : name ∈ wrapperNames) (body : Text) :
    unwrap (compact name ++ '(' :: (body ++ [')'])) = body := by
  have hcompact : compact name ++ ['('] ∈ wrappers :=
    (by decide : ∀ name ∈ wrapperNames, compact name ++ ['('] ∈ wrappers) name hname
  rw [List.append_cons]
  generalize compact name ++ ['('] = wrapper at hcompact
  simp only [wrappers, List.map, String.reduceToList, List.mem_cons, List.not_mem_nil,
    or_false] at hcompact
  rcases hcompact with rfl | rfl | rfl | rfl | rfl <;>
    simp [unwrap, wrappers, Text.after?, Text.withoutEnd, Text.before?, Text.endsWith]

theorem unwrap_of_not_isPrefix (h : ∀ wrapper ∈ wrappers, ¬ wrapper <+: t) : unwrap t = t := by
  have hnone : (wrappers.findSome? fun wrapper => Text.after? wrapper t) = none := by
    rw [List.findSome?_eq_none_iff]
    intro wrapper hwrapper
    rw [Text.after?, Text.startsWith, if_neg (mt List.isPrefixOf_iff_prefix.mp (h _ hwrapper))]
  rw [unwrap, hnone]

theorem body_wrap (hname : name ∈ wrapperNames)
    (h : ∀ wrapper ∈ wrappers, ¬ wrapper <+: compact claim) :
    Complexity.body (wrap name claim) = Complexity.body claim := by
  rw [Complexity.body, Complexity.body, compact_wrap, unwrap_wrapped hname,
    unwrap_of_not_isPrefix h]

theorem read?_wrap (hname : name ∈ wrapperNames)
    (h : ∀ wrapper ∈ wrappers, ¬ wrapper <+: compact claim) :
    read? (wrap name claim) = read? claim := by
  rw [read?, read?, body_wrap hname h]

/-! ## Canonical notation -/

def bare (c : Complexity) : Text :=
  (c.canonical.toList.drop 2).dropLast

theorem canonical_eq_wrap (c : Complexity) : c.canonical.toList = wrap "O" (bare c) := by
  cases c <;> decide

theorem not_isPrefix_bare (c : Complexity) :
    ∀ wrapper ∈ wrappers, ¬ wrapper <+: compact (bare c) := by
  cases c <;> decide

theorem read?_bare (c : Complexity) : read? (bare c) = some c := by
  have hname : "O".toList ∈ wrapperNames := by decide
  rw [← read?_wrap hname (not_isPrefix_bare c), ← canonical_eq_wrap, read?_canonical]

/-- Changes of layout do not change whether a claim can be read and as what, and neither does a
wrapper around a claim that has none. The notation of a class stands for that class in every layout,
wrapped or bare. -/
theorem read?_layout :
    (∀ s t, Relaid s t → read? s = read? t) ∧
    (∀ body, (∀ wrapper ∈ wrappers, ¬ wrapper <+: compact body) →
      ∀ name ∈ wrapperNames, read? (wrap name body) = read? body) ∧
    ∀ c : Complexity, c.canonical.toList = wrap "O" (bare c) ∧
      ∀ form ∈ bare c :: wrapperNames.map fun name => wrap name (bare c), ∀ claim,
        Relaid form claim → read? claim = some c := by
  refine ⟨fun s t => read?_relaid, fun body h name hname => read?_wrap hname h, fun c =>
    ⟨canonical_eq_wrap c, ?_⟩⟩
  intro form hform claim hclaim
  rw [← read?_relaid hclaim]
  rcases List.mem_cons.mp hform with rfl | hwrapped
  · exact read?_bare c
  · obtain ⟨name, hname, rfl⟩ := List.mem_map.mp hwrapped
    rw [read?_wrap hname (not_isPrefix_bare c), read?_bare]

theorem read?_layout_squareLog :
    (Relaid "O(m**2 + n)" " o( M* *2+N)" ∧ read? "O(m**2 + n)" = read? " o( M* *2+N)") ∧
      ((∀ wrapper ∈ wrappers, ¬ wrapper <+: compact "(n+1)Log n") ∧
        read? (wrap "big-O" "(n+1)Log n") = read? "(n+1)Log n") ∧
      Relaid (wrap "Θ" (bare quadraticLog)) "Θ( N²LOG N )" ∧
      read? "Θ( N²LOG N )" = some quadraticLog := by
  obtain ⟨hrelaid, hwrap, hclass⟩ := read?_layout
  have hsum : Relaid "O(m**2 + n)" " o( M* *2+N)" := by decide
  have hbody : ∀ wrapper ∈ wrappers, ¬ wrapper <+: compact "(n+1)Log n" := by decide
  have hform : Relaid (wrap "Θ" (bare quadraticLog)) "Θ( N²LOG N )" := by decide
  exact ⟨⟨hsum, hrelaid _ _ hsum⟩, ⟨hbody, hwrap _ hbody _ (by decide)⟩, hform,
    (hclass quadraticLog).2 _ (by decide) _ hform⟩

end Asymptote.Complexity
