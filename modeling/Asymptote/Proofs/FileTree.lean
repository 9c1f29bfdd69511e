import Asymptote.FileTree
import Asymptote.Language
import Asymptote.Proofs.Text.Parts
import Mathlib.Data.List.Nodup
import Mathlib.Tactic.MkIffOfInductiveProp

/-! # Paths and trees
Names put together lead to where they led one by one. -/
namespace Asymptote

/-! ## Components of paths
A path that is put together from names has them as its last components, so paths below one directory
are in the order of the names that lead to them. -/

namespace Path

/-- The parts of a path. Empty parts and single dots lead nowhere. -/
def components (path : Text) : List Text :=
  (Text.pieces '/' path).filter fun part => !(part.isEmpty || part = ['.'])

@[mk_iff]
structure IsName (name : Text) : Prop where
  ne_nil : name ≠ []
  noSeparator : '/' ∉ name
  ne_dot : name ≠ ['.']
  ne_dots : name ≠ ['.', '.']

instance : DecidablePred IsName := fun name => decidable_of_iff' _ (isName_iff name)

variable {name : Text} {names : List Text}

theorem components_append_cons (base path : Text) :
    components (base ++ '/' :: path) = components base ++ components path := by
  rw [components, Text.pieces_append, List.filter_append, components, components]

theorem IsName.components_eq (h : IsName name) : components name = [name] := by
  simp [components, Text.pieces_of_notMem h.noSeparator, h.ne_nil, h.ne_dot]

theorem IsName.components_join (h : IsName name) (base : Text) :
    components (join base name) = components base ++ [name] := by
  have hrelative : ¬ isAbsolute name := by
    intro habsolute
    rw [isAbsolute, decide_eq_true_eq] at habsolute
    exact h.noSeparator (List.mem_of_mem_head? habsolute)
  rw [join, if_neg hrelative]
  split_ifs with hends
  · rcases (Bool.or_eq_true _ _).mp hends with hempty | hslash
    · rw [List.isEmpty_iff.mp hempty, List.nil_append, h.components_eq]
      rfl
    · obtain ⟨front, rfl⟩ := List.getLast?_eq_some_iff.mp (of_decide_eq_true hslash)
      rw [List.append_assoc, List.singleton_append, components_append_cons,
        components_append_cons, h.components_eq]
      simp [components, Text.pieces]
  · rw [components_append_cons, h.components_eq]

theorem components_foldl_join (base : Text) (h : ∀ name ∈ names, IsName name) :
    components (names.foldl join base) = components base ++ names := by
  induction names generalizing base with
  | nil => simp
  | cons name names ih =>
    obtain ⟨hname, hnames⟩ := List.forall_mem_cons.mp h
    rw [List.foldl_cons, ih (join base name) hnames, hname.components_join, List.append_assoc,
      List.singleton_append]

theorem IsName.fileName?_eq (h : IsName name) : Language.fileName? name = some name := by
  simp [Language.fileName?, Text.pieces_of_notMem h.noSeparator, h.ne_nil, h.ne_dot, h.ne_dots]

end Path

/-! ## Well-formed file trees
The entries of a directory have distinct names, so a name leads to one of them. Two trees that
differ in the order of entries only are the same tree, listed in another order. -/

namespace FileTree

variable {name : Text} {below : FileTree} {entries : List (Text × FileTree)}

inductive WellFormed : FileTree → Prop
  | file (text? : Option Text) : WellFormed (file text?)
  | link (target : Text) : WellFormed (link target)
  | directory {entries : List (Text × FileTree)} (distinct : (entries.map (·.1)).Nodup)
      (named : ∀ e ∈ entries, Path.IsName e.1) (below : ∀ e ∈ entries, WellFormed e.2) :
      WellFormed (directory entries)

/-- The entries of a directory are listed in another order, and those of directories below it. -/
inductive Reordered : FileTree → FileTree → Prop
  | refl (t : FileTree) : Reordered t t
  | entries {before after : List (Text × FileTree)} (h : before.Perm after) :
      Reordered (directory before) (directory after)
  | inside {name : Text} {t u : FileTree} (front back : List (Text × FileTree))
      (h : Reordered t u) :
      Reordered (directory (front ++ (name, t) :: back)) (directory (front ++ (name, u) :: back))
  | trans {t u v : FileTree} (htu : Reordered t u) (huv : Reordered u v) : Reordered t v

theorem entry?_eq_some_iff (h : (entries.map (·.1)).Nodup) :
    entry? (directory entries) name = some below ↔ (name, below) ∈ entries := by
  unfold entry?
  rw [Option.map_eq_some_iff]
  constructor
  · rintro ⟨⟨key, t⟩, hfound, rfl⟩
    have hkey : key = name := by simpa using List.find?_some hfound
    exact hkey ▸ List.mem_of_find?_eq_some hfound
  · intro hmem
    cases hfound : entries.find? (·.1 = name) with
    | none => simpa using List.find?_eq_none.mp hfound _ hmem
    | some e =>
      have hname : e.1 = name := by simpa using List.find?_some hfound
      have hsame := List.inj_on_of_nodup_map h (List.mem_of_find?_eq_some hfound) hmem hname
      exact ⟨e, rfl, congrArg Prod.snd hsame⟩

theorem at?_cons_eq_some_iff (h : (entries.map (·.1)).Nodup) {names : List Text} {t : FileTree} :
    (directory entries).at? (name :: names) = some t ↔
      ∃ below, (name, below) ∈ entries ∧ below.at? names = some t := by
  simp only [at?, Option.bind_eq_some_iff, entry?_eq_some_iff h]

theorem WellFormed.of_at?_eq_some {names : List Text} {t u : FileTree} (h : t.WellFormed)
    (hat : t.at? names = some u) : u.WellFormed ∧ ∀ name ∈ names, Path.IsName name := by
  induction names generalizing t with
  | nil => exact ⟨Option.some.inj hat ▸ h, List.forall_mem_nil _⟩
  | cons name names ih =>
    cases h with
    | file text? => cases hat
    | link target => cases hat
    | directory hdistinct hnamed hbelow =>
      obtain ⟨below, hmem, hat⟩ := (at?_cons_eq_some_iff hdistinct).mp hat
      obtain ⟨hwell, hnames⟩ := ih (hbelow _ hmem) hat
      exact ⟨hwell, List.forall_mem_cons.mpr ⟨hnamed _ hmem, hnames⟩⟩

theorem WellFormed.subtree {root : FileTree} (h : root.WellFormed) (path : Text) :
    (root.subtree path).WellFormed := by
  have hempty : (FileTree.directory []).WellFormed :=
    .directory List.nodup_nil (List.forall_mem_nil _) (List.forall_mem_nil _)
  rw [FileTree.subtree]
  cases root.resolve path with
  | error fault => exact hempty
  | ok place =>
    cases hat : root.at? place with
    | none => simpa only [hat, Option.getD_none] using hempty
    | some t => simpa only [hat, Option.getD_some] using (h.of_at?_eq_some hat).1

end FileTree

end Asymptote
