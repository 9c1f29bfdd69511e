import Asymptote.Project
import Asymptote.Proofs.FileTree
import Asymptote.Proofs.Order
import Asymptote.Report
import Mathlib.Data.Char
import Mathlib.Data.List.Lex
import Mathlib.Data.Prod.Lex
import Mathlib.Data.String.Basic

/-! # The files of a project
Which files are collected and in which order reports on them come. Neither depends on the order in
which directories are listed or files are analyzed. -/
namespace Asymptote

/-! ## Collected sources
The sources of a directory are exactly the files with a name of a known language to which names
lead through directories that are entered. They come in ascending order, each once, and the order in
which directories list their entries does not matter. -/

namespace FileTree

variable {name : Text} {names : List Text} {t u : FileTree} {entries : List (Text × FileTree)}

def skippedNames : List Text :=
  ["node_modules", "dist", "build", "target", "__pycache__"].map String.toList

structure NamesSource (name : Text) : Prop where
  notDeclaration : ¬ ".d.ts".toList <:+ name
  known : ∃ extension ∈ Language.extension? name, (Language.ofExtension? extension).isSome

/-- The names lead to a source file. Links are no directories, so they lead nowhere. -/
structure IsSource (t : FileTree) (names : List Text) : Prop where
  ne_nil : names ≠ []
  isFile : ∃ text?, t.at? names = some (file text?)
  entered : ∀ name ∈ names.dropLast, name.head? ≠ some '.' ∧ name ∉ skippedNames
  namesSource : ∀ name ∈ names.getLast?, NamesSource name

theorem isSourceName_iff (h : Path.IsName name) : isSourceName name = true ↔ NamesSource name := by
  have hknown : (Language.ofPath? name).isSome = true ↔
      ∃ extension ∈ Language.extension? name, (Language.ofExtension? extension).isSome := by
    simp only [Language.ofPath?, h.fileName?_eq, Option.bind_eq_bind, Option.bind_some]
    cases Language.extension? name <;> simp
  rw [isSourceName, Bool.and_eq_true, Bool.not_eq_true', Bool.eq_false_iff, ne_eq, Text.endsWith,
    List.isSuffixOf_iff_suffix, hknown]
  exact ⟨fun ⟨hnot, hext⟩ => ⟨hnot, hext⟩, fun ⟨hnot, hext⟩ => ⟨hnot, hext⟩⟩

theorem isSkippedName_eq_false_iff :
    isSkippedName name = false ↔ name.head? ≠ some '.' ∧ name ∉ skippedNames := by
  simp only [isSkippedName, skippedNames, Bool.or_eq_false_iff, decide_eq_false_iff_not,
    List.any_eq_false, decide_eq_true_eq, List.mem_map, not_exists, not_and, ne_eq]

theorem sourcesAmong_eq : sourcesAmong entries = entries.flatMap fun e => sourcesAt e.1 e.2 := by
  induction entries with
  | nil => rw [sourcesAmong, List.flatMap_nil]
  | cons e entries ih => rw [sourcesAmong, ih, List.flatMap_cons]

theorem mem_sourcesAmong_iff :
    names ∈ sourcesAmong entries ↔ ∃ e ∈ entries, names ∈ sourcesAt e.1 e.2 := by
  rw [sourcesAmong_eq, List.mem_flatMap]

theorem head?_of_mem_sourcesAt (h : names ∈ sourcesAt name t) : names.head? = some name := by
  cases t with
  | file text? =>
    rw [sourcesAt] at h
    split_ifs at h
    · rw [List.mem_singleton.mp h, List.head?_cons]
    · cases h
  | link target =>
    rw [sourcesAt] at h
    cases h
  | directory entries =>
    rw [sourcesAt] at h
    split_ifs at h
    · cases h
    · obtain ⟨rest, -, rfl⟩ := List.mem_map.mp h
      rfl

theorem cons_mem_sourcesAmong_iff :
    name :: names ∈ sourcesAmong entries ↔
      ∃ below, (name, below) ∈ entries ∧ name :: names ∈ sourcesAt name below := by
  rw [mem_sourcesAmong_iff]
  constructor
  · rintro ⟨⟨key, below⟩, hmem, hnames⟩
    have hkey : name = key := Option.some.inj (head?_of_mem_sourcesAt hnames)
    exact ⟨below, hkey ▸ hmem, hkey ▸ hnames⟩
  · rintro ⟨below, hmem, hnames⟩
    exact ⟨_, hmem, hnames⟩

theorem at?_file_eq_some_iff {text? : Option Text} :
    (file text?).at? names = some t ↔ names = [] ∧ t = file text? := by
  cases names <;> simp [at?, entry?, eq_comm]

theorem at?_link_eq_some_iff {target : Text} :
    (link target).at? names = some t ↔ names = [] ∧ t = link target := by
  cases names <;> simp [at?, entry?, eq_comm]

theorem isSource_cons_iff (h : (entries.map (·.1)).Nodup) :
    IsSource (directory entries) (name :: names) ↔ ∃ below, (name, below) ∈ entries ∧
      match below with
      | file _ => names = [] ∧ NamesSource name
      | link _ => False
      | directory _ =>
        (name.head? ≠ some '.' ∧ name ∉ skippedNames) ∧ IsSource below names := by
  constructor
  · rintro ⟨-, ⟨text?, hfile⟩, hentered, hname⟩
    obtain ⟨below, hmem, hbelow⟩ := (at?_cons_eq_some_iff h).mp hfile
    refine ⟨below, hmem, ?_⟩
    cases below with
    | file text? =>
      obtain ⟨rfl, -⟩ := at?_file_eq_some_iff.mp hbelow
      exact ⟨rfl, hname name rfl⟩
    | link target =>
      obtain ⟨-, hlink⟩ := at?_link_eq_some_iff.mp hbelow
      cases hlink
    | directory inner =>
      cases names with
      | nil => cases hbelow
      | cons next names =>
        obtain ⟨hfirst, hothers⟩ := List.forall_mem_cons.mp hentered
        exact ⟨hfirst, by simp, ⟨text?, hbelow⟩, hothers, hname⟩
  · rintro ⟨below, hmem, hbelow⟩
    cases below with
    | file text? =>
      obtain ⟨rfl, hname⟩ := hbelow
      exact ⟨by simp, ⟨text?, (at?_cons_eq_some_iff h).mpr ⟨_, hmem, rfl⟩⟩, by simp, by simpa⟩
    | link target => exact hbelow.elim
    | directory inner =>
      obtain ⟨hfirst, hne, ⟨text?, hfile⟩, hothers, hname⟩ := hbelow
      refine ⟨by simp, ⟨text?, (at?_cons_eq_some_iff h).mpr ⟨_, hmem, hfile⟩⟩, ?_, ?_⟩
      · rw [List.dropLast_cons_of_ne_nil hne]
        exact List.forall_mem_cons.mpr ⟨hfirst, hothers⟩
      · rwa [List.getLast?_cons_of_ne_nil hne]

theorem mem_sourcesAmong_iff_isSource (h : WellFormed (directory entries)) :
    names ∈ sourcesAmong entries ↔ IsSource (directory entries) names := by
  -- On the names: each of them leads into one entry, so the rest is about what stands below it.
  induction names generalizing entries with
  | nil =>
    refine iff_of_false ?_ fun hsource => hsource.ne_nil rfl
    rw [mem_sourcesAmong_iff]
    rintro ⟨e, -, hnil⟩
    cases head?_of_mem_sourcesAt hnil
  | cons name names ih =>
    cases h with
    | directory hdistinct hnamed hbelow =>
      rw [cons_mem_sourcesAmong_iff, isSource_cons_iff hdistinct]
      refine exists_congr fun below => and_congr_right fun hmem => ?_
      have hname : Path.IsName name := hnamed _ hmem
      have hwell : WellFormed below := hbelow _ hmem
      cases below with
      | file text? =>
        rw [sourcesAt, ← isSourceName_iff hname]
        split_ifs with hsource <;> simp [hsource]
      | link target => simp [sourcesAt]
      | directory inner =>
        rw [sourcesAt, ← isSkippedName_eq_false_iff, ← ih hwell]
        split_ifs with hskipped <;> simp [hskipped]

theorem mem_sources_iff (h : t.WellFormed) : names ∈ t.sources ↔ t.IsSource names := by
  cases t with
  | file text? =>
    refine iff_of_false (by simp [sources]) ?_
    rintro ⟨hne, ⟨_, hfile⟩, -, -⟩
    exact hne (at?_file_eq_some_iff.mp hfile).1
  | link target =>
    refine iff_of_false (by simp [sources]) ?_
    rintro ⟨hne, ⟨_, hfile⟩, -, -⟩
    exact hne (at?_link_eq_some_iff.mp hfile).1
  | directory entries => rw [sources, List.mem_mergeSort, mem_sourcesAmong_iff_isSource h]

/-! ### Each source once, in order -/

theorem nodup_sourcesAmong (hdistinct : (entries.map (·.1)).Nodup)
    (h : ∀ e ∈ entries, (sourcesAt e.1 e.2).Nodup) : (sourcesAmong entries).Nodup := by
  rw [sourcesAmong_eq, List.nodup_flatMap]
  refine ⟨h, (List.pairwise_map.mp hdistinct).imp fun hne names ha hb => hne ?_⟩
  exact Option.some.inj ((head?_of_mem_sourcesAt ha).symm.trans (head?_of_mem_sourcesAt hb))

theorem WellFormed.nodup_sourcesAt (h : WellFormed t) (name : Text) : (sourcesAt name t).Nodup := by
  induction h generalizing name with
  | file text? =>
    rw [sourcesAt]
    split_ifs <;> simp
  | link target => simp [sourcesAt]
  | directory hdistinct _ _ ih =>
    rw [sourcesAt]
    split_ifs
    · exact List.nodup_nil
    · exact (nodup_sourcesAmong hdistinct fun e he => ih e he e.1).map
        (List.cons_injective)

theorem precedes_iff (a b : List Text) : (!decide (b < a)) = true ↔ ¬ b < a := by
  rw [Bool.not_eq_true', decide_eq_false_iff_not]

theorem pairwise_sources (h : t.WellFormed) : t.sources.Pairwise (· < ·) := by
  cases h with
  | file text? => exact List.Pairwise.nil
  | link target => exact List.Pairwise.nil
  | @directory entries hdistinct _ hbelow =>
    have hnodup : (sourcesAmong entries).Nodup :=
      nodup_sourcesAmong hdistinct fun e he => (hbelow e he).nodup_sourcesAt e.1
    have hsorted : ((sourcesAmong entries).mergeSort fun a b => !decide (b < a)).Pairwise
        fun a b => ¬ b < a := pairwise_mergeSort_key id precedes_iff _
    refine hsorted.imp₂ (fun a b hle hne => lt_of_le_of_ne (not_lt.mp hle) hne) ?_
    exact (List.mergeSort_perm _ _).nodup_iff.mpr hnodup

/-! ### The order of entries -/

theorem perm_sourcesAmong {before after : List (Text × FileTree)} (h : before.Perm after) :
    (sourcesAmong before).Perm (sourcesAmong after) := by
  rw [sourcesAmong_eq, sourcesAmong_eq]
  exact h.flatMap_right _

theorem perm_sourcesAmong_inside (h : (sourcesAt name t).Perm (sourcesAt name u))
    (front back : List (Text × FileTree)) :
    (sourcesAmong (front ++ (name, t) :: back)).Perm
      (sourcesAmong (front ++ (name, u) :: back)) := by
  simp only [sourcesAmong_eq, List.flatMap_append, List.flatMap_cons]
  exact (h.append_right _).append_left _

theorem Reordered.perm_sourcesAt (h : Reordered t u) (name : Text) :
    (sourcesAt name t).Perm (sourcesAt name u) := by
  induction h generalizing name with
  | refl t => exact List.Perm.refl _
  | entries hperm =>
    rw [sourcesAt, sourcesAt]
    split_ifs
    · exact List.Perm.refl _
    · exact (perm_sourcesAmong hperm).map _
  | @inside key _ _ front back _ ih =>
    rw [sourcesAt, sourcesAt]
    split_ifs
    · exact List.Perm.refl _
    · exact (perm_sourcesAmong_inside (ih key) front back).map _
  | trans _ _ ihtu ihuv => exact (ihtu name).trans (ihuv name)

theorem sources_directory_eq {before after : List (Text × FileTree)}
    (h : (sourcesAmong before).Perm (sourcesAmong after)) :
    (directory before).sources = (directory after).sources :=
  mergeSort_eq_of_perm id precedes_iff h fun _ _ _ _ hsame => hsame

theorem Reordered.sources_eq (h : Reordered t u) : t.sources = u.sources := by
  induction h with
  | refl t => rfl
  | entries hperm => exact sources_directory_eq (perm_sourcesAmong hperm)
  | inside front back h _ =>
    exact sources_directory_eq (perm_sourcesAmong_inside (h.perm_sourcesAt _) front back)
  | trans _ _ ihtu ihuv => exact ihtu.trans ihuv

theorem IsSource.isName (h : IsSource t names) (hwell : t.WellFormed) :
    ∀ name ∈ names, Path.IsName name := by
  obtain ⟨text?, hfile⟩ := h.isFile
  exact (hwell.of_at?_eq_some hfile).2

end FileTree

namespace SourceFile

open FileTree

def Admits (filter? : Option PathFilter) (shown : Text) : Prop :=
  ∀ f ∈ filter?, (∀ glob ∈ f.excluded, ¬ glob.accepts shown) ∧
    ∀ globs ∈ f.included?, ∃ glob ∈ globs, glob.accepts shown

variable {files : FileAccess Id} {path : Text} {filter? : Option PathFilter}

theorem admits_iff {shown : Text} :
    filter?.all (·.accepts shown) = true ↔ Admits filter? shown := by
  simp only [Admits, PathFilter.accepts, Option.all_eq_true, Option.mem_def, Bool.and_eq_true,
    Bool.not_eq_true', List.any_eq_false, List.any_eq_true]

theorem collect_directory (h : files.kind? path = some .directory) :
    collect files path filter? = .ok (ofTree path filter? (files.tree path)) := by
  simp only [collect, h]
  rfl

theorem components_ofNames {names : List Text} (h : ∀ name ∈ names, Path.IsName name) :
    Path.components (ofNames path names).path = Path.components path ++ names :=
  Path.components_foldl_join path h

theorem pairwise_ofTree {t : FileTree} (h : t.WellFormed) :
    ((ofTree path filter? t).map fun f => Path.components f.path).Pairwise (· < ·) := by
  have hordered : (t.sources.map (ofNames path)).Pairwise fun a b =>
      Path.components a.path < Path.components b.path := by
    rw [List.pairwise_map]
    refine (pairwise_sources h).imp_of_mem fun {a b} ha hb hlt => ?_
    have haName := ((mem_sources_iff h).mp ha).isName h
    have hbName := ((mem_sources_iff h).mp hb).isName h
    rw [components_ofNames haName, components_ofNames hbName]
    exact List.append_left_lt hlt
  exact List.pairwise_map.mpr (hordered.filter _)

theorem mem_ofTree_iff {t : FileTree} (h : t.WellFormed) {f : SourceFile} :
    f ∈ ofTree path filter? t ↔ ∃ names, t.IsSource names ∧
      Admits filter? (List.intercalate ['/'] names) ∧ f = ofNames path names := by
  rw [ofTree, List.mem_filter, List.mem_map, admits_iff]
  constructor
  · rintro ⟨⟨names, hnames, rfl⟩, hadmits⟩
    exact ⟨names, (mem_sources_iff h).mp hnames, hadmits, rfl⟩
  · rintro ⟨names, hsource, hadmits, rfl⟩
    exact ⟨⟨names, (mem_sources_iff h).mpr hsource, rfl⟩, hadmits⟩

/-- What is collected from a directory are its sources that the filter admits by the names below the
directory, each once and in ascending order of paths, whatever order directories are listed in. -/
theorem collect_exact (hkind : files.kind? path = some .directory)
    (hwell : (files.tree path).WellFormed) :
    ∃ found, collect files path filter? = .ok found ∧
      (found.map fun f => Path.components f.path).Pairwise (· < ·) ∧
      (∀ f, f ∈ found ↔ ∃ names, (files.tree path).IsSource names ∧
        Admits filter? (List.intercalate ['/'] names) ∧ f = ofNames path names) ∧
      ∀ relisted : FileAccess Id, relisted.kind? path = some .directory →
        Reordered (files.tree path) (relisted.tree path) →
        collect relisted path filter? = .ok found := by
  refine ⟨_, collect_directory hkind, pairwise_ofTree hwell, fun f => mem_ofTree_iff hwell, ?_⟩
  intro relisted hrelisted hreordered
  rw [collect_directory hrelisted, ofTree, ofTree, hreordered.sources_eq]

def projectEntries : List (Text × FileTree) :=
  let holding (name : String) : FileTree := directory [(name.toList, file (some []))]
  [(".git".toList, holding "hook.py"), ("a.go".toList, file (some [])),
    ("gen".toList, holding "skip.py"), ("lib".toList, holding "c.rs"),
    ("linked.py".toList, link "a.go".toList), ("node_modules".toList, holding "x.js"),
    ("notes.txt".toList, file (some [])), ("types.d.ts".toList, file (some []))]

def noGenerated : PathFilter where
  excluded := ["gen".toList.map .char ++ [.trailingPath]]

theorem wellFormed_projectEntries : (directory projectEntries).WellFormed := by
  have hholding : ∀ name : Text, Path.IsName name →
      (directory [(name, file (some []))]).WellFormed := fun name hname =>
    .directory (List.nodup_singleton _) (List.forall_mem_singleton.mpr hname)
      (List.forall_mem_singleton.mpr (.file _))
  refine .directory (by decide) (by decide) ?_
  simp only [projectEntries, List.forall_mem_cons]
  exact ⟨hholding _ (by decide), .file _, hholding _ (by decide), hholding _ (by decide), .link _,
    hholding _ (by decide), .file _, .file _, List.forall_mem_nil _⟩

theorem collect_exact_project :
    let files := (directory projectEntries).access ['/']
    let relisted := (directory projectEntries.reverse).access ['/']
    let found : List SourceFile :=
      [⟨"/a.go".toList, "a.go".toList⟩, ⟨"/lib/c.rs".toList, "lib/c.rs".toList⟩]
    files.kind? ['/'] = some .directory ∧ (files.tree ['/']).WellFormed ∧
      relisted.kind? ['/'] = some .directory ∧
      Reordered (files.tree ['/']) (relisted.tree ['/']) ∧
      collect files ['/'] (some noGenerated) = .ok found ∧
      collect relisted ['/'] (some noGenerated) = .ok found := by
  intro files relisted found
  have hkind : files.kind? ['/'] = some .directory := rfl
  have hwell : (files.tree ['/']).WellFormed := wellFormed_projectEntries.subtree ['/']
  have hrelisted : relisted.kind? ['/'] = some .directory := rfl
  have hreordered : Reordered (files.tree ['/']) (relisted.tree ['/']) :=
    .entries (List.reverse_perm projectEntries).symm
  have hsources : (directory projectEntries).sources = sourcesAmong projectEntries :=
    List.mergeSort_of_pairwise (by decide)
  have hfound : collect files ['/'] (some noGenerated) = .ok found := by
    have htree : files.tree ['/'] = directory projectEntries := rfl
    rw [collect_directory hkind, htree, ofTree, hsources]
    rfl
  obtain ⟨others, hothers, -, -, hsame⟩ := collect_exact hkind hwell
  obtain rfl : found = others := Except.ok.inj (hfound.symm.trans hothers)
  exact ⟨hkind, hwell, hrelisted, hreordered, hfound, hsame relisted hrelisted hreordered⟩

end SourceFile

/-! ## The order of reports
Reports come in the order of their files and, on one file, of their languages. The order in which
the files were analyzed leaves no trace, neither in the table nor in the document. -/

namespace FileReport

def key (r : FileReport) : String ×ₗ String := toLex (r.file, r.language)

theorem precedes_iff (a b : FileReport) : a.precedes b = true ↔ ¬ b.key < a.key := by
  rw [not_lt, key, key, Prod.Lex.toLex_le_toLex, ← not_lt, precedes]
  simp only [Bool.or_eq_true, Bool.and_eq_true, Bool.not_eq_true', decide_eq_true_eq,
    decide_eq_false_iff_not]

theorem sorted_eq_of_perm {reports others : List FileReport} (hperm : reports.Perm others)
    (hkeys : (reports.map key).Nodup) : sorted reports = sorted others :=
  mergeSort_eq_of_perm key precedes_iff hperm (List.inj_on_of_nodup_map hkeys)

/-- Sorting keeps the reports and puts them in the order of their keys. Reports with distinct keys
are written alike, whatever order they come in. -/
theorem sorted_indifferent_to_order :
    (∀ reports, (sorted reports).Perm reports ∧
      (sorted reports).Pairwise fun a b => a.key ≤ b.key) ∧
    ∀ reports others : List FileReport, reports.Perm others → (reports.map key).Nodup →
      sorted reports = sorted others ∧
        table (sorted reports) = table (sorted others) ∧
        document (sorted reports) = document (sorted others) := by
  refine ⟨fun reports => ?_, fun reports others hperm hkeys => ?_⟩
  · exact ⟨List.mergeSort_perm reports precedes,
      (pairwise_mergeSort_key key precedes_iff reports).imp not_lt.mp⟩
  · have hsame := sorted_eq_of_perm hperm hkeys
    exact ⟨hsame, congrArg table hsame, congrArg document hsame⟩

def linearReport (file language : String) : FileReport where
  file := file
  language := language
  result :=
    { time := .linear, timeReason := "one loop", space := .constant, spaceReason := "no storage"
      confidence := 0.75, source := "rule_engine" }

theorem sorted_indifferent_to_order_twoFiles :
    let a := linearReport "a.h" "C"
    let b := linearReport "a.h" "C++"
    let c := linearReport "b.h" "C"
    [c, b, a].Perm [a, b, c] ∧ ([c, b, a].map key).Nodup ∧ sorted [c, b, a] = [a, b, c] ∧
      table (sorted [c, b, a]) = table [a, b, c] ∧
      document (sorted [c, b, a]) = document [a, b, c] := by
  intro a b c
  have hperm : [c, b, a].Perm [a, b, c] := List.reverse_perm [a, b, c]
  have hkeys : ([c, b, a].map key).Nodup := by decide
  have hsorted : sorted [a, b, c] = [a, b, c] := List.mergeSort_of_pairwise (by decide)
  obtain ⟨hsame, htable, hdocument⟩ := sorted_indifferent_to_order.2 _ _ hperm hkeys
  rw [hsorted] at hsame htable hdocument
  exact ⟨hperm, hkeys, hsame, htable, hdocument⟩

end FileReport

end Asymptote
