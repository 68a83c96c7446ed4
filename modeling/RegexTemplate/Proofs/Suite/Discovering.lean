import Mathlib
import RegexTemplate.Proofs.Files.Listing
import RegexTemplate.Suite.Discovery

/-!
# Every test file is found once

The walk goes through the tree and meets each test file at the end of its own names
(`mem_testFiles_iff`, `nodup_names_testFiles`).  Grouping keeps of the walk only which files belong to
which category (`mem_discover_iff`), and sorting forgets in which order they came
(`sortFiles_eq_of_perm`), so that the order in which entries are listed does not show.

Main statement: `discover_exact`.
-/

namespace RegexTemplate.Suite

open Files (joinPath components comparePaths)

variable {tree other : FileTree} {files others : List TestFile} {file : TestFile}
  {category : Category} {root name : String}

theorem isTestName_iff : isTestName name ↔ ".retest".toList <:+ name.toList := by
  unfold isTestName Files.dropSuffix? TestCase.fileEnding
  split
  · next h => simpa using h
  · next h => simpa using h

/-! ## The walk -/

theorem testFilesAmong_eq_flatMap (folders : List String) (entries : List (String × FileTree)) :
    testFilesAmong folders entries = entries.flatMap (testFilesAt folders) := by
  induction entries with
  | nil => rw [testFilesAmong, List.flatMap_nil]
  | cons entry entries ih => rw [testFilesAmong, ih, List.flatMap_cons]

/-- At an entry, the walk meets the test files that are reached through it. -/
theorem mem_testFilesAt_iff {folders : List String} :
    file ∈ testFilesAt folders (name, tree) ↔ isTestName file.name ∧
      ∃ rest, file.names = folders ++ name :: rest ∧ tree.Holds rest file.content := by
  induction tree using FileTree.induction generalizing folders name with
  | file content =>
      have hhere : file ∈ testFilesAt folders (name, .file content) ↔
          isTestName name ∧ file = ⟨folders, name, content⟩ := by
        rw [testFilesAt]
        split
        · next htest => simp [htest]
        · next htest => simp [htest]
      rw [hhere]
      constructor
      · intro hgiven
        obtain ⟨htest, rfl⟩ := hgiven
        exact ⟨htest, [], rfl, .file content⟩
      · intro hgiven
        obtain ⟨htest, rest, hnames, hholds⟩ := hgiven
        obtain ⟨rfl, hcontent⟩ := FileTree.holds_file_iff.1 hholds
        obtain ⟨hfolders, hlast⟩ := List.append_inj' hnames rfl
        obtain ⟨folders', name', content'⟩ := file
        cases hfolders
        cases hlast
        cases hcontent
        exact ⟨htest, rfl⟩
  | directory entries ih =>
      rw [testFilesAt, testFilesAmong_eq_flatMap, List.mem_flatMap]
      constructor
      · intro hgiven
        obtain ⟨⟨inner, tree⟩, hentry, hfile⟩ := hgiven
        obtain ⟨htest, rest, hnames, hholds⟩ := (ih _ hentry).1 hfile
        refine ⟨htest, inner :: rest, ?_, .directory hentry hholds⟩
        rw [hnames, List.append_assoc, List.singleton_append]
      · intro hgiven
        obtain ⟨htest, rest, hnames, hholds⟩ := hgiven
        obtain ⟨inner, tree, below, hentry, rfl, hinner⟩ := FileTree.holds_directory_iff.1 hholds
        refine ⟨(inner, tree), hentry, (ih _ hentry).2 ⟨htest, below, ?_, hinner⟩⟩
        rw [hnames, List.append_assoc, List.singleton_append]

/-- From a root, the walk meets the test files below it. -/
theorem mem_testFiles_iff : file ∈ testFiles [] tree ↔
    isTestName file.name ∧ tree.Holds file.names file.content := by
  cases tree with
  | file content =>
      have hnames : file.names ≠ [] := List.concat_ne_nil _ _
      rw [testFiles, FileTree.holds_file_iff]
      simp [hnames]
  | directory entries =>
      rw [testFiles, testFilesAmong_eq_flatMap, List.mem_flatMap, FileTree.holds_directory_iff]
      constructor
      · intro hgiven
        obtain ⟨⟨name, tree⟩, hentry, hfile⟩ := hgiven
        obtain ⟨htest, rest, hnames, hholds⟩ := mem_testFilesAt_iff.1 hfile
        exact ⟨htest, name, tree, rest, hentry, hnames, hholds⟩
      · intro hgiven
        obtain ⟨htest, name, tree, rest, hentry, hnames, hholds⟩ := hgiven
        exact ⟨(name, tree), hentry, mem_testFilesAt_iff.2 ⟨htest, rest, hnames, hholds⟩⟩

/-- Entries with different names lead to files with different names. -/
theorem nodup_names_among {folders : List String} {entries : List (String × FileTree)}
    (hdistinct : (entries.map Prod.fst).Nodup)
    (hinner : ∀ entry ∈ entries, ((testFilesAt folders entry).map TestFile.names).Nodup) :
    ((testFilesAmong folders entries).map TestFile.names).Nodup := by
  rw [testFilesAmong_eq_flatMap, List.map_flatMap, List.nodup_flatMap]
  refine ⟨hinner, ?_⟩
  rw [List.Nodup, List.pairwise_map] at hdistinct
  refine hdistinct.imp fun {entry entry'} hne => ?_
  intro names hnames hnames'
  obtain ⟨file, hfile, rfl⟩ := List.mem_map.1 hnames
  obtain ⟨file', hfile', hsame⟩ := List.mem_map.1 hnames'
  obtain ⟨-, rest, heq, -⟩ := mem_testFilesAt_iff.1 hfile
  obtain ⟨-, rest', heq', -⟩ := mem_testFilesAt_iff.1 hfile'
  rw [heq, heq'] at hsame
  exact hne (List.cons.inj (List.append_cancel_left hsame)).1.symm

theorem nodup_names_testFilesAt {folders : List String} (hproper : tree.Proper) :
    ((testFilesAt folders (name, tree)).map TestFile.names).Nodup := by
  induction tree using FileTree.induction generalizing folders name with
  | file content =>
      rw [testFilesAt]
      split
      · exact List.nodup_singleton _
      · exact List.nodup_nil
  | directory entries ih =>
      cases hproper with
      | directory hnames hdistinct hinner =>
          rw [testFilesAt]
          exact nodup_names_among hdistinct fun entry hentry => ih entry hentry (hinner entry hentry)

/-- The walk meets no file twice. -/
theorem nodup_names_testFiles (hproper : tree.Proper) :
    ((testFiles [] tree).map TestFile.names).Nodup := by
  cases hproper with
  | file content =>
      rw [testFiles]
      exact List.nodup_nil
  | directory hnames hdistinct hinner =>
      rw [testFiles]
      exact nodup_names_among hdistinct fun entry hentry =>
        nodup_names_testFilesAt (hinner entry hentry)

/-- In whatever order the entries are listed, the walk meets the same files. -/
theorem perm_testFiles (hproper : tree.Proper) (hrelisted : tree.Relisted other) :
    (testFiles [] tree).Perm (testFiles [] other) := by
  have hnodup := (nodup_names_testFiles hproper).of_map
  have hnodup' := (nodup_names_testFiles (hrelisted.proper hproper)).of_map
  refine (List.perm_ext_iff_of_nodup hnodup hnodup').2 fun file => ?_
  rw [mem_testFiles_iff, mem_testFiles_iff, hrelisted.holds_iff]

/-! ## Groups -/

theorem group_append_singleton (files : List TestFile) (file : TestFile) :
    group (files ++ [file]) = (group files).insert file.category
      ((group files).getD file.category [] ++ [file]) := by
  rw [group, List.foldl_append]
  rfl

/-- A group holds the files of its category, in the order in which they came. -/
theorem getD_group (files : List TestFile) (name : String) :
    (group files).getD name [] = files.filter (·.category = name) := by
  induction files using List.reverseRecOn with
  | nil => rfl
  | append_singleton files file ih =>
      rw [group_append_singleton, Std.TreeMap.getD_insert, List.filter_append, ← ih]
      by_cases hname : file.category = name
      · simp [hname]
      · simp [hname]

/-- There is a group for each category of a file. -/
theorem mem_group_iff : name ∈ group files ↔ ∃ file ∈ files, file.category = name := by
  induction files using List.reverseRecOn with
  | nil => simp [group]
  | append_singleton files file ih =>
      rw [group_append_singleton, Std.TreeMap.mem_insert, ih, Std.LawfulEqOrd.compare_eq_iff_eq]
      simp [or_and_right, exists_or, or_comm]

theorem mem_toList_group_iff {found : List TestFile} :
    (name, found) ∈ (group files).toList ↔
      (∃ file ∈ files, file.category = name) ∧ found = files.filter (·.category = name) := by
  rw [Std.TreeMap.mem_toList_iff_getElem?_eq_some, ← mem_group_iff, ← getD_group]
  constructor
  · intro h
    have hmem : name ∈ group files := by
      rw [Std.TreeMap.mem_iff_isSome_getElem?, h]
      rfl
    rw [Std.TreeMap.getElem?_eq_some_getD hmem, Option.some.injEq] at h
    exact ⟨hmem, h.symm⟩
  · intro hgiven
    obtain ⟨hmem, rfl⟩ := hgiven
    exact Std.TreeMap.getElem?_eq_some_getD hmem

/-! ## Order -/

theorem perm_sortFiles (files : List TestFile) : (sortFiles files).Perm files :=
  List.mergeSort_perm files _

theorem mem_sortFiles_iff : file ∈ sortFiles files ↔ file ∈ files := (perm_sortFiles files).mem_iff

/-- Files are put in the order of their names. -/
theorem pairwise_sortFiles (files : List TestFile) :
    (sortFiles files).Pairwise fun a b => (compare a.names b.names).isLE := by
  refine List.pairwise_mergeSort ?_ ?_ files
  · intro a b c hab hbc
    exact Std.TransCmp.isLE_trans hab hbc
  · intro a b
    rw [Bool.or_eq_true]
    by_cases hab : (compare a.names b.names).isLE
    · exact Or.inl hab
    · have hba : compare b.names a.names = .lt := Std.OrientedCmp.lt_of_not_isLE hab
      exact Or.inr (Ordering.isLE_of_eq_lt hba)

/-- If no two files have the same names, they are sorted in one way only. -/
theorem sortFiles_eq_of_perm (hperm : files.Perm others)
    (hdistinct : (files.map TestFile.names).Nodup) : sortFiles files = sortFiles others := by
  refine List.Perm.eq_of_pairwise ?_ (pairwise_sortFiles files) (pairwise_sortFiles others)
    ((perm_sortFiles files).trans (hperm.trans (perm_sortFiles others).symm))
  intro a b ha hb hab hba
  have hnames : a.names = b.names :=
    Std.LawfulEqOrd.compare_eq_iff_eq.1 (Std.OrientedCmp.isLE_antisymm hab hba)
  refine List.inj_on_of_nodup_map hdistinct (mem_sortFiles_iff.1 ha) ?_ hnames
  exact hperm.mem_iff.2 (mem_sortFiles_iff.1 hb)

/-! ## Categories -/

theorem mem_discover_iff : category ∈ discover tree ↔
    (∃ file ∈ testFiles [] tree, file.category = category.name) ∧
      category.files = sortFiles ((testFiles [] tree).filter (·.category = category.name)) := by
  obtain ⟨name, found⟩ := category
  rw [discover, List.mem_map]
  constructor
  · intro hgiven
    obtain ⟨⟨key, group⟩, hgroup, heq⟩ := hgiven
    obtain ⟨hsome, rfl⟩ := mem_toList_group_iff.1 hgroup
    cases heq
    exact ⟨hsome, rfl⟩
  · intro hgiven
    obtain ⟨hsome, hfound⟩ := hgiven
    exact ⟨_, mem_toList_group_iff.2 ⟨hsome, rfl⟩, congrArg (Category.mk name) hfound.symm⟩

/-- The files of a category are the test files that belong to it. -/
theorem mem_files_iff (hcategory : category ∈ discover tree) :
    file ∈ category.files ↔ file ∈ testFiles [] tree ∧ file.category = category.name := by
  rw [(mem_discover_iff.1 hcategory).2, mem_sortFiles_iff, List.mem_filter, decide_eq_true_eq]

/-- Categories come in the order of their names, each of them once. -/
theorem pairwise_discover (tree : FileTree) : (discover tree).Pairwise fun a b => a.name < b.name := by
  rw [discover, List.pairwise_map]
  have hkeys := Std.TreeMap.ordered_keys_toList (t := group (testFiles [] tree))
  exact hkeys.imp fun {a b} hlt => compareOfLessAndEq_eq_lt.1 hlt

/-- The order in which entries are listed does not show. -/
theorem discover_eq_of_relisted (hproper : tree.Proper) (hrelisted : tree.Relisted other) :
    discover tree = discover other := by
  have hperm := perm_testFiles hproper hrelisted
  have hsort : ∀ name, sortFiles ((testFiles [] tree).filter (·.category = name)) =
      sortFiles ((testFiles [] other).filter (·.category = name)) := by
    intro name
    refine sortFiles_eq_of_perm (hperm.filter _) ?_
    exact (nodup_names_testFiles hproper).sublist (List.filter_sublist.map _)
  have hmem : ∀ category, category ∈ discover tree ↔ category ∈ discover other := by
    intro category
    simp only [mem_discover_iff, hsort, hperm.mem_iff]
  have hantisymm : Std.Antisymm fun a b : Category => a.name < b.name :=
    ⟨fun a b hab hba => absurd hba (String.lt_asymm hab)⟩
  have hirrefl : Std.Irrefl fun a b : Category => a.name < b.name :=
    ⟨fun a => String.lt_irrefl a.name⟩
  exact (pairwise_discover tree).eq_of_mem_iff (pairwise_discover other) hmem

/-! ## Paths -/

/-- The paths of the files of a category. -/
def Category.paths (category : Category) (root : String) : List String :=
  category.files.map (·.path root)

theorem compare_append_left (front a b : List String) :
    compare (front ++ a) (front ++ b) = compare a b := by
  induction front with
  | nil => rfl
  | cons name front ih =>
      have hsame : compare name name = .eq := Std.ReflCmp.compare_self
      rw [List.cons_append, List.cons_append, List.compare_cons_cons, hsame, ih]
      rfl

/-- The components of the path of a file are those of the root and then the names of the file. -/
theorem components_path (root : String) (hproper : tree.Proper) (hfile : file ∈ testFiles [] tree) :
    components (file.path root) = components root ++ file.names :=
  Files.components_foldl_joinPath root (hproper.isEntryName (mem_testFiles_iff.1 hfile).2)

/-- Different files have different paths. -/
theorem eq_of_path_eq {file' : TestFile} (hproper : tree.Proper) (hfile : file ∈ testFiles [] tree)
    (hfile' : file' ∈ testFiles [] tree) (hpath : file.path root = file'.path root) :
    file = file' := by
  have hcomponents := congrArg components hpath
  rw [components_path root hproper hfile, components_path root hproper hfile'] at hcomponents
  exact List.inj_on_of_nodup_map (nodup_names_testFiles hproper) hfile hfile'
    (List.append_cancel_left hcomponents)

/-- What is found below a root: categories of paths. -/
structure Discovery (root : String) (tree : FileTree) (found : List Category) : Prop where
  /-- A path is in a category if and only if it leads to a test file, and the category is made of the
  directories on the way, joined by slashes and with slashes for their backslashes. -/
  mem_iff : ∀ name path, (∃ category ∈ found, category.name = name ∧ path ∈ category.paths root) ↔
    ∃ folders fileName content, tree.Holds (folders ++ [fileName]) content ∧
      ".retest".toList <:+ fileName.toList ∧ path = (folders ++ [fileName]).foldl joinPath root ∧
      name = ("/".intercalate folders).map fun c => if c = '\\' then '/' else c
  /-- The bytes of a file are those in the tree. -/
  holds : ∀ category ∈ found, ∀ file ∈ category.files, tree.Holds file.names file.content
  /-- No path occurs twice, in one category or in two. -/
  nodup : (found.flatMap (·.paths root)).Nodup
  /-- Categories are in ascending order, each of them once. -/
  ascending : found.Pairwise fun a b => a.name < b.name
  /-- Every category has a file. -/
  files_ne_nil : ∀ category ∈ found, category.files ≠ []
  /-- The paths of a category are in ascending order. -/
  paths_ascending : ∀ category ∈ found,
    (category.paths root).Pairwise fun path path' => comparePaths path path' = .lt

theorem pairwise_paths (root : String) (hproper : tree.Proper) (hcategory : category ∈ discover tree) :
    (category.paths root).Pairwise fun path path' => comparePaths path path' = .lt := by
  have hsorted := pairwise_sortFiles ((testFiles [] tree).filter (·.category = category.name))
  rw [← (mem_discover_iff.1 hcategory).2] at hsorted
  have hdistinct : category.files.Pairwise fun a b => a.names ≠ b.names := by
    rw [← List.pairwise_map, (mem_discover_iff.1 hcategory).2]
    have hnodup : (((testFiles [] tree).filter (·.category = category.name)).map
        TestFile.names).Nodup :=
      (nodup_names_testFiles hproper).sublist (List.filter_sublist.map _)
    exact ((perm_sortFiles _).map _).nodup_iff.2 hnodup
  rw [Category.paths, List.pairwise_map]
  refine (hsorted.and hdistinct).imp_of_mem fun {a b} ha hb hboth => ?_
  obtain ⟨hle, hne⟩ := hboth
  have hlt : compare a.names b.names = .lt := by
    rcases Ordering.isLE_iff_eq_lt_or_eq_eq.1 hle with hlt | heq
    · exact hlt
    · exact absurd (Std.LawfulEqOrd.compare_eq_iff_eq.1 heq) hne
  rw [comparePaths, components_path root hproper ((mem_files_iff hcategory).1 ha).1,
    components_path root hproper ((mem_files_iff hcategory).1 hb).1, compare_append_left, hlt]

/-- No path is in two categories, or twice in one. -/
theorem nodup_paths (root : String) (hproper : tree.Proper) :
    ((discover tree).flatMap (·.paths root)).Nodup := by
  rw [List.nodup_flatMap]
  constructor
  · intro category hcategory
    refine (pairwise_paths root hproper hcategory).imp fun {path path'} hlt heq => ?_
    rw [heq, Files.comparePaths_self] at hlt
    cases hlt
  · refine (pairwise_discover tree).imp_of_mem fun {a b} ha hb hlt => ?_
    intro path hpath hpath'
    obtain ⟨file, hfile, rfl⟩ := List.mem_map.1 hpath
    obtain ⟨file', hfile', hsame⟩ := List.mem_map.1 hpath'
    obtain ⟨hmem, hname⟩ := (mem_files_iff ha).1 hfile
    obtain ⟨hmem', hname'⟩ := (mem_files_iff hb).1 hfile'
    have heq : file' = file := eq_of_path_eq hproper hmem' hmem hsame
    rw [heq, hname] at hname'
    rw [hname'] at hlt
    exact String.lt_irrefl _ hlt

/-- A path is in the category of the directories on the way to a test file. -/
theorem mem_paths_iff {path : String} :
    (∃ category ∈ discover tree, category.name = name ∧ path ∈ category.paths root) ↔
      ∃ file ∈ testFiles [] tree, file.category = name ∧ file.path root = path := by
  constructor
  · intro hgiven
    obtain ⟨category, hcategory, rfl, hpath⟩ := hgiven
    obtain ⟨file, hfile, rfl⟩ := List.mem_map.1 hpath
    obtain ⟨hmem, hname⟩ := (mem_files_iff hcategory).1 hfile
    exact ⟨file, hmem, hname, rfl⟩
  · intro hgiven
    obtain ⟨file, hfile, rfl, rfl⟩ := hgiven
    let found := sortFiles ((testFiles [] tree).filter fun other => other.category = file.category)
    have hcategory : ⟨file.category, found⟩ ∈ discover tree :=
      mem_discover_iff.2 ⟨⟨file, hfile, rfl⟩, rfl⟩
    refine ⟨_, hcategory, rfl, List.mem_map.2 ⟨file, ?_, rfl⟩⟩
    exact (mem_files_iff hcategory).2 ⟨hfile, rfl⟩

/-- **Every test file is found once, however the directories are listed.**  Below a proper tree each path
to a test file is found in the category of its directories, and nothing else is found
(`Discovery.mem_iff`); no path is found twice, no category is empty, and categories and paths are in
ascending order.  The result is the same for every order in which the entries of the directories may be
listed. -/
theorem discover_exact (root : String) (hproper : tree.Proper) :
    Discovery root tree (discover tree) ∧
      ∀ other, tree.Relisted other → discover other = discover tree := by
  refine ⟨?_, fun other hrelisted => (discover_eq_of_relisted hproper hrelisted).symm⟩
  refine ⟨fun name path => ?_, ?_, nodup_paths root hproper, pairwise_discover tree, ?_,
    fun category => pairwise_paths root hproper⟩
  · rw [mem_paths_iff]
    constructor
    · intro hgiven
      obtain ⟨file, hfile, rfl, rfl⟩ := hgiven
      obtain ⟨htest, hholds⟩ := mem_testFiles_iff.1 hfile
      exact ⟨file.folders, file.name, file.content, hholds, isTestName_iff.1 htest, rfl, rfl⟩
    · intro hgiven
      obtain ⟨folders, fileName, content, hholds, htest, rfl, rfl⟩ := hgiven
      exact ⟨⟨folders, fileName, content⟩,
        mem_testFiles_iff.2 ⟨isTestName_iff.2 htest, hholds⟩, rfl, rfl⟩
  · intro category hcategory file hfile
    exact (mem_testFiles_iff.1 ((mem_files_iff hcategory).1 hfile).1).2
  · intro category hcategory hnil
    obtain ⟨⟨file, hfile, hname⟩, -⟩ := mem_discover_iff.1 hcategory
    have hmem : file ∈ category.files := (mem_files_iff hcategory).2 ⟨hfile, hname⟩
    rw [hnil] at hmem
    cases hmem

/-- A directory with a test file, a directory that is named like one, and two more the names of which come
to the same category. -/
def attic : List (String × FileTree) :=
  [("top.retest", .file .empty), ("old.retest", .directory [("notes", .file .empty)]),
    ("x\\y", .directory [("two.retest", .file .empty)]),
    ("x", .directory [("y", .directory [("one.retest", .file .empty)])])]

theorem proper_attic : (FileTree.directory attic).Proper := by
  unfold attic
  refine .cons (by decide) (.file .empty) (by decide) ?_
  refine .cons (by decide) (.singleton (by decide) (.file .empty)) (by decide) ?_
  refine .cons (by decide) (.singleton (by decide) (.file .empty)) (by decide) ?_
  refine .singleton (by decide) ?_
  exact .singleton (by decide) (.singleton (by decide) (.file .empty))

/-- The two files are found in one category, also if the directory is listed from behind. -/
theorem discover_exact_attic : (FileTree.directory attic).Proper ∧
    (FileTree.directory attic).Relisted (.directory attic.reverse) ∧
    discover (.directory attic.reverse) = discover (.directory attic) ∧
    (∃ category ∈ discover (.directory attic),
      category.name = "x/y" ∧ "t/x/y/one.retest" ∈ category.paths "t") ∧
    ∃ category ∈ discover (.directory attic),
      category.name = "x/y" ∧ "t/x\\y/two.retest" ∈ category.paths "t" := by
  have hrelisted := proper_attic.relisted_of_perm (List.reverse_perm attic).symm
  obtain ⟨hfound, hlisted⟩ := discover_exact "t" proper_attic
  refine ⟨proper_attic, hrelisted, hlisted _ hrelisted, ?_, ?_⟩
  · refine (hfound.mem_iff "x/y" "t/x/y/one.retest").2
      ⟨["x", "y"], "one.retest", .empty, ?_, by decide, by decide +kernel, by decide +kernel⟩
    exact .directory (List.mem_of_getElem? (i := 3) rfl)
      (.directory (List.mem_singleton_self _) (.directory (List.mem_singleton_self _) (.file .empty)))
  · refine (hfound.mem_iff "x/y" "t/x\\y/two.retest").2
      ⟨["x\\y"], "two.retest", .empty, ?_, by decide, by decide +kernel, by decide +kernel⟩
    exact .directory (List.mem_of_getElem? (i := 2) rfl)
      (.directory (List.mem_singleton_self _) (.file .empty))

end RegexTemplate.Suite
