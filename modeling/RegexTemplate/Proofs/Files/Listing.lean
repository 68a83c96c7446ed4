import Mathlib
import RegexTemplate.Files.Tree

/-!
# Trees of files and their paths

What a tree of files holds does not depend on the order in which the entries of its directories are
listed (`Relisted.holds_iff`).  A path is made by joining one name after the other to a root, and as
long as these are names that an entry can have, each of them adds one component
(`components_foldl_joinPath`).  So different files of a tree have different paths.
-/

namespace RegexTemplate

namespace FileTree

/-- What holds of files, and of a directory if it holds of all its entries, holds of every tree. -/
@[elab_as_elim]
theorem induction {motive : FileTree → Prop} (file : ∀ content, motive (.file content))
    (directory : ∀ entries, (∀ entry ∈ entries, motive entry.2) → motive (.directory entries))
    (tree : FileTree) : motive tree := by
  refine @FileTree.rec motive (fun entries => ∀ entry ∈ entries, motive entry.2)
    (fun entry => motive entry.2) file directory ?_ ?_ ?_ tree
  · intro entry hentry
    cases hentry
  · intro entry entries hentry hentries
    exact List.forall_mem_cons.2 ⟨hentry, hentries⟩
  · intro name tree htree
    exact htree

/-- Some names lead from a tree to a file. -/
inductive Holds : FileTree → (names : List String) → (content : ByteArray) → Prop
  | file (content : ByteArray) : Holds (.file content) [] content
  | directory {entries : List (String × FileTree)} {name : String} {tree : FileTree}
      {names : List String} {content : ByteArray} (hentry : (name, tree) ∈ entries)
      (hinner : Holds tree names content) : Holds (.directory entries) (name :: names) content

/-- What an entry of a directory can be called. -/
structure IsEntryName (name : String) : Prop where
  ne_empty : name ≠ ""
  ne_dot : name ≠ "."
  ne_dots : name ≠ ".."
  slash_not_mem : '/' ∉ name.toList

instance : DecidablePred IsEntryName := fun name =>
  decidable_of_iff (name ≠ "" ∧ name ≠ "." ∧ name ≠ ".." ∧ '/' ∉ name.toList)
    ⟨fun h => ⟨h.1, h.2.1, h.2.2.1, h.2.2.2⟩, fun h => ⟨h.1, h.2, h.3, h.4⟩⟩

/-- A tree as it can be found: in each directory the names are names of entries, and no two entries have
the same. -/
inductive Proper : FileTree → Prop
  | file (content : ByteArray) : Proper (.file content)
  | directory {entries : List (String × FileTree)} (hnames : ∀ entry ∈ entries, IsEntryName entry.1)
      (hdistinct : (entries.map Prod.fst).Nodup) (hinner : ∀ entry ∈ entries, Proper entry.2) :
      Proper (.directory entries)

/-- The same tree, with the entries of each directory listed in any order. -/
inductive Relisted : FileTree → FileTree → Prop
  | file (content : ByteArray) : Relisted (.file content) (.file content)
  | directory {entries others : List (String × FileTree)}
      (hnames : (entries.map Prod.fst).Perm (others.map Prod.fst))
      (hinner : ∀ name tree other, (name, tree) ∈ entries → (name, other) ∈ others →
        Relisted tree other) : Relisted (.directory entries) (.directory others)

variable {tree other : FileTree} {entries others : List (String × FileTree)} {names : List String}
  {content : ByteArray} {name : String}

theorem holds_file_iff {stored : ByteArray} :
    (FileTree.file stored).Holds names content ↔ names = [] ∧ stored = content := by
  constructor
  · intro h
    cases h
    exact ⟨rfl, rfl⟩
  · intro hgiven
    obtain ⟨rfl, rfl⟩ := hgiven
    exact .file stored

theorem holds_directory_iff :
    (FileTree.directory entries).Holds names content ↔
      ∃ name tree rest, (name, tree) ∈ entries ∧ names = name :: rest ∧ tree.Holds rest content := by
  constructor
  · intro h
    cases h with
    | directory hentry hinner => exact ⟨_, _, _, hentry, rfl, hinner⟩
  · intro hgiven
    obtain ⟨name, tree, rest, hentry, rfl, hinner⟩ := hgiven
    exact .directory hentry hinner

/-- In a proper tree, all names on the way to a file are names of entries. -/
theorem Proper.isEntryName (hproper : tree.Proper) (h : tree.Holds names content) :
    ∀ name ∈ names, IsEntryName name := by
  induction h with
  | file content =>
      intro name hname
      cases hname
  | directory hentry hinner ih =>
      cases hproper with
      | directory hnames hdistinct hbelow =>
          exact List.forall_mem_cons.2 ⟨hnames _ hentry, ih (hbelow _ hentry)⟩

theorem proper_nil : (FileTree.directory []).Proper :=
  .directory (fun _ h => nomatch h) List.nodup_nil (fun _ h => nomatch h)

/-- A proper directory stays proper with one more entry under a new name. -/
theorem Proper.cons (hname : IsEntryName name) (htree : tree.Proper)
    (hnew : name ∉ entries.map Prod.fst) (hentries : (FileTree.directory entries).Proper) :
    (FileTree.directory ((name, tree) :: entries)).Proper := by
  cases hentries with
  | directory hnames hdistinct hinner =>
      refine .directory ?_ ?_ ?_
      · exact List.forall_mem_cons.2 ⟨hname, hnames⟩
      · rw [List.map_cons, List.nodup_cons]
        exact ⟨hnew, hdistinct⟩
      · exact List.forall_mem_cons.2 ⟨htree, hinner⟩

theorem Proper.singleton (hname : IsEntryName name) (htree : tree.Proper) :
    (FileTree.directory [(name, tree)]).Proper := .cons hname htree List.not_mem_nil proper_nil

theorem Relisted.symm (h : tree.Relisted other) : other.Relisted tree := by
  induction h with
  | file content => exact .file content
  | directory hnames hinner ih =>
      exact .directory hnames.symm fun name tree other hother hentry =>
        ih name other tree hentry hother

/-- Each entry is among the others under its name. -/
theorem exists_relisted_entry (hnames : (entries.map Prod.fst).Perm (others.map Prod.fst))
    (hentry : (name, tree) ∈ entries) : ∃ other, (name, other) ∈ others := by
  have hname : name ∈ others.map Prod.fst :=
    hnames.mem_iff.1 (List.mem_map.2 ⟨(name, tree), hentry, rfl⟩)
  obtain ⟨⟨_, other⟩, hother, rfl⟩ := List.mem_map.1 hname
  exact ⟨other, hother⟩

theorem Relisted.holds (hrelisted : tree.Relisted other) (h : tree.Holds names content) :
    other.Holds names content := by
  induction h generalizing other with
  | file content =>
      cases hrelisted
      exact .file content
  | directory hentry hinner ih =>
      cases hrelisted with
      | directory hnames hbelow =>
          obtain ⟨other, hother⟩ := exists_relisted_entry hnames hentry
          exact .directory hother (ih (hbelow _ _ _ hentry hother))

/-- What a tree holds does not depend on how its entries are listed. -/
theorem Relisted.holds_iff (hrelisted : tree.Relisted other) :
    tree.Holds names content ↔ other.Holds names content :=
  ⟨hrelisted.holds, hrelisted.symm.holds⟩

theorem Relisted.proper (hrelisted : tree.Relisted other) (hproper : tree.Proper) :
    other.Proper := by
  induction hrelisted with
  | file content => exact .file content
  | directory hnames hinner ih =>
      cases hproper with
      | directory hentries hdistinct hbelow =>
          refine .directory ?_ (hnames.nodup_iff.1 hdistinct) ?_
          · intro entry hentry
            obtain ⟨tree, htree⟩ := exists_relisted_entry hnames.symm hentry
            exact hentries (entry.1, tree) htree
          · intro entry hentry
            obtain ⟨tree, htree⟩ := exists_relisted_entry hnames.symm hentry
            exact ih _ _ _ htree hentry (hbelow _ htree)

/-- In a proper directory, a name stands for one tree. -/
theorem eq_of_mem_of_mem (hdistinct : (entries.map Prod.fst).Nodup) (hentry : (name, tree) ∈ entries)
    (hother : (name, other) ∈ entries) : tree = other :=
  congrArg Prod.snd (List.inj_on_of_nodup_map hdistinct hentry hother rfl)

theorem Proper.relisted_self (hproper : tree.Proper) : tree.Relisted tree := by
  induction hproper with
  | file content => exact .file content
  | directory hnames hdistinct hinner ih =>
      refine .directory (List.Perm.refl _) fun name tree other hentry hother => ?_
      rw [← eq_of_mem_of_mem hdistinct hentry hother]
      exact ih (name, tree) hentry

/-- The entries of a proper directory may be listed in any order. -/
theorem Proper.relisted_of_perm (hproper : (FileTree.directory entries).Proper)
    (hperm : entries.Perm others) :
    (FileTree.directory entries).Relisted (.directory others) := by
  cases hproper with
  | directory hnames hdistinct hinner =>
      refine .directory (hperm.map _) fun name tree other hentry hother => ?_
      rw [← eq_of_mem_of_mem hdistinct hentry (hperm.mem_iff.2 hother)]
      exact (hinner (name, tree) hentry).relisted_self

end FileTree

namespace Files

variable {path name root : String} {names : List String}

/-- The components by which a path is compared with others: what stands between its slashes, less the
empty texts and the single dots. -/
def components (path : String) : List String :=
  ((path.toList.splitOn '/').map String.ofList).filter fun name => name ≠ "" ∧ name ≠ "."

/-- Behind a slash, other components begin. -/
theorem components_append_slash (front back : String) :
    components (front ++ "/" ++ back) = components front ++ components back := by
  have hchars : (front ++ "/" ++ back).toList = front.toList ++ '/' :: back.toList := by simp
  unfold components
  rw [hchars, List.splitOn_append_cons_self, List.map_append, List.filter_append]

/-- The name of an entry is a single component. -/
theorem components_of_isEntryName (hname : FileTree.IsEntryName name) : components name = [name] := by
  have hsplit : name.toList.splitOn '/' = [name.toList] :=
    List.splitOn_eq_singleton hname.slash_not_mem
  unfold components
  rw [hsplit, List.map_singleton, String.ofList_toList]
  exact List.filter_eq_self.2 (by simp [hname.ne_empty, hname.ne_dot])

/-- A name that is joined to a path adds one component. -/
theorem components_joinPath (path : String) (hname : FileTree.IsEntryName name) :
    components (joinPath path name) = components path ++ [name] := by
  have hempty : components "" = [] := by decide
  unfold joinPath
  split
  · next hslash =>
      rw [Bool.or_eq_true] at hslash
      rcases hslash with h | h
      · rw [String.isEmpty_iff] at h
        rw [h, String.empty_append, hempty, components_of_isEntryName hname, List.nil_append]
      · rw [String.endsWith_eq_endsWith_toSlice, String.Slice.endsWith_string_iff,
          String.copy_toSlice] at h
        obtain ⟨front, hfront⟩ := h
        have hpath : path = String.ofList front ++ "/" ++ "" := by
          rw [← String.toList_inj]
          simpa using hfront.symm
        have hcomponents : components path = components (String.ofList front) := by
          rw [hpath, components_append_slash, hempty, List.append_nil]
        rw [hcomponents, hpath, String.append_empty, components_append_slash,
          components_of_isEntryName hname]
  · rw [components_append_slash, components_of_isEntryName hname]

theorem components_foldl_joinPath (root : String)
    (hnames : ∀ name ∈ names, FileTree.IsEntryName name) :
    components (names.foldl joinPath root) = components root ++ names := by
  induction names generalizing root with
  | nil => rw [List.foldl_nil, List.append_nil]
  | cons name names ih =>
      rw [List.forall_mem_cons] at hnames
      rw [List.foldl_cons, ih _ hnames.2, components_joinPath root hnames.1, List.append_assoc,
        List.singleton_append]

/-- Paths below one root are compared component by component. -/
def comparePaths (path other : String) : Ordering := compare (components path) (components other)

theorem comparePaths_self (path : String) : comparePaths path path = .eq := by
  unfold comparePaths
  exact Std.ReflCmp.compare_self

end Files

end RegexTemplate
