import RegexTemplate.Proofs.Command.Warning

/-!
# Categories that are asked for as they are listed

A category is listed under its label, which is its name, or a word in parentheses if it has none.  A
request loses the slashes at its ends before it is compared with names.  So a label selects its category
if nothing stands in front of the name that is lost (`within_label_iff`): there has to be a name, and it
may begin with a slash only if it holds nothing else.  In terms of directories, a category can be asked
for by its label if its files do not lie at the root and the first directory on the way to them does not
begin with a backslash, which is shown as a slash (`isOwn_category_iff`).

Main statement: `label_selects_iff_askable`.
-/

namespace RegexTemplate.Suite

variable {all : List Category} {category : Category} {file : TestFile} {request bare name : String}
  {folders : List String}

/-- A name that is there, and does not begin with a slash unless it holds nothing else. -/
def IsOwn (name : String) : Prop :=
  name ≠ "" ∧ (name.toList.head? ≠ some '/' ∨ ∀ c ∈ name.toList, c = '/')

/-- Directories that make a category which can be asked for by its label: there is one, and the first does
not begin with a backslash unless there is nothing else in them. -/
def Askable : (folders : List String) → Prop
  | [] => False
  | folder :: folders =>
    folder.toList.head? ≠ some '\\' ∨ ∀ name ∈ folder :: folders, ∀ c ∈ name.toList, c = '\\'

/-! ## Names -/

/-- A name that goes on with slashes behind a text lies within it. -/
theorem within_of_append_replicate {n : Nat}
    (hname : name.toList = bare.toList ++ List.replicate n '/') : Within bare name := by
  cases n with
  | zero => exact Or.inl (String.toList_inj.1 (hname.trans (List.append_nil _)))
  | succ n =>
      refine Or.inr ⟨String.ofList (List.replicate n '/'), ?_⟩
      rw [← String.toList_inj, hname]
      simp [List.replicate_succ]

/-- Of slashes alone, nothing is left. -/
theorem toList_eq_nil_of_forall_slash (hstripped : Stripped name bare)
    (hslashes : ∀ c ∈ name.toList, c = '/') : bare.toList = [] := by
  obtain ⟨⟨before, after, haround⟩, hhead, -⟩ := hstripped
  rw [List.eq_nil_iff_forall_not_mem]
  intro c hc
  have hall : ∀ c ∈ bare.toList, c = '/' := by
    intro c hc
    refine hslashes c ?_
    rw [haround]
    exact List.mem_append_right _ (List.mem_append_left _ hc)
  rw [List.eq_replicate_of_mem hall, List.head?_replicate,
    if_neg (List.length_eq_zero_iff.not.2 (List.ne_nil_of_mem hc))] at hhead
  exact hhead rfl

/-- A name lies within what is left of it if no slash is lost in front, or if there are only slashes. -/
theorem within_self_iff (hstripped : Stripped name bare) :
    Within bare name ↔ name.toList.head? ≠ some '/' ∨ ∀ c ∈ name.toList, c = '/' := by
  have ⟨⟨before, after, haround⟩, hhead, _⟩ := hstripped
  constructor
  · intro hwithin
    by_cases hbare : bare.toList = []
    · refine Or.inr fun c hc => ?_
      rw [haround, hbare, List.nil_append, List.replicate_append_replicate] at hc
      exact List.eq_of_mem_replicate hc
    · have hsame : name.toList.head? = bare.toList.head? := by
        rcases hwithin with rfl | ⟨rest, rfl⟩
        · rfl
        · rw [String.toList_append, String.toList_append, List.append_assoc,
            List.head?_append_of_ne_nil _ hbare]
      rw [hsame]
      exact Or.inl hhead
  · intro hgiven
    rcases hgiven with hfirst | hslashes
    · cases before with
      | zero => exact within_of_append_replicate (by simpa using haround)
      | succ before => exact absurd (by rw [haround]; rfl) hfirst
    · have hempty := toList_eq_nil_of_forall_slash hstripped hslashes
      refine within_of_append_replicate (n := before + after) ?_
      rw [haround, hempty, List.nil_append, List.nil_append, List.replicate_append_replicate]

/-- A category lies within its label if and only if that is a name of its own. -/
theorem within_label_iff (hstripped : Stripped category.label bare) :
    Within bare category.name ↔ IsOwn category.name := by
  unfold Category.label at hstripped
  split at hstripped
  · next hempty =>
      rw [String.isEmpty_iff] at hempty
      have hroot : trimSlashes "(root)" = "(root)" := by decide
      rw [← trimSlashes_eq_iff, hroot] at hstripped
      rw [hempty, ← hstripped]
      exact iff_of_false (by decide) fun hown => hown.1 rfl
  · next hsome =>
      rw [String.isEmpty_iff] at hsome
      rw [within_self_iff hstripped]
      exact (and_iff_right hsome).symm

/-! ## Directories -/

/-- What a category shows of a character. -/
theorem slash_eq_iff {c : Char} (hc : c ≠ '/') : (if c = '\\' then '/' else c) = '/' ↔ c = '\\' := by
  split
  · next h => exact iff_of_true rfl h
  · next h => exact iff_of_false hc h

/-- Texts that are joined by slashes show only slashes if there is nothing but backslashes in them. -/
theorem forall_mem_joined_iff {rows : List (List Char)} (hrows : ∀ row ∈ rows, '/' ∉ row) :
    (∀ c ∈ (['/'].intercalate rows).map fun c => if c = '\\' then '/' else c, c = '/') ↔
      ∀ row ∈ rows, ∀ c ∈ row, c = '\\' := by
  have hrow : ∀ row : List Char, '/' ∉ row →
      ((∀ c ∈ row.map fun c => if c = '\\' then '/' else c, c = '/') ↔ ∀ c ∈ row, c = '\\') := by
    intro row hslash
    rw [List.forall_mem_map]
    exact forall₂_congr fun c hc => slash_eq_iff fun heq => hslash (heq ▸ hc)
  induction rows with
  | nil => simp
  | cons row rows ih =>
      obtain ⟨hfirst, hrest⟩ := List.forall_mem_cons.1 hrows
      rw [List.forall_mem_cons]
      refine Iff.trans ?_ (and_congr (hrow row hfirst) (ih hrest))
      cases rows with
      | nil => simp
      | cons next rows =>
          rw [List.intercalate_cons_of_ne_nil (List.cons_ne_nil _ _), List.map_append,
            List.map_append, List.forall_mem_append, List.forall_mem_append]
          refine and_congr_left fun _ => and_iff_left ?_
          simp

/-- Joined texts begin as the first of them does. -/
theorem exists_intercalate_eq_cons (c : Char) (cs : List Char) (rows : List (List Char)) :
    ∃ rest, ['/'].intercalate ((c :: cs) :: rows) = c :: rest := by
  cases rows with
  | nil => exact ⟨cs, List.intercalate_singleton⟩
  | cons row rows =>
      rw [List.intercalate_cons_of_ne_nil (List.cons_ne_nil _ _)]
      exact ⟨_, rfl⟩

/-- A category has a name of its own if and only if the directories on the way to a file of it can be
asked for. -/
theorem isOwn_category_iff (hfolders : ∀ folder ∈ file.folders, FileTree.IsEntryName folder) :
    IsOwn file.category ↔ Askable file.folders := by
  have hname : file.category.toList =
      (['/'].intercalate (file.folders.map String.toList)).map
        fun c => if c = '\\' then '/' else c := by
    rw [TestFile.category, String.toList_map, String.toList_intercalate]
    rfl
  rw [IsOwn, ne_eq, ← String.toList_eq_nil_iff, hname, forall_mem_joined_iff]
  · cases hshape : file.folders with
    | nil => simp [Askable]
    | cons folder folders =>
        rw [hshape, List.forall_mem_cons] at hfolders
        obtain ⟨hfirst, -⟩ := hfolders
        cases hchars : folder.toList with
        | nil => exact absurd (String.toList_eq_nil_iff.1 hchars) hfirst.ne_empty
        | cons c cs =>
            have hslash : c ≠ '/' := by
              intro heq
              apply hfirst.slash_not_mem
              rw [hchars, heq]
              exact List.mem_cons_self
            obtain ⟨rest, hrest⟩ := exists_intercalate_eq_cons c cs (folders.map String.toList)
            rw [← hchars, ← List.map_cons] at hrest
            rw [hrest, List.map_cons, List.head?_cons, Askable, hchars, List.head?_cons,
              ne_eq, ne_eq, Option.some.injEq, Option.some.injEq, slash_eq_iff hslash,
              List.forall_mem_map]
            exact and_iff_right (List.cons_ne_nil _ _)
  · rw [List.forall_mem_map]
    exact fun folder hfolder => (hfolders folder hfolder).slash_not_mem

/-! ## Single requests -/

theorem snd_select_singleton (all : List Category) (hstripped : Stripped request bare) :
    (select all [request]).2 = if Unknown all bare then [bare] else [] := by
  have hspent : Spent all [] bare ↔ Unknown all bare := by
    refine forall₂_congr fun category _ => imp_congr_right fun _ => ?_
    simp [asked_iff]
  have hnext := snd_select_append_singleton all [] hstripped
  rw [List.nil_append] at hnext
  rw [hnext]
  simp only [hspent]
  rfl

theorem mem_select_singleton_iff (hstripped : Stripped request bare) :
    category ∈ (select all [request]).1 ↔ category ∈ all ∧ Within bare category.name := by
  rw [fst_select_eq_filter all (List.cons_ne_nil request []), List.mem_filter, decide_eq_true_iff,
    asked_singleton_iff hstripped]

end RegexTemplate.Suite

namespace RegexTemplate.Command

open Suite

variable {colour : Bool} {options : TestOptions} {entries : List (String × FileTree)}

theorem runTests_directory (hfound : discover (.directory entries) ≠ []) :
    runTests colour options (.ok (.directory entries)) =
      runCategories colour options (discover (.directory entries)) := by
  unfold runTests categories
  dsimp only
  cases hshape : discover (.directory entries) with
  | nil => exact absurd hshape hfound
  | cons first others => rfl

/-- The list has a line for each category. -/
theorem messages_listCategories (hfound : discover (.directory entries) ≠ []) :
    (listCategories options (.ok (.directory entries))).messages = "available categories:" ::
      (discover (.directory entries)).map fun category =>
        "  " ++ category.label ++ " (" ++ toString category.files.length ++ " tests)" := by
  unfold listCategories categories
  dsimp only
  cases hshape : discover (.directory entries) with
  | nil => exact absurd hshape hfound
  | cons first others => rfl

/-- If something is selected, it is run behind the warnings. -/
theorem runCategories_eq_answerRun {all : List Category}
    (hselected : (select all options.categories).1 ≠ []) :
    runCategories colour options all =
      answerRun colour ((select all options.categories).2.map (warning all))
        ((select all options.categories).1.map (runCategory options.path)) := by
  rw [runCategories]
  dsimp only
  rw [if_neg (List.isEmpty_iff.not.2 hselected)]

/-- **A listed category can be asked for by its label if and only if its directories allow it.**  In the
list and in each warning, every category stands with its label.  For each category and each of its files,

* the label selects the category if and only if there are directories on the way to the file, and the
  first of them does not begin with a backslash unless there is nothing else in them;
* if so, the run begins with no warning, and it runs the category with all that lies within its label,
  and nothing else. -/
theorem label_selects_iff_askable (colour : Bool) (options : TestOptions)
    (hproper : (FileTree.directory entries).Proper)
    (hfound : discover (.directory entries) ≠ []) :
    let all := discover (.directory entries)
    (listCategories options (.ok (.directory entries))).messages = "available categories:" ::
        (all.map fun category =>
          "  " ++ category.label ++ " (" ++ toString category.files.length ++ " tests)") ∧
      (∀ request, warning all request = "warning: category '" ++ request ++
        "' not found (available: " ++ ", ".intercalate (all.map Category.label) ++ ")") ∧
      ∀ category ∈ all, category.files ≠ [] ∧ ∀ file ∈ category.files,
        (category ∈ (select all [category.label]).1 ↔ Askable file.folders) ∧
        (Askable file.folders → ∃ (bare : String) (selected : List Category),
          Stripped category.label bare ∧ category ∈ selected ∧ selected.Sublist all ∧
          (∀ other, other ∈ selected ↔ other ∈ all ∧ Within bare other.name) ∧
          runTests colour { options with categories := [category.label] }
            (.ok (.directory entries)) =
              answerRun colour [] (selected.map (runCategory options.path))) := by
  refine ⟨messages_listCategories hfound, fun request => rfl, fun category hcategory =>
    ⟨files_ne_nil_of_mem_discover hcategory, fun file hfile => ?_⟩⟩
  have hstripped := stripped_trimSlashes category.label
  have hfolders : ∀ folder ∈ file.folders, FileTree.IsEntryName folder := by
    intro folder hfolder
    have hholds := (mem_testFiles_iff.1 ((mem_files_iff hcategory).1 hfile).1).2
    exact hproper.isEntryName hholds folder (List.mem_append_left _ hfolder)
  have hname : file.category = category.name := ((mem_files_iff hcategory).1 hfile).2
  have hwithin : Within (trimSlashes category.label) category.name ↔ Askable file.folders := by
    rw [within_label_iff hstripped, ← hname, isOwn_category_iff hfolders]
  have hselects : category ∈ (select (discover (.directory entries)) [category.label]).1 ↔
      Askable file.folders := by
    rw [mem_select_singleton_iff hstripped, hwithin]
    exact and_iff_right hcategory
  refine ⟨hselects, fun haskable => ?_⟩
  have hmem := hselects.2 haskable
  have hsilent : (select (discover (.directory entries)) [category.label]).2 = [] := by
    rw [snd_select_singleton _ hstripped, if_neg]
    intro hunknown
    exact hunknown category hcategory (hwithin.2 haskable)
  refine ⟨_, (select (discover (.directory entries)) [category.label]).1, hstripped, hmem, ?_,
    fun other => mem_select_singleton_iff hstripped, ?_⟩
  · rw [fst_select]
    exact List.filter_sublist
  · have hsome : (select (discover (.directory entries)) [category.label]).1 ≠ [] :=
      List.ne_nil_of_mem hmem
    rw [runTests_directory hfound, runCategories_eq_answerRun hsome]
    dsimp only
    rw [hsilent]
    rfl

/-- A directory with a test file of its own, one in a directory whose name begins with a backslash, and one
in another. -/
def bureau : List (String × FileTree) :=
  [("top.retest", .file greenTest), ("\\back", .directory [("one.retest", .file greenTest)]),
    ("a", .directory [("two.retest", .file greenTest)])]

theorem proper_bureau : (FileTree.directory bureau).Proper := by
  unfold bureau
  refine .cons (by decide) (.file greenTest) (by decide) ?_
  refine .cons (by decide) (.singleton (by decide) (.file greenTest)) (by decide) ?_
  exact .singleton (by decide) (.singleton (by decide) (.file greenTest))

/-- Of the three labels that are listed, only the last selects its category. -/
theorem label_selects_iff_askable_bureau : (FileTree.directory bureau).Proper ∧
    (discover (.directory bureau)).map Category.label = ["(root)", "/back", "a"] ∧
    ∀ category ∈ discover (.directory bureau),
      (category ∈ (select (discover (.directory bureau)) [category.label]).1 ↔
        category.label = "a") := by
  have hlabels : (discover (.directory bureau)).map Category.label = ["(root)", "/back", "a"] := by
    decide +kernel
  have hnames : (discover (.directory bureau)).map (·.name) = ["", "/back", "a"] := by
    decide +kernel
  have hown : ∀ category ∈ discover (.directory bureau),
      (IsOwn category.name ↔ category.label = "a") := by
    intro category hcategory
    have hname := List.mem_map_of_mem (f := (·.name)) hcategory
    rw [hnames] at hname
    simp only [List.mem_cons, List.not_mem_nil, or_false] at hname
    rcases hname with h | h | h <;> simp [IsOwn, Category.label, h]
  have hfound : discover (.directory bureau) ≠ [] := by
    intro hnone
    rw [hnone] at hlabels
    cases hlabels
  obtain ⟨-, -, hselects⟩ :=
    label_selects_iff_askable false { path := "t" } proper_bureau hfound
  refine ⟨proper_bureau, hlabels, fun category hcategory => ?_⟩
  obtain ⟨hfiles, hall⟩ := hselects category hcategory
  obtain ⟨file, hfile⟩ := List.exists_mem_of_ne_nil _ hfiles
  obtain ⟨hmem, hname⟩ := (mem_files_iff hcategory).1 hfile
  have hfolders : ∀ folder ∈ file.folders, FileTree.IsEntryName folder := by
    intro folder hfolder
    exact proper_bureau.isEntryName (mem_testFiles_iff.1 hmem).2 folder
      (List.mem_append_left _ hfolder)
  rw [(hall file hfile).1, ← isOwn_category_iff hfolders, hname]
  exact hown category hcategory

/-- The files at the root are listed under a label with which nothing is found, although the warning offers
it; nor is the category with a slash in front found under its label. -/
theorem listed_labels_refused :
    "  (root) (1 tests)" ∈
        (listCategories { path := "t" } (.ok (.directory bureau))).messages ∧
      (runTests false { path := "t", categories := ["(root)"] } (.ok (.directory bureau))).messages =
        ["warning: category '(root)' not found (available: (root), /back, a)",
          "no matching categories found"] ∧
      (runTests false { path := "t", categories := ["/back"] } (.ok (.directory bureau))).messages =
        ["warning: category 'back' not found (available: (root), /back, a)",
          "no matching categories found"] := by
  refine ⟨by decide +kernel, by decide +kernel, by decide +kernel⟩

end RegexTemplate.Command
