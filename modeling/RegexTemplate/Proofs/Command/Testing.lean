import Mathlib
import RegexTemplate.Command.Test
import RegexTemplate.Proofs.Suite.Discovering
import RegexTemplate.Proofs.Suite.Filtering
import RegexTemplate.Proofs.Suite.Reporting

/-!
# What a run of test files says

The rows of a run are known from the tree and the requests alone (`Selected`,
`mem_rowsBelow_iff_selected`).  They come in the order of their categories and then of their paths
(`pairwise_rowsBelow`), each path once (`nodup_paths_rowsBelow`).  Evaluating the rows one by one gives the
results of the run (`results_map_runCategory`), and they are listed under a title where a category begins
(`listed_flatMap_rows`).  So the report that is written is one on these rows.

Main statement: `runTests_exact`.
-/

namespace RegexTemplate

open Files (joinPath comparePaths)

namespace Suite

variable {colour : Bool} {root name : String} {content : ByteArray} {tree : FileTree}
  {category : Category} {requests : List String}

/-- The rows of a category. -/
def Category.rows (category : Category) (root : String) : List Row :=
  category.files.map fun file => ⟨category.name, file.path root, file.content⟩

/-- A row is to be run: it is a file that is given by itself, or a test file below a directory, in a
category that is asked for.  Without requests, all are. -/
inductive Selected (root : String) (requests : List String) : Except FileFault FileTree → Row → Prop
  | file (content : ByteArray) : Selected root requests (.ok (.file content)) ⟨"", root, content⟩
  | below {tree : FileTree} {folders : List String} {fileName name : String} {content : ByteArray}
      (hholds : tree.Holds (folders ++ [fileName]) content)
      (htest : ".retest".toList <:+ fileName.toList)
      (hname : name = ("/".intercalate folders).map fun c => if c = '\\' then '/' else c)
      (hwanted : requests = [] ∨ Asked requests name) :
      Selected root requests (.ok tree) ⟨name, (folders ++ [fileName]).foldl joinPath root, content⟩

/-- Rows come by category, and by path in each of them. -/
def Row.Before (row other : Row) : Prop :=
  row.category < other.category ∨
    row.category = other.category ∧ comparePaths row.path other.path = .lt

/-- The rows of the wanted categories below a directory. -/
def rowsBelow (root : String) (requests : List String) (tree : FileTree) : List Row :=
  ((discover tree).filter fun category => Wanted requests category.name).flatMap (·.rows root)

theorem mem_rowsBelow_iff {row : Row} :
    row ∈ rowsBelow root requests tree ↔ ∃ file ∈ testFiles [] tree,
      Wanted requests file.category ∧ row = ⟨file.category, file.path root, file.content⟩ := by
  rw [rowsBelow, List.mem_flatMap]
  constructor
  · intro hgiven
    obtain ⟨category, hcategory, hrow⟩ := hgiven
    obtain ⟨hfound, hwanted⟩ := List.mem_filter.1 hcategory
    obtain ⟨file, hfile, rfl⟩ := List.mem_map.1 hrow
    obtain ⟨hmem, hname⟩ := (mem_files_iff hfound).1 hfile
    rw [← hname] at hwanted ⊢
    exact ⟨file, hmem, of_decide_eq_true hwanted, rfl⟩
  · intro hgiven
    obtain ⟨file, hfile, hwanted, rfl⟩ := hgiven
    obtain ⟨category, hfound, hname, -⟩ : ∃ category ∈ discover tree,
        category.name = file.category ∧ file.path root ∈ category.paths root :=
      mem_paths_iff.2 ⟨file, hfile, rfl, rfl⟩
    refine ⟨category, List.mem_filter.2 ⟨hfound, ?_⟩, List.mem_map.2 ⟨file, ?_, ?_⟩⟩
    · rw [hname]
      exact decide_eq_true hwanted
    · exact (mem_files_iff hfound).2 ⟨hfile, hname.symm⟩
    · rw [hname]

theorem wanted_iff : Wanted requests name ↔ requests = [] ∨ Asked requests name :=
  or_congr_right asked_iff.symm

/-- The rows are those that are to be run. -/
theorem mem_rowsBelow_iff_selected {entries : List (String × FileTree)} {row : Row} :
    row ∈ rowsBelow root requests (.directory entries) ↔
      Selected root requests (.ok (.directory entries)) row := by
  rw [mem_rowsBelow_iff]
  simp only [wanted_iff]
  constructor
  · intro hgiven
    obtain ⟨file, hfile, hwanted, rfl⟩ := hgiven
    obtain ⟨htest, hholds⟩ := mem_testFiles_iff.1 hfile
    exact .below hholds (isTestName_iff.1 htest) rfl hwanted
  · intro h
    cases h with
    | @below _ folders fileName _ content hholds htest hname hwanted =>
        subst hname
        exact ⟨⟨folders, fileName, content⟩,
          mem_testFiles_iff.2 ⟨isTestName_iff.2 htest, hholds⟩, hwanted, rfl⟩

theorem pairwise_rowsBelow (hproper : tree.Proper) :
    (rowsBelow root requests tree).Pairwise Row.Before := by
  rw [rowsBelow, List.pairwise_flatMap]
  constructor
  · intro category hcategory
    have hpaths := pairwise_paths root hproper (List.mem_filter.1 hcategory).1
    rw [Category.paths, List.pairwise_map] at hpaths
    rw [Category.rows, List.pairwise_map]
    exact hpaths.imp fun hlt => Or.inr ⟨rfl, hlt⟩
  · refine ((pairwise_discover tree).filter _).imp fun {category other} hlt => ?_
    intro row hrow row' hrow'
    obtain ⟨file, -, rfl⟩ := List.mem_map.1 hrow
    obtain ⟨file', -, rfl⟩ := List.mem_map.1 hrow'
    exact Or.inl hlt

/-- No path is in two rows. -/
theorem nodup_paths_rowsBelow (hproper : tree.Proper) :
    ((rowsBelow root requests tree).map Row.path).Nodup := by
  have hpaths : (rowsBelow root requests tree).map Row.path =
      ((discover tree).filter fun category => Wanted requests category.name).flatMap
        (·.paths root) := by
    rw [rowsBelow, List.map_flatMap]
    refine List.flatMap_congr fun category _ => ?_
    rw [Category.rows, List.map_map]
    rfl
  rw [hpaths]
  exact (nodup_paths root hproper).sublist (List.filter_sublist.flatMap _)

theorem files_ne_nil_of_mem_discover (hcategory : category ∈ discover tree) :
    category.files ≠ [] := by
  obtain ⟨⟨file, hfile, hname⟩, -⟩ := mem_discover_iff.1 hcategory
  exact List.ne_nil_of_mem ((mem_files_iff hcategory).2 ⟨hfile, hname⟩)

/-- Each wanted category has a row. -/
theorem rowsBelow_eq_nil_iff : rowsBelow root requests tree = [] ↔
    ((discover tree).filter fun category => Wanted requests category.name) = [] := by
  rw [rowsBelow, List.flatMap_eq_nil_iff]
  constructor
  · intro hempty
    refine List.eq_nil_iff_forall_not_mem.2 fun category hcategory => ?_
    exact files_ne_nil_of_mem_discover (List.mem_filter.1 hcategory).1
      (List.map_eq_nil_iff.1 (hempty category hcategory))
  · intro hnone category hcategory
    rw [hnone] at hcategory
    cases hcategory

/-! ## The rows of a run -/

theorem results_runCategory (root : String) (category : Category) :
    (runCategory root category).results = (category.rows root).map Row.result := by
  rw [runCategory, Category.rows, List.map_map]
  rfl

/-- The rows of a category come with one title. -/
theorem Listed.rows {last : Option String} {rest : List Row} {listing : List String}
    (hlast : last ≠ some category.name) (hfiles : category.files ≠ [])
    (hrest : Listed colour (some category.name) rest listing) :
    Listed colour last (category.rows root ++ rest)
      (partLines colour (runCategory root category) ++ listing) := by
  have hlines : (runCategory root category).results.map (resultLine colour) =
      (category.rows root).map fun row => resultLine colour row.result := by
    rw [results_runCategory, List.map_map]
    rfl
  have hrows : ∀ row ∈ category.rows root, row.category = category.name := by
    intro row hrow
    obtain ⟨file, -, rfl⟩ := List.mem_map.1 hrow
    rfl
  have hpart : partLines colour (runCategory root category) = "" :: titleOf colour category.name ::
      (category.rows root).map fun row => resultLine colour row.result := by
    rw [partLines, hlines, ← paint_label]
    rfl
  rw [hpart]
  cases hshape : category.rows root with
  | nil => exact absurd (List.map_eq_nil_iff.1 hshape) hfiles
  | cons row rows =>
      rw [hshape] at hrows
      obtain ⟨hrow, hothers⟩ := List.forall_mem_cons.1 hrows
      rw [← hrow] at hlast hrest hothers ⊢
      exact .next hlast (row.line_resultLine colour) (hrest.append_left hothers)

/-- The rows of several categories, each under its title. -/
theorem listed_flatMap_rows {categories : List Category} {last : Option String}
    (hdistinct : categories.Pairwise fun a b => a.name ≠ b.name)
    (hfiles : ∀ category ∈ categories, category.files ≠ [])
    (hlast : ∀ category ∈ categories, last ≠ some category.name) :
    Listed colour last (categories.flatMap (·.rows root))
      ((categories.map (runCategory root)).flatMap (partLines colour)) := by
  induction categories generalizing last with
  | nil => exact .nil
  | cons category categories ih =>
      obtain ⟨hhere, hlast⟩ := List.forall_mem_cons.1 hlast
      obtain ⟨hsome, hfiles⟩ := List.forall_mem_cons.1 hfiles
      obtain ⟨hother, hdistinct⟩ := List.pairwise_cons.1 hdistinct
      refine Listed.rows hhere hsome (ih hdistinct hfiles fun other hmem hsame => ?_)
      exact hother other hmem (Option.some.inj hsame)

theorem results_map_runCategory (root : String) (categories : List Category) :
    results (categories.map (runCategory root)) =
      (categories.flatMap (·.rows root)).map Row.result := by
  rw [results, List.flatMap_map, List.map_flatMap]
  exact List.flatMap_congr fun category _ => results_runCategory root category

/-! ## Runs -/

/-- The rows of a run are the files that are to be run, in order. -/
structure Plan (root : String) (requests : List String) (found : Except FileFault FileTree)
    (rows : List Row) : Prop where
  mem_iff : ∀ row, row ∈ rows ↔ Selected root requests found row
  ordered : rows.Pairwise Row.Before
  nodup_paths : (rows.map Row.path).Nodup

theorem plan_file (root : String) (requests : List String) (content : ByteArray) :
    Plan root requests (.ok (.file content)) [⟨"", root, content⟩] := by
  refine ⟨fun row => ?_, List.pairwise_singleton _ _, List.nodup_singleton _⟩
  rw [List.mem_singleton]
  constructor
  · intro hrow
    subst hrow
    exact .file content
  · intro h
    cases h with
    | file => rfl
    | @below _ folders fileName _ _ hholds _ _ _ =>
        exact absurd (FileTree.holds_file_iff.1 hholds).1 (List.concat_ne_nil _ _)

theorem plan_error (root : String) (requests : List String) (fault : FileFault) :
    Plan root requests (.error fault) [] := by
  refine ⟨fun row => ?_, List.Pairwise.nil, List.nodup_nil⟩
  constructor
  · intro hrow
    cases hrow
  · intro h
    cases h

theorem plan_directory {entries : List (String × FileTree)}
    (hproper : (FileTree.directory entries).Proper) :
    Plan root requests (.ok (.directory entries))
      (rowsBelow root requests (.directory entries)) :=
  ⟨fun _ => mem_rowsBelow_iff_selected, pairwise_rowsBelow hproper, nodup_paths_rowsBelow hproper⟩

end Suite

namespace Command

open Suite

variable {colour : Bool} {options : TestOptions} {found : Except FileFault FileTree}

/-- Some warnings are about requests that have been made. -/
def AboutRequests (requests warnings : List String) : Prop :=
  ∀ line ∈ warnings, ∃ request ∈ requests, ∃ bare available, Stripped request bare ∧
    line = "warning: category '" ++ bare ++ "' not found (available: " ++ available ++ ")"

/-- The category that needs no title at the begin of a report: a file that is given by itself has none. -/
def untitled : Except FileFault FileTree → Option String
  | .ok (.file _) => some ""
  | _ => none

/-- What a run answers that is to evaluate some rows, where the category `last` needs no title. -/
structure Answers (colour : Bool) (options : TestOptions) (last : Option String) (rows : List Row)
    (response : Response) : Prop where
  output_eq : response.output = []
  /-- The run is a success if and only if there are rows and all of them pass. -/
  code_eq_zero_iff : response.code = 0 ↔ rows ≠ [] ∧ ∀ row ∈ rows, Passes row.content
  code_eq_one : response.code ≠ 0 → response.code = 1
  /-- Behind warnings about requests stands the report on the rows, or that there are none. -/
  messages_eq : ∃ warnings verdict, AboutRequests options.categories warnings ∧
    response.messages = warnings ++ verdict ∧
    (rows ≠ [] → Reported colour last rows verdict) ∧
    (rows = [] → verdict = ["no .retest files found in " ++ options.path] ∨
      verdict = ["no matching categories found"])

theorem aboutRequests_nil (requests : List String) : AboutRequests requests [] := by
  intro line hline
  cases hline

/-- A run without rows fails. -/
theorem answers_nil {last : Option String} {warnings : List String} {line : String}
    (hwarnings : AboutRequests options.categories warnings)
    (hline : line = nothingFound options.path ∨ line = "no matching categories found") :
    Answers colour options last [] (.failure (warnings ++ [line])) := by
  refine ⟨rfl, ?_, fun _ => rfl, warnings, [line], hwarnings, rfl, fun h => absurd rfl h, ?_⟩
  · constructor
    · intro hcode
      cases hcode
    · intro hgiven
      exact absurd rfl hgiven.1
  · intro _
    rcases hline with rfl | rfl
    · exact Or.inl rfl
    · exact Or.inr rfl

/-- A run that has been made is answered by the report on its rows. -/
theorem answers_answerRun {last : Option String} {rows : List Row} {warnings : List String}
    {parts : List Part} (hrows : rows ≠ []) (hwarnings : AboutRequests options.categories warnings)
    (hresults : results parts = rows.map Row.result)
    (hlisted : Listed colour last rows (parts.flatMap (partLines colour))) :
    Answers colour options last rows (answerRun colour warnings parts) := by
  have hcode : (answerRun colour warnings parts).code = if failing rows = [] then 0 else 1 := by
    rw [answerRun]
    dsimp only
    rw [failures_eq hresults]
    simp only [List.isEmpty_iff, List.map_eq_nil_iff]
  refine ⟨rfl, ?_, ?_, warnings, report colour parts, hwarnings, rfl,
    fun _ => reported_report hresults hlisted, fun h => absurd h hrows⟩
  · rw [hcode, ← failing_eq_nil_iff]
    constructor
    · intro hzero
      split at hzero
      · next hpass => exact ⟨hrows, hpass⟩
      · cases hzero
    · intro hgiven
      rw [if_pos hgiven.2]
  · rw [hcode]
    intro hfailed
    split at hfailed
    · exact absurd rfl hfailed
    · next hfails => rw [if_neg hfails]

theorem aboutRequests_warnings (all : List Category) (requests : List String) :
    AboutRequests requests ((select all requests).2.map (warning all)) := by
  intro line hline
  obtain ⟨request', hvain, rfl⟩ := List.mem_map.1 hline
  obtain ⟨request, hmem, rfl⟩ := exists_request_of_mem_snd_select hvain
  exact ⟨request, hmem, trimSlashes request, labels all, stripped_trimSlashes request, rfl⟩

/-- A run on a single file. -/
theorem answers_file (colour : Bool) (options : TestOptions) (content : ByteArray) :
    Answers colour options (some "") [⟨"", options.path, content⟩]
      (runTests colour options (.ok (.file content))) := by
  let row : Row := ⟨"", options.path, content⟩
  have hlisted : Listed colour (some row.category) [row] [resultLine colour row.result] :=
    .same (row.line_resultLine colour) .nil
  exact answers_answerRun (List.cons_ne_nil _ _) (aboutRequests_nil _) rfl hlisted

/-- A run on a directory. -/
theorem answers_directory (colour : Bool) (options : TestOptions)
    (entries : List (String × FileTree)) :
    Answers colour options none (rowsBelow options.path options.categories (.directory entries))
      (runTests colour options (.ok (.directory entries))) := by
  unfold runTests categories
  dsimp only
  cases hfound : discover (.directory entries) with
  | nil =>
      have hrows : rowsBelow options.path options.categories (.directory entries) = [] := by
        rw [rowsBelow_eq_nil_iff, hfound]
        rfl
      rw [hrows]
      exact answers_nil (aboutRequests_nil _) (Or.inl rfl)
  | cons first others =>
      dsimp only
      rw [← hfound, runCategories]
      dsimp only
      rw [fst_select]
      have hwarnings := aboutRequests_warnings (discover (.directory entries)) options.categories
      split
      · next hnone =>
          rw [rowsBelow_eq_nil_iff.2 (List.isEmpty_iff.1 hnone)]
          exact answers_nil hwarnings (Or.inr rfl)
      · next hsome =>
          refine answers_answerRun ?_ hwarnings (results_map_runCategory _ _) ?_
          · rw [Ne, rowsBelow_eq_nil_iff, ← List.isEmpty_iff]
            exact hsome
          · have hdistinct : (discover (.directory entries)).Pairwise fun a b => a.name ≠ b.name :=
              (pairwise_discover _).imp fun {a b} hlt => ne_of_lt hlt
            refine listed_flatMap_rows (hdistinct.filter _) ?_ ?_
            · intro category hcategory
              exact files_ne_nil_of_mem_discover (List.mem_filter.1 hcategory).1
            · intro category _ h
              cases h

/-- **A run that succeeds has run and passed everything that was asked for.**  For every path, whatever it
leads to, and all requests there is one list of rows, such that

* the rows are the test files in the wanted categories, or the file that is given by itself; they come in
  the order of categories and then of paths, and no path comes twice;
* the exit code is 0 if there is a row and every row passes, and otherwise it is 1;
* the report lists each row once, marked as passing or failing, then the rows that fail once more with
  their reasons, and says how many pass and how many fail, which together are all rows;
* if the exit code is 0, some row passes. -/
theorem runTests_exact (colour : Bool) (options : TestOptions) (found : Except FileFault FileTree)
    (hproper : ∀ tree, found = .ok tree → tree.Proper) :
    ∃ rows, Plan options.path options.categories found rows ∧
      Answers colour options (untitled found) rows (runTests colour options found) ∧
      (passing rows).length + (failing rows).length = rows.length ∧
      ((runTests colour options found).code = 0 → ∃ row ∈ rows, Passes row.content) := by
  obtain ⟨rows, hplan, hanswers⟩ : ∃ rows, Plan options.path options.categories found rows ∧
      Answers colour options (untitled found) rows (runTests colour options found) := by
    match found, hproper with
    | .ok (.file content), _ =>
        exact ⟨_, plan_file _ _ content, answers_file colour options content⟩
    | .ok (.directory entries), hproper =>
        exact ⟨_, plan_directory (hproper _ rfl), answers_directory colour options entries⟩
    | .error fault, _ =>
        exact ⟨[], plan_error _ _ fault, answers_nil (aboutRequests_nil _) (Or.inl rfl)⟩
  refine ⟨rows, hplan, hanswers, length_passing_add_length_failing rows, ?_⟩
  intro hcode
  obtain ⟨hrows, hall⟩ := hanswers.code_eq_zero_iff.1 hcode
  obtain ⟨row, hrow⟩ := List.exists_mem_of_ne_nil _ hrows
  exact ⟨row, hrow, hall row hrow⟩

/-- The text of a test case that passes. -/
def greenTest : ByteArray := "---\nmatches = ['b']\n---\ntemplate = [['a', ['/b/']]]\n".toUTF8

/-- A directory with test files that pass, next to one with a file that is no test case. -/
def drawers : List (String × FileTree) :=
  [("ab", .directory [("broken.retest", .file .empty)]),
    ("a", .directory [("two.retest", .file greenTest),
      ("b", .directory [("one.retest", .file greenTest)])])]

theorem proper_drawers : (FileTree.directory drawers).Proper := by
  unfold drawers
  refine .cons (by decide) (.singleton (by decide) (.file .empty)) (by decide) ?_
  refine .singleton (by decide) ?_
  refine .cons (by decide) (.file greenTest) (by decide) ?_
  exact .singleton (by decide) (.singleton (by decide) (.file greenTest))

/-- Two requests that overlap select the directory without its neighbour, all of it passes, and this is
reported.  Without requests the neighbour is run too, and fails. -/
theorem runTests_exact_drawers : (FileTree.directory drawers).Proper ∧
    ((runTests false { path := "t", categories := ["/a/", "a/b"] }
      (.ok (.directory drawers))).code = 0 ∧
    ∃ rows, Plan "t" ["/a/", "a/b"] (.ok (.directory drawers)) rows ∧
      (∀ row ∈ rows, Passes row.content) ∧ ⟨"a/b", "t/a/b/one.retest", greenTest⟩ ∈ rows ∧
      ∃ warnings verdict, (runTests false { path := "t", categories := ["/a/", "a/b"] }
        (.ok (.directory drawers))).messages = warnings ++ verdict ∧
        Reported false none rows verdict) ∧
    (runTests false { path := "t" } (.ok (.directory drawers))).code = 1 ∧
    ∃ rows, Plan "t" [] (.ok (.directory drawers)) rows ∧ failing rows ≠ [] := by
  have hproper : ∀ tree, (Except.ok (.directory drawers) : Except FileFault FileTree) = .ok tree →
      tree.Proper := by
    intro tree htree
    cases htree
    exact proper_drawers
  refine ⟨proper_drawers, ?_, ?_⟩
  · have hcode : (runTests false { path := "t", categories := ["/a/", "a/b"] }
        (.ok (.directory drawers))).code = 0 := by decide +kernel
    obtain ⟨rows, hplan, hanswers, -⟩ := runTests_exact false
      { path := "t", categories := ["/a/", "a/b"] } (.ok (.directory drawers)) hproper
    obtain ⟨hrows, hall⟩ := hanswers.code_eq_zero_iff.1 hcode
    obtain ⟨warnings, verdict, -, hmessages, hreported, -⟩ := hanswers.messages_eq
    refine ⟨hcode, rows, hplan, hall, ?_, warnings, verdict, hmessages, hreported hrows⟩
    have hpath : (["a", "b"] ++ ["one.retest"]).foldl Files.joinPath "t" = "t/a/b/one.retest" := by
      decide +kernel
    rw [hplan.mem_iff, ← hpath]
    refine .below ?_ (by decide) (by decide +kernel) (by decide +kernel)
    exact .directory (List.mem_of_getElem? (i := 1) rfl)
      (.directory (List.mem_of_getElem? (i := 1) rfl)
        (.directory (List.mem_singleton_self _) (.file greenTest)))
  · have hcode : (runTests false { path := "t" } (.ok (.directory drawers))).code = 1 := by
      decide +kernel
    obtain ⟨rows, hplan, hanswers, -⟩ := runTests_exact false { path := "t" }
      (.ok (.directory drawers)) hproper
    refine ⟨hcode, rows, hplan, fun hnone => ?_⟩
    have hbroken : (⟨"ab", "t/ab/broken.retest", .empty⟩ : Row) ∈ rows := by
      have hpath : (["ab"] ++ ["broken.retest"]).foldl Files.joinPath "t" = "t/ab/broken.retest" := by
        decide +kernel
      rw [hplan.mem_iff, ← hpath]
      refine .below ?_ (by decide) (by decide +kernel) (Or.inl rfl)
      exact .directory (List.mem_of_getElem? (i := 0) rfl)
        (.directory (List.mem_singleton_self _) (.file .empty))
    have hzero := hanswers.code_eq_zero_iff.2
      ⟨List.ne_nil_of_mem hbroken, failing_eq_nil_iff.1 hnone⟩
    rw [hcode] at hzero
    cases hzero

/-- The whole report on the drawers. -/
example : (runTests false { path := "t" } (.ok (.directory drawers))).messages =
    ["", "a", "  PASS  two", "", "a/b", "  PASS  one", "", "ab", "  FAIL  broken", "", "failures:",
      "", "  --- t/ab/broken.retest ---",
      "  frontmatter error: missing opening --- frontmatter delimiter", "",
      "test result: FAILED. 2 passed, 1 failed (of 3)"] := by
  decide +kernel

end Command

end RegexTemplate
