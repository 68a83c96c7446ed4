import Mathlib
import RegexTemplate.Suite.Report

/-!
# What a report shows

A run is laid out in rows, one for each test file: its category, its path and its bytes.  What a report on
some rows shows is said here text by text, without the functions that write it (`Reported`).  Every row has
a line with its mark and with what its test is called (`Row.Line`), and the lines stand under the titles of
the categories (`Listed`).  Behind them every row that fails is listed once more, with the lines of its
reason (`FailureList`, `HasLines`), and the conclusion says how many rows pass and how many fail.

A row has a reason to fail exactly if it does not pass (`exists_failsFor_iff`), so what is listed as failing
is what is marked as failing.

Main statement: `reported_report`.
-/

namespace RegexTemplate.Suite

variable {colour : Bool} {last : Option String} {name description reason : String}
  {content : ByteArray}

/-! ## Files that pass -/

/-- Some bytes are the text of a test case that passes. -/
def Passes (content : ByteArray) : Prop :=
  ∃ text test, String.fromUTF8? content = some text ∧ TestCase.parse text = .ok test ∧
    TestCase.evaluate test.config test.body = .pass

theorem passes_runFile_iff (path : String) (content : ByteArray) :
    (runFile path (.file content)).passes ↔ Passes content := by
  unfold runFile FileTree.readText Passes Result.passes
  dsimp only
  cases htext : String.fromUTF8? content with
  | none => simp
  | some text =>
      dsimp only
      cases htest : TestCase.parse text with
      | error e => simp [htest]
      | ok test =>
          dsimp only
          cases houtcome : TestCase.evaluate test.config test.body with
          | pass => simp [htest, houtcome]
          | fail failure => simp [htest, houtcome]

instance : Decidable (Passes content) := decidable_of_iff _ (passes_runFile_iff "" content)

/-! ## Rows -/

/-- A test file that is to be run. -/
structure Row where
  category : String
  path : String
  content : ByteArray

namespace Row

variable {row : Row}

/-- What comes of a row. -/
def result (row : Row) : Result := runFile row.path (.file row.content)

theorem passes_result_iff (row : Row) : row.result.passes ↔ Passes row.content :=
  passes_runFile_iff row.path row.content

/-- A row is a test case that describes itself. -/
def Describes (row : Row) (description : String) : Prop :=
  ∃ text test, String.fromUTF8? row.content = some text ∧ TestCase.parse text = .ok test ∧
    test.config.description = some description

/-- What the test in a row is called: its description, or else the name of its file without the ending. -/
inductive Called (row : Row) : String → Prop
  | described {description : String} (hdescribes : row.Describes description) : row.Called description
  | named {name : String} (hnone : ∀ description, ¬ row.Describes description)
      (hname : Files.fileName? row.path = some (name ++ ".retest")) : row.Called name
  | nameless (hnone : ∀ description, ¬ row.Describes description)
      (hname : ∀ name, Files.fileName? row.path ≠ some (name ++ ".retest")) : row.Called "?"

/-- How a row is marked. -/
def mark (colour : Bool) (row : Row) : String :=
  if Passes row.content then (if colour then "\x1b[32mPASS\x1b[0m" else "PASS")
  else (if colour then "\x1b[31mFAIL\x1b[0m" else "FAIL")

/-- The line of a row: its mark, and what its test is called. -/
def Line (colour : Bool) (row : Row) (line : String) : Prop :=
  ∃ label, row.Called label ∧ line = "  " ++ row.mark colour ++ "  " ++ label

/-- Why a row fails: its bytes are no text, its text is no test case, or the test case fails. -/
inductive FailsFor (row : Row) : String → Prop
  | unreadable (htext : String.fromUTF8? row.content = none) :
      row.FailsFor "cannot read file: stream did not contain valid UTF-8"
  | noTestCase {text : String} {error : TestCase.FrontmatterError}
      (htext : String.fromUTF8? row.content = some text) (hparse : TestCase.parse text = .error error) :
      row.FailsFor ("frontmatter error: " ++ error.message)
  | failed {text : String} {test : TestCase} {failure : TestCase.Failure}
      (htext : String.fromUTF8? row.content = some text) (hparse : TestCase.parse text = .ok test)
      (houtcome : TestCase.evaluate test.config test.body = .fail failure) :
      row.FailsFor failure.message

/-- The reason that is given with the result is why the row fails. -/
theorem failsFor_of_trouble {trouble : Trouble} (h : row.result.trouble = some trouble) :
    row.FailsFor trouble.message := by
  unfold result runFile FileTree.readText at h
  dsimp only at h
  cases htext : String.fromUTF8? row.content with
  | none =>
      rw [htext] at h
      cases h
      exact .unreadable htext
  | some text =>
      rw [htext] at h
      dsimp only at h
      cases hparse : TestCase.parse text with
      | error error =>
          rw [hparse] at h
          cases h
          exact .noTestCase htext hparse
      | ok test =>
          rw [hparse] at h
          dsimp only at h
          cases houtcome : TestCase.evaluate test.config test.body with
          | pass =>
              rw [houtcome] at h
              cases h
          | fail failure =>
              rw [houtcome] at h
              cases h
              exact .failed htext hparse houtcome

theorem FailsFor.not_passes (h : row.FailsFor reason) : ¬ Passes row.content := by
  intro hpasses
  obtain ⟨text, test, htext, htest, hpass⟩ := hpasses
  cases h with
  | unreadable hnone =>
      rw [htext] at hnone
      cases hnone
  | noTestCase hsome herror =>
      cases htext.symm.trans hsome
      rw [htest] at herror
      cases herror
  | failed hsome hparse hfail =>
      cases htext.symm.trans hsome
      cases htest.symm.trans hparse
      rw [hpass] at hfail
      cases hfail

/-- A row has a reason to fail exactly if it does not pass. -/
theorem exists_failsFor_iff : (∃ reason, row.FailsFor reason) ↔ ¬ Passes row.content := by
  constructor
  · intro hgiven
    obtain ⟨reason, hreason⟩ := hgiven
    exact hreason.not_passes
  · intro hfails
    rw [← passes_result_iff, Result.passes, Option.isNone_iff_eq_none] at hfails
    obtain ⟨trouble, htrouble⟩ := Option.ne_none_iff_exists'.1 hfails
    exact ⟨_, failsFor_of_trouble htrouble⟩

/-- The description of a result is that of the test case in the row. -/
theorem description_result_eq_some_iff :
    row.result.description = some description ↔ row.Describes description := by
  unfold result runFile FileTree.readText Describes
  dsimp only
  cases htext : String.fromUTF8? row.content with
  | none => simp
  | some text =>
      dsimp only
      cases htest : TestCase.parse text with
      | error e => simp [htest]
      | ok test =>
          dsimp only
          cases houtcome : TestCase.evaluate test.config test.body with
          | pass => simp [htest]
          | fail failure => simp [htest]

theorem path_result (row : Row) : row.result.path = row.path := by
  unfold result runFile
  repeat' split
  all_goals rfl

end Row

theorem dropSuffix?_eq_some_iff {ending text : String} :
    Files.dropSuffix? ending text = some name ↔ text = name ++ ending := by
  rw [Files.dropSuffix?, ← String.toList_inj, String.toList_append]
  constructor
  · intro h
    rw [Option.ite_none_right_eq_some, Option.some.injEq] at h
    obtain ⟨hsuffix, rfl⟩ := h
    rw [String.toList_ofList]
    exact (List.suffix_iff_eq_append.1 (List.isSuffixOf_iff_suffix.1 hsuffix)).symm
  · intro h
    have hsuffix : ending.toList.isSuffixOf text.toList :=
      List.isSuffixOf_iff_suffix.2 ⟨name.toList, h.symm⟩
    rw [if_pos hsuffix, h]
    simp

theorem Row.called_label (row : Row) : row.Called row.result.label := by
  rw [Result.label, TestCase.label, row.path_result]
  cases hdescription : row.result.description with
  | some description => exact .described (description_result_eq_some_iff.1 hdescription)
  | none =>
      have hnone : ∀ description, ¬ row.Describes description := by
        intro description hdescribes
        rw [description_result_eq_some_iff.2 hdescribes] at hdescription
        cases hdescription
      rw [Option.getD_none]
      cases hname : (Files.fileName? row.path).bind (Files.dropSuffix? TestCase.fileEnding) with
      | some name =>
          obtain ⟨file, hfile, hdrop⟩ := Option.bind_eq_some_iff.1 hname
          rw [dropSuffix?_eq_some_iff] at hdrop
          exact .named hnone (hfile.trans (congrArg some hdrop))
      | none =>
          refine .nameless hnone fun name hfile => ?_
          have hdrop : Files.dropSuffix? TestCase.fileEnding (name ++ ".retest") = some name :=
            dropSuffix?_eq_some_iff.2 rfl
          rw [hfile, Option.bind_some, hdrop] at hname
          cases hname

theorem Row.line_resultLine (colour : Bool) (row : Row) :
    row.Line colour (resultLine colour row.result) := by
  refine ⟨_, row.called_label, ?_⟩
  unfold resultLine Row.mark paint
  simp only [row.passes_result_iff]
  cases colour <;> rfl

/-! ## The lines of a text -/

/-- A text has some lines: each ends with a line feed or with the text, and a carriage return in front of
the line feed is no part of it. -/
inductive HasLines : List Char → List String → Prop
  | nil : HasLines [] []
  | last {line : List Char} (hline : line ≠ []) (hfeed : '\n' ∉ line) :
      HasLines line [String.ofList line]
  | feed {line rest : List Char} {lines : List String} (hfeed : '\n' ∉ line)
      (hreturn : line.getLast? ≠ some '\r') (hrest : HasLines rest lines) :
      HasLines (line ++ '\n' :: rest) (String.ofList line :: lines)
  | returnFeed {line rest : List Char} {lines : List String} (hfeed : '\n' ∉ line)
      (hrest : HasLines rest lines) :
      HasLines (line ++ '\r' :: '\n' :: rest) (String.ofList line :: lines)

theorem lines_of_not_mem {line : List Char} (hfeed : '\n' ∉ line) :
    lines (String.ofList line) = if line = [] then [] else [String.ofList line] := by
  rw [lines, Text.pieces, String.toList_ofList, List.splitOn_eq_singleton hfeed]
  simp [String.isEmpty_iff]

theorem lines_append_feed {line rest : List Char} (hfeed : '\n' ∉ line) :
    lines (String.ofList (line ++ '\n' :: rest)) =
      dropReturn (String.ofList line) :: lines (String.ofList rest) := by
  have hsome : (rest.splitOn '\n').map String.ofList ≠ [] := by
    simp [List.splitOn_ne_nil]
  rw [lines, lines, Text.pieces, Text.pieces, String.toList_ofList, String.toList_ofList,
    List.splitOn_append_cons_self_of_not_mem hfeed, List.map_cons,
    List.dropLast_cons_of_ne_nil hsome, List.getLast?_cons_of_ne_nil hsome, List.map_cons,
    List.cons_append]

theorem dropReturn_append_return (line : List Char) :
    dropReturn (String.ofList (line ++ ['\r'])) = String.ofList line := by
  simp [dropReturn]

theorem dropReturn_of_getLast? {line : List Char} (hreturn : line.getLast? ≠ some '\r') :
    dropReturn (String.ofList line) = String.ofList line := by
  rw [dropReturn, String.toList_ofList]
  split
  · next rest hreverse =>
      rw [List.getLast?_eq_head?_reverse, hreverse] at hreturn
      exact absurd rfl hreturn
  · rfl

theorem hasLines_lines (text : String) : HasLines text.toList (lines text) := by
  obtain ⟨chars, rfl⟩ : ∃ chars, text = String.ofList chars := ⟨_, String.ofList_toList.symm⟩
  rw [String.toList_ofList]
  -- each line feed ends a line, and what is behind it is shorter
  induction hlength : chars.length using Nat.strong_induction_on generalizing chars with
  | _ length ih =>
      by_cases hfeed : '\n' ∈ chars
      · obtain ⟨line, rest, rfl, hline⟩ := List.eq_append_cons_of_mem hfeed
        rw [lines_append_feed hline]
        have hrest : HasLines rest (lines (String.ofList rest)) := by
          refine ih rest.length ?_ rest rfl
          rw [← hlength, List.length_append, List.length_cons]
          omega
        by_cases hreturn : line.getLast? = some '\r'
        · obtain ⟨front, rfl⟩ := List.getLast?_eq_some_iff.1 hreturn
          rw [dropReturn_append_return, List.append_assoc]
          exact .returnFeed (fun hmem => hline (List.mem_append_left _ hmem)) hrest
        · rw [dropReturn_of_getLast? hreturn]
          exact .feed hline hreturn hrest
      · rw [lines_of_not_mem hfeed]
        split
        · next hnil =>
            rw [hnil]
            exact .nil
        · next hsome => exact .last hsome hfeed

/-! ## Reports -/

/-- The rows that pass. -/
def passing (rows : List Row) : List Row := rows.filter fun row => Passes row.content

/-- The rows that fail. -/
def failing (rows : List Row) : List Row := rows.filter fun row => ¬ Passes row.content

variable {row : Row} {rows rest : List Row} {listing : List String}

theorem length_passing_add_length_failing (rows : List Row) :
    (passing rows).length + (failing rows).length = rows.length := by
  have hsplit : rows.length = _ :=
    List.length_eq_length_filter_add fun row : Row => decide (Passes row.content)
  simp only [passing, failing, decide_not]
  exact hsplit.symm

theorem failing_eq_nil_iff : failing rows = [] ↔ ∀ row ∈ rows, Passes row.content := by
  simp [failing, List.filter_eq_nil_iff]

/-- The title of a category. -/
def titleOf (colour : Bool) (category : String) : String :=
  let name := if category = "" then "(root)" else category
  if colour then "\x1b[1m" ++ name ++ "\x1b[0m" else name

/-- Rows are listed, each by its line, with a title in front of the first one of each category.  None stands
there if the category is the last one before these rows. -/
inductive Listed (colour : Bool) : (last : Option String) → List Row → List String → Prop
  | nil {last : Option String} : Listed colour last [] []
  | same {row : Row} {rows : List Row} {line : String} {lines : List String}
      (hline : row.Line colour line) (hrest : Listed colour (some row.category) rows lines) :
      Listed colour (some row.category) (row :: rows) (line :: lines)
  | next {last : Option String} {row : Row} {rows : List Row} {line : String} {lines : List String}
      (hlast : last ≠ some row.category) (hline : row.Line colour line)
      (hrest : Listed colour (some row.category) rows lines) :
      Listed colour last (row :: rows) ("" :: titleOf colour row.category :: line :: lines)

/-- The rows that fail are listed in their order, each under its path by the lines of its reason. -/
inductive FailureList : List Row → List String → Prop
  | nil : FailureList [] []
  | pass {row : Row} {rows : List Row} {lines : List String} (hpasses : Passes row.content)
      (hrest : FailureList rows lines) : FailureList (row :: rows) lines
  | fail {row : Row} {rows : List Row} {reason : String} {own lines : List String}
      (hreason : row.FailsFor reason) (hown : HasLines reason.toList own)
      (hrest : FailureList rows lines) :
      FailureList (row :: rows)
        ("" :: ("  --- " ++ row.path ++ " ---") :: (own.map ("  " ++ ·) ++ lines))

/-- The last line of a report, with how many rows pass and how many fail. -/
def conclusion (colour : Bool) (passed failed : Nat) : String :=
  if failed = 0 then
    (if colour then "test result: \x1b[32mok\x1b[0m. " else "test result: ok. ") ++
      toString passed ++ " passed, 0 failed"
  else
    (if colour then "test result: \x1b[31mFAILED\x1b[0m. " else "test result: FAILED. ") ++
      toString passed ++ " passed, " ++ toString failed ++ " failed (of " ++
      toString (passed + failed) ++ ")"

/-- A report shows some rows: the list of all, the list of those that fail if there are any, and the
conclusion. -/
def Reported (colour : Bool) (last : Option String) (rows : List Row) (report : List String) : Prop :=
  ∃ listing failures, Listed colour last rows listing ∧ FailureList rows failures ∧
    report = listing ++ (if failing rows = [] then [] else "" :: "failures:" :: failures) ++
      ["", conclusion colour (passing rows).length (failing rows).length]

theorem paint_label (colour : Bool) (category : Category) :
    paint colour "1" category.label = titleOf colour category.name := by
  have hlabel : category.label = if category.name = "" then "(root)" else category.name := by
    simp [Category.label]
  rw [paint, titleOf, hlabel]
  cases colour
  · rfl
  · simp only [if_true, ← String.toList_inj, String.toList_append]
    rfl

theorem summary_eq_conclusion (colour : Bool) (passed failed : Nat) :
    summary colour passed failed = conclusion colour passed failed := by
  unfold summary conclusion paint
  cases colour <;> rfl

/-- Rows of one category follow each other without a title. -/
theorem Listed.append_left (hrows : ∀ row ∈ rows, row.category = name)
    (hrest : Listed colour (some name) rest listing) : Listed colour (some name) (rows ++ rest)
      (rows.map (fun row => resultLine colour row.result) ++ listing) := by
  induction rows with
  | nil => exact hrest
  | cons row rows ih =>
      obtain ⟨rfl, hrows⟩ := List.forall_mem_cons.1 hrows
      exact .same (row.line_resultLine colour) (ih hrows)

/-- The failures of the rows. -/
theorem failureList_failing (rows : List Row) :
    FailureList rows ((failing rows).flatMap fun row => failureLines row.result) := by
  induction rows with
  | nil => exact .nil
  | cons row rows ih =>
      by_cases hpasses : Passes row.content
      · rw [failing, List.filter_cons_of_neg (by simpa using hpasses)]
        exact .pass hpasses ih
      · rw [failing, List.filter_cons_of_pos (by simpa using hpasses), List.flatMap_cons]
        have htrouble : row.result.trouble ≠ none := by
          rwa [← Row.passes_result_iff, Result.passes, Option.isNone_iff_eq_none] at hpasses
        obtain ⟨trouble, htrouble⟩ := Option.ne_none_iff_exists'.1 htrouble
        rw [failureLines, htrouble, row.path_result]
        exact .fail (Row.failsFor_of_trouble htrouble) (hasLines_lines _) ih

variable {parts : List Part}

theorem failures_eq (hresults : results parts = rows.map Row.result) :
    failures parts = (failing rows).map Row.result := by
  rw [failures, hresults, List.filter_map, failing]
  congr 1
  refine List.filter_congr fun row _ => ?_
  simp [Function.comp, ← Row.passes_result_iff]

theorem passed_eq (hresults : results parts = rows.map Row.result) :
    passed parts = (passing rows).length := by
  rw [passed, hresults, List.filter_map, List.length_map, passing]
  congr 1
  refine List.filter_congr fun row _ => ?_
  simp [Function.comp, ← Row.passes_result_iff]

/-- **A report shows its rows**: each of them marked, those that fail once more with their reasons, and how
many pass and fail. -/
theorem reported_report (hresults : results parts = rows.map Row.result)
    (hlisted : Listed colour last rows (parts.flatMap (partLines colour))) :
    Reported colour last rows (report colour parts) := by
  refine ⟨_, _, hlisted, failureList_failing rows, ?_⟩
  unfold report
  dsimp only
  rw [failures_eq hresults, passed_eq hresults, summary_eq_conclusion, List.length_map,
    List.flatMap_map]
  simp only [List.isEmpty_iff, List.map_eq_nil_iff, List.cons_append, List.nil_append]

end RegexTemplate.Suite
