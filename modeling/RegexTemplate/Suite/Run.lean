import RegexTemplate.Suite.Selection
import RegexTemplate.TestCase.Basic

/-!
# Running test files

Each file is read as a test case and evaluated.  A run is a success if every file passes.
-/

namespace RegexTemplate.Suite

/-- The reasons why a test file fails. -/
inductive Trouble where
  | unreadable (fault : FileFault)
  | noTestCase (error : TestCase.FrontmatterError)
  | failed (failure : TestCase.Failure)

/-- What a reason is called in a report. -/
def Trouble.message : Trouble → String
  | .unreadable fault => "cannot read file: " ++ fault.message
  | .noTestCase error => "frontmatter error: " ++ error.message
  | .failed failure => failure.message

/-- What has come of a test file: the reason why it fails, or none if it passes. -/
structure Result where
  path : String
  description : Option String
  trouble : Option Trouble

/-- What a result is called in a report. -/
def Result.label (result : Result) : String := TestCase.label result.description result.path

/-- Whether a file passes. -/
def Result.passes (result : Result) : Bool := result.trouble.isNone

/-- Evaluates a test file. -/
def runFile (path : String) (file : FileTree) : Result :=
  match file.readText with
  | .error fault => ⟨path, none, some (.unreadable fault)⟩
  | .ok text =>
    match TestCase.parse text with
    | .error error => ⟨path, none, some (.noTestCase error)⟩
    | .ok test =>
      match TestCase.evaluate test.config test.body with
      | .pass => ⟨path, test.config.description, none⟩
      | .fail failure => ⟨path, test.config.description, some (.failed failure)⟩

/-- What has come of the files of a category.  A file that is run by itself has none. -/
structure Part where
  label : Option String
  results : List Result

/-- Evaluates the files of a category below a root. -/
def runCategory (root : String) (category : Category) : Part :=
  { label := some category.label
    results := category.files.map fun file => runFile (file.path root) (.file file.content) }

/-- The results of a run in order. -/
def results (parts : List Part) : List Result := parts.flatMap (·.results)

/-- The results of the files that fail. -/
def failures (parts : List Part) : List Result := (results parts).filter fun r => !r.passes

/-- How many files pass. -/
def passed (parts : List Part) : Nat := ((results parts).filter Result.passes).length

end RegexTemplate.Suite
