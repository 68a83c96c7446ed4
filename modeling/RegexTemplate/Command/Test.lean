import RegexTemplate.Command.Arguments
import RegexTemplate.Command.Response
import RegexTemplate.Suite.Report

/-!
# Running test files

The test files below a directory are run by category, or a single file by itself, and a report is
written; or else the categories are listed.
-/

namespace RegexTemplate.Command

open Suite (Category)

/-- The message where there are no test files. -/
def nothingFound (path : String) : String :=
  "no " ++ TestCase.fileEnding ++ " files found in " ++ path

/-- The categories of the test files below what a path leads to. -/
def categories (found : Except FileFault FileTree) : List Category :=
  match found with
  | .ok tree => Suite.discover tree
  | .error _ => []

/-- The answer to a run that has been made. -/
def answerRun (colour : Bool) (warnings : List String) (parts : List Suite.Part) : Response :=
  { code := if (Suite.failures parts).isEmpty then 0 else 1
    messages := warnings ++ Suite.report colour parts }

/-- Runs the categories that are asked for. -/
def runCategories (colour : Bool) (options : TestOptions) (all : List Category) : Response :=
  let (selected, vain) := Suite.select all options.categories
  let warnings := vain.map (Suite.warning all)
  if selected.isEmpty then .failure (warnings ++ ["no matching categories found"])
  else answerRun colour warnings (selected.map (Suite.runCategory options.path))

/-- Runs what a path leads to. -/
def runTests (colour : Bool) (options : TestOptions) (found : Except FileFault FileTree) :
    Response :=
  match found with
  | .ok (.file content) =>
    answerRun colour [] [⟨none, [Suite.runFile options.path (.file content)]⟩]
  | _ =>
    match categories found with
    | [] => .failure [nothingFound options.path]
    | all => runCategories colour options all

/-- Lists the categories of what a path leads to. -/
def listCategories (options : TestOptions) (found : Except FileFault FileTree) : Response :=
  let line := fun (category : Category) =>
    "  " ++ category.label ++ " (" ++ toString category.files.length ++ " tests)"
  let messages :=
    match found with
    | .ok (.file _) => ["(single file, no categories)"]
    | _ =>
      match categories found with
      | [] => [nothingFound options.path]
      | all => "available categories:" :: all.map line
  { code := 0, messages }

/-- Does what is asked with what a path leads to. -/
def runTest (colour : Bool) (options : TestOptions) (found : Except FileFault FileTree) :
    Response :=
  if options.listCategories then listCategories options found
  else runTests colour options found

end RegexTemplate.Command
