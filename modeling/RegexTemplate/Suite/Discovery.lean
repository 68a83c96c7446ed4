import RegexTemplate.Files.Tree
import RegexTemplate.TestCase.Label
import Std.Data.TreeMap

/-!
# Discovery of test files

The test files below a directory are grouped by category: the directories on the way, joined by
slashes.  Categories are in ascending order, and so are the paths of the files in each of them.
-/

namespace RegexTemplate.Suite

/-- A test file: the directories on the way to it, its name and its bytes. -/
structure TestFile where
  folders : List String
  name : String
  content : ByteArray

namespace TestFile

/-- The names on the way to a file, its own name last. -/
def names (file : TestFile) : List String := file.folders ++ [file.name]

/-- The path of a file below a root. -/
def path (file : TestFile) (root : String) : String := file.names.foldl Files.joinPath root

/-- The category of a file.  Backslashes in it become slashes. -/
def category (file : TestFile) : String :=
  ("/".intercalate file.folders).map fun c => if c = '\\' then '/' else c

end TestFile

/-- Whether a name is that of a test file. -/
def isTestName (name : String) : Bool := (Files.dropSuffix? TestCase.fileEnding name).isSome

mutual

/-- The test files below a tree. -/
def testFiles (folders : List String) : FileTree → List TestFile
  | .file _ => []
  | .directory entries => testFilesAmong folders entries

/-- The test files among some entries and below them. -/
def testFilesAmong (folders : List String) : List (String × FileTree) → List TestFile
  | [] => []
  | entry :: entries => testFilesAt folders entry ++ testFilesAmong folders entries

/-- The test files at an entry. -/
def testFilesAt (folders : List String) : String × FileTree → List TestFile
  | (name, .file content) => if isTestName name then [⟨folders, name, content⟩] else []
  | (name, .directory entries) => testFilesAmong (folders ++ [name]) entries

end

/-- A category with its test files. -/
structure Category where
  name : String
  files : List TestFile

/-- The files of each category. -/
def group (files : List TestFile) : Std.TreeMap String (List TestFile) :=
  files.foldl (fun groups file => groups.insert file.category
    (groups.getD file.category [] ++ [file])) ∅

/-- Files in the ascending order of their paths. -/
def sortFiles (files : List TestFile) : List TestFile :=
  files.mergeSort fun a b => (List.compareLex compare a.names b.names).isLE

/-- The categories of the test files below a directory. -/
def discover (tree : FileTree) : List Category :=
  (group (testFiles [] tree)).toList.map fun (name, files) => ⟨name, sortFiles files⟩

/-- What a category is called in a report. -/
def Category.label (category : Category) : String :=
  if category.name.isEmpty then "(root)" else category.name

/-- The labels of categories, as a message lists them. -/
def labels (categories : List Category) : String :=
  ", ".intercalate (categories.map Category.label)

end RegexTemplate.Suite
