import RegexTemplate.Files.Path

/-!
# Labels

A test case is reported under its description, or else under the name of its file.
-/

namespace RegexTemplate.TestCase

/-- How the name of a test file ends. -/
def fileEnding : String := ".retest"

/-- What a test case is called in a report. -/
def label (description : Option String) (path : String) : String :=
  description.getD (((Files.fileName? path).bind (Files.dropSuffix? fileEnding)).getD "?")

end RegexTemplate.TestCase
