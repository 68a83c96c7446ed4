import RegexTemplate.Text.Infix
import RegexTemplate.Toml.Cursor
import RegexTemplate.Toml.Decoding

/-!
# Frontmatter

A test case begins with its frontmatter between two lines of three hyphens; behind the second stands
the body.  Marks of the byte order in front are skipped.  The frontmatter ends at the first line
feed that three hyphens follow, and neither the line break before it nor the one behind the hyphens
belongs to a part.
-/

namespace RegexTemplate.TestCase

/-- The two parts of a test case. -/
structure Parts where
  frontmatter : String
  body : String
deriving DecidableEq, Repr

/-- The reasons why a text is no test case. -/
inductive FrontmatterError where
  | missingOpening
  | missingClosing
  /-- The frontmatter is no document. -/
  | malformed (fault : Toml.Fault)
  /-- The frontmatter is no configuration. -/
  | misfit (reason : Toml.Misfit)

/-- What a reason is called in a message. -/
def FrontmatterError.message : FrontmatterError → String
  | .missingOpening => "missing opening --- frontmatter delimiter"
  | .missingClosing => "missing closing --- frontmatter delimiter"
  | .malformed fault => "TOML parse error: " ++ fault.message
  | .misfit reason => "TOML parse error: " ++ reason.message

/-- The three hyphens. -/
def hyphens : List Char := ['-', '-', '-']

/-- A text without one line break in front. -/
def dropLineBreak : List Char → List Char
  | '\r' :: '\n' :: rest => rest
  | '\n' :: rest => rest
  | cs => cs

/-- A text without the carriage returns at its end. -/
def dropReturns (cs : List Char) : List Char := (cs.reverse.dropWhile (· == '\r')).reverse

/-- The parts of a test case, as rows of characters. -/
def splitChars (cs : List Char) : Except FrontmatterError (List Char × List Char) :=
  match Text.dropFront? hyphens (cs.dropWhile (· == '\ufeff')) with
  | none => .error .missingOpening
  | some opened =>
    match Text.splitAtFirst? ('\n' :: hyphens) (dropLineBreak opened) with
    | none => .error .missingClosing
    | some (frontmatter, closed) => .ok (dropReturns frontmatter, dropLineBreak closed)

/-- Splits the text of a test case. -/
def Parts.ofText (text : String) : Except FrontmatterError Parts := do
  let (frontmatter, body) ← splitChars text.toList
  return ⟨String.ofList frontmatter, String.ofList body⟩

end RegexTemplate.TestCase
