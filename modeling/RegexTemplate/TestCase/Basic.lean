import RegexTemplate.Definition.Basic
import RegexTemplate.TestCase.Config

/-!
# Test cases

A test case is a definition with expectations.  It passes if an error is expected and occurs, or if
none is expected and everything that is expected of the template holds.
-/

namespace RegexTemplate

/-- A definition with what is expected of it. -/
structure TestCase where
  config : TestCase.Config
  body : String

namespace TestCase

/-- The reasons why a test case fails. -/
inductive Failure where
  /-- There are errors, and none is expected. -/
  | unexpectedErrors (messages : List String)
  /-- There are errors, and another one is expected. -/
  | otherErrors (expected : String) (messages : List String)
  | noEntry
  | undefinedTemplate (name : String)
  | unassignedMismatch (expected actual : List String)
  /-- There is no error, and one is expected. -/
  | missingError (expected compiled : String)
  | outputMismatch (expected actual : String)
  | invalidRegex (error : TemplateError)
  | missingMatch (input : String)
  | unexpectedMatch (input : String)
deriving DecidableEq, Repr

/-- What a reason is called in a report. -/
def Failure.message : Failure → String
  | .unexpectedErrors messages => "unexpected error: " ++ "; ".intercalate messages
  | .otherErrors expected messages =>
    "expected error containing \"" ++ expected ++ "\", got: " ++ "; ".intercalate messages
  | .noEntry => "definition has no entry template"
  | .undefinedTemplate name => "template '" ++ name ++ "' is not defined"
  | .unassignedMismatch expected actual =>
    "unassigned mismatch\n  expected: " ++ Text.quotedList expected ++
      "\n  actual:   " ++ Text.quotedList actual
  | .missingError expected compiled =>
    "expected error containing \"" ++ expected ++ "\", but compiled to: " ++ compiled
  | .outputMismatch expected actual =>
    "output mismatch\n  expected: " ++ expected ++ "\n  actual:   " ++ actual
  | .invalidRegex error => error.message
  | .missingMatch input => "expected a match for \"" ++ input ++ "\""
  | .unexpectedMatch input => "expected no match for \"" ++ input ++ "\""

/-- Whether a test case passes, and why not. -/
inductive Outcome where
  | pass
  | fail (reason : Failure)
deriving DecidableEq, Repr

/-- Reads a test case. -/
def parse (text : String) : Except FrontmatterError TestCase := do
  let parts ← Parts.ofText text
  return ⟨← Config.parse parts.frontmatter, parts.body⟩

/-- The outcome where there are errors. -/
def Config.judgeErrors (config : Config) (messages : List String) : Outcome :=
  match config.expectError with
  | none => .fail (.unexpectedErrors messages)
  | some expected =>
    if messages.any (Text.occursIn expected) then .pass else .fail (.otherErrors expected messages)

/-- The outcome of the texts that an expression has to match and to reject. -/
def Config.judgeInputs (config : Config) (regex : Regex) : Outcome :=
  match config.matched.find? fun input => !regex.isMatch input with
  | some input => .fail (.missingMatch input)
  | none =>
    match config.rejected.find? regex.isMatch with
    | some input => .fail (.unexpectedMatch input)
    | none => .pass

/-- The outcome where a template has been put into a text. -/
def Config.judgeCompiled (config : Config) (compiled : String) : Outcome :=
  match config.expectError with
  | some expected => .fail (.missingError expected compiled)
  | none =>
    match config.expectOutput.filter (· ≠ compiled) with
    | some expected => .fail (.outputMismatch expected compiled)
    | none =>
      if config.matched.isEmpty && config.rejected.isEmpty then .pass
      else
        match (Pattern.ofSource compiled).toRegex with
        | .error e => .fail (.invalidRegex e)
        | .ok regex => config.judgeInputs regex

/-- The outcome of one template of a definition. -/
def Config.judgeTemplate (config : Config) (shelf : Shelf) (template : Template) : Outcome :=
  match config.expectUnassigned.filter (· ≠ template.unassigned) with
  | some expected => .fail (.unassignedMismatch expected template.unassigned)
  | none =>
    match shelf.compileSource template with
    | .error e => config.judgeErrors [e.message]
    | .ok compiled => config.judgeCompiled compiled

/-- The outcome of a definition. -/
def Config.judgeDefinition (config : Config) (definition : Definition) : Outcome :=
  match config.entry <|> definition.entryName? with
  | none => .fail .noEntry
  | some name =>
    match definition.get? name with
    | none => .fail (.undefinedTemplate name)
    | some template => config.judgeTemplate definition.shelf template

/-- Checks a definition against what is expected of it.  An error may be expected by its message, and the
words for a text that is no document are those of whoever reads documents. -/
def evaluateIn (words : Toml.Fault → String) (config : Config) (body : String) : Outcome :=
  match Definition.parse body 0 with
  | .error errors => config.judgeErrors (errors.map (·.messageIn words))
  | .ok definition => config.judgeDefinition definition

/-- Checks a definition against what is expected of it. -/
def evaluate (config : Config) (body : String) : Outcome :=
  evaluateIn Toml.Fault.message config body

end TestCase

end RegexTemplate
