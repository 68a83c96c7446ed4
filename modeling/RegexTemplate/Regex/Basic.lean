import RegexTemplate.Regex.Parse
import RegexTemplate.Regex.Search

/-!
# Compiled regular expressions

A regular expression is compiled from its text in given modes, and then searched for in any number
of texts.
-/

namespace RegexTemplate

/-- A text that has been accepted as a regular expression, with its program. -/
structure Regex where
  source : String
  program : Regex.Program

namespace Regex

/-- Compiles a text in given modes. -/
def compile (source : String) (modes : Modes) : Except Fault Regex := do
  let e ← Expr.parse modes source
  return ⟨source, ← Program.ofExpr e⟩

/-- The byte offsets of the leftmost match in a text. -/
def find? (regex : Regex) (text : String) : Option (Nat × Nat) := regex.program.find? text

/-- Whether a text has a match. -/
def isMatch (regex : Regex) (text : String) : Bool := (regex.find? text).isSome

end Regex

end RegexTemplate
