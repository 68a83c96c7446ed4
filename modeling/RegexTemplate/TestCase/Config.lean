import RegexTemplate.TestCase.Frontmatter
import RegexTemplate.Toml.Document

/-!
# Expectations of a test case

The frontmatter says which template is tested and what is expected of it.  Whatever it leaves out is
not checked.
-/

namespace RegexTemplate.TestCase

/-- What is expected of a template. -/
structure Config where
  description : Option String := none
  /-- The template that is tested, if it is not the entry. -/
  entry : Option String := none
  /-- The text that the template is put into. -/
  expectOutput : Option String := none
  /-- A text that occurs in an error. -/
  expectError : Option String := none
  /-- The names that are open. -/
  expectUnassigned : Option (List String) := none
  /-- Texts in which the expression has a match. -/
  matched : List String := []
  /-- Texts in which it has none. -/
  rejected : List String := []
deriving DecidableEq, Repr

/-- The fields of a configuration. -/
def configFields : List String :=
  ["description", "entry", "expect_output", "expect_error", "expect_unassigned", "matches",
    "rejects"]

/-- Decodes one more field. -/
def Config.add (config : Config) (entry : Toml.Entry Toml.Value) : Toml.Decoded Config := do
  let text := entry.value.value.decodeText (some entry.span)
  match entry.key.name with
  | "description" => return { config with description := some (← text) }
  | "entry" => return { config with entry := some (← text) }
  | "expect_output" => return { config with expectOutput := some (← text) }
  | "expect_error" => return { config with expectError := some (← text) }
  | "expect_unassigned" => return { config with expectUnassigned := some (← entry.decodeTexts) }
  | "matches" => return { config with matched := ← entry.decodeTexts }
  | "rejects" => return { config with rejected := ← entry.decodeTexts }
  | _ => Toml.unknownField entry.key configFields

/-- Reads a configuration. -/
def Config.parse (frontmatter : String) : Except FrontmatterError Config := do
  let entries ← (Toml.parse frontmatter).mapError fun e => .malformed e.fault
  (entries.foldlM Config.add {}).mapError fun mismatch => .misfit mismatch.misfit

end RegexTemplate.TestCase
