import RegexTemplate.Pattern

/-!
# Fragments

What a template is built from, and what a placeholder is filled with: the text of a pattern, in
which markers are placeholders; a raw text that matches only itself; or another template that is
finished and nested as it is.
-/

namespace RegexTemplate

/-- An input of a template. -/
inductive Fragment where
  /-- The text of a pattern, which is split at its markers. -/
  | pattern (pattern : Pattern)
  /-- A raw text, which is escaped and holds no markers. -/
  | literal (raw : String)
  /-- The finished template at a place of the shelf. -/
  | template (place : Nat)
deriving DecidableEq, Repr

/-- What the kind of a fragment is called. -/
def Fragment.kind : Fragment → String
  | .pattern _ => "pattern"
  | .literal _ => "literal"
  | .template _ => "template"

end RegexTemplate
