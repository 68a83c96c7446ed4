import RegexTemplate.Fragment
import RegexTemplate.Toml.Tree

/-!
# Values as fragments

A definition writes a fragment as a text of the form `/source/flags`, or as a table that holds a
pattern, with its flags or without, or a literal, or the name of a template.  The order of the keys
in the table does not matter.
-/

namespace RegexTemplate.Definition

open Toml (Value)

/-- What the type of a value is called. -/
def typeName : Value → String
  | .string _ => "string"
  | .integer _ => "integer"
  | .float _ => "float"
  | .boolean _ => "boolean"
  | .datetime _ => "datetime"
  | .array _ => "array"
  | .rows _ => "array"
  | .table _ _ => "table"

/-- The keys of a table in ascending order. -/
def sortedKeys (entries : List (Toml.Entry Value)) : List String :=
  (entries.map (·.key.name)).mergeSort fun a b => a ≤ b

/-- The text that stands under a key. -/
def textAt? (entries : List (Toml.Entry Value)) (key : String) : Option String :=
  match entries.find? (·.key.name == key) with
  | some ⟨_, .string text, _⟩ => some text
  | _ => none

/-- The error for a table that is no fragment. -/
def unsupportedTable (keys : List String) : TemplateError :=
  .unsupportedFragmentKind ("table with keys [" ++ ", ".intercalate keys ++ "]")

/-- The fragment that a table writes, where the names of the templates on the shelf are given. -/
def fragmentOfTable (known : List String) (entries : List (Toml.Entry Value)) :
    Except TemplateError Fragment :=
  let keys := sortedKeys entries
  let text := textAt? entries
  match keys with
  | ["pattern"] =>
    match text "pattern" with
    | some source => .ok (.pattern ⟨source, ""⟩)
    | none => .error (unsupportedTable keys)
  | ["flags", "pattern"] =>
    match text "pattern", text "flags" with
    | some source, some flags => .ok (.pattern ⟨source, flags⟩)
    | _, _ => .error (unsupportedTable keys)
  | ["literal"] =>
    match text "literal" with
    | some raw => .ok (.literal raw)
    | none => .error (unsupportedTable keys)
  | ["template"] =>
    match text "template" with
    | some name =>
      match known.findIdx? (· == name) with
      | some place => .ok (.template place)
      | none => .error (.unknownTemplate name)
    | none => .error (unsupportedTable keys)
  | _ => .error (unsupportedTable keys)

/-- The fragment that a value writes, where the names of the templates on the shelf are given. -/
def fragmentOfValue (known : List String) : Value → Except TemplateError Fragment
  | .string text => (Pattern.ofDelimited text).map .pattern
  | .table _ entries => fragmentOfTable known entries
  | value => .error (.unsupportedFragmentKind (typeName value))

end RegexTemplate.Definition
