import RegexTemplate.Toml.Decoding

/-!
# Recipes

The document of a definition holds recipes: the name of a template, the values of its fragments, and
the values of its variables in the order in which they are written.  It may also name the template
that is the entry of the definition.  A recipe is written as a table, or as an array that holds the
name, the fragments and the variables in this order.
-/

namespace RegexTemplate.Definition

open Toml (Located Value Span Entry Decoded Key)

/-- Something with its place in the document. -/
structure Spanned (α : Type) where
  value : α
  span : Span

/-- What a template is made of. -/
structure Recipe where
  name : Spanned String
  fragments : List (Spanned Value)
  vars : List (String × Spanned Value)

/-- What a document says. -/
structure Document where
  entry : Option (Spanned String)
  recipes : List Recipe

/-- A text with its place. -/
def decodeName (located : Located Value) : Decoded (Spanned String) := do
  let (text, span) ← located.decodeSpannedText
  return ⟨text, span⟩

/-- A value with its place.  Tables that write a moment are read as that moment. -/
def decodeValue (located : Located Value) : Decoded (Spanned Value) := do
  let span ← located.decodeSpan
  return ⟨← located.value.withMoments, span⟩

/-- The values of fragments. -/
def decodeFragments (value : Value) (span : Span) : Decoded (List (Spanned Value)) := do
  (← value.decodeItems (some span)).mapM decodeValue

/-- The values of variables. -/
def decodeVars (value : Value) (span : Span) : Decoded (List (String × Spanned Value)) :=
  match value with
  | .table _ entries => entries.mapM fun entry => return (entry.key.name, ← decodeValue entry.value)
  | .datetime moment => Toml.wrongType (.string moment.text) "a spanned value" (some span)
  | _ => Toml.wrongType value "a table of placeholder values" (some span)

/-- The fields of a recipe. -/
def recipeFields : List String := ["name", "fragments", "vars"]

/-- What a recipe is called in a message. -/
def recipeType : String := "struct TemplateEntry"

/-- The fields of a recipe that have been decoded so far. -/
structure Draft where
  name : Option (Spanned String) := none
  fragments : Option (List (Spanned Value)) := none
  vars : Option (List (String × Spanned Value)) := none

/-- Decodes one more field. -/
def Draft.add (draft : Draft) (entry : Entry Value) : Decoded Draft :=
  match entry.key.name with
  | "name" => return { draft with name := some (← decodeName entry.value) }
  | "fragments" =>
    return { draft with fragments := some (← decodeFragments entry.value.value entry.span) }
  | "vars" => return { draft with vars := some (← decodeVars entry.value.value entry.span) }
  | _ => Toml.unknownField entry.key recipeFields

/-- The recipe, if the fields that it needs are there. -/
def Draft.finish (draft : Draft) (span : Option Span) : Decoded Recipe :=
  match draft.name, draft.fragments with
  | none, _ => .error ⟨.missingField "name", span⟩
  | some _, none => .error ⟨.missingField "fragments", span⟩
  | some name, some fragments => .ok ⟨name, fragments, draft.vars.getD []⟩

/-- A recipe that is written as an array.  Items behind the third are passed over. -/
def decodeRow (items : List (Located Value)) (span : Option Span) : Decoded Recipe :=
  let part := fun {α : Type} (decode : Value → Span → Decoded α) (item : Located Value) =>
    decode item.value (item.span.getD ⟨0, 0⟩)
  match items with
  | [] => .error ⟨.wrongLength 0 (recipeType ++ " with 3 elements"), span⟩
  | [name] => do
    discard (decodeName name)
    .error ⟨.wrongLength 1 (recipeType ++ " with 3 elements"), span⟩
  | [name, fragments] =>
    return ⟨← decodeName name, ← part decodeFragments fragments, []⟩
  | name :: fragments :: vars :: _ =>
    return ⟨← decodeName name, ← part decodeFragments fragments, ← part decodeVars vars⟩

/-- A recipe. -/
def decodeRecipe (located : Located Value) : Decoded Recipe :=
  match located.value with
  | .table _ entries => do (← entries.foldlM Draft.add {}).finish located.span
  | .array items => decodeRow items located.span
  | .rows tables => decodeRow tables located.span
  | .datetime _ =>
    .error ⟨.unknownField Toml.momentKey recipeFields, located.span⟩
  | value => Toml.wrongType value recipeType located.span

/-- Decodes one more entry of the document. -/
def Document.add (document : Document) (entry : Entry Value) : Decoded Document :=
  match entry.key.name with
  | "entry" => return { document with entry := some (← decodeName entry.value) }
  | "template" => do
    let items ← entry.value.value.decodeItems (some entry.span)
    return { document with recipes := ← items.mapM decodeRecipe }
  | _ => Toml.unknownField entry.key ["entry", "template"]

/-- What the entries of a document say. -/
def Document.decode (entries : List (Entry Value)) : Decoded Document :=
  entries.foldlM Document.add ⟨none, []⟩

end RegexTemplate.Definition
