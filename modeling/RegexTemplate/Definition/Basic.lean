import RegexTemplate.Definition.Error
import RegexTemplate.Definition.FragmentValue
import RegexTemplate.Definition.Recipe
import RegexTemplate.Template.Rendering
import RegexTemplate.Toml.Document

/-!
# Definitions

A definition is a row of named templates, each of which may nest those before it, and one of them is
its entry.  It is built recipe by recipe.  A recipe that fails leaves its errors behind, and the
recipes after it cannot refer to it; all errors are collected.
-/

namespace RegexTemplate

/-- Named templates in the order in which they were built. -/
structure Definition where
  templates : List (String × Template)
  /-- The entry that the document declares. -/
  declared : Option String

namespace Definition

/-- The names of the templates. -/
def names (definition : Definition) : List String := definition.templates.map Prod.fst

/-- The templates by themselves: each nests others by their places here. -/
def shelf (definition : Definition) : Shelf := ⟨(definition.templates.map Prod.snd).toArray⟩

/-- The template of a name. -/
def get? (definition : Definition) (name : String) : Option Template :=
  (definition.templates.find? (·.1 == name)).map Prod.snd

/-- The entry that is declared, or else the last template. -/
def entryName? (definition : Definition) : Option String :=
  definition.declared <|> definition.names.getLast?

/-- The errors among results. -/
def failures {ε α : Type} (results : List (Except ε α)) : List ε :=
  results.filterMap fun
    | .error e => some e
    | .ok _ => none

/-- The values among results. -/
def successes {ε α : Type} (results : List (Except ε α)) : List α :=
  results.filterMap Except.toOption

/-- Converts a value, and gives an error the value's place. -/
def convert (fileId : Nat) (known : List String) (value : Spanned Toml.Value) :
    Except Error Fragment :=
  (fragmentOfValue known value.value).mapError fun error =>
    ⟨.template error, some value.span, fileId⟩

/-- Builds the template of a recipe from those that are known, unless some values cannot be
converted. -/
def buildRecipe (fileId : Nat) (known : List String) (recipe : Recipe) :
    Except (List Error) Template :=
  let fragments := recipe.fragments.map (convert fileId known)
  let vars := recipe.vars.map fun (name, value) => (convert fileId known value).map (name, ·)
  match failures fragments ++ failures vars with
  | [] => .ok ((Template.build (successes fragments)).bindEach (successes vars))
  | errors => .error errors

/-- What has been built from the first recipes of a document. -/
structure Progress where
  templates : List (String × Template) := []
  errors : List Error := []

/-- Builds one more recipe. -/
def Progress.add (fileId : Nat) (progress : Progress) (recipe : Recipe) : Progress :=
  let known := progress.templates.map Prod.fst
  if known.contains recipe.name.value then
    let error : Error := ⟨.repeatedName recipe.name.value, some recipe.name.span, fileId⟩
    { progress with errors := progress.errors ++ [error] }
  else
    match buildRecipe fileId known recipe with
    | .ok template =>
      { progress with templates := progress.templates ++ [(recipe.name.value, template)] }
    | .error errors => { progress with errors := progress.errors ++ errors }

/-- The error for a document without recipes. -/
def emptyErrors (fileId : Nat) (document : Document) : List Error :=
  if document.recipes.isEmpty then [⟨.empty, some ⟨0, 0⟩, fileId⟩] else []

/-- The error for an entry that is none of the templates. -/
def entryErrors (fileId : Nat) (templates : List (String × Template)) (document : Document) :
    List Error :=
  match document.entry with
  | some entry =>
    if (templates.map Prod.fst).contains entry.value then []
    else [⟨.undefinedEntry entry.value, some entry.span, fileId⟩]
  | none => []

/-- Builds the recipes of a document.  The entry is checked only if there are no other errors. -/
def ofDocument (fileId : Nat) (document : Document) : Except (List Error) Definition :=
  let progress := document.recipes.foldl (Progress.add fileId) {}
  match progress.errors ++ emptyErrors fileId document with
  | [] =>
    match entryErrors fileId progress.templates document with
    | [] => .ok ⟨progress.templates, document.entry.map (·.value)⟩
    | errors => .error errors
  | errors => .error errors

/-- Reads a document. -/
def readDocument (fileId : Nat) (source : String) : Except (List Error) Document :=
  match Toml.parse source with
  | .error e => .error [⟨.malformed e.fault, some ⟨e.offset, e.offset⟩, fileId⟩]
  | .ok entries =>
    (Document.decode entries).mapError fun mismatch =>
      [⟨.misfit mismatch.misfit, mismatch.span, fileId⟩]

/-- Reads a document and builds its recipes. -/
def parse (source : String) (fileId : Nat) : Except (List Error) Definition := do
  ofDocument fileId (← readDocument fileId source)

end Definition

end RegexTemplate
