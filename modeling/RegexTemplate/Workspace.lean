import RegexTemplate.Template.Rendering

/-!
# Workspaces

A workspace holds templates under names while they are built and filled in, together with the shelf
that they nest from.  A reference to a name nests the template as it stands at that moment: it is
put on the shelf, where later changes do not reach it.
-/

namespace RegexTemplate

/-- A value that is to become a fragment. -/
inductive Value where
  /-- A pattern with its flags. -/
  | pattern (pattern : Pattern)
  /-- The form `/source/flags`. -/
  | delimited (text : String)
  /-- A raw text. -/
  | literal (raw : String)
  /-- The text of a regular expression, which is checked. -/
  | regex (source : String)
  /-- The name of a template. -/
  | template (name : String)
  /-- Something that is no fragment. -/
  | unsupported (kind : String)
deriving DecidableEq, Repr

/-- Templates under names, and the shelf that they nest from. -/
structure Workspace where
  named : Std.TreeMap String Template := ∅
  shelf : Shelf := {}

namespace Workspace

/-- Converts a value.  A template that is referred to is put on the shelf. -/
def convert (workspace : Workspace) : Value → Except TemplateError Fragment × Workspace
  | .pattern pattern => (.ok (.pattern pattern), workspace)
  | .delimited text => ((Pattern.ofDelimited text).map .pattern, workspace)
  | .literal raw => (.ok (.literal raw), workspace)
  | .regex source =>
    (((Regex.compile source {}).mapError .invalidRegex).map fun regex => .pattern (.ofRegex regex),
      workspace)
  | .template name =>
    match workspace.named[name]? with
    | none => (.error (.unknownTemplate name), workspace)
    | some template =>
      let (place, shelf) := workspace.shelf.put template
      (.ok (.template place), { workspace with shelf })
  | .unsupported kind => (.error (.unsupportedFragmentKind kind), workspace)

/-- Converts values in order. -/
def convertAll (workspace : Workspace) :
    List Value → List (Except TemplateError Fragment) × Workspace
  | [] => ([], workspace)
  | value :: values =>
    let (fragment, workspace) := workspace.convert value
    let (fragments, workspace) := workspace.convertAll values
    (fragment :: fragments, workspace)

/-- Stores a template under a name. -/
def store (workspace : Workspace) (name : String) (template : Template) : Workspace :=
  { workspace with named := workspace.named.insert name template }

/-- Builds a template and stores it; after a failure, what the name stood for stays. -/
def build (workspace : Workspace) (name : String) (values : List Value) :
    Option TemplateError × Workspace :=
  let (fragments, workspace) := workspace.convertAll values
  match Template.ofFragments fragments with
  | .ok template => (none, workspace.store name template)
  | .error e => (some e, workspace)

/-- Converts the values of bindings in order. -/
def convertBindings (workspace : Workspace) (bindings : List (String × Value)) :
    List (String × Except TemplateError Fragment) × Workspace :=
  let (fragments, workspace) := workspace.convertAll (bindings.map Prod.snd)
  ((bindings.map Prod.fst).zip fragments, workspace)

/-- Fills in names of a stored template, until a value fails to convert. -/
def bind (workspace : Workspace) (name : String) (template : Template)
    (bindings : List (String × Value)) : Option TemplateError × Workspace :=
  let (bindings, workspace) := workspace.convertBindings bindings
  let (bound, failure) := template.bindAll bindings
  (failure, workspace.store name bound)

/-- Fills in names of a template and stores the result under another name, if every value
converts. -/
def derive (workspace : Workspace) (template : Template) (bindings : List (String × Value))
    (name : String) : Option TemplateError × Workspace :=
  let (bindings, workspace) := workspace.convertBindings bindings
  match template.withBindings bindings with
  | .ok derived => (none, workspace.store name derived)
  | .error e => (some e, workspace)

end Workspace

end RegexTemplate
