import RegexTemplate.Template.Binding

/-!
# Rendering

Finished templates stand on a shelf in the order in which they were finished.  A template nests
others by their places, and one on the shelf nests only those before it.  Rendering puts the nodes
of a template into one text, the last node first, because a child stands behind its parents.  The
text of a nested template is remembered, so that it is rendered once however often it is nested.
-/

namespace RegexTemplate

/-- Finished templates, in the order in which they were finished. -/
structure Shelf where
  templates : Array Template := #[]

/-- Adds a template, and returns its place. -/
def Shelf.put (shelf : Shelf) (template : Template) : Nat × Shelf :=
  (shelf.templates.size, ⟨shelf.templates.push template⟩)

namespace Template

/-- The texts of nested templates that have been rendered, by their places. -/
abbrev Cache := Std.TreeMap Nat String

/-- A step of rendering: it may use and extend the remembered texts, and it may fail. -/
abbrev Rendering := StateT Cache (Except TemplateError)

section

variable {m : Type → Type} [Monad m] [MonadExceptOf TemplateError m]

/-- The text of a nested template: the one that is remembered, or else a new one to remember. -/
def remembered [MonadStateOf Cache m] (render : Nat → m String) (place : Nat) : m String := do
  match (← getThe Cache)[place]? with
  | some text => return text
  | none =>
    let text ← render place
    modifyThe Cache (·.insert place text)
    return text

/-- The text of a slot, where the texts of nested templates and of children are given. -/
def renderSlot (nested : Nat → m String) (child : Nat → String) : Slot → m String
  | .literal text => return text
  | .placeholder name => throw (.unboundPlaceholder [name])
  | .node id => return child id
  | .template place => nested place

/-- The text of a row of slots. -/
def renderSlots (nested : Nat → m String) (child : Nat → String) : List Slot → m String
  | [] => return ""
  | slot :: slots => do
    let text ← renderSlot nested child slot
    return text ++ (← renderSlots nested child slots)

/-- The texts of a row of nodes, the first of which has a given place.  The last one is rendered
first. -/
def renderNodes (nested : Nat → m String) : (id : Nat) → List Node → m (List String)
  | _, [] => return []
  | id, node :: nodes => do
    let texts ← renderNodes nested (id + 1) nodes
    -- `texts` begins with the text of the node at `id + 1`
    let child := fun other => if id < other then texts.getD (other - (id + 1)) "" else ""
    let text ← renderSlots nested child node.content.toList
    return text :: texts

/-- The text of a template that has no open names. -/
def render (nested : Nat → m String) (template : Template) : m String := do
  if template.isComplete then
    return (← renderNodes nested root template.nodes.toList).headD ""
  else throw (.unboundPlaceholder template.unassigned)

end

end Template

namespace Shelf

open Template (Rendering remembered)

/-- The text of the template at a place.  Only templates before it can be nested in it, and `asking`
says how the text of a nested one is come by. -/
def renderAt {m : Type → Type} [Monad m] [MonadExceptOf TemplateError m]
    (asking : (Nat → m String) → Nat → m String) (shelf : Shelf) (place : Nat) : m String :=
  match shelf.templates[place]? with
  | some template =>
    template.render (asking fun earlier =>
      if earlier < place then shelf.renderAt asking earlier
      else throw (.unknownTemplate (toString earlier)))
  | none => throw (.unknownTemplate (toString place))
termination_by place

/-- The text of a template that nests some of those on the shelf.  The text of each nested one is
remembered. -/
def rendering (shelf : Shelf) (template : Template) : Rendering String :=
  template.render (remembered (shelf.renderAt remembered))

/-- The text of a template, with nothing remembered yet. -/
def compileSource (shelf : Shelf) (template : Template) : Except TemplateError String :=
  (shelf.rendering template).run' ∅

/-- The pattern of a template. -/
def compile (shelf : Shelf) (template : Template) : Except TemplateError Pattern :=
  (shelf.compileSource template).map .ofSource

/-- The regular expression of a template. -/
def compileRegex (shelf : Shelf) (template : Template) : Except TemplateError Regex := do
  (← shelf.compile template).toRegex

end Shelf

end RegexTemplate
