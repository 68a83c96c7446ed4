import RegexTemplate.Fragment
import RegexTemplate.Literal
import RegexTemplate.Template.Node

/-!
# Templates

A template is a row of nodes; the first one is the root and holds the fragments that the template
was built from.  A node that fills several placeholders is shared between them.  Nodes are only ever
added behind the others.
-/

namespace RegexTemplate

/-- A composite pattern with named placeholders. -/
structure Template where
  nodes : Array Node

namespace Template

/-- The place of the root. -/
def root : Nat := 0

/-- The template that was built from nothing. -/
def empty : Template := ⟨#[{}]⟩

/-- The node at a place; there is an empty one behind the last. -/
def node (template : Template) (id : Nat) : Node := template.nodes.getD id {}

/-- Changes the node at a place. -/
def modifyNode (template : Template) (id : Nat) (change : Node → Node) : Template :=
  ⟨template.nodes.modify id change⟩

/-- Adds a node behind the others. -/
def push (template : Template) (node : Node) : Template := ⟨template.nodes.push node⟩

/-- How many nodes there are, the root included. -/
def nodeCount (template : Template) : Nat := template.nodes.size

/-- The names that are still open, in ascending order. -/
def unassigned (template : Template) : List String := (template.node root).names

/-- Whether no name is open. -/
def isComplete (template : Template) : Bool := (template.node root).placeholders.isEmpty

/-- Records that some slots of a node refer to another. -/
def attach (template : Template) (child parent : Nat) (positions : List Nat) : Template :=
  let known := template.modifyNode child fun node =>
    { node with parents := node.parents.insert parent }
  known.modifyNode parent fun node => node.adopt child positions

/-- The slot for the text of a pattern.  A text with markers becomes a new node that nothing refers
to yet. -/
def placePattern (template : Template) (source : String) : Slot × Template :=
  match Marker.split source with
  | [_] => (.literal source, template)
  | texts => (.node template.nodes.size, template.push (.ofParts (Marker.parts texts)))

/-- The slot for a fragment. -/
def place (template : Template) : Fragment → Slot × Template
  | .pattern pattern => template.placePattern pattern.source
  | .literal raw => (.literal (Literal.escape raw), template)
  | .template place => (.template place, template)

@[simp] theorem nodeCount_push (template : Template) (node : Node) :
    (template.push node).nodeCount = template.nodeCount + 1 := by
  simp [push, nodeCount]

@[simp] theorem nodeCount_modifyNode (template : Template) (id : Nat) (change : Node → Node) :
    (template.modifyNode id change).nodeCount = template.nodeCount := by
  simp [modifyNode, nodeCount]

/-- A change shows at its own place only. -/
theorem node_modifyNode (template : Template) (id other : Nat) (change : Node → Node) :
    (template.modifyNode id change).node other =
      if id = other ∧ other < template.nodeCount then change (template.node other)
      else template.node other := by
  unfold node modifyNode nodeCount
  by_cases inside : other < template.nodes.size
  · simp only [Array.getD_eq_getD_getElem?, Array.getElem?_modify, inside, and_true]
    split <;> simp [inside]
  · simp [inside]

/-- A new node is the last, and the others stay as they are. -/
theorem node_push (template : Template) (node : Node) (other : Nat) :
    (template.push node).node other =
      if other = template.nodeCount then node else template.node other := by
  unfold Template.node push nodeCount
  simp only [Array.getD_eq_getD_getElem?, Array.getElem?_push]
  split <;> simp_all

end Template

end RegexTemplate
