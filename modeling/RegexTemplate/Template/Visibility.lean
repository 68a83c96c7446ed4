import RegexTemplate.Template.Basic

/-!
# Visibility of open names

A name that is open on a node is open on every node above it.  After a node has been attached, its
names are passed on upwards: each parent records the slots where it holds the child, and a parent
that learns of a name for the first time passes its own names on in turn.
-/

namespace RegexTemplate.Template

/-- Records on a parent that names are reached through a child. -/
def inform (template : Template) (child parent : Nat) (names : List String) : Template :=
  template.modifyNode parent fun node =>
    names.foldl
      (fun changed name => changed.expose name (node.children.getD child ∅).toList) node

/-- Whether a node lacks one of the names. -/
def lacks (template : Template) (id : Nat) (names : List String) : Bool :=
  names.any fun name => !(template.node id).placeholders.contains name

/-- Records names on the parents of a child, one after the other.  Returns also the parents that
have learned of a new name. -/
def informAll (child : Nat) (names : List String) (template : Template) :
    List Nat → List Nat × Template
  | [] => ([], template)
  | parent :: parents =>
    let (learned, informed) := (template.inform child parent names).informAll child names parents
    (if template.lacks parent names then parent :: learned else learned, informed)

/-- Passes names on upwards from the nodes in a queue. -/
def spread (template : Template) : (fuel : Nat) → (queue : List Nat) → Template
  | 0, _ => template
  | _ + 1, [] => template
  | fuel + 1, child :: queue =>
    let node := template.node child
    let (learned, informed) := template.informAll child node.names node.parents.toList
    informed.spread fuel (queue ++ learned)

/-- How often a node can at most learn of a name for the first time, in any order of events. -/
def lessons (template : Template) : Nat :=
  template.nodes.size *
    (template.nodes.toList.map fun node => node.placeholders.size).foldr (· + ·) 0

/-- Makes every node above a start aware of the names that are open on it.  Apart from the start, a
node enters the queue only when it has learned of a name, so the queue runs empty. -/
def propagate (template : Template) (start : Nat) : Template :=
  template.spread (1 + template.lessons) [start]

end RegexTemplate.Template
