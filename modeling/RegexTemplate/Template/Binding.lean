import RegexTemplate.Template.Visibility

/-!
# Building and filling in

A template is built from fragments, which become the slots of its root.  Filling in a name goes down
from the root along the recorded slots and overwrites each place where the name stands; they all get
the same slot.  The value may open names of its own, also the one that it fills.

The way down is a pass over the nodes in their order.  A walk with a stack and a set of visited nodes
comes to the same (`Walk.walk_eq_replace`).
-/

namespace RegexTemplate.Template

/-- Adds a fragment behind the others. -/
def append (template : Template) (fragment : Fragment) : Template :=
  let (slot, placed) := template.place fragment
  let position := (placed.node root).content.size
  let extended := placed.modifyNode root (·.push slot)
  match slot.child? with
  | some child => (extended.attach child root [position]).propagate child
  | none => extended

/-- The template of a row of fragments. -/
def build (fragments : List Fragment) : Template := fragments.foldl append empty

/-- A pass over the nodes from the root on that overwrites the places of a name. -/
structure Sweep where
  template : Template
  /-- The nodes that the name is reached through. -/
  reached : Std.TreeSet Nat
  /-- The nodes where places have been overwritten, with these places. -/
  overwritten : List (Nat × List Nat)

/-- Overwrites the places of a name on one node if the name is reached through it.  The children
that it is reached through come later in the pass, since a child stands behind its parents. -/
def Sweep.visit (name : String) (value : Slot) (sweep : Sweep) (id : Nat) : Sweep :=
  let node := sweep.template.node id
  match if sweep.reached.contains id then node.placeholders[name]? else none with
  | none => sweep
  | some positions =>
    let children := positions.toList.filterMap fun position =>
      node.content[position]?.bind Slot.child?
    let sites := positions.toList.filter fun position =>
      node.content[position]? == some (.placeholder name)
    { template := sweep.template.modifyNode id fun node => node.fill name positions value
      reached := sweep.reached.insertMany children
      overwritten :=
        if sites.isEmpty then sweep.overwritten else sweep.overwritten ++ [(id, sites)] }

/-- Overwrites every place of a name that is reached from the root.  Returns also the places. -/
def replace (template : Template) (name : String) (value : Slot) :
    Template × List (Nat × List Nat) :=
  let sweep := (List.range template.nodes.size).foldl (Sweep.visit name value)
    ⟨template, Std.TreeSet.empty.insert root, []⟩
  (sweep.template, sweep.overwritten)

/-- Fills in a name everywhere.  A name that is not open is passed over. -/
def bind (template : Template) (name : String) (value : Fragment) : Template :=
  if (template.node root).placeholders.contains name then
    let (slot, placed) := template.place value
    let (filled, sites) := placed.replace name slot
    match slot.child? with
    | some child =>
      (sites.foldl (fun attached (parent, positions) => attached.attach child parent positions)
        filled).propagate child
    | none => filled
  else template

/-- Fills in names one after the other. -/
def bindEach (template : Template) (bindings : List (String × Fragment)) : Template :=
  bindings.foldl (fun bound (name, value) => bound.bind name value) template

/-- Builds a template from fragments, each of which may have failed to convert.  The first failure
counts. -/
def ofFragments (fragments : List (Except TemplateError Fragment)) :
    Except TemplateError Template :=
  return build (← fragments.mapM id)

/-- Fills in names one after the other, until a value has failed to convert.  The names before it
stay filled in. -/
def bindAll (template : Template) :
    List (String × Except TemplateError Fragment) → Template × Option TemplateError
  | [] => (template, none)
  | (name, .ok value) :: rest => (template.bind name value).bindAll rest
  | (_, .error e) :: _ => (template, some e)

/-- Fills in names one after the other, if every value converts. -/
def withBindings (template : Template) (bindings : List (String × Except TemplateError Fragment)) :
    Except TemplateError Template :=
  match template.bindAll bindings with
  | (bound, none) => .ok bound
  | (_, some e) => .error e

end RegexTemplate.Template
