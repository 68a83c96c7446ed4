import RegexTemplate.Marker
import Std.Data.TreeMap
import Std.Data.TreeSet

/-!
# Nodes of a template

A node is a fragment that holds placeholders: its literals and placeholders in a row of slots.
Filling in a placeholder overwrites its slot.  Beside the row stand three tables that save searching
it: which nodes refer to this one, which slots refer to which child, and through which slots each
name that is still open is reached.
-/

namespace RegexTemplate

/-- Places in the content of a node. -/
abbrev Positions := Std.TreeSet Nat

/-- A piece of a node's content. -/
inductive Slot where
  /-- Text that is ready. -/
  | literal (text : String)
  /-- A name that is still open. -/
  | placeholder (name : String)
  /-- Another node of the same template. -/
  | node (id : Nat)
  /-- The finished template at a place of the shelf. -/
  | template (place : Nat)
deriving DecidableEq, Repr

/-- The node that a slot refers to. -/
def Slot.child? : Slot → Option Nat
  | .node id => some id
  | _ => none

/-- The slot of a part of a text that has been split. -/
def Slot.ofPart : Marker.Part → Slot
  | .literal text => .literal text
  | .placeholder name => .placeholder name

/-- A fragment that holds placeholders, or the root. -/
structure Node where
  content : Array Slot := #[]
  /-- The nodes whose content refers to this one. -/
  parents : Std.TreeSet Nat := ∅
  /-- For each child, the slots that refer to it. -/
  children : Std.TreeMap Nat Positions := ∅
  /-- For each open name, the slots that hold it or a child through which it is reached. -/
  placeholders : Std.TreeMap String Positions := ∅

namespace Node

instance : Inhabited Node := ⟨{}⟩

/-- The names that are reached through a node, in ascending order. -/
def names (node : Node) : List String := node.placeholders.keys

/-- Adds a slot behind the others. -/
def push (node : Node) (slot : Slot) : Node := { node with content := node.content.push slot }

/-- Records that a name is reached through some slots. -/
def expose (node : Node) (name : String) (positions : List Nat) : Node :=
  { node with
    placeholders := node.placeholders.insert name
      ((node.placeholders.getD name ∅).insertMany positions) }

/-- Records that some slots refer to a child. -/
def adopt (node : Node) (child : Nat) (positions : List Nat) : Node :=
  { node with
    children := node.children.insert child ((node.children.getD child ∅).insertMany positions) }

/-- Adds a part of a split text behind the others. -/
def pushPart (node : Node) (part : Marker.Part) : Node :=
  let node' := node.push (.ofPart part)
  match part with
  | .literal _ => node'
  | .placeholder name => node'.expose name [node.content.size]

/-- The node of a split text. -/
def ofParts (parts : List Marker.Part) : Node := parts.foldl pushPart {}

/-- Overwrites each placeholder of a name at some slots, and forgets the name. -/
def fill (node : Node) (name : String) (positions : Positions) (value : Slot) : Node :=
  { node with
    content := node.content.mapIdx fun position slot =>
      if positions.contains position && slot == .placeholder name then value else slot
    placeholders := node.placeholders.erase name }

end Node

end RegexTemplate
