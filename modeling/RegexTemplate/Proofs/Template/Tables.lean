import RegexTemplate.Template.Basic
import Mathlib.Tactic.ByContra

/-!
# Reading the tables of a node

Each operation on a node changes its content or one of its tables.  This file says what the two
position tables answer after each operation: `through` gives the slots through which a name is
reached, `holds` the slots that refer to a child.  Everything else about templates is stated through
these two views, the content and the set of parents, so that no later proof opens a map.

The key local fact is `recorded_ofParts`: the node of a split text records a name at exactly the
slots where it stands.
-/

namespace RegexTemplate

/-- Slots on record are listed in ascending order. -/
theorem Positions.pairwise_toList (positions : Positions) : positions.toList.Pairwise (· < ·) :=
  Std.TreeSet.ordered_toList.imp fun hlt => Nat.compare_eq_lt.1 hlt

namespace Node

variable {node : Node} {name other : String} {child c : Nat} {j : Nat}

/-- The slots through which a name is reached; none if the name is not open. -/
def through (node : Node) (name : String) : Positions := node.placeholders.getD name ∅

/-- The slots that refer to a child, as the node has them on record. -/
def holds (node : Node) (child : Nat) : Positions := node.children.getD child ∅

theorem mem_names : name ∈ node.names ↔ name ∈ node.placeholders := Std.TreeMap.mem_keys

theorem mem_placeholders_of_mem_through (hj : j ∈ node.through name) :
    name ∈ node.placeholders := by
  by_contra hname
  rw [through, Std.TreeMap.getD_eq_fallback hname] at hj
  exact Std.TreeSet.not_mem_emptyc hj

theorem mem_children_of_mem_holds (hj : j ∈ node.holds child) : child ∈ node.children := by
  by_contra hchild
  rw [holds, Std.TreeMap.getD_eq_fallback hchild] at hj
  exact Std.TreeSet.not_mem_emptyc hj

@[simp] theorem content_expose (positions : List Nat) :
    (node.expose name positions).content = node.content := rfl

@[simp] theorem parents_expose (positions : List Nat) :
    (node.expose name positions).parents = node.parents := rfl

@[simp] theorem children_expose (positions : List Nat) :
    (node.expose name positions).children = node.children := rfl

theorem mem_placeholders_expose (positions : List Nat) :
    other ∈ (node.expose name positions).placeholders ↔
      other ∈ node.placeholders ∨ other = name := by
  rw [expose, Std.TreeMap.mem_insert, Std.compare_eq_iff_eq, eq_comm, or_comm]

theorem mem_through_expose (positions : List Nat) :
    j ∈ (node.expose name positions).through other ↔
      j ∈ node.through other ∨ other = name ∧ j ∈ positions := by
  unfold through expose
  rw [Std.TreeMap.getD_insert]
  by_cases hname : other = name
  · subst hname
    simp
  · simp [hname, Ne.symm hname]

@[simp] theorem content_adopt (positions : List Nat) :
    (node.adopt child positions).content = node.content := rfl

@[simp] theorem parents_adopt (positions : List Nat) :
    (node.adopt child positions).parents = node.parents := rfl

@[simp] theorem placeholders_adopt (positions : List Nat) :
    (node.adopt child positions).placeholders = node.placeholders := rfl

theorem mem_children_adopt (positions : List Nat) :
    c ∈ (node.adopt child positions).children ↔ c ∈ node.children ∨ c = child := by
  rw [adopt, Std.TreeMap.mem_insert, Std.compare_eq_iff_eq, eq_comm, or_comm]

theorem mem_holds_adopt (positions : List Nat) :
    j ∈ (node.adopt child positions).holds c ↔
      j ∈ node.holds c ∨ c = child ∧ j ∈ positions := by
  unfold holds adopt
  rw [Std.TreeMap.getD_insert]
  by_cases hchild : c = child
  · subst hchild
    simp
  · simp [hchild, Ne.symm hchild]

@[simp] theorem content_push (slot : Slot) :
    (node.push slot).content = node.content.push slot := rfl

@[simp] theorem parents_push (slot : Slot) : (node.push slot).parents = node.parents := rfl

@[simp] theorem children_push (slot : Slot) : (node.push slot).children = node.children := rfl

@[simp] theorem placeholders_push (slot : Slot) :
    (node.push slot).placeholders = node.placeholders := rfl

@[simp] theorem parents_fill (positions : Positions) (value : Slot) :
    (node.fill name positions value).parents = node.parents := rfl

@[simp] theorem children_fill (positions : Positions) (value : Slot) :
    (node.fill name positions value).children = node.children := rfl

theorem mem_placeholders_fill (positions : Positions) (value : Slot) :
    other ∈ (node.fill name positions value).placeholders ↔
      other ∈ node.placeholders ∧ other ≠ name := by
  rw [fill, Std.TreeMap.mem_erase, Ne, Std.compare_eq_iff_eq, and_comm, eq_comm]

/-- No slot leads to a name that has been filled in; for each other name the slots stay. -/
theorem mem_through_fill (positions : Positions) (value : Slot) :
    j ∈ (node.fill name positions value).through other ↔
      other ≠ name ∧ j ∈ node.through other := by
  unfold through fill
  rw [Std.TreeMap.getD_erase]
  by_cases hname : other = name
  · simp [hname]
  · simp [hname, Ne.symm hname]

/-- Filling a name in overwrites its placeholders at the given slots. -/
theorem getElem?_content_fill (positions : Positions) (value : Slot) :
    (node.fill name positions value).content[j]? =
      (node.content[j]?).map fun slot =>
        if j ∈ positions ∧ slot = .placeholder name then value else slot := by
  simp [fill, Std.TreeSet.contains_iff_mem, Array.getElem?_mapIdx]

/-- Names are on record at exactly the slots where they stand, and no name without a slot.  This is
the state of a node that refers to no other. -/
structure Recorded (node : Node) : Prop where
  through_iff : ∀ name j, j ∈ node.through name ↔ node.content[j]? = some (.placeholder name)
  nonempty : ∀ name, name ∈ node.placeholders → ∃ j, j ∈ node.through name

theorem recorded_empty : Recorded {} where
  through_iff := by simp [through]
  nonempty := by simp

/-- A part that is added is recorded where it comes to stand. -/
theorem Recorded.pushPart (hnode : Recorded node) (part : Marker.Part) :
    Recorded (node.pushPart part) := by
  cases part with
  | literal text =>
      refine ⟨fun name j => ?_, fun name hname => ?_⟩
      · have hold := hnode.through_iff name j
        simp only [Node.pushPart, Slot.ofPart, content_push, Array.getElem?_push]
        by_cases hj : j = node.content.size
        · subst hj
          simpa [through] using hold
        · simpa [through, hj] using hold
      · exact hnode.nonempty name hname
  | placeholder new =>
      refine ⟨fun name j => ?_, fun name hname => ?_⟩
      · have hold := hnode.through_iff name j
        simp only [Node.pushPart, Slot.ofPart, mem_through_expose, content_expose, content_push,
          Array.getElem?_push, List.mem_singleton]
        by_cases hj : j = node.content.size
        · subst hj
          have habsent : ¬ node.content.size ∈ (node.push (.placeholder new)).through name := by
            simpa [through] using hold
          simp [habsent, eq_comm]
        · simpa [through, hj] using hold
      · simp only [Node.pushPart, Slot.ofPart, mem_placeholders_expose] at hname
        rcases hname with hname | rfl
        · obtain ⟨j, hj⟩ := hnode.nonempty name hname
          exact ⟨j, (mem_through_expose _).2 (Or.inl hj)⟩
        · exact ⟨node.content.size, (mem_through_expose _).2 (Or.inr ⟨rfl, by simp⟩)⟩

/-- Adding a part adds its slot to the content and leaves the links alone. -/
theorem pushPart_links (part : Marker.Part) :
    (node.pushPart part).content = node.content.push (.ofPart part) ∧
      (node.pushPart part).parents = node.parents ∧
      (node.pushPart part).children = node.children := by
  cases part <;> exact ⟨rfl, rfl, rfl⟩

/-- What a row of parts does to a node: the slots come behind the others, links stay, and names are
recorded where they stand. -/
theorem foldl_pushPart (parts : List Marker.Part) (hnode : Recorded node) :
    Recorded (parts.foldl Node.pushPart node) ∧
      (parts.foldl Node.pushPart node).content = node.content ++ parts.map Slot.ofPart ∧
      (parts.foldl Node.pushPart node).parents = node.parents ∧
      (parts.foldl Node.pushPart node).children = node.children := by
  induction parts generalizing node with
  | nil => simpa using hnode
  | cons part parts ih =>
      obtain ⟨hcontent, hparents, hchildren⟩ := node.pushPart_links part
      obtain ⟨hrecorded, hcontent', hparents', hchildren'⟩ := ih (hnode.pushPart part)
      refine ⟨hrecorded, ?_, hparents'.trans hparents, hchildren'.trans hchildren⟩
      simp only [List.foldl_cons, hcontent', hcontent]
      simp

/-- The node of a split text records a name at exactly the slots where it stands. -/
theorem recorded_ofParts (parts : List Marker.Part) : Recorded (ofParts parts) :=
  (foldl_pushPart parts recorded_empty).1

@[simp] theorem content_ofParts (parts : List Marker.Part) :
    (ofParts parts).content = (parts.map Slot.ofPart).toArray := by
  simpa [ofParts] using (foldl_pushPart parts recorded_empty).2.1

@[simp] theorem parents_ofParts (parts : List Marker.Part) : (ofParts parts).parents = ∅ :=
  (foldl_pushPart parts recorded_empty).2.2.1

@[simp] theorem children_ofParts (parts : List Marker.Part) : (ofParts parts).children = ∅ :=
  (foldl_pushPart parts recorded_empty).2.2.2

end Node

end RegexTemplate
