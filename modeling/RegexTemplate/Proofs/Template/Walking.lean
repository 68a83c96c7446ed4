import Mathlib
import RegexTemplate.Proofs.Template.Filling

/-!
# Overwriting a name on a walk

A pass over the nodes in their order overwrites a name (`replace`).  The same is done by a walk that goes
down from the root (`Walk.step`): it takes the next node off a stack, marks it as visited, forgets the name
there and goes through the places on record for it, following those that refer to a child and overwriting
those that hold the name.  A place that does neither is noted as a stray.

The two change each node in the same way, but come to the nodes in different orders, and the walk may find
a node on its stack again.  What is common to them is where they come.  The invariant of the walk is
`Walked`: the visited nodes are overwritten and the others are as they were, only nodes with the name on
record are on the stack, and all those below a visited node are visited or on the stack.  When the stack is
empty, every node with the name on record has been visited, since it has a parent that has the name on
record too (`Walked.mem_visited_iff`).  Each step either visits a node or shortens the stack, so this comes to
pass (`Walked.exists_empty`).

Main statements: `walk_eq_replace`, and for filling in a name `bind_eq_walk`.
-/

namespace RegexTemplate

/-- A node that has forgotten where a name is. -/
def Node.forget (node : Node) (name : String) : Node :=
  { node with placeholders := node.placeholders.erase name }

namespace Template

/-- Two templates with the same nodes are equal. -/
theorem eq_of_node_eq {template other : Template} (hcount : template.nodeCount = other.nodeCount)
    (hnode : ∀ p, template.node p = other.node p) : template = other := by
  obtain ⟨nodes⟩ := template
  obtain ⟨others⟩ := other
  refine congrArg Template.mk (Array.ext hcount fun p hp hother => ?_)
  have hsame := hnode p
  rwa [node, node, Array.getD_eq_getD_getElem?, Array.getD_eq_getD_getElem?,
    Array.getElem?_eq_getElem hp, Array.getElem?_eq_getElem hother] at hsame

/-- A walk down from the root that overwrites the places of a name. -/
structure Walk where
  template : Template
  /-- The nodes that have been looked at. -/
  visited : Finset Nat
  /-- The nodes that are still to be looked at, the next one first. -/
  stack : List Nat
  /-- The places that have been overwritten, by their nodes. -/
  overwritten : Std.TreeMap Nat Positions
  /-- The places on record for the name that neither hold it nor refer to a child. -/
  strays : List (Nat × Nat)

/-- A child that a name is reached through has the name on record. -/
theorem Sound.open_below {template : Template} {name : String} {p j c : Nat}
    (hsound : Sound template) (hj : j ∈ (template.node p).through name)
    (hc : (template.node p).content[j]? = some (.node c)) :
    name ∈ (template.node c).placeholders := by
  rcases hsound.support p name j hj with hname | ⟨child, hchild, hname⟩
  · rw [hc] at hname
    cases hname
  · rw [hc] at hchild
    cases hchild
    exact hname

namespace Walk

/-- A walk that is about to begin. -/
def start (template : Template) : Walk := ⟨template, ∅, [root], ∅, []⟩

/-- Looks at a place on record: goes on to the child there, or overwrites the name. -/
def look (name : String) (value : Slot) (id : Nat) (walk : Walk) (position : Nat) : Walk :=
  match (walk.template.node id).content[position]? with
  | some (.node child) => { walk with stack := child :: walk.stack }
  | found =>
    if found = some (.placeholder name) then
      { walk with
        template := walk.template.modifyNode id fun node =>
          { node with content := node.content.setIfInBounds position value }
        overwritten := walk.overwritten.insert id ((walk.overwritten.getD id ∅).insert position) }
    else { walk with strays := walk.strays ++ [(id, position)] }

/-- Comes to a node, where the name is forgotten, and leaves a stack behind. -/
def enter (name : String) (walk : Walk) (id : Nat) (stack : List Nat) : Walk :=
  { walk with
    template := walk.template.modifyNode id (·.forget name)
    visited := insert id walk.visited
    stack }

/-- Takes the next node off the stack.  If it is new, the name is forgotten there, and the places on record
for it are looked at in ascending order. -/
def step (name : String) (value : Slot) (walk : Walk) : Walk :=
  match walk.stack with
  | [] => walk
  | id :: stack =>
    if id ∈ walk.visited then { walk with stack }
    else
      match (walk.template.node id).placeholders[name]? with
      | none => { walk with stack, visited := insert id walk.visited }
      | some positions =>
        positions.toList.foldl (look name value id) (walk.enter name id stack)

variable {walk later middle : Walk} {name : String} {value : Slot} {id c j : Nat} {js : List Nat}

/-! ## The places of one node -/

/-- What looking at some places of a node does. -/
structure Passed (name : String) (value : Slot) (id : Nat) (js : List Nat) (walk later : Walk) :
    Prop where
  nodeCount : later.template.nodeCount = walk.template.nodeCount
  other : ∀ p, p ≠ id → later.template.node p = walk.template.node p
  content : ∀ j : Nat, (later.template.node id).content[j]? =
    ((walk.template.node id).content[j]?).map fun found =>
      if j ∈ js ∧ found = .placeholder name then value else found
  parents : (later.template.node id).parents = (walk.template.node id).parents
  children : (later.template.node id).children = (walk.template.node id).children
  placeholders : (later.template.node id).placeholders = (walk.template.node id).placeholders
  visited : later.visited = walk.visited
  mem_stack : ∀ c, c ∈ later.stack ↔ c ∈ walk.stack ∨
    ∃ j ∈ js, (walk.template.node id).content[j]? = some (.node c)
  mem_sites : ∀ p j, j ∈ later.overwritten.getD p ∅ ↔ j ∈ walk.overwritten.getD p ∅ ∨
    p = id ∧ j ∈ js ∧ (walk.template.node id).content[j]? = some (.placeholder name)
  filled : ∀ p ∈ later.overwritten, p ∈ walk.overwritten ∨ ∃ j, j ∈ later.overwritten.getD p ∅
  strays : later.strays = walk.strays

theorem passed_nil (name : String) (value : Slot) (id : Nat) (walk : Walk) :
    Passed name value id [] walk walk where
  nodeCount := rfl
  other _ _ := rfl
  content j := by simp
  parents := rfl
  children := rfl
  placeholders := rfl
  visited := rfl
  mem_stack c := by simp
  mem_sites p j := by simp
  filled _ hp := Or.inl hp
  strays := rfl

/-- A place that refers to a child. -/
theorem passed_look_child (hj : (walk.template.node id).content[j]? = some (.node c)) :
    Passed name value id [j] walk (walk.look name value id j) := by
  have hlook : walk.look name value id j = { walk with stack := c :: walk.stack } := by
    rw [look, hj]
  rw [hlook]
  exact
    { passed_nil name value id walk with
      content := by
        intro i
        cases hfound : (walk.template.node id).content[i]? with
        | none => rfl
        | some found =>
            have hnot : ¬ (i ∈ [j] ∧ found = .placeholder name) := by
              rintro ⟨hi, rfl⟩
              rw [List.mem_singleton.1 hi, hj] at hfound
              cases hfound
            rw [Option.map_some, if_neg hnot]
      mem_stack := by
        intro d
        simp [hj, or_comm, eq_comm]
      mem_sites := by
        intro p i
        refine (or_iff_left ?_).symm
        rintro ⟨-, hi, hsite⟩
        rw [List.mem_singleton.1 hi, hj] at hsite
        cases hsite }

/-- What looking at a place that holds the name does. -/
theorem look_of_name (hj : (walk.template.node id).content[j]? = some (.placeholder name)) :
    walk.look name value id j = { walk with
      template := walk.template.modifyNode id fun node =>
        { node with content := node.content.setIfInBounds j value }
      overwritten := walk.overwritten.insert id ((walk.overwritten.getD id ∅).insert j) } := by
  rw [look, hj]
  exact if_pos rfl

/-- The name is overwritten there, and the rest of the node is as it was. -/
theorem node_look_of_name (hid : id < walk.template.nodeCount)
    (hj : (walk.template.node id).content[j]? = some (.placeholder name)) :
    (walk.look name value id j).template.node id =
      { walk.template.node id with
        content := (walk.template.node id).content.setIfInBounds j value } := by
  rw [look_of_name hj]
  exact (node_modifyNode ..).trans (if_pos ⟨rfl, hid⟩)

/-- The place is noted. -/
theorem mem_overwritten_look_of_name
    (hj : (walk.template.node id).content[j]? = some (.placeholder name)) (p i : Nat) :
    i ∈ (walk.look name value id j).overwritten.getD p ∅ ↔
      i ∈ walk.overwritten.getD p ∅ ∨
        p = id ∧ i ∈ [j] ∧ (walk.template.node id).content[i]? = some (.placeholder name) := by
  rw [look_of_name hj]
  dsimp only
  rw [Std.TreeMap.getD_insert]
  by_cases hp : p = id
  · subst hp
    rw [if_pos (Std.compare_eq_iff_eq.2 rfl), Std.TreeSet.mem_insert, Std.compare_eq_iff_eq,
      List.mem_singleton, or_comm]
    exact or_congr_right ⟨fun hi => ⟨rfl, hi.symm, hi ▸ hj⟩, fun hi => hi.2.1.symm⟩
  · rw [if_neg fun heq => hp (Std.compare_eq_iff_eq.1 heq).symm]
    exact (or_iff_left fun hgiven => hp hgiven.1).symm

/-- A place that holds the name. -/
theorem passed_look_name (hid : id < walk.template.nodeCount)
    (hj : (walk.template.node id).content[j]? = some (.placeholder name)) :
    Passed name value id [j] walk (walk.look name value id j) where
  nodeCount := by
    rw [look_of_name hj]
    exact nodeCount_modifyNode ..
  other := by
    intro p hp
    rw [look_of_name hj]
    exact (node_modifyNode ..).trans (if_neg fun heq => hp heq.1.symm)
  content := by
    intro i
    rw [node_look_of_name hid hj, Array.getElem?_setIfInBounds]
    by_cases hi : j = i
    · subst hi
      have hlt := (Array.getElem?_eq_some_iff.1 hj).1
      rw [if_pos rfl, if_pos hlt, hj]
      simp
    · have hnot : ∀ found, ¬ (i ∈ [j] ∧ found = Slot.placeholder name) :=
        fun found hgiven => hi (List.mem_singleton.1 hgiven.1).symm
      rw [if_neg hi]
      simp only [hnot, if_false, Option.map_id']
  parents := by rw [node_look_of_name hid hj]
  children := by rw [node_look_of_name hid hj]
  placeholders := by rw [node_look_of_name hid hj]
  visited := by rw [look_of_name hj]
  mem_stack := by
    intro d
    rw [look_of_name hj]
    refine (or_iff_left ?_).symm
    rintro ⟨i, hi, hchild⟩
    rw [List.mem_singleton.1 hi, hj] at hchild
    cases hchild
  mem_sites := mem_overwritten_look_of_name hj
  filled := by
    intro p hp
    rw [look_of_name hj, Std.TreeMap.mem_insert, Std.compare_eq_iff_eq] at hp
    rcases hp with rfl | hp
    · refine Or.inr ⟨j, (mem_overwritten_look_of_name hj _ j).2 (Or.inr ?_)⟩
      exact ⟨rfl, List.mem_singleton_self j, hj⟩
    · exact Or.inl hp
  strays := by rw [look_of_name hj]

/-- A place that has not been looked at is as it was. -/
theorem Passed.content_of_not_mem (h : Passed name value id js walk middle) (hj : j ∉ js) :
    (middle.template.node id).content[j]? = (walk.template.node id).content[j]? := by
  rw [h.content]
  simp [hj]

/-- One more place. -/
theorem Passed.append (h : Passed name value id js walk middle)
    (h' : Passed name value id [j] middle later) (hj : j ∉ js) :
    Passed name value id (js ++ [j]) walk later where
  nodeCount := h'.nodeCount.trans h.nodeCount
  other p hp := (h'.other p hp).trans (h.other p hp)
  content i := by
    rw [h'.content, h.content, Option.map_map]
    refine Option.map_congr fun found _ => ?_
    by_cases hi : i ∈ js
    · have hne : i ≠ j := by
        rintro rfl
        exact hj hi
      simp [hi, hne]
    · simp [hi]
  parents := h'.parents.trans h.parents
  children := h'.children.trans h.children
  placeholders := h'.placeholders.trans h.placeholders
  visited := h'.visited.trans h.visited
  mem_stack c := by
    rw [h'.mem_stack, h.mem_stack]
    simp only [List.mem_singleton, exists_eq_left, h.content_of_not_mem hj, List.mem_append,
      or_and_right, exists_or, or_assoc]
  mem_sites p i := by
    rw [h'.mem_sites, h.mem_sites, or_assoc, ← and_or_left, List.mem_append, or_and_right]
    refine or_congr_right (and_congr_right fun _ => or_congr_right (and_congr_right fun hi => ?_))
    rw [List.mem_singleton.1 hi, h.content_of_not_mem hj]
  filled p hp := by
    rcases h'.filled p hp with hmiddle | hsome
    · rcases h.filled p hmiddle with hwalk | ⟨i, hi⟩
      · exact Or.inl hwalk
      · exact Or.inr ⟨i, (h'.mem_sites p i).2 (Or.inl hi)⟩
    · exact Or.inr hsome
  strays := h'.strays.trans h.strays

/-- Places that hold the name or refer to a child are looked at in turn, and none of them is a stray. -/
theorem passed_foldl (hid : id < walk.template.nodeCount) (hnodup : js.Nodup)
    (hjs : ∀ j ∈ js, (walk.template.node id).content[j]? = some (.placeholder name) ∨
      ∃ c, (walk.template.node id).content[j]? = some (.node c)) :
    Passed name value id js walk (js.foldl (look name value id) walk) := by
  induction js using List.reverseRecOn with
  | nil => exact passed_nil name value id walk
  | append_singleton js j ih =>
      obtain ⟨hinit, -, hdisjoint⟩ := List.nodup_append.1 hnodup
      have hj : j ∉ js := fun hmem => hdisjoint j hmem j (List.mem_singleton_self j) rfl
      have hpassed := ih hinit fun i hi => hjs i (List.mem_append_left _ hi)
      rw [List.foldl_append, List.foldl_cons, List.foldl_nil]
      refine hpassed.append ?_ hj
      have hsame := hpassed.content_of_not_mem hj
      rcases hjs j (List.mem_append_right _ (List.mem_singleton_self j)) with hname | ⟨c, hc⟩
      · exact passed_look_name (hpassed.nodeCount ▸ hid) (hsame.trans hname)
      · exact passed_look_child (hsame.trans hc)

/-! ## One step -/

variable {template placed : Template}

/-- A node has been met: it is visited or still on the stack. -/
def Met (walk : Walk) (p : Nat) : Prop := p ∈ walk.visited ∨ p ∈ walk.stack

/-- How far a walk has come. -/
structure Walked (template placed : Template) (name : String) (value : Slot) (walk : Walk) : Prop where
  nodeCount : walk.template.nodeCount = placed.nodeCount
  old : ∀ p, walk.Met p → p < template.nodeCount
  open_of_met : ∀ p, walk.Met p → name ∈ (template.node p).placeholders
  root_met : walk.Met root
  /-- What is below a visited node has been met. -/
  below : ∀ p ∈ walk.visited, ∀ j ∈ (template.node p).through name, ∀ c,
    (template.node p).content[j]? = some (.node c) → walk.Met c
  done : ∀ p ∈ walk.visited,
    walk.template.node p = (template.node p).fill name ((template.node p).through name) value
  undone : ∀ p, p ∉ walk.visited → walk.template.node p = placed.node p
  mem_sites : ∀ p j, j ∈ walk.overwritten.getD p ∅ ↔
    p ∈ walk.visited ∧ j ∈ template.sitesOn name p
  filled : ∀ p ∈ walk.overwritten, ∃ j, j ∈ walk.overwritten.getD p ∅
  strays : walk.strays = []

theorem met_start_iff {p : Nat} : (start placed).Met p ↔ p = root := by
  simp [Met, start]

theorem walked_start (hsound : Sound template) (hname : name ∈ (template.node root).placeholders) :
    Walked template placed name value (start placed) where
  nodeCount := rfl
  old p hp := met_start_iff.1 hp ▸ hsound.nodeCount_pos
  open_of_met p hp := met_start_iff.1 hp ▸ hname
  root_met := met_start_iff.2 rfl
  below p hp := absurd hp (Finset.notMem_empty p)
  done p hp := absurd hp (Finset.notMem_empty p)
  undone _ _ := rfl
  mem_sites p j := by simp [start]
  filled p hp := absurd hp (by simp [start])
  strays := rfl

variable {stack : List Nat}

/-- What is on top of a stack has been met. -/
theorem met_top (hstack : walk.stack = id :: stack) : walk.Met id :=
  Or.inr (hstack ▸ List.mem_cons_self)

/-- A visited node has been met, also when it is no longer on the stack. -/
theorem met_drop_iff (hstack : walk.stack = id :: stack) (hid : id ∈ walk.visited) {p : Nat} :
    ({ walk with stack } : Walk).Met p ↔ walk.Met p := by
  rw [Met, Met, hstack, List.mem_cons, or_left_comm]
  refine (or_iff_right_of_imp ?_).symm
  rintro rfl
  exact Or.inl hid

/-- A node that has been visited is passed over when it comes up again. -/
theorem Walked.drop (h : Walked template placed name value walk) (hstack : walk.stack = id :: stack)
    (hid : id ∈ walk.visited) : Walked template placed name value { walk with stack } where
  nodeCount := h.nodeCount
  old p hp := h.old p ((met_drop_iff hstack hid).1 hp)
  open_of_met p hp := h.open_of_met p ((met_drop_iff hstack hid).1 hp)
  root_met := (met_drop_iff hstack hid).2 h.root_met
  below p hp j hj c hc := (met_drop_iff hstack hid).2 (h.below p hp j hj c hc)
  done := h.done
  undone := h.undone
  mem_sites := h.mem_sites
  filled := h.filled
  strays := h.strays

/-- What is left of a node once the name is forgotten there and overwritten at the places on record. -/
theorem Passed.node_eq_fill {node : Node} {positions : Positions}
    (hnode : walk.template.node id = node.forget name)
    (h : Passed name value id positions.toList walk later) :
    later.template.node id = node.fill name positions value := by
  have hcontent : (later.template.node id).content = (node.fill name positions value).content := by
    refine Array.ext_getElem? fun j => ?_
    rw [h.content, hnode, Node.getElem?_content_fill]
    simp only [Std.TreeSet.mem_toList, Node.forget]
  have hparents := h.parents
  have hchildren := h.children
  have hplaceholders := h.placeholders
  rw [hnode] at hparents hchildren hplaceholders
  calc later.template.node id
      = ⟨(later.template.node id).content, (later.template.node id).parents,
          (later.template.node id).children, (later.template.node id).placeholders⟩ := rfl
    _ = node.fill name positions value := by
        rw [hcontent, hparents, hchildren, hplaceholders]
        rfl

/-- A new node is as it was at first. -/
theorem Walked.node_enter (h : Walked template placed name value walk) (stack : List Nat)
    (hplaced : Placed template placed value) (hid : id ∉ walk.visited)
    (hold : id < template.nodeCount) :
    walk.template.node id = template.node id ∧
      (walk.enter name id stack).template.node id = (template.node id).forget name := by
  have hnode : walk.template.node id = template.node id :=
    (h.undone id hid).trans (hplaced.old id hold)
  have hcount : id < walk.template.nodeCount := h.nodeCount ▸ hold.trans_le hplaced.grows
  refine ⟨hnode, ?_⟩
  rw [enter, node_modifyNode, if_pos ⟨rfl, hcount⟩, hnode]

/-- A step that comes to a new node goes through the places on record there. -/
theorem Walked.passed_step (h : Walked template placed name value walk) (hsound : Sound template)
    (hplaced : Placed template placed value) (hstack : walk.stack = id :: stack)
    (hid : id ∉ walk.visited) :
    Passed name value id ((template.node id).through name).toList (walk.enter name id stack)
      (walk.step name value) := by
  have hold := h.old id (met_top hstack)
  obtain ⟨hnode, henter⟩ := h.node_enter stack hplaced hid hold
  have hstep : walk.step name value = ((template.node id).through name).toList.foldl
      (look name value id) (walk.enter name id stack) := by
    rw [step, hstack]
    dsimp only
    rw [if_neg hid, hnode, getElem?_placeholders (h.open_of_met id (met_top hstack))]
  rw [hstep]
  refine passed_foldl ?_ ((Positions.pairwise_toList _).imp Nat.ne_of_lt) fun j hj => ?_
  · rw [enter, nodeCount_modifyNode, h.nodeCount]
    exact hold.trans_le hplaced.grows
  · rw [henter]
    refine (hsound.support id name j (Std.TreeSet.mem_toList.1 hj)).imp_right ?_
    exact fun ⟨c, hc, _⟩ => ⟨c, hc⟩

/-- What a step at a new node meets: the children that the name is reached through. -/
theorem Walked.met_step_iff (h : Walked template placed name value walk) (hsound : Sound template)
    (hplaced : Placed template placed value) (hstack : walk.stack = id :: stack)
    (hid : id ∉ walk.visited) {p : Nat} :
    (walk.step name value).Met p ↔ walk.Met p ∨
      ∃ j ∈ (template.node id).through name, (template.node id).content[j]? = some (.node p) := by
  have hpassed := h.passed_step hsound hplaced hstack hid
  obtain ⟨-, henter⟩ := h.node_enter stack hplaced hid (h.old id (met_top hstack))
  rw [Met, Met, hpassed.visited, hpassed.mem_stack, henter, hstack, List.mem_cons, enter,
    Finset.mem_insert]
  simp only [Std.TreeSet.mem_toList, Node.forget, or_assoc, or_left_comm]

/-- A new node is visited. -/
theorem Walked.visit (h : Walked template placed name value walk) (hsound : Sound template)
    (hplaced : Placed template placed value) (hstack : walk.stack = id :: stack)
    (hid : id ∉ walk.visited) : Walked template placed name value (walk.step name value) := by
  have hpassed := h.passed_step hsound hplaced hstack hid
  obtain ⟨-, henter⟩ := h.node_enter stack hplaced hid (h.old id (met_top hstack))
  have hmet := fun p => h.met_step_iff hsound hplaced hstack hid (p := p)
  have hmem : ∀ p, p ∈ (walk.step name value).visited ↔ p = id ∨ p ∈ walk.visited := by
    intro p
    rw [hpassed.visited]
    exact Finset.mem_insert
  have hother : ∀ p, p ≠ id → (walk.step name value).template.node p = walk.template.node p := by
    intro p hp
    rw [hpassed.other p hp]
    exact (node_modifyNode ..).trans (if_neg fun heq => hp heq.1.symm)
  exact
    { nodeCount := by
        rw [hpassed.nodeCount]
        exact (nodeCount_modifyNode ..).trans h.nodeCount
      old := by
        intro p hp
        rcases (hmet p).1 hp with hp | ⟨j, -, hchild⟩
        · exact h.old p hp
        · exact hsound.valid id p ⟨j, hchild⟩
      open_of_met := by
        intro p hp
        rcases (hmet p).1 hp with hp | ⟨j, hj, hchild⟩
        · exact h.open_of_met p hp
        · exact hsound.open_below hj hchild
      root_met := (hmet root).2 (Or.inl h.root_met)
      below := by
        intro p hp j hj c hc
        rcases (hmem p).1 hp with rfl | hp
        · exact (hmet c).2 (Or.inr ⟨j, hj, hc⟩)
        · exact (hmet c).2 (Or.inl (h.below p hp j hj c hc))
      done := by
        intro p hp
        by_cases hne : p = id
        · subst hne
          exact hpassed.node_eq_fill henter
        · rw [hother p hne]
          exact h.done p (((hmem p).1 hp).resolve_left hne)
      undone := by
        intro p hp
        rw [hmem, not_or] at hp
        rw [hother p hp.1]
        exact h.undone p hp.2
      mem_sites := by
        intro p j
        have hnoted : j ∈ (walk.enter name id stack).overwritten.getD p ∅ ↔
            p ∈ walk.visited ∧ j ∈ template.sitesOn name p := h.mem_sites p j
        rw [hpassed.mem_sites, hnoted, hmem, henter, sitesOn, List.mem_filter, beq_iff_eq]
        by_cases hne : p = id
        · subst hne
          simp [hid, Node.forget]
        · simp [hne]
      filled := by
        intro p hp
        rcases hpassed.filled p hp with hold | hsome
        · obtain ⟨j, hj⟩ := h.filled p hold
          exact ⟨j, (hpassed.mem_sites p j).2 (Or.inl hj)⟩
        · exact hsome
      strays := hpassed.strays.trans h.strays }

/-- One step of the walk. -/
theorem Walked.step (h : Walked template placed name value walk) (hsound : Sound template)
    (hplaced : Placed template placed value) :
    Walked template placed name value (walk.step name value) := by
  cases hstack : walk.stack with
  | nil =>
      rw [Walk.step, hstack]
      exact h
  | cons id stack =>
      by_cases hid : id ∈ walk.visited
      · rw [Walk.step, hstack]
        dsimp only
        rw [if_pos hid]
        exact h.drop hstack hid
      · exact h.visit hsound hplaced hstack hid

/-! ## The whole walk -/

/-- Once the stack is empty, the nodes where the name is on record have been visited, and no others. -/
theorem Walked.mem_visited_iff (h : Walked template placed name value walk) (hsound : Sound template)
    (hempty : walk.stack = []) {p : Nat} :
    p ∈ walk.visited ↔ p < template.nodeCount ∧ name ∈ (template.node p).placeholders := by
  have hvisited : ∀ c, walk.Met c → c ∈ walk.visited := by
    intro c hc
    rwa [Met, hempty, or_iff_left List.not_mem_nil] at hc
  constructor
  · intro hp
    exact ⟨h.old p (Or.inl hp), h.open_of_met p (Or.inl hp)⟩
  · -- by induction on the node: one of its parents stands before it and has the name on record
    intro hgiven
    obtain ⟨hp, hname⟩ := hgiven
    induction p using Nat.strong_induction_on with
    | _ p ih =>
        rcases Nat.eq_zero_or_pos p with rfl | hpos
        · exact hvisited root h.root_met
        · obtain ⟨q, j, hj⟩ := hsound.attached p hpos hp
          have hlt := hsound.forward q p ⟨j, hj⟩
          have hthrough := hsound.inherited q p name j hj hname
          have hq := ih q hlt (hlt.trans hp) (Node.mem_placeholders_of_mem_through hthrough)
          exact hvisited p (h.below q hq j hthrough p hj)

/-- Each step visits a new node or shortens the stack, so at last the stack is empty. -/
theorem Walked.exists_empty (h : Walked template placed name value walk) (hsound : Sound template)
    (hplaced : Placed template placed value) :
    ∃ steps, ((Walk.step name value)^[steps] walk).stack = [] ∧
      Walked template placed name value ((Walk.step name value)^[steps] walk) := by
  induction hfresh : (Finset.range template.nodeCount \ walk.visited).card using
    Nat.strong_induction_on generalizing walk with
  | _ fresh ih =>
      induction hstack : walk.stack generalizing walk with
      | nil => exact ⟨0, hstack, h⟩
      | cons id stack ih' =>
          by_cases hid : id ∈ walk.visited
          · have hdrop : walk.step name value = { walk with stack } := by
              rw [Walk.step, hstack]
              exact if_pos hid
            obtain ⟨steps, hrest⟩ := ih' (h.drop hstack hid) hfresh rfl
            refine ⟨steps + 1, ?_⟩
            rw [Function.iterate_succ_apply, hdrop]
            exact hrest
          · have hvisited : (walk.step name value).visited = insert id walk.visited :=
              (h.passed_step hsound hplaced hstack hid).visited
            have hnew : id ∈ Finset.range template.nodeCount \ walk.visited :=
              Finset.mem_sdiff.2 ⟨Finset.mem_range.2 (h.old id (met_top hstack)), hid⟩
            have hfewer : (Finset.range template.nodeCount \
                (walk.step name value).visited).card < fresh := by
              rw [hvisited, Finset.sdiff_insert, ← hfresh]
              exact Finset.card_erase_lt_of_mem hnew
            obtain ⟨steps, hrest⟩ := ih _ hfewer (h.visit hsound hplaced hstack hid) rfl
            refine ⟨steps + 1, ?_⟩
            rw [Function.iterate_succ_apply]
            exact hrest

/-- The places that have been overwritten, node by node. -/
def sites (walk : Walk) : List (Nat × List Nat) :=
  walk.overwritten.toList.map fun entry => (entry.1, entry.2.toList)

/-- Nodes come in ascending order, each once. -/
def Ascending (sites : List (Nat × List Nat)) : Prop := sites.Pairwise fun a b => a.1 < b.1

theorem Ascending.eq_of_mem_iff {sites others : List (Nat × List Nat)} (h : Ascending sites)
    (h' : Ascending others) (hmem : ∀ entry, entry ∈ sites ↔ entry ∈ others) : sites = others := by
  have : Std.Antisymm fun a b : Nat × List Nat => a.1 < b.1 :=
    ⟨fun a b hlt hgt => absurd hgt (Nat.lt_asymm hlt)⟩
  have : Std.Irrefl fun a b : Nat × List Nat => a.1 < b.1 := ⟨fun a => Nat.lt_irrefl a.1⟩
  exact List.Pairwise.eq_of_mem_iff h h' hmem

theorem ascending_sites (walk : Walk) : Ascending walk.sites := by
  rw [Ascending, sites, List.pairwise_map]
  exact Std.TreeMap.ordered_keys_toList.imp fun hlt => Nat.compare_eq_lt.1 hlt

/-- The pass over the nodes notes them in ascending order. -/
theorem ascending_replace (hsound : Sound template) (hplaced : Placed template placed value) :
    Ascending (placed.replace name value).2 := by
  have hrange : ∀ k, Ascending ((List.range k).foldl (Sweep.visit name value)
      ⟨placed, Std.TreeSet.empty.insert root, []⟩).overwritten := by
    intro k
    induction k with
    | zero => exact List.Pairwise.nil
    | succ k ih =>
        have hswept := swept_range name hsound hplaced k
        rw [List.range_succ, List.foldl_append, List.foldl_cons, List.foldl_nil, Sweep.visit]
        split
        · exact ih
        · dsimp only
          split
          · exact ih
          · refine List.pairwise_append.2 ⟨ih, List.pairwise_singleton _ _, ?_⟩
            intro entry hentry last hlast
            rw [List.mem_singleton.1 hlast]
            exact ((hswept.noted entry.1 entry.2).1 hentry).1
  exact hrange _

/-- What has been overwritten at a node are all the places there that hold the name. -/
theorem Walked.mem_sites_iff (h : Walked template placed name value walk) {p : Nat}
    {positions : List Nat} :
    (p, positions) ∈ walk.sites ↔
      p ∈ walk.visited ∧ positions = template.sitesOn name p ∧ positions ≠ [] := by
  have hsame : ∀ found, walk.overwritten[p]? = some found → p ∈ walk.visited →
      found.toList = template.sitesOn name p := by
    intro found hfound hp
    refine List.Pairwise.eq_of_mem_iff (Positions.pairwise_toList found)
      ((Positions.pairwise_toList _).filter _) fun j => ?_
    have hsites := h.mem_sites p j
    rw [Std.TreeMap.getD_eq_getD_getElem?, hfound, Option.getD_some, and_iff_right hp] at hsites
    rw [Std.TreeSet.mem_toList]
    exact hsites
  have hmem : (p, positions) ∈ walk.sites ↔
      ∃ found, walk.overwritten[p]? = some found ∧ found.toList = positions := by
    simp only [sites, List.mem_map, Prod.mk.injEq, Prod.exists,
      Std.TreeMap.mem_toList_iff_getElem?_eq_some]
    constructor
    · rintro ⟨_, found, hfound, rfl, hpositions⟩
      exact ⟨found, hfound, hpositions⟩
    · rintro ⟨found, hfound, hpositions⟩
      exact ⟨p, found, hfound, rfl, hpositions⟩
  rw [hmem]
  constructor
  · rintro ⟨found, hfound, rfl⟩
    obtain ⟨j, hj⟩ := h.filled p (Std.TreeMap.mem_iff_isSome_getElem?.2 (hfound ▸ rfl))
    have hp := ((h.mem_sites p j).1 hj).1
    rw [Std.TreeMap.getD_eq_getD_getElem?, hfound, Option.getD_some] at hj
    exact ⟨hp, hsame found hfound hp, List.ne_nil_of_mem (Std.TreeSet.mem_toList.2 hj)⟩
  · rintro ⟨hp, rfl, hsome⟩
    obtain ⟨j, hj⟩ := List.exists_mem_of_ne_nil _ hsome
    have hnoted := (h.mem_sites p j).2 ⟨hp, hj⟩
    cases hfound : walk.overwritten[p]? with
    | none =>
        rw [Std.TreeMap.getD_eq_getD_getElem?, hfound] at hnoted
        exact absurd hnoted Std.TreeSet.not_mem_emptyc
    | some found => exact ⟨found, rfl, hsame found hfound hp⟩

/-- A walk that has come to its end leaves the same template behind as the pass over the nodes. -/
theorem Walked.template_eq (h : Walked template placed name value walk) (hsound : Sound template)
    (hplaced : Placed template placed value) (hempty : walk.stack = []) :
    walk.template = (placed.replace name value).1 := by
  have hswept := swept_range name hsound hplaced placed.nodes.size
  refine eq_of_node_eq (h.nodeCount.trans hswept.nodeCount.symm) fun p => ?_
  by_cases hp : p ∈ walk.visited
  · obtain ⟨hlt, hname⟩ := (h.mem_visited_iff hsound hempty).1 hp
    rw [h.done p hp]
    exact (hswept.done p (hlt.trans_le hplaced.grows) hlt hname).symm
  · rw [h.undone p hp]
    refine (hswept.undone p fun hgiven => ?_).symm
    exact hp ((h.mem_visited_iff hsound hempty).2 hgiven.2)

/-- A walk that has come to its end has noted the same places as the pass over the nodes. -/
theorem Walked.sites_iff (h : Walked template placed name value walk) (hsound : Sound template)
    (hplaced : Placed template placed value) (hempty : walk.stack = []) (entry : Nat × List Nat) :
    entry ∈ walk.sites ↔ entry ∈ (placed.replace name value).2 := by
  obtain ⟨p, positions⟩ := entry
  have hnoted : (p, positions) ∈ (placed.replace name value).2 ↔ _ :=
    (swept_range name hsound hplaced placed.nodes.size).noted p positions
  rw [h.mem_sites_iff, h.mem_visited_iff hsound hempty, hnoted]
  constructor
  · rintro ⟨⟨hlt, -⟩, hpositions, hsome⟩
    exact ⟨hlt.trans_le hplaced.grows, hlt, hpositions, hsome⟩
  · rintro ⟨-, hlt, rfl, hsome⟩
    -- a place where the name stands is on record for it
    obtain ⟨j, hj⟩ := List.exists_mem_of_ne_nil _ hsome
    have hrecorded := Std.TreeSet.mem_toList.1 (List.mem_filter.1 hj).1
    exact ⟨⟨hlt, Node.mem_placeholders_of_mem_through hrecorded⟩, rfl, hsome⟩

/-- **The walk and the pass do the same.**  Let a name be open in a sound template, and a slot made for its
value.  Then the walk from the root comes to an end, it has overwritten the name at the same places as the
pass over the nodes and left the same template behind, and no place on record was a stray. -/
theorem walk_eq_replace (hsound : Sound template) (hplaced : Placed template placed value)
    (hname : name ∈ (template.node root).placeholders) :
    ∃ steps, ((Walk.step name value)^[steps] (start placed)).stack = [] ∧
      ((Walk.step name value)^[steps] (start placed)).strays = [] ∧
      (((Walk.step name value)^[steps] (start placed)).template,
        ((Walk.step name value)^[steps] (start placed)).sites) = placed.replace name value := by
  obtain ⟨steps, hempty, h⟩ := (walked_start hsound hname).exists_empty hsound hplaced
  refine ⟨steps, hempty, h.strays, Prod.ext ?_ ?_⟩
  · exact h.template_eq hsound hplaced hempty
  · exact (ascending_sites _).eq_of_mem_iff (ascending_replace hsound hplaced)
      (h.sites_iff hsound hplaced hempty)

/-- Filling in a name is the walk, the attaching of the new node, if any, at the places that the walk has
overwritten, and the passing on of its names. -/
theorem bind_eq_walk (hsound : Sound template) (value : Fragment)
    (hname : name ∈ (template.node root).placeholders) :
    ∃ steps walk, walk = (Walk.step name (template.place value).1)^[steps]
        (start (template.place value).2) ∧
      walk.stack = [] ∧ walk.strays = [] ∧
      template.bind name value = (walk.template.settle (template.place value).1
        walk.sites).announce (template.place value).1 := by
  obtain ⟨steps, hempty, hstrays, hsame⟩ :=
    walk_eq_replace hsound (placed_place template value) hname
  refine ⟨steps, _, rfl, hempty, hstrays, ?_⟩
  rw [bind_eq value hname, ← hsame]

end Walk

end Template

end RegexTemplate
