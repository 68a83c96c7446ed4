import RegexTemplate.Proofs.Template.Wiring

/-!
# Building and filling in keep a template sound

Adding a fragment and filling in a name are both a slot put in place (`Overwritten`) and then wired
up.  For an added fragment the site is the place behind the last slot of the root
(`overwritten_push`).  For a name the sites are all slots where it stands, and the pass over the nodes
finds them all, since every node on the way to one is reached before it (`swept_range`).

Main statements: `exists_rewired_append` and `exists_rewired_bind`, what the two operations do to the
content, and `Sound.build` and `Sound.bind`.
-/

namespace RegexTemplate

theorem Slot.child?_eq_some_iff {slot : Slot} {c : Nat} : slot.child? = some c ↔ slot = .node c := by
  cases slot <;> simp [Slot.child?]

theorem Slot.ofPart_ne_node (part : Marker.Part) (c : Nat) : Slot.ofPart part ≠ .node c := by
  cases part <;> simp [Slot.ofPart]

namespace Template

variable {template placed other : Template} {p q c j : Nat} {name : String} {slot : Slot}

/-- A slot has been made for a fragment.  It refers to the new node if there is one, and the new node
is not attached to anything. -/
structure Placed (template placed : Template) (slot : Slot) : Prop where
  old : ∀ p, p < template.nodeCount → placed.node p = template.node p
  bare : ∀ name, slot ≠ .placeholder name
  grows : template.nodeCount ≤ placed.nodeCount
  new_iff : ∀ c, template.nodeCount ≤ c ∧ c < placed.nodeCount ↔ slot = .node c
  new_recorded : ∀ p, template.nodeCount ≤ p → (placed.node p).Recorded
  new_plain : ∀ (p j c : Nat), template.nodeCount ≤ p →
    (placed.node p).content[j]? ≠ some (.node c)
  parents : ∀ p, (placed.node p).parents = (template.node p).parents
  children : ∀ p, (placed.node p).children = (template.node p).children

/-- A slot that refers to no node and holds no name needs no new node. -/
theorem placed_self (hbare : ∀ name, slot ≠ .placeholder name) (hplain : ∀ c, slot ≠ .node c) :
    Placed template template slot where
  old _ _ := rfl
  bare := hbare
  grows := Nat.le_refl _
  new_iff c := ⟨fun h => by omega, fun h => absurd h (hplain c)⟩
  new_recorded p hp := by rw [node_of_nodeCount_le hp]; exact Node.recorded_empty
  new_plain p j c hp := by rw [node_of_nodeCount_le hp]; simp
  parents _ := rfl
  children _ := rfl

/-- The node of a split text is added behind the others. -/
theorem placed_push (template : Template) (parts : List Marker.Part) :
    Placed template (template.push (.ofParts parts)) (.node template.nodeCount) where
  old p hp := by rw [node_push, if_neg (by omega)]
  bare _ := by simp
  grows := by rw [nodeCount_push]; omega
  new_iff c := by rw [nodeCount_push, Slot.node.injEq]; omega
  new_recorded p hp := by
    rw [node_push]
    split
    · exact Node.recorded_ofParts parts
    · rw [node_of_nodeCount_le hp]
      exact Node.recorded_empty
  new_plain p j c hp := by
    rw [node_push]
    split
    · rw [Node.content_ofParts]
      simp [Slot.ofPart_ne_node]
    · rw [node_of_nodeCount_le hp]
      simp
  parents p := by
    rw [node_push]
    split
    · next hp =>
        rw [node_of_nodeCount_le (Nat.le_of_eq hp.symm), Node.parents_ofParts]
    · rfl
  children p := by
    rw [node_push]
    split
    · next hp =>
        rw [node_of_nodeCount_le (Nat.le_of_eq hp.symm), Node.children_ofParts]
    · rfl

theorem place_of_unmarked (template : Template) {pattern : Pattern}
    (hsplit : (Marker.split pattern.source).length = 1) :
    template.place (.pattern pattern) = (.literal pattern.source, template) := by
  obtain ⟨text, htext⟩ := List.length_eq_one_iff.1 hsplit
  rw [place, placePattern, htext]

theorem place_of_marked (template : Template) {pattern : Pattern}
    (hsplit : (Marker.split pattern.source).length ≠ 1) :
    template.place (.pattern pattern) = (.node template.nodeCount,
      template.push (.ofParts (Marker.parts (Marker.split pattern.source)))) := by
  rw [place, placePattern]
  split
  · next htext => exact absurd (by rw [htext]; rfl) hsplit
  · rfl

theorem placed_place (template : Template) (fragment : Fragment) :
    Placed template (template.place fragment).2 (template.place fragment).1 := by
  cases fragment with
  | literal raw => exact placed_self (by simp [place]) (by simp [place])
  | template place => exact placed_self (by simp [Template.place]) (by simp [Template.place])
  | pattern pattern =>
      by_cases hsplit : (Marker.split pattern.source).length = 1
      · rw [place_of_unmarked template hsplit]
        exact placed_self (by simp) (by simp)
      · rw [place_of_marked template hsplit]
        exact placed_push template _

/-- What a new slot behind the others does to the content of the root. -/
theorem overwritten_push (h : Placed template placed slot) (hroot : root < template.nodeCount) :
    Overwritten template (placed.modifyNode root (·.push slot))
      (fun p j => p = root ∧ j = (template.node root).content.size) slot (fun _ => False) := by
  have hold : ∀ p, p < template.nodeCount → p ≠ root →
      (placed.modifyNode root (·.push slot)).node p = template.node p := by
    intro p hp hne
    rw [node_modifyNode, if_neg fun h => hne h.1.symm, h.old p hp]
  have hpushed : (placed.modifyNode root (·.push slot)).node root =
      (template.node root).push slot := by
    rw [node_modifyNode, if_pos ⟨rfl, hroot.trans_le h.grows⟩, h.old root hroot]
  have hnew : ∀ p, template.nodeCount ≤ p →
      (placed.modifyNode root (·.push slot)).node p = placed.node p := by
    intro p hp
    rw [node_modifyNode, if_neg fun h => by omega]
  have hnames : ∀ p, p < template.nodeCount →
      ((placed.modifyNode root (·.push slot)).node p).placeholders =
        (template.node p).placeholders := by
    intro p hp
    by_cases hne : p = root
    · rw [hne, hpushed, Node.placeholders_push]
    · rw [hold p hp hne]
  exact
    { bare := h.bare
      at_site := by
        intro p j hsite
        obtain ⟨rfl, rfl⟩ := hsite
        rw [hpushed]
        exact ⟨hroot, by simp⟩
      elsewhere := by
        intro p j hp hsite
        by_cases hne : p = root
        · subst hne
          rw [hpushed, Node.content_push, Array.getElem?_push, if_neg fun h => hsite ⟨rfl, h⟩]
        · rw [hold p hp hne]
      free := by
        intro p j c hsite
        obtain ⟨rfl, rfl⟩ := hsite
        simp
      gone_iff := by
        intro p j name hj
        refine ⟨fun hsite => ?_, False.elim⟩
        obtain ⟨rfl, rfl⟩ := hsite
        simp at hj
      mem_placeholders := fun p name hp => by simp [hnames p hp]
      mem_through := fun p name j hp => by simp [Node.through, hnames p hp]
      grows := by
        rw [nodeCount_modifyNode]
        exact h.grows
      new_iff := by
        intro c
        rw [nodeCount_modifyNode]
        exact h.new_iff c
      new_recorded := by
        intro p hp
        rw [hnew p hp]
        exact h.new_recorded p hp
      new_plain := by
        intro p j c hp
        rw [hnew p hp]
        exact h.new_plain p j c hp }

/-- The last step of both operations: the names of the node that the slot refers to are passed on. -/
def announce (template : Template) (slot : Slot) : Template :=
  match slot.child? with
  | some child => template.propagate child
  | none => template

/-- Passing the names of the new node on leaves contents and links as they are. -/
theorem sameLinks_announce (template : Template) (slot : Slot) :
    SameLinks template (template.announce slot) := by
  rw [announce]
  split
  · exact sameLinks_propagate template _
  · exact .refl template

/-- Once the names of the new node, if any, are passed on, the template is sound. -/
theorem Rewired.sound_announce {site : Nat → Nat → Prop} {gone : String → Prop}
    (h : Rewired template other site slot gone) (hsound : Sound template)
    (hsite : ∃ p j, site p j) : Sound (other.announce slot) := by
  cases hchild : slot.child? with
  | some child =>
      rw [announce, hchild]
      exact h.sound_propagate hsound hsite (Slot.child?_eq_some_iff.1 hchild)
  | none =>
      rw [announce, hchild]
      refine h.sound hsound hsite fun c hc => ?_
      rw [Slot.child?_eq_some_iff.2 hc] at hchild
      cases hchild

/-- Adding a fragment puts its slot behind the last slot of the root. -/
theorem append_eq (template : Template) (fragment : Fragment) :
    template.append fragment =
      (((template.place fragment).2.modifyNode root (·.push (template.place fragment).1)).settle
        (template.place fragment).1
        [(root, [((template.place fragment).2.node root).content.size])]).announce
        (template.place fragment).1 := by
  cases hchild : (template.place fragment).1.child? <;>
    simp [append, settle, announce, attachAll, hchild]

/-- Filling in a name puts the slot of the value wherever the name stands. -/
theorem bind_eq (value : Fragment) (hname : name ∈ (template.node root).placeholders) :
    template.bind name value =
      (((template.place value).2.replace name (template.place value).1).1.settle
        (template.place value).1
        ((template.place value).2.replace name (template.place value).1).2).announce
        (template.place value).1 := by
  have hopen : (template.node root).placeholders.contains name := hname
  cases hchild : (template.place value).1.child? <;>
    simp [bind, settle, announce, attachAll, hopen, hchild]

/-- A name that is not open is passed over. -/
theorem bind_of_not_mem (value : Fragment) (hname : name ∉ (template.node root).placeholders) :
    template.bind name value = template := by
  have hopen : ¬ (template.node root).placeholders.contains name := hname
  simp [bind, hopen]

/-- The slots of a node where a name stands, out of those on its record, in ascending order. -/
def sitesOn (template : Template) (name : String) (p : Nat) : List Nat :=
  ((template.node p).through name).toList.filter fun j =>
    (template.node p).content[j]? == some (.placeholder name)

/-- Where the names of a template are visible, these are all slots where the name stands. -/
theorem Sound.mem_sitesOn (hsound : Sound template) :
    j ∈ template.sitesOn name p ↔ (template.node p).content[j]? = some (.placeholder name) := by
  rw [sitesOn, List.mem_filter, Std.TreeSet.mem_toList, beq_iff_eq]
  exact ⟨And.right, fun hj => ⟨hsound.direct p name j hj, hj⟩⟩

/-- How far a pass has come that overwrites a name: the nodes before `k` are done, all those where the
name is on record are reached, and the sites passed so far are noted. -/
structure Swept (template placed : Template) (name : String) (slot : Slot) (k : Nat)
    (sweep : Sweep) : Prop where
  nodeCount : sweep.template.nodeCount = placed.nodeCount
  done : ∀ p, p < k → p < template.nodeCount → name ∈ (template.node p).placeholders →
    sweep.template.node p = (template.node p).fill name ((template.node p).through name) slot
  undone : ∀ p, ¬ (p < k ∧ p < template.nodeCount ∧ name ∈ (template.node p).placeholders) →
    sweep.template.node p = placed.node p
  reached : ∀ c, c ∈ sweep.reached ↔ c = root ∨ ∃ p, p < k ∧ p < template.nodeCount ∧
    ∃ j, j ∈ (template.node p).through name ∧ (template.node p).content[j]? = some (.node c)
  noted : ∀ p positions, (p, positions) ∈ sweep.overwritten ↔
    p < k ∧ p < template.nodeCount ∧ positions = template.sitesOn name p ∧ positions ≠ []

/-- Before the pass, the root is reached and nothing is done. -/
theorem swept_start (template placed : Template) (name : String) (slot : Slot) :
    Swept template placed name slot 0 ⟨placed, Std.TreeSet.empty.insert root, []⟩ where
  nodeCount := rfl
  done p hp := absurd hp (Nat.not_lt_zero p)
  undone _ _ := rfl
  reached c := by
    rw [Std.TreeSet.mem_insert, Std.compare_eq_iff_eq]
    simp [eq_comm]
  noted p positions := by simp

/-- A node where the name is on record is reached before the pass comes to it, because it has a
parent, which stands before it. -/
theorem Swept.mem_reached {k : Nat} {sweep : Sweep} (h : Swept template placed name slot k sweep)
    (hsound : Sound template) (hk : k < template.nodeCount)
    (hname : name ∈ (template.node k).placeholders) : k ∈ sweep.reached := by
  rcases Nat.eq_zero_or_pos k with rfl | hpos
  · exact (h.reached root).2 (Or.inl rfl)
  · obtain ⟨p, j, hj⟩ := hsound.attached k hpos hk
    have hlt := hsound.forward p k ⟨j, hj⟩
    exact (h.reached k).2
      (Or.inr ⟨p, hlt, hlt.trans hk, j, hsound.inherited p k name j hj hname, hj⟩)

/-- A new node is not reached, because nothing refers to it. -/
theorem Swept.not_mem_reached {k : Nat} {sweep : Sweep}
    (h : Swept template placed name slot k sweep) (hsound : Sound template)
    (hk : template.nodeCount ≤ k) : k ∉ sweep.reached := by
  intro hreached
  rcases (h.reached k).1 hreached with rfl | ⟨p, -, -, j, -, hj⟩
  · exact absurd hsound.nodeCount_pos (Nat.not_lt.2 hk)
  · exact absurd (hsound.valid p k ⟨j, hj⟩) (Nat.not_lt.2 hk)

/-- A node where the name is not on record is passed over. -/
theorem Swept.pass {k : Nat} {sweep : Sweep} (h : Swept template placed name slot k sweep)
    (hk : ¬ (k < template.nodeCount ∧ name ∈ (template.node k).placeholders)) :
    Swept template placed name slot (k + 1) sweep := by
  have hthrough : ∀ j, k < template.nodeCount → j ∉ (template.node k).through name :=
    fun j hlt hj => hk ⟨hlt, Node.mem_placeholders_of_mem_through hj⟩
  refine ⟨h.nodeCount, fun p hp hlt hname => ?_, fun p hp => ?_, fun c => ?_, fun p positions => ?_⟩
  · have hne : p ≠ k := by intro heq; subst heq; exact hk ⟨hlt, hname⟩
    exact h.done p (by omega) hlt hname
  · exact h.undone p fun hdone => hp ⟨by omega, hdone.2⟩
  · rw [h.reached, Nat.exists_lt_succ_right]
    refine or_congr_right (or_iff_left ?_).symm
    intro hgiven
    obtain ⟨hlt, j, hj, -⟩ := hgiven
    exact hthrough j hlt hj
  · rw [h.noted, Nat.lt_succ_iff_lt_or_eq, or_and_right]
    refine (or_iff_left ?_).symm
    intro hgiven
    obtain ⟨heq, hlt, hsites, hne⟩ := hgiven
    subst heq
    obtain ⟨j, hj⟩ := List.exists_mem_of_ne_nil _ hne
    rw [hsites, sitesOn, List.mem_filter, Std.TreeSet.mem_toList] at hj
    exact hthrough j hlt hj.1

/-- The children that a name is reached through, as the pass collects them. -/
theorem mem_children_of_positions {node : Node} {positions : Positions} :
    (positions.toList.filterMap fun j => node.content[j]?.bind Slot.child?).contains c ↔
      ∃ j, j ∈ positions ∧ node.content[j]? = some (.node c) := by
  rw [List.contains_iff_mem, List.mem_filterMap]
  refine exists_congr fun j => and_congr Std.TreeSet.mem_toList ?_
  rw [Option.bind_eq_some_iff]
  exact ⟨fun ⟨slot, hslot, hchild⟩ => by rw [hslot, Slot.child?_eq_some_iff.1 hchild],
    fun hj => ⟨.node c, hj, rfl⟩⟩

theorem getElem?_placeholders {node : Node} (hname : name ∈ node.placeholders) :
    node.placeholders[name]? = some (node.through name) := by
  rw [Node.through, Std.TreeMap.getElem?_eq_some_getD_of_contains hname]

/-- What the pass does at a node that it has reached and not changed yet, where the name is on
record. -/
theorem visit_eq {k : Nat} {sweep : Sweep} (hnode : sweep.template.node k = template.node k)
    (hreached : k ∈ sweep.reached) (hname : name ∈ (template.node k).placeholders) :
    sweep.visit name slot k =
      { template := sweep.template.modifyNode k fun node =>
          node.fill name ((template.node k).through name) slot
        reached := sweep.reached.insertMany
          (((template.node k).through name).toList.filterMap fun j =>
            (template.node k).content[j]?.bind Slot.child?)
        overwritten := if (template.sitesOn name k).isEmpty then sweep.overwritten
          else sweep.overwritten ++ [(k, template.sitesOn name k)] } := by
  have hcontains : sweep.reached.contains k := hreached
  rw [Sweep.visit, hnode, if_pos hcontains, getElem?_placeholders hname]
  rfl

/-- A node is noted with its sites if there are any. -/
theorem mem_noted_iff {noted : List (Nat × List Nat)} {k : Nat} {sites positions : List Nat} :
    (p, positions) ∈ (if sites.isEmpty then noted else noted ++ [(k, sites)]) ↔
      (p, positions) ∈ noted ∨ p = k ∧ positions = sites ∧ positions ≠ [] := by
  split
  · next hempty =>
      rw [List.isEmpty_iff] at hempty
      rw [or_iff_left]
      intro hgiven
      obtain ⟨-, hsites, hne⟩ := hgiven
      exact hne (hsites.trans hempty)
  · next hempty =>
      rw [List.isEmpty_iff] at hempty
      rw [List.mem_append, List.mem_singleton, Prod.mk.injEq]
      refine or_congr_right (and_congr_right fun _ => ⟨fun hsites => ⟨hsites, ?_⟩, And.left⟩)
      exact hsites ▸ hempty

/-- A node where the name is on record is filled in. -/
theorem Swept.fill {k : Nat} {sweep : Sweep} (h : Swept template placed name slot k sweep)
    (hsound : Sound template) (hplaced : Placed template placed slot)
    (hk : k < template.nodeCount) (hname : name ∈ (template.node k).placeholders) :
    Swept template placed name slot (k + 1) (sweep.visit name slot k) := by
  have hnode : sweep.template.node k = template.node k := by
    rw [h.undone k fun hdone => absurd hdone.1 (Nat.lt_irrefl k), hplaced.old k hk]
  have hcount : k < sweep.template.nodeCount := by
    rw [h.nodeCount]
    exact hk.trans_le hplaced.grows
  rw [visit_eq hnode (h.mem_reached hsound hk hname) hname]
  refine ⟨?_, fun p hp hlt hvisible => ?_, fun p hp => ?_, fun c => ?_, fun p positions => ?_⟩
  · rw [nodeCount_modifyNode, h.nodeCount]
  · by_cases hpk : p = k
    · subst hpk
      rw [node_modifyNode, if_pos ⟨rfl, hcount⟩, hnode]
    · rw [node_modifyNode, if_neg fun heq => hpk heq.1.symm]
      exact h.done p (by omega) hlt hvisible
  · have hpk : p ≠ k := by
      intro heq
      subst heq
      exact hp ⟨Nat.lt_succ_self p, hk, hname⟩
    rw [node_modifyNode, if_neg fun heq => hpk heq.1.symm]
    exact h.undone p fun hdone => hp ⟨by omega, hdone.2⟩
  · rw [Std.TreeSet.mem_insertMany_list, mem_children_of_positions, h.reached, or_assoc,
      Nat.exists_lt_succ_right]
    simp only [hk, true_and]
  · rw [mem_noted_iff, h.noted, Nat.lt_succ_iff_lt_or_eq, or_and_right]
    refine or_congr_right (and_congr_right fun heq => ?_)
    subst heq
    simp only [hk, true_and]

/-- One node of the pass. -/
theorem Swept.visit {k : Nat} {sweep : Sweep} (h : Swept template placed name slot k sweep)
    (hsound : Sound template) (hplaced : Placed template placed slot) :
    Swept template placed name slot (k + 1) (sweep.visit name slot k) := by
  by_cases hvisible : k < template.nodeCount ∧ name ∈ (template.node k).placeholders
  · exact h.fill hsound hplaced hvisible.1 hvisible.2
  · have hself : sweep.visit name slot k = sweep := by
      have hnone : (if sweep.reached.contains k
          then (sweep.template.node k).placeholders[name]? else none) = none := by
        by_cases hk : k < template.nodeCount
        · have hname : name ∉ (template.node k).placeholders := fun hname => hvisible ⟨hk, hname⟩
          rw [h.undone k fun hdone => hvisible hdone.2, hplaced.old k hk,
            Std.TreeMap.getElem?_eq_none hname, ite_self]
        · have hout : ¬ sweep.reached.contains k :=
            h.not_mem_reached hsound (Nat.le_of_not_lt hk)
          rw [if_neg hout]
      rw [Sweep.visit, hnone]
    rw [hself]
    exact h.pass hvisible

/-- The pass overwrites a name everywhere. -/
theorem swept_range (name : String) (hsound : Sound template)
    (hplaced : Placed template placed slot) (k : Nat) :
    Swept template placed name slot k ((List.range k).foldl (Sweep.visit name slot)
      ⟨placed, Std.TreeSet.empty.insert root, []⟩) := by
  induction k with
  | zero => exact swept_start template placed name slot
  | succ k ih =>
      rw [List.range_succ, List.foldl_append]
      exact ih.visit hsound hplaced

/-- What the pass leaves at an old node: the name is overwritten in its content and gone from its
table, and nothing else has changed. -/
theorem Swept.node_spec {k : Nat} {sweep : Sweep} (h : Swept template placed name slot k sweep)
    (hsound : Sound template) (hplaced : Placed template placed slot) (hk : p < k)
    (hp : p < template.nodeCount) :
    (∀ j : Nat, (sweep.template.node p).content[j]? = ((template.node p).content[j]?).map fun found =>
        if found = .placeholder name then slot else found) ∧
      (∀ other, other ∈ (sweep.template.node p).placeholders ↔
        other ≠ name ∧ other ∈ (template.node p).placeholders) ∧
      (∀ other j, j ∈ (sweep.template.node p).through other ↔
        other ≠ name ∧ j ∈ (template.node p).through other) ∧
      (sweep.template.node p).parents = (template.node p).parents ∧
      (sweep.template.node p).children = (template.node p).children := by
  by_cases hname : name ∈ (template.node p).placeholders
  · rw [h.done p hk hp hname]
    refine ⟨fun j => ?_, fun other => ?_, fun other j => Node.mem_through_fill _ _, rfl, rfl⟩
    · rw [Node.getElem?_content_fill]
      refine Option.map_congr fun found hfound => ?_
      by_cases hslot : found = .placeholder name
      · subst hslot
        simp [hsound.direct p name j hfound]
      · simp [hslot]
    · rw [Node.mem_placeholders_fill, and_comm]
  · rw [h.undone p fun hdone => hname hdone.2.2, hplaced.old p hp]
    have habsent : ∀ j, j ∉ (template.node p).through name :=
      fun j hj => hname (Node.mem_placeholders_of_mem_through hj)
    refine ⟨fun j => ?_, fun other => ?_, fun other j => ?_, rfl, rfl⟩
    · cases hfound : (template.node p).content[j]? with
      | none => rfl
      | some found =>
          have hslot : found ≠ .placeholder name := by
            intro heq
            subst heq
            exact habsent j (hsound.direct p name j hfound)
          simp [hslot]
    · refine ⟨fun hother => ⟨?_, hother⟩, And.right⟩
      intro heq
      subst heq
      exact hname hother
    · refine ⟨fun hj => ⟨?_, hj⟩, And.right⟩
      intro heq
      subst heq
      exact habsent j hj

/-- A name that is filled in is overwritten in all nodes where it is on record. -/
theorem overwritten_replace (name : String) (hsound : Sound template)
    (hplaced : Placed template placed slot) :
    Overwritten template (placed.replace name slot).1
      (fun p j => (template.node p).content[j]? = some (.placeholder name)) slot (· = name) := by
  have hswept := swept_range name hsound hplaced placed.nodes.size
  have hspec := fun p (hp : p < template.nodeCount) =>
    hswept.node_spec hsound hplaced (hp.trans_le hplaced.grows) hp
  have hnew : ∀ p, template.nodeCount ≤ p →
      (placed.replace name slot).1.node p = placed.node p := fun p hp =>
    hswept.undone p fun hdone => absurd hdone.2.1 (Nat.not_lt.2 hp)
  exact
    { bare := hplaced.bare
      at_site := by
        intro p j hj
        have hp := lt_nodeCount_of_content hj
        refine ⟨hp, ((hspec p hp).1 j).trans ?_⟩
        simp [hj]
      elsewhere := by
        intro p j hp hsite
        refine ((hspec p hp).1 j).trans ?_
        cases hfound : (template.node p).content[j]? with
        | none => rfl
        | some found =>
            have hslot : found ≠ .placeholder name := fun heq => hsite (by rw [hfound, heq])
            simp [hslot]
      free := by
        intro p j c hj hc
        rw [hj] at hc
        cases hc
      gone_iff := fun p j other hj => by simp [hj]
      mem_placeholders := fun p other hp => (hspec p hp).2.1 other
      mem_through := fun p other j hp => (hspec p hp).2.2.1 other j
      grows := hswept.nodeCount ▸ hplaced.grows
      new_iff := by
        intro c
        rw [← hplaced.new_iff c, ← hswept.nodeCount]
        rfl
      new_recorded := by
        intro p hp
        rw [hnew p hp]
        exact hplaced.new_recorded p hp
      new_plain := by
        intro p j c hp
        rw [hnew p hp]
        exact hplaced.new_plain p j c hp }

/-- The pass changes no parents and no children. -/
theorem links_replace (name : String) (hsound : Sound template)
    (hplaced : Placed template placed slot) (p : Nat) :
    ((placed.replace name slot).1.node p).parents = (template.node p).parents ∧
      ((placed.replace name slot).1.node p).children = (template.node p).children := by
  have hswept := swept_range name hsound hplaced placed.nodes.size
  by_cases hp : p < template.nodeCount
  · exact (hswept.node_spec hsound hplaced (hp.trans_le hplaced.grows) hp).2.2.2
  · have hnew : (placed.replace name slot).1.node p = placed.node p :=
      hswept.undone p fun hdone => hp hdone.2.1
    rw [hnew]
    exact ⟨hplaced.parents p, hplaced.children p⟩

/-- The pass notes all slots where the name stands, and no node without one. -/
theorem sites_replace (name : String) (hsound : Sound template)
    (hplaced : Placed template placed slot) :
    (∀ p j : Nat, (template.node p).content[j]? = some (.placeholder name) ↔
      ∃ positions, (p, positions) ∈ (placed.replace name slot).2 ∧ j ∈ positions) ∧
    (∀ p positions, (p, positions) ∈ (placed.replace name slot).2 → ∃ j, j ∈ positions) := by
  have hnoted : ∀ p positions, (p, positions) ∈ (placed.replace name slot).2 ↔ _ :=
    (swept_range name hsound hplaced placed.nodes.size).noted
  refine ⟨fun p j => ⟨fun hj => ?_, ?_⟩, fun p positions hp => ?_⟩
  · have hp := lt_nodeCount_of_content hj
    have hsite := hsound.mem_sitesOn.2 hj
    refine ⟨_, (hnoted p _).2 ⟨hp.trans_le hplaced.grows, hp, rfl, ?_⟩, hsite⟩
    exact List.ne_nil_of_mem hsite
  · intro hgiven
    obtain ⟨positions, hp, hj⟩ := hgiven
    rw [((hnoted p positions).1 hp).2.2.1] at hj
    exact hsound.mem_sitesOn.1 hj
  · exact List.exists_mem_of_ne_nil _ ((hnoted p positions).1 hp).2.2.2

/-- A name that is open stands in some slot. -/
theorem Sound.exists_site (hsound : Sound template)
    (hname : name ∈ (template.node root).placeholders) :
    ∃ p j : Nat, (template.node p).content[j]? = some (.placeholder name) := by
  obtain ⟨p, -, j, hj⟩ := hsound.mem_placeholders_iff.1 hname
  exact ⟨p, j, hj⟩

/-- What adding a fragment does: its slot comes to stand behind the last slot of the root. -/
theorem exists_rewired_append (hsound : Sound template) (fragment : Fragment) :
    ∃ wired, template.append fragment = wired.announce (template.place fragment).1 ∧
      Rewired template wired (fun p j => p = root ∧ j = (template.node root).content.size)
        (template.place fragment).1 (fun _ => False) ∧
      ∀ p, template.nodeCount ≤ p →
        (wired.node p).content = ((template.place fragment).2.node p).content := by
  have hplaced := placed_place template fragment
  have hroot := hsound.nodeCount_pos
  have hother : ∀ p, template.nodeCount ≤ p →
      ((template.place fragment).2.modifyNode root (·.push (template.place fragment).1)).node p =
        (template.place fragment).2.node p :=
    fun p hp => by rw [node_modifyNode, if_neg fun h => absurd h.1 (by unfold root at *; omega)]
  have hlinks : ∀ p,
      (((template.place fragment).2.modifyNode root (·.push (template.place fragment).1)).node
        p).parents = (template.node p).parents ∧
      (((template.place fragment).2.modifyNode root (·.push (template.place fragment).1)).node
        p).children = (template.node p).children := by
    intro p
    rw [← hplaced.parents, ← hplaced.children, node_modifyNode]
    split <;> exact ⟨rfl, rfl⟩
  refine ⟨_, append_eq template fragment, ?_, fun p hp => ?_⟩
  · refine (overwritten_push hplaced hroot).rewired (fun p => (hlinks p).1)
      (fun p => (hlinks p).2) (fun p j => ?_) (fun p positions hp => ?_)
    · simp [hplaced.old root hroot]
    · simp only [List.mem_singleton, Prod.mk.injEq] at hp
      exact ⟨_, hp.2 ▸ List.mem_singleton_self _⟩
  · rw [(content_settle _ _ _).1, hother p hp]

/-- What filling in a name does: the slot of the value comes to stand wherever the name stood. -/
theorem exists_rewired_bind (hsound : Sound template) (value : Fragment)
    (hname : name ∈ (template.node root).placeholders) :
    ∃ wired, template.bind name value = wired.announce (template.place value).1 ∧
      Rewired template wired
        (fun p j => (template.node p).content[j]? = some (.placeholder name))
        (template.place value).1 (· = name) ∧
      ∀ p, template.nodeCount ≤ p →
        (wired.node p).content = ((template.place value).2.node p).content := by
  have hplaced := placed_place template value
  have hlinks := links_replace name hsound hplaced
  have hsites := sites_replace name hsound hplaced
  refine ⟨_, bind_eq value hname, ?_, fun p hp => ?_⟩
  · exact (overwritten_replace name hsound hplaced).rewired (fun p => (hlinks p).1)
      (fun p => (hlinks p).2) hsites.1 hsites.2
  · have hnew : ((template.place value).2.replace name (template.place value).1).1.node p =
        (template.place value).2.node p :=
      (swept_range name hsound hplaced _).undone p fun hdone =>
        absurd hdone.2.1 (Nat.not_lt.2 hp)
    rw [(content_settle _ _ _).1, hnew]

/-- Passing names on and attaching change no number of nodes, so a new node is one that was placed. -/
theorem Rewired.nodeCount {site : Nat → Nat → Prop} {gone : String → Prop}
    (h : Rewired template other site slot gone) (hplaced : Placed template placed slot) :
    (other.announce slot).nodeCount = placed.nodeCount := by
  rw [(sameLinks_announce other slot).nodeCount]
  have hsame : ∀ c, template.nodeCount ≤ c → (c < other.nodeCount ↔ c < placed.nodeCount) :=
    fun c hc => ⟨fun h' => ((hplaced.new_iff c).2 ((h.new_iff c).1 ⟨hc, h'⟩)).2,
      fun h' => ((h.new_iff c).2 ((hplaced.new_iff c).1 ⟨hc, h'⟩)).2⟩
  have hother := hsame other.nodeCount h.grows
  have hplace := hsame placed.nodeCount hplaced.grows
  omega

theorem nodeCount_append (hsound : Sound template) (fragment : Fragment) :
    (template.append fragment).nodeCount = (template.place fragment).2.nodeCount := by
  obtain ⟨wired, heq, hwired, -⟩ := exists_rewired_append hsound fragment
  rw [heq, hwired.nodeCount (placed_place template fragment)]

theorem nodeCount_bind (hsound : Sound template) (value : Fragment)
    (hname : name ∈ (template.node root).placeholders) :
    (template.bind name value).nodeCount = (template.place value).2.nodeCount := by
  obtain ⟨wired, heq, hwired, -⟩ := exists_rewired_bind hsound value hname
  rw [heq, hwired.nodeCount (placed_place template value)]

/-- Adding a fragment adds its slot to the root and leaves the content of the other nodes alone. -/
theorem content_append (hsound : Sound template) (fragment : Fragment)
    (hp : p < template.nodeCount) :
    ((template.append fragment).node p).content =
      if p = root then (template.node root).content.push (template.place fragment).1
      else (template.node p).content := by
  obtain ⟨wired, heq, hwired, -⟩ := exists_rewired_append hsound fragment
  rw [heq, (sameLinks_announce wired _).content]
  refine Array.ext_getElem? fun j => ?_
  split
  · next hroot =>
      subst hroot
      rw [Array.getElem?_push]
      split
      · next hj => exact (hwired.at_site root j ⟨rfl, hj⟩).2
      · next hj => exact hwired.elsewhere root j hp fun h => hj h.2
  · next hroot => exact hwired.elsewhere p j hp fun h => hroot h.1

/-- Filling in a name overwrites it in the content of each node. -/
theorem content_bind (hsound : Sound template) (value : Fragment)
    (hname : name ∈ (template.node root).placeholders) (hp : p < template.nodeCount) :
    ((template.bind name value).node p).content =
      (template.node p).content.map fun found =>
        if found = .placeholder name then (template.place value).1 else found := by
  obtain ⟨wired, heq, hwired, -⟩ := exists_rewired_bind hsound value hname
  rw [heq, (sameLinks_announce wired _).content]
  refine Array.ext_getElem? fun j => ?_
  rw [Array.getElem?_map]
  by_cases hsite : (template.node p).content[j]? = some (.placeholder name)
  · rw [(hwired.at_site p j hsite).2, hsite]
    simp
  · rw [hwired.elsewhere p j hp hsite]
    cases hfound : (template.node p).content[j]? with
    | none => rfl
    | some found =>
        have hslot : found ≠ .placeholder name := fun heq => hsite (by rw [hfound, heq])
        simp [hslot]

/-- The content of a node that is added with a fragment is that of the node made for it. -/
theorem new_content_append (hsound : Sound template) (fragment : Fragment)
    (hp : template.nodeCount ≤ p) :
    ((template.append fragment).node p).content =
      ((template.place fragment).2.node p).content := by
  obtain ⟨wired, heq, -, hnew⟩ := exists_rewired_append hsound fragment
  rw [heq, (sameLinks_announce wired _).content, hnew p hp]

/-- The content of a node that is added with a value is that of the node made for it. -/
theorem new_content_bind (hsound : Sound template) (value : Fragment)
    (hname : name ∈ (template.node root).placeholders) (hp : template.nodeCount ≤ p) :
    ((template.bind name value).node p).content = ((template.place value).2.node p).content := by
  obtain ⟨wired, heq, -, hnew⟩ := exists_rewired_bind hsound value hname
  rw [heq, (sameLinks_announce wired _).content, hnew p hp]

theorem Sound.append (hsound : Sound template) (fragment : Fragment) :
    Sound (template.append fragment) := by
  obtain ⟨wired, heq, hwired, -⟩ := exists_rewired_append hsound fragment
  rw [heq]
  exact hwired.sound_announce hsound ⟨_, _, rfl, rfl⟩

theorem Sound.bind (hsound : Sound template) (name : String) (value : Fragment) :
    Sound (template.bind name value) := by
  by_cases hname : name ∈ (template.node root).placeholders
  · obtain ⟨wired, heq, hwired, -⟩ := exists_rewired_bind hsound value hname
    rw [heq]
    exact hwired.sound_announce hsound (hsound.exists_site hname)
  · rwa [bind_of_not_mem value hname]

theorem sound_empty : Sound empty := by
  have hnode : ∀ p, empty.node p = {} := by
    intro p
    rcases p with _ | p <;> rfl
  exact
    { holds_iff := fun p c j => by simp [hnode, Node.holds]
      child_held := fun p c hc => by simp [hnode] at hc
      parents_iff := fun p c => by simp [hnode, Refers]
      forward := fun p c hp => by simp [hnode, Refers] at hp
      valid := fun p c hp => by simp [hnode, Refers] at hp
      support := fun p name j hj => by simp [hnode, Node.through] at hj
      reached := fun p name hname => by simp [hnode] at hname
      direct := fun p name j hj => by simp [hnode] at hj
      inherited := fun p c name j hj => by simp [hnode] at hj
      nodeCount_pos := Nat.zero_lt_one
      root_bare := fun j name => by simp [hnode]
      attached := fun c hroot hc => absurd hc (Nat.not_lt.2 hroot) }

theorem sound_build (fragments : List Fragment) : Sound (build fragments) := by
  have hrest : ∀ (fragments : List Fragment) {template}, Sound template →
      Sound (fragments.foldl Template.append template) := by
    intro fragments
    induction fragments with
    | nil => exact id
    | cons fragment fragments ih => exact fun hsound => ih (hsound.append fragment)
  exact hrest fragments sound_empty

end Template

end RegexTemplate
