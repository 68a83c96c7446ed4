import RegexTemplate.Proofs.Template.Invariant
import RegexTemplate.Template.Binding

/-!
# Putting a slot in place

Building a template and filling in a name both put one slot at some sites: at a new place of the
root, or wherever the name stands.  `Overwritten` says what the template looks like when the slot
stands there and no table knows of it yet, and `Rewired` what it looks like when the node that the slot
refers to, if any, has been attached to the sites (`Overwritten.rewired`).  From there two statements
lead back to a sound template.  `Rewired.sound` is for a slot that refers to no node, where nothing is
left to do, and `Rewired.sound_propagate` for one that refers to a new node, whose names are passed
on.
-/

namespace RegexTemplate.Template

variable {template other : Template} {child parent q c r j : Nat} {name : String}

@[simp] theorem nodeCount_attach (positions : List Nat) :
    (template.attach child parent positions).nodeCount = template.nodeCount := by
  simp [attach]

/-- Attaching a node changes no content and no open name. -/
theorem content_attach (positions : List Nat) :
    ((template.attach child parent positions).node q).content = (template.node q).content ∧
      ((template.attach child parent positions).node q).placeholders =
        (template.node q).placeholders := by
  rw [attach, node_modifyNode, node_modifyNode]
  constructor <;> split <;> split <;> rfl

/-- Attaching a node makes it know its new parent. -/
theorem mem_parents_attach (positions : List Nat) (hchild : child < template.nodeCount) :
    r ∈ ((template.attach child parent positions).node q).parents ↔
      r ∈ (template.node q).parents ∨ q = child ∧ r = parent := by
  have hparents : ((template.attach child parent positions).node q).parents =
      if child = q ∧ q < template.nodeCount then (template.node q).parents.insert parent
      else (template.node q).parents := by
    rw [attach, node_modifyNode, node_modifyNode]
    split <;> split <;> rfl
  rw [hparents]
  split
  · next hq =>
      rw [Std.TreeSet.mem_insert, Std.compare_eq_iff_eq]
      simp only [hq.1, true_and, or_comm, eq_comm]
  · next hq =>
      have hne : q ≠ child := fun h => hq ⟨h.symm, h ▸ hchild⟩
      simp [hne]

/-- Attaching a node makes its new parent adopt it. -/
theorem children_attach (positions : List Nat) (hparent : parent < template.nodeCount) :
    ((template.attach child parent positions).node q).children =
      if q = parent then ((template.node q).adopt child positions).children
      else (template.node q).children := by
  have hknown : ((template.modifyNode child fun node =>
      { node with parents := node.parents.insert parent }).node q).children =
      (template.node q).children := by
    rw [node_modifyNode]
    split <;> rfl
  rw [attach, node_modifyNode, nodeCount_modifyNode]
  split
  · next hq => rw [if_pos hq.1.symm, Node.adopt, Node.adopt, hknown]
  · next hq =>
      have hne : q ≠ parent := fun h => hq ⟨h.symm, h ▸ hparent⟩
      rw [if_neg hne, hknown]

theorem mem_children_attach (positions : List Nat) (hparent : parent < template.nodeCount) :
    c ∈ ((template.attach child parent positions).node q).children ↔
      c ∈ (template.node q).children ∨ q = parent ∧ c = child := by
  rw [children_attach positions hparent]
  split
  · next hq => simp [Node.mem_children_adopt, hq]
  · next hq => simp [hq]

theorem mem_holds_attach (positions : List Nat) (hparent : parent < template.nodeCount) :
    j ∈ ((template.attach child parent positions).node q).holds c ↔
      j ∈ (template.node q).holds c ∨ q = parent ∧ c = child ∧ j ∈ positions := by
  rw [Node.holds, children_attach positions hparent]
  split
  · next hq => rw [← Node.holds, Node.mem_holds_adopt]; simp [hq]
  · next hq => simp [hq, Node.holds]

/-- Attaches a node to several others, at the slots given for each. -/
def attachAll (template : Template) (child : Nat) (sites : List (Nat × List Nat)) : Template :=
  sites.foldl (fun attached (parent, positions) => attached.attach child parent positions) template

@[simp] theorem nodeCount_attachAll (sites : List (Nat × List Nat)) :
    (template.attachAll child sites).nodeCount = template.nodeCount := by
  induction sites generalizing template with
  | nil => rfl
  | cons site sites ih => exact ih.trans (nodeCount_attach _)

theorem content_attachAll (sites : List (Nat × List Nat)) :
    ((template.attachAll child sites).node q).content = (template.node q).content ∧
      ((template.attachAll child sites).node q).placeholders =
        (template.node q).placeholders := by
  induction sites generalizing template with
  | nil => exact ⟨rfl, rfl⟩
  | cons site sites ih =>
      obtain ⟨hcontent, hplaceholders⟩ := @ih (template.attach child site.1 site.2)
      exact ⟨hcontent.trans (content_attach _).1, hplaceholders.trans (content_attach _).2⟩

theorem mem_parents_attachAll (sites : List (Nat × List Nat)) (hchild : child < template.nodeCount) :
    r ∈ ((template.attachAll child sites).node q).parents ↔
      r ∈ (template.node q).parents ∨ q = child ∧ ∃ positions, (r, positions) ∈ sites := by
  induction sites generalizing template with
  | nil => simp [attachAll]
  | cons site sites ih =>
      have hrest := @ih (template.attach child site.1 site.2) (by rwa [nodeCount_attach])
      rw [mem_parents_attach _ hchild] at hrest
      refine hrest.trans ?_
      simp only [List.mem_cons, Prod.ext_iff, exists_or, exists_and_left, exists_eq, and_true]
      tauto

theorem mem_children_attachAll (sites : List (Nat × List Nat))
    (hsites : ∀ site ∈ sites, site.1 < template.nodeCount) :
    c ∈ ((template.attachAll child sites).node q).children ↔
      c ∈ (template.node q).children ∨ c = child ∧ ∃ positions, (q, positions) ∈ sites := by
  induction sites generalizing template with
  | nil => simp [attachAll]
  | cons site sites ih =>
      have hparent : site.1 < template.nodeCount := hsites site List.mem_cons_self
      have hrest := @ih (template.attach child site.1 site.2) fun other hother => by
        rw [nodeCount_attach]
        exact hsites other (List.mem_cons_of_mem _ hother)
      have hcons : (∃ positions, (q, positions) ∈ site :: sites) ↔
          q = site.1 ∨ ∃ positions, (q, positions) ∈ sites := by
        simp [Prod.ext_iff, exists_or]
      rw [mem_children_attach _ hparent, or_assoc, and_comm, ← and_or_left] at hrest
      rw [hcons]
      exact hrest

theorem mem_holds_attachAll (sites : List (Nat × List Nat))
    (hsites : ∀ site ∈ sites, site.1 < template.nodeCount) :
    j ∈ ((template.attachAll child sites).node q).holds c ↔
      j ∈ (template.node q).holds c ∨
        c = child ∧ ∃ positions, (q, positions) ∈ sites ∧ j ∈ positions := by
  induction sites generalizing template with
  | nil => simp [attachAll]
  | cons site sites ih =>
      have hparent : site.1 < template.nodeCount := hsites site List.mem_cons_self
      have hrest := @ih (template.attach child site.1 site.2) fun other hother => by
        rw [nodeCount_attach]
        exact hsites other (List.mem_cons_of_mem _ hother)
      have hcons : (∃ positions, (q, positions) ∈ site :: sites ∧ j ∈ positions) ↔
          (q = site.1 ∧ j ∈ site.2) ∨ ∃ positions, (q, positions) ∈ sites ∧ j ∈ positions := by
        simp [Prod.ext_iff, or_and_right, exists_or, and_assoc]
      rw [mem_holds_attach _ hparent, or_assoc, and_left_comm, ← and_or_left] at hrest
      rw [hcons]
      exact hrest

/-- A slot has come to stand at some sites, where no reference to a node stood before, and some names
are gone from the tables.  Everything else in the old nodes is as it was.  A node is new exactly if the
slot refers to it, and a new node refers to no other. -/
structure Overwritten (template other : Template) (site : Nat → Nat → Prop) (slot : Slot)
    (gone : String → Prop) : Prop where
  at_site : ∀ p j, site p j → p < template.nodeCount ∧ (other.node p).content[j]? = some slot
  elsewhere : ∀ (p j : Nat), p < template.nodeCount → ¬ site p j →
    (other.node p).content[j]? = (template.node p).content[j]?
  free : ∀ p j c, site p j → (template.node p).content[j]? ≠ some (.node c)
  gone_iff : ∀ (p j : Nat) name, (template.node p).content[j]? = some (.placeholder name) →
    (site p j ↔ gone name)
  bare : ∀ name, slot ≠ .placeholder name
  mem_placeholders : ∀ p name, p < template.nodeCount →
    (name ∈ (other.node p).placeholders ↔ ¬ gone name ∧ name ∈ (template.node p).placeholders)
  mem_through : ∀ p name j, p < template.nodeCount →
    (j ∈ (other.node p).through name ↔ ¬ gone name ∧ j ∈ (template.node p).through name)
  grows : template.nodeCount ≤ other.nodeCount
  new_iff : ∀ c, template.nodeCount ≤ c ∧ c < other.nodeCount ↔ slot = .node c
  new_recorded : ∀ p, template.nodeCount ≤ p → (other.node p).Recorded
  new_plain : ∀ (p j c : Nat), template.nodeCount ≤ p →
    (other.node p).content[j]? ≠ some (.node c)

/-- Whether a slot has been put in place shows in contents and open names only. -/
theorem Overwritten.congr {third : Template} {site : Nat → Nat → Prop} {slot : Slot}
    {gone : String → Prop} (h : Overwritten template other site slot gone)
    (hcount : third.nodeCount = other.nodeCount)
    (hsame : ∀ p, (third.node p).content = (other.node p).content ∧
      (third.node p).placeholders = (other.node p).placeholders) :
    Overwritten template third site slot gone := by
  have hcontent := fun p => (hsame p).1
  have hnames := fun p => (hsame p).2
  have hthrough : ∀ p name, (third.node p).through name = (other.node p).through name :=
    fun p name => by rw [Node.through, Node.through, hnames]
  exact
    { h with
      at_site := fun p j hp => by rw [hcontent]; exact h.at_site p j hp
      elsewhere := fun p j hp => by rw [hcontent]; exact h.elsewhere p j hp
      mem_placeholders := fun p name hp => by rw [hnames]; exact h.mem_placeholders p name hp
      mem_through := fun p name j hp => by rw [hthrough]; exact h.mem_through p name j hp
      grows := by rw [hcount]; exact h.grows
      new_iff := fun c => by rw [hcount]; exact h.new_iff c
      new_recorded := fun p hp =>
        { through_iff := fun name j => by
            rw [hthrough, hcontent]
            exact (h.new_recorded p hp).through_iff name j
          nonempty := fun name => by
            rw [hnames]
            simpa only [hthrough] using (h.new_recorded p hp).nonempty name }
      new_plain := fun p j c hp => by rw [hcontent]; exact h.new_plain p j c hp }

/-- As before, and the tables of parents and children know of the slot. -/
structure Rewired (template other : Template) (site : Nat → Nat → Prop) (slot : Slot)
    (gone : String → Prop) : Prop extends Overwritten template other site slot gone where
  holds_iff : ∀ p c j, j ∈ (other.node p).holds c ↔
    j ∈ (template.node p).holds c ∨ slot = .node c ∧ site p j
  child_held : ∀ p c, c ∈ (other.node p).children →
    c ∈ (template.node p).children ∨ slot = .node c ∧ ∃ j, site p j
  parents_iff : ∀ p c, p ∈ (other.node c).parents ↔
    p ∈ (template.node c).parents ∨ slot = .node c ∧ ∃ j, site p j

variable {site : Nat → Nat → Prop} {slot : Slot} {gone : String → Prop}

/-- A node with something in it is not behind the last one. -/
theorem lt_nodeCount_of_content {found : Slot} (hj : (template.node q).content[j]? = some found) :
    q < template.nodeCount := by
  by_contra hq
  rw [node_of_nodeCount_le (Nat.le_of_not_lt hq)] at hj
  simp at hj

/-- What stands in a slot of an old node stood there before or is the new slot. -/
theorem Overwritten.content_cases (h : Overwritten template other site slot gone)
    (hq : q < template.nodeCount) {found : Slot} (hj : (other.node q).content[j]? = some found) :
    site q j ∧ slot = found ∨ ¬ site q j ∧ (template.node q).content[j]? = some found := by
  by_cases hsite : site q j
  · rw [(h.at_site q j hsite).2, Option.some.injEq] at hj
    exact Or.inl ⟨hsite, hj⟩
  · rw [h.elsewhere q j hq hsite] at hj
    exact Or.inr ⟨hsite, hj⟩

/-- References to nodes are the old ones and those of the new slot. -/
theorem Overwritten.content_node_iff (h : Overwritten template other site slot gone) :
    (other.node q).content[j]? = some (.node c) ↔
      (template.node q).content[j]? = some (.node c) ∨ slot = .node c ∧ site q j := by
  constructor
  · intro hj
    have hq : q < template.nodeCount := by
      by_contra hq
      exact h.new_plain q j c (Nat.le_of_not_lt hq) hj
    rcases h.content_cases hq hj with ⟨hsite, hslot⟩ | ⟨-, hold⟩
    · exact Or.inr ⟨hslot, hsite⟩
    · exact Or.inl hold
  · intro hgiven
    rcases hgiven with hold | ⟨hslot, hsite⟩
    · have hfree : ¬ site q j := fun hsite => h.free q j c hsite hold
      rw [h.elsewhere q j (lt_nodeCount_of_content hold) hfree, hold]
    · rw [(h.at_site q j hsite).2, hslot]

/-- In an old node, the names that stand in slots are the old ones that are not gone. -/
theorem Overwritten.content_placeholder_iff (h : Overwritten template other site slot gone)
    (hq : q < template.nodeCount) :
    (other.node q).content[j]? = some (.placeholder name) ↔
      ¬ gone name ∧ (template.node q).content[j]? = some (.placeholder name) := by
  constructor
  · intro hj
    rcases h.content_cases hq hj with ⟨-, hslot⟩ | ⟨hsite, hold⟩
    · exact absurd hslot (h.bare name)
    · exact ⟨fun hgone => hsite ((h.gone_iff q j name hold).2 hgone), hold⟩
  · intro hgiven
    obtain ⟨hname, hold⟩ := hgiven
    rw [h.elsewhere q j hq fun hsite => hname ((h.gone_iff q j name hold).1 hsite), hold]

/-- Slots on record are supported as before. -/
theorem Overwritten.supported (h : Overwritten template other site slot gone)
    (hsound : Sound template) : Supported other where
  support p name j hj := by
    by_cases hp : p < template.nodeCount
    · obtain ⟨hname, hold⟩ := (h.mem_through p name j hp).1 hj
      rcases hsound.support p name j hold with hhere | ⟨c, hc, hbelow⟩
      · exact Or.inl ((h.content_placeholder_iff hp).2 ⟨hname, hhere⟩)
      · refine Or.inr ⟨c, h.content_node_iff.2 (Or.inl hc), ?_⟩
        exact (h.mem_placeholders c name (hsound.valid p c ⟨j, hc⟩)).2 ⟨hname, hbelow⟩
    · exact Or.inl (((h.new_recorded p (Nat.le_of_not_lt hp)).through_iff name j).1 hj)
  reached p name hname := by
    by_cases hp : p < template.nodeCount
    · obtain ⟨hkept, hold⟩ := (h.mem_placeholders p name hp).1 hname
      obtain ⟨j, hj⟩ := hsound.reached p name hold
      exact ⟨j, (h.mem_through p name j hp).2 ⟨hkept, hj⟩⟩
    · exact (h.new_recorded p (Nat.le_of_not_lt hp)).nonempty name hname

/-- A name that stands in a slot is on record there. -/
theorem Overwritten.direct (h : Overwritten template other site slot gone)
    (hsound : Sound template) (hj : (other.node q).content[j]? = some (.placeholder name)) :
    j ∈ (other.node q).through name := by
  by_cases hq : q < template.nodeCount
  · obtain ⟨hname, hold⟩ := (h.content_placeholder_iff hq).1 hj
    exact (h.mem_through q name j hq).2 ⟨hname, hsound.direct q name j hold⟩
  · exact ((h.new_recorded q (Nat.le_of_not_lt hq)).through_iff name j).2 hj

/-- A name of a child is on record at the parent, unless the child is new. -/
theorem Overwritten.inherited (h : Overwritten template other site slot gone)
    (hsound : Sound template) (hold : slot ≠ .node c)
    (hj : (other.node q).content[j]? = some (.node c))
    (hname : name ∈ (other.node c).placeholders) : j ∈ (other.node q).through name := by
  have hj' := (h.content_node_iff.1 hj).resolve_right fun hnew => hold hnew.1
  obtain ⟨hkept, hname'⟩ := (h.mem_placeholders c name (hsound.valid q c ⟨j, hj'⟩)).1 hname
  refine (h.mem_through q name j (lt_nodeCount_of_content hj')).2 ⟨hkept, ?_⟩
  exact hsound.inherited q c name j hj' hname'

/-- Nothing is cut off from the root, if the slot stands somewhere. -/
theorem Overwritten.rooted (h : Overwritten template other site slot gone)
    (hsound : Sound template) (hsite : ∃ p j, site p j) : Rooted other where
  nodeCount_pos := hsound.nodeCount_pos.trans_le h.grows
  root_bare j name hj :=
    hsound.root_bare j name ((h.content_placeholder_iff hsound.nodeCount_pos).1 hj).2
  attached c hroot hc := by
    by_cases hnew : template.nodeCount ≤ c
    · obtain ⟨p, j, hp⟩ := hsite
      exact ⟨p, j, h.content_node_iff.2 (Or.inr ⟨(h.new_iff c).1 ⟨hnew, hc⟩, hp⟩)⟩
    · obtain ⟨p, j, hj⟩ := hsound.attached c hroot (Nat.lt_of_not_le hnew)
      exact ⟨p, j, h.content_node_iff.2 (Or.inl hj)⟩

/-- The tables of parents and children say what the content says. -/
theorem Rewired.linked (h : Rewired template other site slot gone) (hsound : Sound template) :
    Linked other := by
  have hrefers : ∀ p c, other.Refers p c ↔
      template.Refers p c ∨ slot = .node c ∧ ∃ j, site p j := by
    intro p c
    simp only [Refers, h.content_node_iff, exists_or, exists_and_left]
  refine ⟨fun p c j => ?_, fun p c hc => ?_, fun p c => ?_, fun p c hp => ?_, fun p c hp => ?_⟩
  · rw [h.holds_iff, hsound.holds_iff, h.content_node_iff]
  · rcases h.child_held p c hc with hold | ⟨hslot, j, hj⟩
    · obtain ⟨j, hj⟩ := hsound.child_held p c hold
      exact ⟨j, (h.holds_iff p c j).2 (Or.inl hj)⟩
    · exact ⟨j, (h.holds_iff p c j).2 (Or.inr ⟨hslot, hj⟩)⟩
  · rw [h.parents_iff, hsound.parents_iff, hrefers]
  · rcases (hrefers p c).1 hp with hold | ⟨hslot, j, hj⟩
    · exact hsound.forward p c hold
    · exact (h.at_site p j hj).1.trans_le ((h.new_iff c).2 hslot).1
  · rcases (hrefers p c).1 hp with hold | ⟨hslot, -⟩
    · exact (hsound.valid p c hold).trans_le h.grows
    · exact ((h.new_iff c).2 hslot).2

/-- If the slot refers to no node, nothing is left to do. -/
theorem Rewired.sound (h : Rewired template other site slot gone) (hsound : Sound template)
    (hsite : ∃ p j, site p j) (hplain : ∀ c, slot ≠ .node c) : Sound other :=
  { h.linked hsound, h.supported hsound, h.rooted hsound hsite with
    direct := fun _ _ _ => h.direct hsound
    inherited := fun _ c _ _ => h.inherited hsound (hplain c) }

/-- If the slot refers to a new node, the names of that node have to be passed on. -/
theorem Rewired.sound_propagate (h : Rewired template other site slot gone)
    (hsound : Sound template) (hsite : ∃ p j, site p j) (hchild : slot = .node c) :
    Sound (other.propagate c) := by
  have hlinks := sameLinks_propagate other c
  have hvisible : Visible (other.propagate c) := by
    refine visible_propagate (h.linked hsound) (h.supported hsound)
      (fun p name j => h.direct hsound) fun p d name j hne => h.inherited hsound ?_
    rw [hchild]
    exact fun heq => hne (Slot.node.inj heq).symm
  exact { (h.linked hsound).of_sameLinks hlinks, hvisible,
    (h.rooted hsound hsite).of_sameLinks hlinks with }

/-- The step after a slot has been put in place: the node that it refers to, if any, is attached to the
sites. -/
def settle (template : Template) (slot : Slot) (sites : List (Nat × List Nat)) : Template :=
  match slot.child? with
  | some child => template.attachAll child sites
  | none => template

/-- Attaching the new node changes no content and no open name. -/
theorem content_settle (slot : Slot) (sites : List (Nat × List Nat)) (q : Nat) :
    ((template.settle slot sites).node q).content = (template.node q).content ∧
      ((template.settle slot sites).node q).placeholders = (template.node q).placeholders := by
  rw [settle]
  split
  · exact content_attachAll sites
  · exact ⟨rfl, rfl⟩

/-- Nothing has to be attached for a slot that refers to no node. -/
theorem Overwritten.rewired_of_plain (h : Overwritten template other site slot gone)
    (hparents : ∀ p, (other.node p).parents = (template.node p).parents)
    (hchildren : ∀ p, (other.node p).children = (template.node p).children)
    (hplain : ∀ c, slot ≠ .node c) : Rewired template other site slot gone :=
  { h with
    holds_iff := fun p c j => by simp [Node.holds, hchildren, hplain c]
    child_held := fun p c hc => Or.inl (by rwa [hchildren] at hc)
    parents_iff := fun p c => by simp [hparents, hplain c] }

/-- A new node is attached to the sites. -/
theorem Overwritten.rewired_attachAll (h : Overwritten template other site slot gone)
    (hparents : ∀ p, (other.node p).parents = (template.node p).parents)
    (hchildren : ∀ p, (other.node p).children = (template.node p).children)
    {sites : List (Nat × List Nat)}
    (hsites : ∀ p j, site p j ↔ ∃ positions, (p, positions) ∈ sites ∧ j ∈ positions)
    (hnonempty : ∀ p positions, (p, positions) ∈ sites → ∃ j, j ∈ positions)
    (hslot : slot = .node child) : Rewired template (other.attachAll child sites) site slot gone := by
  have hwhere : ∀ p, (∃ positions, (p, positions) ∈ sites) ↔ ∃ j, site p j := by
    intro p
    constructor
    · intro hgiven
      obtain ⟨positions, hp⟩ := hgiven
      obtain ⟨j, hj⟩ := hnonempty p positions hp
      exact ⟨j, (hsites p j).2 ⟨positions, hp, hj⟩⟩
    · intro hgiven
      obtain ⟨j, hj⟩ := hgiven
      obtain ⟨positions, hp, -⟩ := (hsites p j).1 hj
      exact ⟨positions, hp⟩
  have hvalid : ∀ site ∈ sites, site.1 < other.nodeCount := by
    intro site hsite
    obtain ⟨j, hj⟩ := (hwhere site.1).1 ⟨site.2, hsite⟩
    exact (h.at_site site.1 j hj).1.trans_le h.grows
  have hnew := ((h.new_iff child).2 hslot).2
  have hover : Overwritten template (other.attachAll child sites) site slot gone :=
    h.congr (nodeCount_attachAll sites) fun p => content_attachAll sites
  have hchild : ∀ c, slot = .node c ↔ c = child := by
    intro c
    rw [hslot, Slot.node.injEq, eq_comm]
  refine { hover with holds_iff := fun p c j => ?_, child_held := fun p c hc => ?_,
                      parents_iff := fun p c => ?_ }
  · rw [mem_holds_attachAll sites hvalid, Node.holds, hchildren, ← Node.holds, hchild, hsites]
  · rw [mem_children_attachAll sites hvalid, hchildren, hwhere] at hc
    rwa [hchild]
  · rw [mem_parents_attachAll sites hnew, hparents, hwhere, hchild]

/-- Attaching the new node to the sites brings the tables of parents and children up to date. -/
theorem Overwritten.rewired (h : Overwritten template other site slot gone)
    (hparents : ∀ p, (other.node p).parents = (template.node p).parents)
    (hchildren : ∀ p, (other.node p).children = (template.node p).children)
    {sites : List (Nat × List Nat)}
    (hsites : ∀ p j, site p j ↔ ∃ positions, (p, positions) ∈ sites ∧ j ∈ positions)
    (hnonempty : ∀ p positions, (p, positions) ∈ sites → ∃ j, j ∈ positions) :
    Rewired template (other.settle slot sites) site slot gone := by
  rw [settle]
  cases slot with
  | node child => exact h.rewired_attachAll hparents hchildren hsites hnonempty rfl
  | literal text => exact h.rewired_of_plain hparents hchildren (by simp)
  | placeholder name => exact h.rewired_of_plain hparents hchildren (by simp)
  | template place => exact h.rewired_of_plain hparents hchildren (by simp)

end RegexTemplate.Template
