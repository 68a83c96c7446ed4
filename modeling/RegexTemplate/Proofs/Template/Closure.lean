import RegexTemplate.Proofs.Template.Propagation
import Mathlib.Logic.Relation

/-!
# The least closure of the open names

Passing names on is work on an agenda of pending nodes.  A visit takes one of them off, tells its parents
of its names and puts those on the agenda who have learned of a name (`Visit`).  Here the node may be any
that is pending, and what is put on the agenda may go anywhere, so that a queue is one way among others.

No order goes on for ever, also where the links to parents run in a circle: a visit takes one node off, and
each node that it puts on fills a gap (`Visit.weight_lt`).  Two invariants say what has been reached when
nothing is pending.  An edge that is not closed starts at a pending node (`Visit.informed`), so in the end
all are closed.  And a visit records nothing that is not on record in every closed template that contains
the one before (`Visit.contained_of_closed`), so the end is the least of these, whatever the order was.

Main statement: `leastClosure_propagate`.
-/

namespace RegexTemplate.Template

variable {template other result : Template} {child parent start q fuel : Nat} {queue : List Nat}
  {name : String}

/-- Every parent is informed of every child. -/
def Closed (template : Template) : Prop :=
  ∀ child parent, parent ∈ (template.node child).parents → template.Informed parent child

/-- The parents of all nodes are nodes of the template. -/
def Bounded (template : Template) : Prop :=
  ∀ child parent, parent ∈ (template.node child).parents → parent < template.nodeCount

/-- What is asked of all edges can be looked up at the nodes that there are. -/
theorem forall_edge_iff {p : Nat → Nat → Prop} :
    (∀ child parent, parent ∈ (template.node child).parents → p child parent) ↔
      ∀ child < template.nodeCount, ∀ parent ∈ (template.node child).parents.toList,
        p child parent := by
  constructor
  · intro h child _ parent hparent
    exact h child parent (Std.TreeSet.mem_toList.1 hparent)
  · intro h child parent hparent
    by_cases hchild : child < template.nodeCount
    · exact h child hchild parent (Std.TreeSet.mem_toList.2 hparent)
    · rw [node_of_nodeCount_le (Nat.le_of_not_lt hchild)] at hparent
      exact absurd hparent Std.TreeSet.not_mem_emptyc

instance : Decidable (template.Informed parent child) :=
  decidable_of_iff (∀ name ∈ (template.node child).names,
      name ∈ (template.node parent).placeholders ∧
        ∀ j ∈ ((template.node parent).holds child).toList, j ∈ (template.node parent).through name) (by
    simp only [Informed, Node.mem_names, Std.TreeSet.mem_toList])

instance : Decidable (Closed template) := decidable_of_iff' _ forall_edge_iff

instance : Decidable (Bounded template) := decidable_of_iff' _ forall_edge_iff

theorem SameLinks.symm (h : SameLinks template other) : SameLinks other template :=
  ⟨h.nodeCount.symm, fun q => (h.content q).symm, fun q => (h.parents q).symm,
    fun q => (h.children q).symm⟩

/-- Two templates with the same links, where all that is on record in the first one is on record in the
second one too. -/
structure Contained (template other : Template) : Prop where
  links : SameLinks template other
  names : ∀ q, ∀ name ∈ (template.node q).placeholders, name ∈ (other.node q).placeholders
  slots : ∀ q name, ∀ j ∈ (template.node q).through name, j ∈ (other.node q).through name

theorem Contained.refl (template : Template) : Contained template template :=
  ⟨.refl template, fun _ _ h => h, fun _ _ _ h => h⟩

theorem Contained.trans {first second third : Template} (h : Contained first second)
    (h' : Contained second third) : Contained first third :=
  ⟨h.links.trans h'.links, fun q name hname => h'.names q name (h.names q name hname),
    fun q name j hj => h'.slots q name j (h.slots q name j hj)⟩

theorem Bounded.of_sameLinks (hbounded : Bounded template) (h : SameLinks template other) :
    Bounded other := by
  intro child parent hparent
  rw [h.parents] at hparent
  rw [h.nodeCount]
  exact hbounded child parent hparent

/-- The least of the closed templates that contain a given one. -/
structure LeastClosure (template result : Template) : Prop where
  contained : Contained template result
  closed : Closed result
  least : ∀ other, Contained template other → Closed other → Contained result other

/-- Only one template is the least closure, as far as records can tell. -/
theorem LeastClosure.contained_of_leastClosure (h : LeastClosure template result)
    (h' : LeastClosure template other) : Contained result other :=
  h.least other h'.contained h'.closed

/-- A node passes its names on to its parents.  Returns also those who have learned of a name. -/
def passOn (template : Template) (child : Nat) : List Nat × Template :=
  template.informAll child (template.node child).names (template.node child).parents.toList

theorem sameLinks_passOn (template : Template) (child : Nat) :
    SameLinks template (template.passOn child).2 := sameLinks_informAll ..

theorem mem_placeholders_passOn :
    name ∈ ((template.passOn child).2.node q).placeholders ↔ name ∈ (template.node q).placeholders ∨
      q ∈ (template.node child).parents ∧ q < template.nodeCount ∧
        name ∈ (template.node child).placeholders := by
  rw [passOn, mem_placeholders_informAll, Std.TreeSet.mem_toList, Node.mem_names]

theorem mem_through_passOn {j : Nat} :
    j ∈ ((template.passOn child).2.node q).through name ↔ j ∈ (template.node q).through name ∨
      q ∈ (template.node child).parents ∧ q < template.nodeCount ∧
        name ∈ (template.node child).placeholders ∧ j ∈ (template.node q).holds child := by
  rw [passOn, mem_through_informAll, Std.TreeSet.mem_toList, Node.mem_names]

/-- Those who learn of a name are parents of the node. -/
theorem mem_parents_of_learned {names : List String} {parents : List Nat}
    (h : q ∈ (template.informAll child names parents).1) : q ∈ parents := by
  induction parents generalizing template with
  | nil => exact h
  | cons first parents ih =>
      rw [informAll] at h
      by_cases hlacks : template.lacks first names
      · simp only [hlacks, if_true, List.mem_cons] at h
        rcases h with rfl | hrest
        · exact List.mem_cons_self
        · exact List.mem_cons_of_mem first (ih hrest)
      · simp only [hlacks, if_false, Bool.false_eq_true] at h
        exact List.mem_cons_of_mem first (ih h)

/-- A template, and the nodes that have yet to pass their names on. -/
structure Agenda where
  template : Template
  pending : List Nat

/-- One of the pending nodes passes its names on. -/
inductive Visit (now next : Agenda) : Prop where
  | of (child : Nat) (rest : List Nat)
      (taken : now.pending.Perm (child :: rest))
      (informed : next.template = (now.template.passOn child).2)
      (put : next.pending.Perm (rest ++ (now.template.passOn child).1))

/-- Pending nodes pass their names on, one after the other. -/
abbrev Visits : Agenda → Agenda → Prop := Relation.ReflTransGen Visit

/-- How many visits there can be at most: one for each pending node, and one for each gap. -/
def Agenda.weight (agenda : Agenda) : Nat :=
  agenda.pending.length + (agenda.template.gaps agenda.template.vocabulary).card

theorem mem_vocabulary_iff :
    name ∈ template.vocabulary ↔ ∃ q, name ∈ (template.node q).placeholders := by
  constructor
  · intro hname
    obtain ⟨node, hnode, hknown⟩ := List.mem_flatMap.1 (List.mem_toFinset.1 hname)
    obtain ⟨q, hq⟩ := Array.mem_iff_getElem?.1 (Array.mem_toList_iff.1 hnode)
    refine ⟨q, ?_⟩
    rw [Template.node, Array.getD_eq_getD_getElem?, hq, Option.getD_some]
    exact Node.mem_names.1 hknown
  · intro hname
    obtain ⟨q, hknown⟩ := hname
    exact mem_vocabulary hknown

/-- Passing names on brings no name that was nowhere. -/
theorem vocabulary_passOn_subset (template : Template) (child : Nat) :
    (template.passOn child).2.vocabulary ⊆ template.vocabulary := by
  intro name hname
  obtain ⟨q, hknown⟩ := mem_vocabulary_iff.1 hname
  rcases mem_placeholders_passOn.1 hknown with hold | ⟨-, -, hnew⟩
  · exact mem_vocabulary hold
  · exact mem_vocabulary hnew

/-- As many gaps are filled as parents learn of a name. -/
theorem length_learned_add_card_gaps_passOn_le (hbounded : Bounded template) (child : Nat) :
    (template.passOn child).1.length +
        ((template.passOn child).2.gaps (template.passOn child).2.vocabulary).card ≤
      (template.gaps template.vocabulary).card := by
  have hparents : ∀ parent ∈ (template.node child).parents.toList, parent < template.nodeCount :=
    fun parent hparent => hbounded child parent (Std.TreeSet.mem_toList.1 hparent)
  have hnames : ∀ name ∈ (template.node child).names, name ∈ template.vocabulary :=
    fun name hname => mem_vocabulary (Node.mem_names.1 hname)
  have hfilled : (template.passOn child).1.length +
      ((template.passOn child).2.gaps template.vocabulary).card ≤
        (template.gaps template.vocabulary).card :=
    length_learned_add_card_gaps_le child hparents hnames
  have hgaps : (template.passOn child).2.gaps (template.passOn child).2.vocabulary ⊆
      (template.passOn child).2.gaps template.vocabulary := by
    intro gap hgap
    rw [mem_gaps] at hgap ⊢
    exact ⟨⟨hgap.1.1, vocabulary_passOn_subset template child hgap.1.2⟩, hgap.2⟩
  have hcard := Finset.card_le_card hgaps
  omega

namespace Visit

variable {now next : Agenda}

theorem sameLinks (h : Visit now next) : SameLinks now.template next.template := by
  obtain ⟨child, rest, -, hinformed, -⟩ := h
  rw [hinformed]
  exact sameLinks_passOn now.template child

/-- A visit forgets nothing. -/
theorem contained (h : Visit now next) : Contained now.template next.template := by
  have hlinks := h.sameLinks
  obtain ⟨child, rest, -, hinformed, -⟩ := h
  refine ⟨hlinks, fun q name hname => ?_, fun q name j hj => ?_⟩
  · rw [hinformed]
    exact mem_placeholders_passOn.2 (Or.inl hname)
  · rw [hinformed]
    exact mem_through_passOn.2 (Or.inl hj)

/-- A visit records nothing that is not on record in every closed template around it. -/
theorem contained_of_closed (h : Visit now next) (hother : Contained now.template other)
    (hclosed : Closed other) : Contained next.template other := by
  have hlinks := h.sameLinks.symm.trans hother.links
  obtain ⟨child, rest, -, hinformed, -⟩ := h
  have hedge : ∀ q, q ∈ (now.template.node child).parents → other.Informed q child := by
    intro q hq
    apply hclosed
    rwa [hother.links.parents]
  refine ⟨hlinks, fun q name hname => ?_, fun q name j hj => ?_⟩
  · rw [hinformed] at hname
    rcases mem_placeholders_passOn.1 hname with hold | ⟨hparent, -, hnew⟩
    · exact hother.names q name hold
    · exact (hedge q hparent name (hother.names child name hnew)).1
  · rw [hinformed] at hj
    rcases mem_through_passOn.1 hj with hold | ⟨hparent, -, hnew, hholds⟩
    · exact hother.slots q name j hold
    · apply (hedge q hparent name (hother.names child name hnew)).2
      rwa [hother.links.holds]

/-- Whoever is put on the agenda is a node. -/
theorem pending_lt (h : Visit now next) (hbounded : Bounded now.template)
    (hpending : ∀ q ∈ now.pending, q < now.template.nodeCount) :
    ∀ q ∈ next.pending, q < next.template.nodeCount := by
  intro q hq
  rw [h.sameLinks.nodeCount]
  obtain ⟨child, rest, htaken, -, hput⟩ := h
  rcases List.mem_append.1 (hput.mem_iff.1 hq) with hold | hlearned
  · exact hpending q (htaken.mem_iff.2 (List.mem_cons_of_mem child hold))
  · exact hbounded child q (Std.TreeSet.mem_toList.1 (mem_parents_of_learned hlearned))

/-- If every edge that is not closed starts at a pending node, this is so after a visit. -/
theorem informed (h : Visit now next) (hbounded : Bounded now.template)
    (hopen : ∀ child parent, parent ∈ (now.template.node child).parents →
      child ∈ now.pending ∨ now.template.Informed parent child) :
    ∀ child parent, parent ∈ (next.template.node child).parents →
      child ∈ next.pending ∨ next.template.Informed parent child := by
  obtain ⟨first, rest, htaken, hinformed, hput⟩ := h
  intro child parent hparent
  rw [hinformed] at hparent ⊢
  rw [hput.mem_iff]
  refine informed_informAll (hbounded first) (fun child parent hparent => ?_) child parent hparent
  rw [← htaken.mem_iff]
  exact hopen child parent hparent

/-- A visit takes one node off the agenda, and each node that it puts on has filled a gap. -/
theorem weight_lt (h : Visit now next) (hbounded : Bounded now.template) :
    next.weight < now.weight := by
  obtain ⟨child, rest, htaken, hinformed, hput⟩ := h
  have hfilled := length_learned_add_card_gaps_passOn_le hbounded child
  have htakenLength : now.pending.length = rest.length + 1 := htaken.length_eq
  have hputLength : next.pending.length = rest.length + (now.template.passOn child).1.length := by
    rw [hput.length_eq, List.length_append]
  rw [Agenda.weight, Agenda.weight, hinformed]
  omega

end Visit

/-- No order of visits goes on for ever. -/
theorem acc_visit (agenda : Agenda) (hbounded : Bounded agenda.template) :
    Acc (fun next now => Visit now next) agenda := by
  induction hweight : agenda.weight using Nat.strong_induction_on generalizing agenda with
  | _ weight ih =>
      refine Acc.intro agenda fun next hvisit => ?_
      have hlt := hvisit.weight_lt hbounded
      exact ih next.weight (hweight ▸ hlt) next (hbounded.of_sameLinks hvisit.sameLinks) rfl

/-- The node in front of a queue is visited, and those who learn of a name queue up behind. -/
theorem visit_head (template : Template) (child : Nat) (queue : List Nat) :
    Visit ⟨template, child :: queue⟩
      ⟨(template.passOn child).2, queue ++ (template.passOn child).1⟩ :=
  .of child queue (.refl _) rfl (.refl _)

theorem spread_cons (template : Template) (fuel child : Nat) (queue : List Nat) :
    template.spread (fuel + 1) (child :: queue) =
      (template.passOn child).2.spread fuel (queue ++ (template.passOn child).1) := rfl

theorem pending_eq_nil_of_weight_eq_zero (h : Agenda.weight ⟨template, queue⟩ ≤ 0) : queue = [] := by
  rw [Agenda.weight, Nat.le_zero, Nat.add_eq_zero_iff] at h
  exact List.length_eq_zero_iff.1 h.1

/-- A queue is worked off by visits, if there is enough fuel. -/
theorem visits_spread (hbounded : Bounded template)
    (hfuel : Agenda.weight ⟨template, queue⟩ ≤ fuel) :
    Visits ⟨template, queue⟩ ⟨template.spread fuel queue, []⟩ := by
  induction fuel generalizing template queue with
  | zero =>
      rw [pending_eq_nil_of_weight_eq_zero hfuel]
      exact .refl
  | succ fuel ih =>
      cases queue with
      | nil => exact .refl
      | cons child queue =>
          have hvisit := visit_head template child queue
          have hlt := hvisit.weight_lt hbounded
          rw [spread_cons]
          exact .head hvisit (ih (hbounded.of_sameLinks hvisit.sameLinks) (by omega))

/-- Fuel that is left over changes nothing. -/
theorem spread_eq_of_weight_le {more : Nat} (hbounded : Bounded template)
    (hfuel : Agenda.weight ⟨template, queue⟩ ≤ fuel)
    (hmore : Agenda.weight ⟨template, queue⟩ ≤ more) :
    template.spread more queue = template.spread fuel queue := by
  induction fuel generalizing template queue more with
  | zero =>
      rw [pending_eq_nil_of_weight_eq_zero hfuel]
      cases more <;> rfl
  | succ fuel ih =>
      cases queue with
      | nil => cases more <;> rfl
      | cons child queue =>
          have hvisit := visit_head template child queue
          have hlt := hvisit.weight_lt hbounded
          obtain ⟨rest, rfl⟩ : ∃ rest, more = rest + 1 := ⟨more - 1, by omega⟩
          rw [spread_cons, spread_cons]
          exact ih (hbounded.of_sameLinks hvisit.sameLinks) (by omega) (by omega)

/-- The fuel that there is covers the start and all gaps. -/
theorem weight_le_lessons (template : Template) (start : Nat) :
    Agenda.weight ⟨template, [start]⟩ ≤ 1 + template.lessons :=
  Nat.add_le_add_left (card_gaps_le_lessons template) 1

/-- Passing on the names of a node is a run of visits that leaves nothing pending. -/
theorem visits_propagate (hbounded : Bounded template) (start : Nat) :
    Visits ⟨template, [start]⟩ ⟨template.propagate start, []⟩ :=
  visits_spread hbounded (weight_le_lessons template start)

/-- What visits have made of a template whose open edges all started at pending nodes. -/
structure Reached (template : Template) (agenda : Agenda) : Prop where
  contained : Contained template agenda.template
  least : ∀ other, Contained template other → Closed other → Contained agenda.template other
  pending_lt : ∀ q ∈ agenda.pending, q < agenda.template.nodeCount

theorem reached_of_visits (hbounded : Bounded template) (hstart : start < template.nodeCount)
    {agenda : Agenda} (h : Visits ⟨template, [start]⟩ agenda) : Reached template agenda := by
  induction h with
  | refl =>
      refine ⟨.refl template, fun other hother _ => hother, fun q hq => ?_⟩
      rwa [List.mem_singleton.1 hq]
  | tail _ hvisit ih =>
      refine ⟨ih.contained.trans hvisit.contained, fun other hother hclosed => ?_, ?_⟩
      · exact hvisit.contained_of_closed (ih.least other hother hclosed) hclosed
      · exact hvisit.pending_lt (hbounded.of_sameLinks ih.contained.links) ih.pending_lt

/-- Open edges start at pending nodes throughout, if at first they all start at one node. -/
theorem informed_of_visits (hbounded : Bounded template)
    (hrest : ∀ child parent, parent ∈ (template.node child).parents → child ≠ start →
      template.Informed parent child)
    {agenda : Agenda} (h : Visits ⟨template, [start]⟩ agenda) :
    Bounded agenda.template ∧ ∀ child parent, parent ∈ (agenda.template.node child).parents →
      child ∈ agenda.pending ∨ agenda.template.Informed parent child := by
  induction h with
  | refl =>
      refine ⟨hbounded, fun child parent hparent => ?_⟩
      by_cases hchild : child = start
      · exact Or.inl (List.mem_singleton.2 hchild)
      · exact Or.inr (hrest child parent hparent hchild)
  | tail _ hvisit ih =>
      exact ⟨ih.1.of_sameLinks hvisit.sameLinks, hvisit.informed ih.1 ih.2⟩

/-- **Passing names on ends, and what it leaves is the least closure.**  Let the parents of all nodes be
nodes of the template; they may run in a circle.  Then for each node to start from:

* pending nodes cannot be visited for ever, in whatever order this is done;
* the queue is worked off until nothing is pending, and more fuel than there is would change nothing;
* all that is ever pending are nodes of the template.

If moreover every edge is closed at first that does not start at this node:

* what is left has the same links, every edge in it is closed, and all that is on record in it is on record
  in every closed template with the same links that contains the first one;
* every other order of visits leaves the same names, reached through the same slots. -/
theorem leastClosure_propagate (template : Template) {start : Nat}
    (hstart : start < template.nodeCount) (hbounded : Bounded template) :
    Acc (fun next now => Visit now next) ⟨template, [start]⟩ ∧
    Visits ⟨template, [start]⟩ ⟨template.propagate start, []⟩ ∧
    (∀ fuel ≥ 1 + template.lessons, template.spread fuel [start] = template.propagate start) ∧
    (∀ agenda, Visits ⟨template, [start]⟩ agenda → ∀ q ∈ agenda.pending, q < template.nodeCount) ∧
    ((∀ child parent, parent ∈ (template.node child).parents → child ≠ start →
        template.Informed parent child) →
      LeastClosure template (template.propagate start) ∧
      ∀ result, Visits ⟨template, [start]⟩ ⟨result, []⟩ →
        Contained result (template.propagate start) ∧ Contained (template.propagate start) result) := by
  have hrun := visits_propagate hbounded start
  refine ⟨acc_visit _ hbounded, hrun, fun fuel hfuel => ?_, fun agenda hvisits q hq => ?_,
    fun hrest => ?_⟩
  · have hweight := weight_le_lessons template start
    exact spread_eq_of_weight_le hbounded hweight (hweight.trans hfuel)
  · have hreached := reached_of_visits hbounded hstart hvisits
    have hlt := hreached.pending_lt q hq
    rwa [hreached.contained.links.nodeCount] at hlt
  · have hleast : ∀ result, Visits ⟨template, [start]⟩ ⟨result, []⟩ →
        LeastClosure template result := by
      intro result hvisits
      have hreached := reached_of_visits hbounded hstart hvisits
      refine ⟨hreached.contained, fun child parent hparent => ?_, hreached.least⟩
      have hopen := (informed_of_visits hbounded hrest hvisits).2 child parent hparent
      exact hopen.resolve_left List.not_mem_nil
    have hend := hleast (template.propagate start) hrun
    refine ⟨hend, fun result hvisits => ?_⟩
    exact ⟨(hleast result hvisits).contained_of_leastClosure hend,
      hend.contained_of_leastClosure (hleast result hvisits)⟩

/-- Three nodes in a circle.  The last one holds a name that has not been passed on. -/
def circle : Template :=
  let first : Node := { content := #[.node 1] }
  let second : Node := { content := #[.placeholder "y", .node 2] }
  let third : Node := { content := #[.placeholder "x", .node 0] }
  let nodes : Template :=
    ⟨#[first.expose "y" [0], second.expose "y" [0], (third.expose "x" [0]).expose "y" [1]]⟩
  ((nodes.attach 1 0 [0]).attach 2 1 [1]).attach 0 2 [1]

/-- A name goes round the circle once, and its own node then reaches it through one more slot. -/
theorem leastClosure_propagate_circle :
    ¬ circle.Informed 1 2 ∧ Acc (fun next now => Visit now next) ⟨circle, [2]⟩ ∧
      LeastClosure circle (circle.propagate 2) ∧
      (((circle.propagate 2).node 0).through "x").toList = [0] ∧
      (((circle.propagate 2).node 1).through "y").toList = [0, 1] ∧
      (((circle.propagate 2).node 2).through "x").toList = [0, 1] := by
  have hbounded : circle.Bounded := by decide +kernel
  have hrest : ∀ child parent, parent ∈ (circle.node child).parents → child ≠ 2 →
      circle.Informed parent child := by
    rw [forall_edge_iff]
    decide +kernel
  have hstart : 2 < circle.nodeCount := by decide +kernel
  obtain ⟨hends, -, -, -, hclosure⟩ := leastClosure_propagate circle hstart hbounded
  exact ⟨by decide +kernel, hends, (hclosure hrest).1, by decide +kernel, by decide +kernel,
    by decide +kernel⟩

end RegexTemplate.Template
