import RegexTemplate.Proofs.Template.Tables
import RegexTemplate.Template.Visibility
import Mathlib.Data.Finset.Card
import Mathlib.Data.Finset.Prod
import Mathlib.Data.Finset.Dedup

/-!
# Passing names on upwards

Passing names on changes nothing but the tables of open names, so the shape of a template stays
(`sameLinks_propagate`).  The queue runs empty: each node that enters it fills one of the gaps, the
pairs of a node and a name that the node does not know, and there are only finitely many.

The main statement is `informed_propagate`.  If every parent knows the names of every child, except
possibly of one child to start from, then after passing on the names of that child every parent knows
the names of every child.  Nothing is assumed about the order of the nodes or about cycles.
-/

namespace RegexTemplate.Template

/-- Two templates that differ in their tables of open names only. -/
structure SameLinks (template other : Template) : Prop where
  nodeCount : other.nodeCount = template.nodeCount
  content : ∀ q, (other.node q).content = (template.node q).content
  parents : ∀ q, (other.node q).parents = (template.node q).parents
  children : ∀ q, (other.node q).children = (template.node q).children

theorem SameLinks.refl (template : Template) : SameLinks template template :=
  ⟨rfl, fun _ => rfl, fun _ => rfl, fun _ => rfl⟩

theorem SameLinks.trans {first second third : Template} (h : SameLinks first second)
    (h' : SameLinks second third) : SameLinks first third :=
  ⟨h'.nodeCount.trans h.nodeCount, fun q => (h'.content q).trans (h.content q),
    fun q => (h'.parents q).trans (h.parents q), fun q => (h'.children q).trans (h.children q)⟩

/-- The slots on record for a child do not depend on the open names. -/
theorem SameLinks.holds {template other : Template} (h : SameLinks template other) (q c : Nat) :
    (other.node q).holds c = (template.node q).holds c := by
  rw [Node.holds, Node.holds, h.children]

variable {template : Template} {child parent q c j : Nat} {name : String} {names : List String}

/-- Recording several names changes the table of open names only. -/
theorem links_foldl_expose (names : List String) (positions : List Nat) (node : Node) :
    let told := names.foldl (fun changed name => changed.expose name positions) node
    told.content = node.content ∧ told.parents = node.parents ∧ told.children = node.children := by
  induction names generalizing node with
  | nil => exact ⟨rfl, rfl, rfl⟩
  | cons first names ih => exact ih (node.expose first positions)

/-- Recording several names puts these on record and forgets none. -/
theorem mem_placeholders_foldl_expose (positions : List Nat) (node : Node) :
    name ∈ (names.foldl (fun changed name => changed.expose name positions) node).placeholders ↔
      name ∈ node.placeholders ∨ name ∈ names := by
  induction names generalizing node with
  | nil => simp
  | cons first names ih =>
      rw [List.foldl_cons, ih, Node.mem_placeholders_expose, List.mem_cons, or_assoc]

/-- Recording several names adds the given slots to each of them. -/
theorem mem_through_foldl_expose (positions : List Nat) (node : Node) :
    j ∈ (names.foldl (fun changed name => changed.expose name positions) node).through name ↔
      j ∈ node.through name ∨ name ∈ names ∧ j ∈ positions := by
  induction names generalizing node with
  | nil => simp
  | cons first names ih =>
      rw [List.foldl_cons, ih, Node.mem_through_expose, List.mem_cons]
      tauto

/-- Telling a parent about names changes open names only. -/
theorem sameLinks_inform (template : Template) (child parent : Nat) (names : List String) :
    SameLinks template (template.inform child parent names) := by
  have htold := fun q => links_foldl_expose names
    (((template.node q).children.getD child ∅).toList) (template.node q)
  refine ⟨nodeCount_modifyNode .., fun q => ?_, fun q => ?_, fun q => ?_⟩ <;>
    rw [inform, node_modifyNode] <;> split
  · exact (htold q).1
  · rfl
  · exact (htold q).2.1
  · rfl
  · exact (htold q).2.2
  · rfl

/-- The parent that is told of names knows them from then on. -/
theorem mem_placeholders_inform :
    name ∈ ((template.inform child parent names).node q).placeholders ↔
      name ∈ (template.node q).placeholders ∨
        q = parent ∧ q < template.nodeCount ∧ name ∈ names := by
  rw [inform, node_modifyNode]
  split
  · next htold =>
      obtain ⟨rfl, hq⟩ := htold
      rw [mem_placeholders_foldl_expose]
      simp [hq]
  · next htold =>
      refine ⟨Or.inl, fun h => h.elim id fun hnew => ?_⟩
      exact absurd ⟨hnew.1.symm, hnew.2.1⟩ htold

/-- The parent that is told of names reaches them through the slots that refer to the child. -/
theorem mem_through_inform :
    j ∈ ((template.inform child parent names).node q).through name ↔
      j ∈ (template.node q).through name ∨
        q = parent ∧ q < template.nodeCount ∧ name ∈ names ∧ j ∈ (template.node q).holds child := by
  rw [inform, node_modifyNode]
  split
  · next htold =>
      obtain ⟨rfl, hq⟩ := htold
      rw [mem_through_foldl_expose, Std.TreeSet.mem_toList]
      simp [hq, Node.holds]
  · next htold =>
      refine ⟨Or.inl, fun h => h.elim id fun hnew => ?_⟩
      exact absurd ⟨hnew.1.symm, hnew.2.1⟩ htold

/-- A node lacks names if one of them is not on record. -/
theorem lacks_iff {id : Nat} :
    template.lacks id names ↔ ∃ name ∈ names, name ∉ (template.node id).placeholders := by
  simp only [lacks, List.any_eq_true, Bool.not_eq_true', Bool.eq_false_iff, Ne,
    Std.TreeMap.contains_iff_mem]

/-- Telling several parents about names changes open names only. -/
theorem sameLinks_informAll (template : Template) (child : Nat) (names : List String)
    (parents : List Nat) : SameLinks template (template.informAll child names parents).2 := by
  induction parents generalizing template with
  | nil => exact .refl template
  | cons parent parents ih => exact (sameLinks_inform template child parent names).trans (ih _)

/-- Each parent that is told of names knows them from then on. -/
theorem mem_placeholders_informAll (parents : List Nat) :
    name ∈ (((template.informAll child names parents).2).node q).placeholders ↔
      name ∈ (template.node q).placeholders ∨
        q ∈ parents ∧ q < template.nodeCount ∧ name ∈ names := by
  induction parents generalizing template with
  | nil => simp [informAll]
  | cons parent parents ih =>
      rw [informAll, ih, mem_placeholders_inform, List.mem_cons,
        (sameLinks_inform template child parent names).nodeCount]
      tauto

/-- Each parent that is told of names reaches them through the slots that refer to the child. -/
theorem mem_through_informAll (parents : List Nat) :
    j ∈ (((template.informAll child names parents).2).node q).through name ↔
      j ∈ (template.node q).through name ∨
        q ∈ parents ∧ q < template.nodeCount ∧ name ∈ names ∧ j ∈ (template.node q).holds child := by
  induction parents generalizing template with
  | nil => simp [informAll]
  | cons parent parents ih =>
      rw [informAll, ih, mem_through_inform, List.mem_cons,
        (sameLinks_inform template child parent names).nodeCount,
        (sameLinks_inform template child parent names).holds]
      tauto

/-- A parent that does not learn of a name knew them all. -/
theorem mem_placeholders_of_not_learned {parents : List Nat} (hparent : parent ∈ parents)
    (hlearned : parent ∉ (template.informAll child names parents).1) (hname : name ∈ names) :
    name ∈ (template.node parent).placeholders := by
  induction parents generalizing template with
  | nil => simp at hparent
  | cons first parents ih =>
      rw [informAll] at hlearned
      by_cases hlacks : template.lacks first names
      · simp only [hlacks, if_true, List.mem_cons, not_or] at hlearned
        have hrest := ih ((List.mem_cons.1 hparent).resolve_left hlearned.1) hlearned.2
        exact (mem_placeholders_inform.1 hrest).resolve_right fun h => hlearned.1 h.1
      · simp only [hlacks, if_false, Bool.false_eq_true] at hlearned
        have hknown : ∀ name ∈ names, name ∈ (template.node first).placeholders := by
          simpa [lacks_iff] using hlacks
        rcases List.mem_cons.1 hparent with rfl | hrest
        · exact hknown name hname
        · refine (mem_placeholders_inform.1 (ih hrest hlearned)).elim id ?_
          intro hgiven
          obtain ⟨rfl, -⟩ := hgiven
          exact hknown name hname

/-- The pairs of a node and a name, out of a given set of names, that the node does not know. -/
def gaps (template : Template) (vocabulary : Finset String) : Finset (Nat × String) :=
  (Finset.range template.nodeCount ×ˢ vocabulary).filter fun gap =>
    gap.2 ∉ (template.node gap.1).placeholders

theorem mem_gaps {vocabulary : Finset String} {gap : Nat × String} :
    gap ∈ template.gaps vocabulary ↔ (gap.1 < template.nodeCount ∧ gap.2 ∈ vocabulary) ∧
      gap.2 ∉ (template.node gap.1).placeholders := by
  rw [gaps, Finset.mem_filter, Finset.mem_product, Finset.mem_range]

/-- Telling a parent about names opens no gap. -/
theorem gaps_inform_subset (template : Template) (child parent : Nat) (names : List String)
    (vocabulary : Finset String) : (template.inform child parent names).gaps vocabulary ⊆ template.gaps vocabulary := by
  intro gap hgap
  rw [mem_gaps, (sameLinks_inform template child parent names).nodeCount] at hgap
  refine mem_gaps.2 ⟨hgap.1, fun hknown => hgap.2 ?_⟩
  exact mem_placeholders_inform.2 (Or.inl hknown)

/-- A parent that learns of a name fills a gap. -/
theorem card_gaps_inform_lt {vocabulary : Finset String} (child : Nat) (hparent : parent < template.nodeCount)
    (hnames : ∀ name ∈ names, name ∈ vocabulary) (hlacks : template.lacks parent names) :
    ((template.inform child parent names).gaps vocabulary).card <
      (template.gaps vocabulary).card := by
  obtain ⟨name, hname, hunknown⟩ := lacks_iff.1 hlacks
  refine Finset.card_lt_card ((Finset.ssubset_iff_of_subset (gaps_inform_subset ..)).2 ?_)
  refine ⟨(parent, name), mem_gaps.2 ⟨⟨hparent, hnames name hname⟩, hunknown⟩, fun hgap => ?_⟩
  exact (mem_gaps.1 hgap).2 (mem_placeholders_inform.2 (Or.inr ⟨rfl, hparent, hname⟩))

/-- As many gaps are filled as parents learn of a name. -/
theorem length_learned_add_card_gaps_le (child : Nat) {vocabulary : Finset String}
    {parents : List Nat}
    (hparents : ∀ parent ∈ parents, parent < template.nodeCount)
    (hnames : ∀ name ∈ names, name ∈ vocabulary) :
    (template.informAll child names parents).1.length +
        ((template.informAll child names parents).2.gaps vocabulary).card ≤
      (template.gaps vocabulary).card := by
  induction parents generalizing template with
  | nil => simp [informAll]
  | cons parent parents ih =>
      have hcount := (sameLinks_inform template child parent names).nodeCount
      have hrest := @ih (template.inform child parent names) fun other hother => by
        rw [hcount]
        exact hparents other (List.mem_cons_of_mem _ hother)
      rw [informAll]
      by_cases hlacks : template.lacks parent names
      · have hfilled := card_gaps_inform_lt child (hparents parent List.mem_cons_self) hnames
          hlacks
        simp only [hlacks, if_true, List.length_cons]
        omega
      · have hkept := Finset.card_le_card
          (gaps_inform_subset template child parent names vocabulary)
        simp only [hlacks, if_false, Bool.false_eq_true]
        omega

/-- A parent knows every name of a child, through every slot that refers to the child. -/
def Informed (template : Template) (parent child : Nat) : Prop :=
  ∀ name ∈ (template.node child).placeholders,
    name ∈ (template.node parent).placeholders ∧
      ∀ j ∈ (template.node parent).holds child, j ∈ (template.node parent).through name

/-- One step of the queue.  The parents of the child in front become informed of it, and a parent
that was informed of another node stays so, unless that node has learned of a name; then it is in
the queue. -/
theorem informed_informAll {queue : List Nat}
    (hparents : ∀ p ∈ (template.node child).parents, p < template.nodeCount)
    (hqueue : ∀ c p, p ∈ (template.node c).parents →
      c ∈ child :: queue ∨ template.Informed p c) :
    let next := template.informAll child (template.node child).names
      (template.node child).parents.toList
    ∀ c p, p ∈ (next.2.node c).parents → c ∈ queue ++ next.1 ∨ next.2.Informed p c := by
  intro next c p hp
  have hlinks : SameLinks template next.2 := sameLinks_informAll ..
  have htold : ∀ {q name}, name ∈ (next.2.node q).placeholders ↔
      name ∈ (template.node q).placeholders ∨ q ∈ (template.node child).parents.toList ∧
        q < template.nodeCount ∧ name ∈ (template.node child).names :=
    mem_placeholders_informAll _
  have hreached : ∀ {q name j}, j ∈ (next.2.node q).through name ↔
      j ∈ (template.node q).through name ∨ q ∈ (template.node child).parents.toList ∧
        q < template.nodeCount ∧ name ∈ (template.node child).names ∧
          j ∈ (template.node q).holds child :=
    mem_through_informAll _
  rw [hlinks.parents] at hp
  by_cases hchild : c = child
  · -- the child's own names are the same afterwards, even where it is its own parent
    subst hchild
    right
    intro name hname
    have hold : name ∈ (template.node c).names :=
      (htold.1 hname).elim Node.mem_names.2 fun h => h.2.2
    have hp' := Std.TreeSet.mem_toList.2 hp
    refine ⟨htold.2 (Or.inr ⟨hp', hparents p hp, hold⟩), fun j hj => ?_⟩
    rw [hlinks.holds] at hj
    exact hreached.2 (Or.inr ⟨hp', hparents p hp, hold, hj⟩)
  · by_cases hlearned : c ∈ next.1
    · exact Or.inl (List.mem_append_right _ hlearned)
    · rcases hqueue c p hp with hc | hinformed
      · exact Or.inl (List.mem_append_left _ ((List.mem_cons.1 hc).resolve_left hchild))
      · right
        intro name hname
        have hold : name ∈ (template.node c).placeholders :=
          (htold.1 hname).elim id fun h => mem_placeholders_of_not_learned h.1 hlearned h.2.2
        obtain ⟨hknown, hslots⟩ := hinformed name hold
        refine ⟨htold.2 (Or.inl hknown), fun j hj => ?_⟩
        rw [hlinks.holds] at hj
        exact hreached.2 (Or.inl (hslots j hj))

/-- Passing names on changes open names only. -/
theorem sameLinks_spread (template : Template) (fuel : Nat) (queue : List Nat) :
    SameLinks template (template.spread fuel queue) := by
  fun_induction spread template fuel queue with
  | case1 => exact .refl _
  | case2 => exact .refl _
  | case3 template fuel child queue node learned informed hnext ih =>
      refine SameLinks.trans ?_ ih
      simpa [hnext] using
        sameLinks_informAll template child node.names node.parents.toList

/-- The names that are open somewhere in a template. -/
def vocabulary (template : Template) : Finset String :=
  (template.nodes.toList.flatMap Node.names).toFinset

/-- A node behind the last one has nothing on record. -/
theorem node_of_nodeCount_le (hq : template.nodeCount ≤ q) : template.node q = {} := by
  rw [node, Array.getD_eq_getD_getElem?, Array.getElem?_eq_none hq, Option.getD_none]

/-- The vocabulary holds the names of each node. -/
theorem mem_vocabulary (hname : name ∈ (template.node q).placeholders) :
    name ∈ template.vocabulary := by
  by_cases hq : q < template.nodeCount
  · refine List.mem_toFinset.2 (List.mem_flatMap.2 ⟨template.node q, ?_, Node.mem_names.2 hname⟩)
    refine Array.mem_toList_iff.2 (Array.mem_iff_getElem?.2 ⟨q, ?_⟩)
    rw [node, Array.getD_eq_getD_getElem?, Array.getElem?_eq_getElem hq, Option.getD_some]
  · rw [node_of_nodeCount_le (Nat.le_of_not_lt hq)] at hname
    simp at hname

/-- There are never more gaps than a template can have lessons. -/
theorem card_gaps_le_lessons (template : Template) :
    (template.gaps template.vocabulary).card ≤ template.lessons := by
  have hsize : template.vocabulary.card ≤
      (template.nodes.toList.map fun node => node.placeholders.size).sum := by
    refine (List.toFinset_card_le _).trans (Nat.le_of_eq ?_)
    simp [List.length_flatMap, Node.names, Std.TreeMap.length_keys]
  calc (template.gaps template.vocabulary).card
      ≤ (Finset.range template.nodeCount ×ˢ template.vocabulary).card := Finset.card_filter_le ..
    _ = template.nodeCount * template.vocabulary.card := by
        rw [Finset.card_product, Finset.card_range]
    _ ≤ template.lessons := Nat.mul_le_mul_left _ hsize

/-- With enough fuel the queue runs empty, and then every parent is informed.  The invariant is that
an edge whose parent is not informed starts at a node in the queue; the fuel covers the nodes in the
queue and one more visit for each gap. -/
theorem informed_spread {vocabulary : Finset String} (fuel : Nat) (queue : List Nat)
    (hvalid : ∀ c p, p ∈ (template.node c).parents → p < template.nodeCount)
    (hnames : ∀ q, ∀ name ∈ (template.node q).placeholders, name ∈ vocabulary)
    (hfuel : queue.length + (template.gaps vocabulary).card ≤ fuel)
    (hqueue : ∀ c p, p ∈ (template.node c).parents → c ∈ queue ∨ template.Informed p c)
    (hp : parent ∈ ((template.spread fuel queue).node child).parents) :
    (template.spread fuel queue).Informed parent child := by
  induction fuel generalizing template queue with
  | zero =>
      have hempty : queue = [] := List.length_eq_zero_iff.1 (by omega)
      subst hempty
      exact (hqueue child parent hp).resolve_left List.not_mem_nil
  | succ fuel ih =>
      cases queue with
      | nil => exact (hqueue child parent hp).resolve_left List.not_mem_nil
      | cons first queue =>
          rw [spread] at hp ⊢
          have hlinks := sameLinks_informAll template first (template.node first).names
            (template.node first).parents.toList
          have hparents : ∀ p ∈ (template.node first).parents.toList, p < template.nodeCount :=
            fun p hp => hvalid first p (Std.TreeSet.mem_toList.1 hp)
          have hgaps := length_learned_add_card_gaps_le first hparents
            fun name hname => hnames first name (Node.mem_names.1 hname)
          refine ih _ (fun c p hc => ?_) (fun q name hname => ?_) ?_ ?_ hp
          · rw [hlinks.parents] at hc
            rw [hlinks.nodeCount]
            exact hvalid c p hc
          · rcases (mem_placeholders_informAll _).1 hname with hold | ⟨-, -, hnew⟩
            · exact hnames q name hold
            · exact hnames first name (Node.mem_names.1 hnew)
          · simp only [List.length_append, List.length_cons] at hfuel ⊢
            omega
          · exact informed_informAll (fun p => hvalid first p) hqueue

/-- Passing names on forgets no slot. -/
theorem mem_through_spread (fuel : Nat) (queue : List Nat)
    (hj : j ∈ (template.node q).through name) :
    j ∈ ((template.spread fuel queue).node q).through name := by
  induction fuel generalizing template queue with
  | zero => exact hj
  | succ fuel ih =>
      cases queue with
      | nil => exact hj
      | cons first queue => exact ih _ ((mem_through_informAll _).2 (Or.inl hj))

/-- Passing names on from a node changes open names only. -/
theorem sameLinks_propagate (template : Template) (start : Nat) :
    SameLinks template (template.propagate start) := sameLinks_spread ..

/-- If every parent is informed of every child, except possibly of the start, then after passing on
the names of the start every parent is informed of every child. -/
theorem informed_propagate {start : Nat}
    (hvalid : ∀ c p, p ∈ (template.node c).parents → p < template.nodeCount)
    (hrest : ∀ c p, p ∈ (template.node c).parents → c ≠ start → template.Informed p c)
    (hp : parent ∈ ((template.propagate start).node child).parents) :
    (template.propagate start).Informed parent child := by
  refine informed_spread (1 + template.lessons) [start] hvalid (fun q name => mem_vocabulary) ?_
    (fun c p hc => ?_) hp
  · have := card_gaps_le_lessons template
    simp only [List.length_singleton]
    omega
  · by_cases hstart : c = start
    · exact Or.inl (List.mem_singleton.2 hstart)
    · exact Or.inr (hrest c p hc hstart)

end RegexTemplate.Template
