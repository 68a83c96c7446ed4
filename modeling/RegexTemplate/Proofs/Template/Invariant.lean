import RegexTemplate.Proofs.Template.Propagation
import Mathlib.Logic.Relation

/-!
# What holds of every template

Three tables stand beside the content of the nodes, and each says again what the content says.  A
template is `Linked` if parents and children are those of the content and references point to later
nodes, `Visible` if a name is on record at exactly the slots that hold it or a child where it is on
record, and `Rooted` if nothing is cut off from the root.

Together these decide what a name on record means: `mem_placeholders_iff`, a name is on record at a
node if and only if it stands somewhere below.  `visible_propagate` reduces visibility after passing
names on to what holds before.
-/

namespace RegexTemplate.Template

variable {template other : Template}

/-- A node refers to another in some slot. -/
def Refers (template : Template) (p c : Nat) : Prop :=
  ∃ j : Nat, (template.node p).content[j]? = some (.node c)

/-- The tables of parents and children say what the content says, and a node refers to later ones
only. -/
structure Linked (template : Template) : Prop where
  holds_iff : ∀ p c j, j ∈ (template.node p).holds c ↔
    (template.node p).content[j]? = some (.node c)
  child_held : ∀ p c, c ∈ (template.node p).children → ∃ j, j ∈ (template.node p).holds c
  parents_iff : ∀ p c, p ∈ (template.node c).parents ↔ template.Refers p c
  forward : ∀ p c, template.Refers p c → p < c
  valid : ∀ p c, template.Refers p c → c < template.nodeCount

/-- Each slot on record for a name holds it or a child where it is on record, and a name on record
has such a slot. -/
structure Supported (template : Template) : Prop where
  support : ∀ p name j, j ∈ (template.node p).through name →
    (template.node p).content[j]? = some (.placeholder name) ∨
      ∃ c, (template.node p).content[j]? = some (.node c) ∧
        name ∈ (template.node c).placeholders
  reached : ∀ p name, name ∈ (template.node p).placeholders →
    ∃ j, j ∈ (template.node p).through name

/-- The slots on record for a name are exactly those that hold it or a child where it is on
record. -/
structure Visible (template : Template) : Prop extends Supported template where
  direct : ∀ p name j, (template.node p).content[j]? = some (.placeholder name) →
    j ∈ (template.node p).through name
  inherited : ∀ p c name j, (template.node p).content[j]? = some (.node c) →
    name ∈ (template.node c).placeholders → j ∈ (template.node p).through name

/-- There is a root, no name stands in it, and some node refers to each other one. -/
structure Rooted (template : Template) : Prop where
  nodeCount_pos : 0 < template.nodeCount
  root_bare : ∀ (j : Nat) name, (template.node root).content[j]? ≠ some (.placeholder name)
  attached : ∀ c, root < c → c < template.nodeCount → ∃ p, template.Refers p c

/-- What holds of every template that is built from fragments and filled in. -/
structure Sound (template : Template) : Prop extends
  Linked template, Visible template, Rooted template

/-- Parents and children do not depend on the open names. -/
theorem Linked.of_sameLinks (hlinked : Linked template) (h : SameLinks template other) :
    Linked other where
  holds_iff p c j := by rw [h.holds, h.content, hlinked.holds_iff]
  child_held p c hc := by
    rw [h.children] at hc
    obtain ⟨j, hj⟩ := hlinked.child_held p c hc
    exact ⟨j, by rwa [h.holds]⟩
  parents_iff p c := by rw [h.parents, hlinked.parents_iff, Refers, Refers, h.content]
  forward p c hrefers := hlinked.forward p c (by rwa [Refers, h.content] at hrefers)
  valid p c hrefers := by
    rw [h.nodeCount]
    exact hlinked.valid p c (by rwa [Refers, h.content] at hrefers)

/-- Being rooted does not depend on the open names. -/
theorem Rooted.of_sameLinks (hrooted : Rooted template) (h : SameLinks template other) :
    Rooted other where
  nodeCount_pos := by rw [h.nodeCount]; exact hrooted.nodeCount_pos
  root_bare j name := by rw [h.content]; exact hrooted.root_bare j name
  attached c hroot hc := by
    rw [h.nodeCount] at hc
    obtain ⟨p, hp⟩ := hrooted.attached c hroot hc
    exact ⟨p, by rwa [Refers, h.content]⟩

/-- What a parent is told of is supported by the slots that refer to the child. -/
theorem Supported.informAll (hsupported : Supported template) (hlinked : Linked template)
    (child : Nat) :
    Supported (template.informAll child (template.node child).names
      (template.node child).parents.toList).2 where
  support p name j hj := by
    have hlinks := sameLinks_informAll template child (template.node child).names
      (template.node child).parents.toList
    have hkept : ∀ {q}, name ∈ (template.node q).placeholders →
        name ∈ ((template.informAll child (template.node child).names
          (template.node child).parents.toList).2.node q).placeholders :=
      fun hname => (mem_placeholders_informAll _).2 (Or.inl hname)
    rw [hlinks.content]
    rcases (mem_through_informAll _).1 hj with hold | ⟨-, -, hname, hheld⟩
    · refine (hsupported.support p name j hold).imp_right ?_
      intro hgiven
      obtain ⟨c, hc, hname⟩ := hgiven
      exact ⟨c, hc, hkept hname⟩
    · exact Or.inr ⟨child, (hlinked.holds_iff p child j).1 hheld, hkept (Node.mem_names.1 hname)⟩
  reached p name hname := by
    rcases (mem_placeholders_informAll _).1 hname with hold | ⟨hp, hvalid, hnew⟩
    · obtain ⟨j, hj⟩ := hsupported.reached p name hold
      exact ⟨j, (mem_through_informAll _).2 (Or.inl hj)⟩
    · obtain ⟨j, hj⟩ := (hlinked.parents_iff p child).1 (Std.TreeSet.mem_toList.1 hp)
      refine ⟨j, (mem_through_informAll _).2 (Or.inr ⟨hp, hvalid, hnew, ?_⟩)⟩
      exact (hlinked.holds_iff p child j).2 hj

/-- Passing names on records no slot without support. -/
theorem Supported.spread (hsupported : Supported template) (hlinked : Linked template)
    (fuel : Nat) (queue : List Nat) : Supported (template.spread fuel queue) := by
  induction fuel generalizing template queue with
  | zero => exact hsupported
  | succ fuel ih =>
      cases queue with
      | nil => exact hsupported
      | cons child queue =>
          exact ih (hsupported.informAll hlinked child)
            (hlinked.of_sameLinks (sameLinks_informAll ..)) _

/-- If names are visible everywhere except from the parents of one node, then they are visible
everywhere after the names of that node have been passed on. -/
theorem visible_propagate {start : Nat} (hlinked : Linked template)
    (hsupported : Supported template)
    (hdirect : ∀ p name j, (template.node p).content[j]? = some (.placeholder name) →
      j ∈ (template.node p).through name)
    (hrest : ∀ p c name j, c ≠ start → (template.node p).content[j]? = some (.node c) →
      name ∈ (template.node c).placeholders → j ∈ (template.node p).through name) :
    Visible (template.propagate start) := by
  have hlinks := sameLinks_propagate template start
  have hlinked' := hlinked.of_sameLinks hlinks
  have hvalid : ∀ c p, p ∈ (template.node c).parents → p < template.nodeCount := fun c p hp =>
    have hrefers := (hlinked.parents_iff p c).1 hp
    (hlinked.forward p c hrefers).trans (hlinked.valid p c hrefers)
  have hinformed : ∀ c p, p ∈ (template.node c).parents → c ≠ start → template.Informed p c := by
    intro c p hp hc name hname
    obtain ⟨i, hi⟩ := (hlinked.parents_iff p c).1 hp
    refine ⟨Node.mem_placeholders_of_mem_through (hrest p c name i hc hi hname), fun j hj => ?_⟩
    exact hrest p c name j hc ((hlinked.holds_iff p c j).1 hj) hname
  refine { hsupported.spread hlinked _ _ with direct := ?_, inherited := ?_ }
  · intro p name j hj
    rw [hlinks.content] at hj
    exact mem_through_spread _ _ (hdirect p name j hj)
  · intro p c name j hj hname
    have hp := (hlinked'.parents_iff p c).2 ⟨j, hj⟩
    exact (informed_propagate hvalid hinformed hp name hname).2 j ((hlinked'.holds_iff p c j).2 hj)

/-- Each node is reached from the root. -/
theorem Sound.reaches (hsound : Sound template) {c : Nat} (hc : c < template.nodeCount) :
    Relation.ReflTransGen template.Refers root c := by
  induction c using Nat.strongRecOn with
  | ind c ih =>
      rcases Nat.eq_zero_or_pos c with rfl | hpos
      · exact .refl
      · obtain ⟨p, hp⟩ := hsound.attached c hpos hc
        have hlt := hsound.forward p c hp
        exact (ih p hlt (hlt.trans hc)).tail hp

/-- A name is on record at a node if and only if it stands somewhere below. -/
theorem Sound.mem_placeholders_iff (hsound : Sound template) {p : Nat} {name : String} :
    name ∈ (template.node p).placeholders ↔
      ∃ q, Relation.ReflTransGen template.Refers p q ∧
        ∃ j : Nat, (template.node q).content[j]? = some (.placeholder name) := by
  constructor
  · intro hname
    -- children stand behind their parents, so the descent ends
    induction hrest : template.nodeCount - p using Nat.strongRecOn generalizing p with
    | ind rest ih =>
        obtain ⟨j, hj⟩ := hsound.reached p name hname
        rcases hsound.support p name j hj with hhere | ⟨c, hc, hbelow⟩
        · exact ⟨p, .refl, j, hhere⟩
        · have hlt := hsound.forward p c ⟨j, hc⟩
          have hvalid := hsound.valid p c ⟨j, hc⟩
          obtain ⟨q, hpath, hq⟩ := ih (template.nodeCount - c) (by omega) hbelow rfl
          exact ⟨q, hpath.head ⟨j, hc⟩, hq⟩
  · intro hgiven
    obtain ⟨q, hpath, j, hj⟩ := hgiven
    induction hpath using Relation.ReflTransGen.head_induction_on with
    | refl => exact Node.mem_placeholders_of_mem_through (hsound.direct q name j hj)
    | head hrefers _ ih =>
        obtain ⟨i, hi⟩ := hrefers
        exact Node.mem_placeholders_of_mem_through (hsound.inherited _ _ name i hi ih)

end RegexTemplate.Template
