import Mathlib.Data.List.Forall2
import RegexTemplate.Proofs.Rendering.Nesting
import RegexTemplate.Proofs.Template.Substitution

/-!
# Templates that match slot by slot

Two runs that are given different templates to nest, but the same texts, build the same nodes: their
templates differ only in the slots that nest something.  What these slots may hold is left open here,
as a relation between slots (`Slot.Respectful`).  If the fragments that two runs are given match, then
so do their templates (`Matched.append`, `Matched.bind`, `Matched.bindEach`, `matched_build`).
Templates that match have the same open names (`Matched.unassigned_eq`), and they render alike if
their slots do (`Matched.render_eq`).
-/

namespace RegexTemplate

/-- A relation between slots in which only a nested template can be related to something else.  A slot
that nests nothing is related to itself, and of two related slots both hold a name if one does, and
both refer to a child if one does. -/
structure Slot.Respectful (R : Slot → Slot → Prop) : Prop where
  refl : ∀ slot : Slot, slot.place? = none → R slot slot
  placeholder_iff : ∀ {slot slot' : Slot}, R slot slot' → ∀ name,
    slot = .placeholder name ↔ slot' = .placeholder name
  node_iff : ∀ {slot slot' : Slot}, R slot slot' → ∀ child,
    slot = .node child ↔ slot' = .node child

/-- A fragment and one that is given in its place: it is the same, or both become related slots and
make no node. -/
inductive Fragment.Matched (R : Slot → Slot → Prop) : Fragment → Fragment → Prop
  | same {fragment : Fragment} (hplace : ∀ place, fragment ≠ .template place) :
      Matched R fragment fragment
  | slots {fragment fragment' : Fragment} {slot slot' : Slot}
      (hplace : ∀ template : Template, template.place fragment = (slot, template))
      (hplace' : ∀ template : Template, template.place fragment' = (slot', template))
      (hslots : R slot slot') : Matched R fragment fragment'

namespace Template

/-- Two templates with the same nodes, whose slots are related. -/
structure Matched (R : Slot → Slot → Prop) (template other : Template) : Prop where
  sound : Sound template
  sound' : Sound other
  nodeCount_eq : template.nodeCount = other.nodeCount
  slots : ∀ p, List.Forall₂ R (template.node p).content.toList (other.node p).content.toList

/-- Related rows both hold a slot if one does, where this is so for related slots. -/
theorem mem_iff_of_forall₂ {R : Slot → Slot → Prop} {slots others : List Slot}
    (h : List.Forall₂ R slots others) {slot : Slot}
    (hslot : ∀ {one other : Slot}, R one other → (one = slot ↔ other = slot)) :
    slot ∈ slots ↔ slot ∈ others := by
  induction h with
  | nil => rfl
  | cons hfirst _ ih => rw [List.mem_cons, List.mem_cons, ih, eq_comm, hslot hfirst, eq_comm]

section

variable {R : Slot → Slot → Prop} {template other : Template} {fragment fragment' : Fragment}

theorem matched_empty (R : Slot → Slot → Prop) : Matched R empty empty where
  sound := sound_empty
  sound' := sound_empty
  nodeCount_eq := rfl
  slots p := by
    have hnode : empty.node p = {} := by rcases p with _ | p <;> rfl
    rw [hnode]
    exact .nil

/-- Fragments that match become related slots, and the same node is made for both if there is one. -/
theorem Matched.place (h : Matched R template other) (hR : Slot.Respectful R)
    (hfragment : fragment.Matched R fragment') :
    R (template.place fragment).1 (other.place fragment').1 ∧
      (template.place fragment).2.nodeCount = (other.place fragment').2.nodeCount ∧
      ∀ p, template.nodeCount ≤ p → ((template.place fragment).2.node p).content =
        ((other.place fragment').2.node p).content := by
  have hnew : ∀ p, template.nodeCount ≤ p → (template.node p).content = (other.node p).content := by
    intro p hp
    rw [node_of_nodeCount_le hp, node_of_nodeCount_le (h.nodeCount_eq ▸ hp)]
  cases hfragment with
  | slots hplace hplace' hslots =>
      rw [hplace, hplace']
      exact ⟨hslots, h.nodeCount_eq, hnew⟩
  | same hplace =>
      cases fragment with
      | template place => exact absurd rfl (hplace place)
      | literal raw => exact ⟨hR.refl _ rfl, h.nodeCount_eq, hnew⟩
      | pattern pattern =>
          by_cases hsplit : (Marker.split pattern.source).length = 1
          · rw [place_of_unmarked template hsplit, place_of_unmarked other hsplit]
            exact ⟨hR.refl _ rfl, h.nodeCount_eq, hnew⟩
          · rw [place_of_marked template hsplit, place_of_marked other hsplit, h.nodeCount_eq]
            refine ⟨hR.refl _ rfl, by simp [h.nodeCount_eq], fun p hp => ?_⟩
            rw [node_push, node_push, h.nodeCount_eq]
            split
            · rfl
            · exact hnew p (h.nodeCount_eq ▸ hp)

/-- The nodes that are made for them match, since they nest nothing. -/
theorem Matched.new_slots (h : Matched R template other) (hR : Slot.Respectful R)
    (hfragment : fragment.Matched R fragment') {p : Nat} (hp : template.nodeCount ≤ p) :
    List.Forall₂ R ((template.place fragment).2.node p).content.toList
      ((other.place fragment').2.node p).content.toList := by
  rw [← (h.place hR hfragment).2.2 p hp]
  refine List.forall₂_same.2 fun slot hslot => hR.refl slot ?_
  obtain ⟨j, hj⟩ := Array.mem_iff_getElem?.1 (Array.mem_toList_iff.1 hslot)
  obtain ⟨part, rfl⟩ := exists_part_of_place hp hj
  cases part <;> rfl

theorem Matched.refers_iff (h : Matched R template other) (hR : Slot.Respectful R) {p c : Nat} :
    template.Refers p c ↔ other.Refers p c := by
  rw [Refers, Refers, ← Array.mem_iff_getElem?, ← Array.mem_iff_getElem?, ← Array.mem_toList_iff,
    ← Array.mem_toList_iff]
  exact mem_iff_of_forall₂ (h.slots p) fun hslots => hR.node_iff hslots c

/-- Templates that match have the same names on record. -/
theorem Matched.mem_placeholders_iff (h : Matched R template other) (hR : Slot.Respectful R)
    {p : Nat} {name : String} :
    name ∈ (template.node p).placeholders ↔ name ∈ (other.node p).placeholders := by
  have hrefers : template.Refers = other.Refers := by
    funext p c
    exact propext (h.refers_iff hR)
  have hname : ∀ q, .placeholder name ∈ (template.node q).content ↔
      .placeholder name ∈ (other.node q).content := by
    intro q
    rw [← Array.mem_toList_iff, ← Array.mem_toList_iff]
    exact mem_iff_of_forall₂ (h.slots q) fun hslots => hR.placeholder_iff hslots name
  rw [h.sound.mem_placeholders_iff, h.sound'.mem_placeholders_iff, hrefers]
  simp only [← Array.mem_iff_getElem?, hname]

/-- Templates that match have the same open names. -/
theorem Matched.unassigned_eq (h : Matched R template other) (hR : Slot.Respectful R) :
    template.unassigned = other.unassigned := by
  refine unassigned_congr fun name => ?_
  rw [unassigned, unassigned, Node.mem_names, Node.mem_names, h.mem_placeholders_iff hR]

theorem Matched.append (h : Matched R template other) (hR : Slot.Respectful R)
    (hfragment : fragment.Matched R fragment') :
    Matched R (template.append fragment) (other.append fragment') where
  sound := h.sound.append fragment
  sound' := h.sound'.append fragment'
  nodeCount_eq := by
    rw [nodeCount_append h.sound, nodeCount_append h.sound']
    exact (h.place hR hfragment).2.1
  slots p := by
    by_cases hp : p < template.nodeCount
    · rw [content_append h.sound fragment hp,
        content_append h.sound' fragment' (h.nodeCount_eq ▸ hp)]
      split
      · rw [Array.toList_push, Array.toList_push]
        exact List.rel_append (h.slots root) (.cons (h.place hR hfragment).1 .nil)
      · exact h.slots p
    · have hp := Nat.le_of_not_lt hp
      rw [new_content_append h.sound fragment hp,
        new_content_append h.sound' fragment' (h.nodeCount_eq ▸ hp)]
      exact h.new_slots hR hfragment hp

theorem Matched.bind (h : Matched R template other) (hR : Slot.Respectful R) (name : String)
    (hfragment : fragment.Matched R fragment') :
    Matched R (template.bind name fragment) (other.bind name fragment') := by
  by_cases hname : name ∈ (template.node root).placeholders
  · have hname' := (h.mem_placeholders_iff hR).1 hname
    refine ⟨h.sound.bind name fragment, h.sound'.bind name fragment', ?_, fun p => ?_⟩
    · rw [nodeCount_bind h.sound fragment hname, nodeCount_bind h.sound' fragment' hname']
      exact (h.place hR hfragment).2.1
    · by_cases hp : p < template.nodeCount
      · rw [content_bind h.sound fragment hname hp,
          content_bind h.sound' fragment' hname' (h.nodeCount_eq ▸ hp), Array.toList_map,
          Array.toList_map]
        refine List.rel_map (fun slot slot' hslots => ?_) (h.slots p)
        -- the name stands in both slots or in neither
        simp only [hR.placeholder_iff hslots name]
        split
        · exact (h.place hR hfragment).1
        · exact hslots
      · have hp := Nat.le_of_not_lt hp
        rw [new_content_bind h.sound fragment hname hp,
          new_content_bind h.sound' fragment' hname' (h.nodeCount_eq ▸ hp)]
        exact h.new_slots hR hfragment hp
  · rw [bind_of_not_mem fragment hname,
      bind_of_not_mem fragment' fun hname' => hname ((h.mem_placeholders_iff hR).2 hname')]
    exact h

theorem matched_build (hR : Slot.Respectful R) {fragments fragments' : List Fragment}
    (hfragments : List.Forall₂ (Fragment.Matched R) fragments fragments') :
    Matched R (build fragments) (build fragments') := by
  rw [build, build]
  exact List.rel_foldl (fun _ _ h _ _ hfragment => h.append hR hfragment) (matched_empty R)
    hfragments

theorem Matched.bindEach (h : Matched R template other) (hR : Slot.Respectful R)
    {bindings bindings' : List (String × Fragment)}
    (hbindings : List.Forall₂ (fun binding binding' => binding.1 = binding'.1 ∧
      Fragment.Matched R binding.2 binding'.2) bindings bindings') :
    Matched R (template.bindEach bindings) (other.bindEach bindings') := by
  rw [Template.bindEach, Template.bindEach]
  refine List.rel_foldl (fun _ _ hmatched binding binding' hbinding => ?_) h hbindings
  obtain ⟨name, value⟩ := binding
  obtain ⟨name', value'⟩ := binding'
  obtain ⟨hname, hvalue⟩ := hbinding
  cases hname
  exact hmatched.bind hR name hvalue

end

section

variable {m : Type → Type} [Monad m] [MonadExceptOf TemplateError m]
  {nested nested' : Nat → m String}

/-- Two slots that render alike, whatever the texts of the children are. -/
def RenderAlike (nested nested' : Nat → m String) (slot slot' : Slot) : Prop :=
  ∀ child, renderSlot nested child slot = renderSlot nested' child slot'

theorem renderSlots_eq_of_forall₂ (child : Nat → String) {slots slots' : List Slot}
    (h : List.Forall₂ (RenderAlike nested nested') slots slots') :
    renderSlots nested child slots = renderSlots nested' child slots' := by
  induction h with
  | nil => rfl
  | cons hslot _ ih => rw [renderSlots, renderSlots, ih, hslot child]

theorem renderNodes_eq_of_forall₂ (id : Nat) {nodes nodes' : List Node}
    (h : List.Forall₂ (fun node node' : Node => List.Forall₂ (RenderAlike nested nested')
      node.content.toList node'.content.toList) nodes nodes') :
    renderNodes nested id nodes = renderNodes nested' id nodes' := by
  induction h generalizing id with
  | nil => rfl
  | cons hnode _ ih =>
      rw [renderNodes, renderNodes, ih]
      simp only [renderSlots_eq_of_forall₂ _ hnode]

/-- **Templates that match render alike if their slots do.** -/
theorem Matched.render_eq {R : Slot → Slot → Prop} {template other : Template}
    (h : Matched R template other) (hR : Slot.Respectful R)
    (hslots : ∀ p, ∀ slot ∈ (template.node p).content.toList, ∀ slot', R slot slot' →
      RenderAlike nested nested' slot slot') :
    template.render nested = other.render nested' := by
  have hnodes : List.Forall₂ (fun node node' : Node =>
      List.Forall₂ (RenderAlike nested nested') node.content.toList node'.content.toList)
      template.nodes.toList other.nodes.toList := by
    refine List.forall₂_iff_get.2 ⟨h.nodeCount_eq, fun p hp hp' => ?_⟩
    have hnode : List.Forall₂ (RenderAlike nested nested') (template.node p).content.toList
        (other.node p).content.toList :=
      ((List.forall₂_and_left _ _).2 ⟨hslots p, h.slots p⟩).imp fun slot slot' hgiven =>
        hgiven.1 slot' hgiven.2
    rw [Array.length_toList] at hp hp'
    rw [Template.node, Template.node, Array.getD_eq_getD_getElem?, Array.getD_eq_getD_getElem?,
      Array.getElem?_eq_getElem hp, Array.getElem?_eq_getElem hp'] at hnode
    exact hnode
  have hnames := h.unassigned_eq hR
  rw [render, render, isComplete_congr hnames, hnames, renderNodes_eq_of_forall₂ root hnodes]

end

end Template

end RegexTemplate
