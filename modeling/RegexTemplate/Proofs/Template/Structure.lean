import RegexTemplate.Proofs.Template.OpenNames

/-!
# The shape of a template

Every node but the root comes from one text with markers: its slots at even places hold the literals
of that text for good, and only slots at odd places, where names stand, are overwritten
(`Woven`, `Extends`).  The main statement is `links_exact`, which puts this together with the tables
of parents and children, the order of the nodes and the way from the root to each of them.
-/

namespace RegexTemplate

/-- The parts of a split are literals at even places and names at odd ones. -/
theorem Marker.getElem?_parts (texts : List String) (j : Nat) :
    (Marker.parts texts)[j]? =
      (texts[j]?).map fun text => if j % 2 = 0 then .literal text else .placeholder text := by
  fun_induction Marker.parts texts generalizing j with
  | case1 => simp
  | case2 literal => cases j <;> simp
  | case3 literal name rest ih =>
      rcases j with _ | _ | j
      · simp
      · simp
      · have hparity : (j + 1 + 1) % 2 = j % 2 := by omega
        simp only [List.getElem?_cons_succ, ih, hparity]

/-- A node has a slot for each part of a text, and at even places these are its literals. -/
structure Node.WovenFrom (node : Node) (source : String) : Prop where
  size : node.content.size = (Marker.split source).length
  literal : ∀ j : Nat, j % 2 = 0 →
    node.content[j]? = ((Marker.split source)[j]?).map .literal

theorem Node.wovenFrom_ofParts (source : String) :
    (Node.ofParts (Marker.parts (Marker.split source))).WovenFrom source where
  size := by simp [Marker.length_parts]
  literal j hj := by
    rw [Node.content_ofParts, List.getElem?_toArray, List.getElem?_map, Marker.getElem?_parts]
    simp [hj, Slot.ofPart, Function.comp_def]

/-- A name stands at an odd place. -/
theorem Node.WovenFrom.odd_of_placeholder {node : Node} {source name : String} {j : Nat}
    (h : node.WovenFrom source) (hname : node.content[j]? = some (.placeholder name)) :
    j % 2 = 1 := by
  by_contra heven
  rw [h.literal j (by omega), Option.map_eq_some_iff] at hname
  obtain ⟨text, -, hliteral⟩ := hname
  cases hliteral

/-- Literals at even places stay when slots that hold names are overwritten. -/
theorem Node.WovenFrom.of_slot {node changed : Node} {source : String} (h : node.WovenFrom source)
    (hsize : changed.content.size = node.content.size)
    (hslot : ∀ j : Nat, changed.content[j]? = node.content[j]? ∨
      ∃ name, node.content[j]? = some (.placeholder name)) : changed.WovenFrom source where
  size := hsize.trans h.size
  literal j hj := by
    rcases hslot j with hsame | ⟨name, hname⟩
    · rw [hsame, h.literal j hj]
    · have hodd := h.odd_of_placeholder hname
      omega

namespace Template

variable {template other : Template} {p c j : Nat} {name : String}

theorem mem_holds_iff {node : Node} :
    j ∈ node.holds c ↔ ∃ positions, node.children[c]? = some positions ∧ j ∈ positions := by
  constructor
  · intro hj
    refine ⟨_, ?_, hj⟩
    rw [Node.holds, Std.TreeMap.getElem?_eq_some_getD_of_contains (Node.mem_children_of_mem_holds hj)]
  · intro hgiven
    obtain ⟨positions, hpositions, hj⟩ := hgiven
    rw [Node.holds, Std.TreeMap.getD_eq_getD_getElem?, hpositions]
    exact hj

/-- The children on record are those that some slot refers to. -/
theorem Linked.mem_children_iff (hlinked : Linked template) :
    c ∈ (template.node p).children ↔ template.Refers p c := by
  constructor
  · intro hc
    obtain ⟨j, hj⟩ := hlinked.child_held p c hc
    exact ⟨j, (hlinked.holds_iff p c j).1 hj⟩
  · intro hgiven
    obtain ⟨j, hj⟩ := hgiven
    exact Node.mem_children_of_mem_holds ((hlinked.holds_iff p c j).2 hj)

/-- A later state of a template: nodes are added, and a slot of an old node is overwritten only where
a name stood. -/
structure Extends (template other : Template) : Prop where
  nodeCount_le : template.nodeCount ≤ other.nodeCount
  size : ∀ p, p < template.nodeCount →
    (other.node p).content.size = (template.node p).content.size
  slot : ∀ p (j : Nat), p < template.nodeCount →
    (other.node p).content[j]? = (template.node p).content[j]? ∨
      ∃ name, (template.node p).content[j]? = some (.placeholder name)

theorem Extends.refl (template : Template) : Extends template template :=
  ⟨Nat.le_refl _, fun _ _ => rfl, fun _ _ _ => Or.inl rfl⟩

theorem Extends.trans {third : Template} (h : Extends template other) (h' : Extends other third) :
    Extends template third where
  nodeCount_le := h.nodeCount_le.trans h'.nodeCount_le
  size p hp := (h'.size p (hp.trans_le h.nodeCount_le)).trans (h.size p hp)
  slot p j hp := by
    rcases h.slot p j hp with hsame | hname
    · rw [← hsame]
      exact h'.slot p j (hp.trans_le h.nodeCount_le)
    · exact Or.inr hname

theorem Sound.extends_bind (hsound : Sound template) (name : String) (value : Fragment) :
    Extends template (template.bind name value) := by
  by_cases hname : name ∈ (template.node root).placeholders
  · refine ⟨?_, fun p hp => ?_, fun p j hp => ?_⟩
    · rw [nodeCount_bind hsound value hname]
      exact (placed_place template value).grows
    · rw [content_bind hsound value hname hp, Array.size_map]
    · rw [content_bind hsound value hname hp, Array.getElem?_map]
      by_cases hsite : (template.node p).content[j]? = some (.placeholder name)
      · exact Or.inr ⟨name, hsite⟩
      · left
        cases hfound : (template.node p).content[j]? with
        | none => rfl
        | some found =>
            have hslot : found ≠ .placeholder name := fun heq => hsite (by rw [hfound, heq])
            simp [hslot]
  · rw [bind_of_not_mem value hname]
    exact .refl template

theorem Sound.extends_bindEach (hsound : Sound template) (bindings : List (String × Fragment)) :
    Extends template (template.bindEach bindings) := by
  induction bindings generalizing template with
  | nil => exact .refl template
  | cons binding bindings ih =>
      exact (hsound.extends_bind binding.1 binding.2).trans (ih (hsound.bind binding.1 binding.2))

theorem Sound.extends_performAll (hsound : Sound template) (calls : List Call) :
    Extends template (template.performAll calls) := by
  rw [performAll_eq_bindEach]
  exact hsound.extends_bindEach _

/-- Each node but the root is made for one of the given patterns, which holds a marker. -/
def Woven (template : Template) (given : List (Except TemplateError Fragment)) : Prop :=
  ∀ p, root < p → p < template.nodeCount →
    ∃ pattern, .ok (.pattern pattern) ∈ given ∧ (Marker.split pattern.source).length ≠ 1 ∧
      (template.node p).WovenFrom pattern.source

/-- A node that is made for a fragment is made for a pattern that holds a marker. -/
theorem wovenFrom_place (template : Template) (fragment : Fragment) {p : Nat}
    (hp : template.nodeCount ≤ p) (hp' : p < (template.place fragment).2.nodeCount) :
    ∃ pattern, fragment = .pattern pattern ∧ (Marker.split pattern.source).length ≠ 1 ∧
      ((template.place fragment).2.node p).WovenFrom pattern.source := by
  cases fragment with
  | literal raw => exact absurd hp' (Nat.not_lt.2 hp)
  | template place => exact absurd hp' (Nat.not_lt.2 hp)
  | pattern pattern =>
      by_cases hsplit : (Marker.split pattern.source).length = 1
      · rw [place_of_unmarked template hsplit] at hp'
        exact absurd hp' (Nat.not_lt.2 hp)
      · refine ⟨pattern, rfl, hsplit, ?_⟩
        rw [place_of_marked template hsplit] at hp' ⊢
        rw [nodeCount_push] at hp'
        rw [node_push, if_pos (by omega)]
        exact Node.wovenFrom_ofParts pattern.source

/-- Filling in a name overwrites no literal, and the node of the value is made for it. -/
theorem Woven.bind {given : List (Except TemplateError Fragment)} (h : Woven template given)
    (hsound : Sound template) (name : String) {value : Fragment} (hvalue : .ok value ∈ given) :
    Woven (template.bind name value) given := by
  by_cases hname : name ∈ (template.node root).placeholders
  · intro p hroot hp
    rw [nodeCount_bind hsound value hname] at hp
    by_cases hold : p < template.nodeCount
    · obtain ⟨pattern, hpattern, hmarked, hwoven⟩ := h p hroot hold
      have hextends := hsound.extends_bind name value
      exact ⟨pattern, hpattern, hmarked,
        hwoven.of_slot (hextends.size p hold) fun j => hextends.slot p j hold⟩
    · obtain ⟨pattern, rfl, hmarked, hwoven⟩ :=
        wovenFrom_place template value (Nat.le_of_not_lt hold) hp
      refine ⟨pattern, hvalue, hmarked, ?_⟩
      have hcontent := new_content_bind hsound (.pattern pattern) hname (Nat.le_of_not_lt hold)
      exact ⟨by rw [hcontent]; exact hwoven.size, by rw [hcontent]; exact hwoven.literal⟩
  · rwa [bind_of_not_mem value hname]

/-- Adding a fragment changes no node but the root, and the node of the fragment is made for it. -/
theorem Woven.append {given : List (Except TemplateError Fragment)} (h : Woven template given)
    (hsound : Sound template) {fragment : Fragment} (hfragment : .ok fragment ∈ given) :
    Woven (template.append fragment) given := by
  intro p hroot hp
  rw [nodeCount_append hsound fragment] at hp
  by_cases hold : p < template.nodeCount
  · obtain ⟨pattern, hpattern, hmarked, hwoven⟩ := h p hroot hold
    have hcontent := content_append hsound fragment hold
    rw [if_neg (Nat.ne_of_gt hroot)] at hcontent
    exact ⟨pattern, hpattern, hmarked, by rw [hcontent]; exact hwoven.size,
      by rw [hcontent]; exact hwoven.literal⟩
  · obtain ⟨pattern, rfl, hmarked, hwoven⟩ :=
      wovenFrom_place template fragment (Nat.le_of_not_lt hold) hp
    have hcontent := new_content_append hsound (.pattern pattern) (Nat.le_of_not_lt hold)
    exact ⟨pattern, hfragment, hmarked, by rw [hcontent]; exact hwoven.size,
      by rw [hcontent]; exact hwoven.literal⟩

/-- Whatever the calls, each node but the root is made for a pattern among the fragments and values. -/
theorem woven_performAll {fragments : List (Except TemplateError Fragment)} {start : Template}
    {calls : List Call} (hstart : ofFragments fragments = .ok start) :
    Woven (start.performAll calls) (given fragments calls) :=
  performAll_induction (motive := (Woven · (given fragments calls))) hstart
    (fun _ hroot hp => absurd hp (Nat.not_lt.2 hroot))
    (fun hgiven hsound h => h.append hsound hgiven)
    (fun name hgiven hsound h => h.bind hsound name hgiven)

/-- A text that holds a marker splits into an odd number of parts, at least three. -/
theorem length_split_of_marked {source : String} (hmarked : (Marker.split source).length ≠ 1) :
    (Marker.split source).length % 2 = 1 ∧ 3 ≤ (Marker.split source).length := by
  have hlength := Marker.length_split source
  omega

/-- **Links are exact.**  Let a template be built from fragments and filled in by calls, some of
which may fail.  Then

* the children on record are exactly those that slots refer to, with these slots, and the parents on
  record are the nodes with such a child;
* each child is a node behind its parent, so there is no cycle;
* the root has no parents and holds no name, and every node is reached from it;
* every other node comes from one of the given patterns, has an odd number of slots and at least
  three, and holds the literals of the pattern at the even places;
* whatever calls follow, a node keeps its number of slots, and a slot that is overwritten is at an odd
  place of a node other than the root. -/
theorem links_exact {fragments : List (Except TemplateError Fragment)} {start template : Template}
    {calls : List Call} (hstart : ofFragments fragments = .ok start)
    (hcalls : start.performAll calls = template) :
    (∀ p c (j : Nat), (template.node p).content[j]? = some (.node c) ↔
      ∃ positions, (template.node p).children[c]? = some positions ∧ j ∈ positions) ∧
    (∀ p c, c ∈ (template.node p).children ↔ p ∈ (template.node c).parents) ∧
    (∀ p (c : Nat) positions, (template.node p).children[c]? = some positions →
      ¬ positions.isEmpty ∧ p < c ∧ c < template.nodeCount) ∧
    (template.node root).parents.isEmpty ∧
    (∀ (j : Nat) name, (template.node root).content[j]? ≠ some (.placeholder name)) ∧
    (∀ p, p < template.nodeCount → Relation.ReflTransGen template.Refers root p) ∧
    (∀ p, root < p → p < template.nodeCount → ∃ pattern,
      .ok (.pattern pattern) ∈ given fragments calls ∧
      (template.node p).content.size = (Marker.split pattern.source).length ∧
      (template.node p).content.size % 2 = 1 ∧ 3 ≤ (template.node p).content.size ∧
      ∀ j : Nat, j % 2 = 0 →
        (template.node p).content[j]? = ((Marker.split pattern.source)[j]?).map .literal) ∧
    (∀ (more : List Call) p, p < template.nodeCount →
      ((template.performAll more).node p).content.size = (template.node p).content.size ∧
      ∀ j : Nat, ((template.performAll more).node p).content[j]? ≠ (template.node p).content[j]? →
        root < p ∧ j % 2 = 1) := by
  subst hcalls
  have hreachable : Reachable (start.performAll calls) := (Reachable.built hstart).performAll calls
  have hsound := hreachable.sound
  refine ⟨fun p c j => ?_, fun p c => ?_, fun p c positions hpositions => ?_, ?_, hsound.root_bare,
    fun p => hsound.reaches, fun p hroot hp => ?_, fun more p hp => ?_⟩
  · rw [← hsound.holds_iff, mem_holds_iff]
  · rw [hsound.parents_iff, ← hsound.mem_children_iff]
  · have hchild : c ∈ ((start.performAll calls).node p).children := by
      rw [Std.TreeMap.mem_iff_isSome_getElem?, hpositions]
      rfl
    have hrefers := hsound.mem_children_iff.1 hchild
    refine ⟨fun hempty => ?_, hsound.forward p c hrefers, hsound.valid p c hrefers⟩
    obtain ⟨j, hj⟩ := hsound.child_held p c hchild
    obtain ⟨others, hothers, hj⟩ := mem_holds_iff.1 hj
    rw [hpositions, Option.some.injEq] at hothers
    rw [Std.TreeSet.isEmpty_iff_forall_not_mem] at hempty
    exact hempty j (hothers ▸ hj)
  · rw [Std.TreeSet.isEmpty_iff_forall_not_mem]
    intro p hp
    exact Nat.not_lt_zero p (hsound.forward p root ((hsound.parents_iff p root).1 hp))
  · obtain ⟨pattern, hpattern, hmarked, hwoven⟩ := woven_performAll hstart p hroot hp
    obtain ⟨hodd, hthree⟩ := length_split_of_marked hmarked
    exact ⟨pattern, hpattern, hwoven.size, by rw [hwoven.size]; exact hodd,
      by rw [hwoven.size]; exact hthree, hwoven.literal⟩
  · have hextends := hsound.extends_performAll more
    refine ⟨hextends.size p hp, fun j hchanged => ?_⟩
    obtain ⟨name, hname⟩ := (hextends.slot p j hp).resolve_left hchanged
    have hroot : root < p := by
      refine Nat.pos_of_ne_zero fun heq => ?_
      subst heq
      exact hsound.root_bare j name hname
    obtain ⟨pattern, -, -, hwoven⟩ := woven_performAll hstart p hroot hp
    exact ⟨hroot, hwoven.odd_of_placeholder hname⟩

/-- In `forked` the node of the value is the last of four.  It is reached from the root, although the
call that made it gave it two parents, neither of which is the root. -/
theorem links_exact_forked :
    ofFragments (fork.map .ok) = .ok (build fork) ∧
      (build fork).performAll [.bind "s" (.ok forkedValue)] = forked ∧
      Relation.ReflTransGen forked.Refers root 3 ∧ 3 ≤ (forked.node 3).content.size := by
  have hstart : ofFragments (fork.map .ok) = .ok (build fork) :=
    ofFragments_eq_ok_iff.2 ⟨fork, rfl, rfl⟩
  have hcalls : (build fork).performAll [.bind "s" (.ok forkedValue)] = forked := rfl
  have hcount : 3 < forked.nodeCount := by
    have hfour : forked.nodeCount = 4 := by cbv
    rw [hfour]
    decide
  obtain ⟨-, -, -, -, -, hreached, hwoven, -⟩ := links_exact hstart hcalls
  obtain ⟨-, -, -, -, hthree, -⟩ := hwoven 3 (by decide) hcount
  exact ⟨hstart, hcalls, hreached 3 hcount, hthree⟩

end Template

end RegexTemplate
