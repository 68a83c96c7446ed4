import Mathlib
import RegexTemplate.Proofs.Runs.Reordering
import RegexTemplate.Proofs.Template.Structure

/-!
# What filling in one name changes

A name may stand in many slots of many nodes, and all of them get the same slot.  If the value has
names of its own this slot refers to the one node that is made for it, however many sites there are.
Old nodes refer to each other as before (`Overwritten.reaches_iff`), so what is on record at a node
changes only by the name that goes and by the names of the value, which come up from the new node
(`Sound.mem_placeholders_bind_iff`).

Main statement: `bind_exact`.
-/

namespace RegexTemplate

/-- A fragment is a pattern with at least one marker. -/
def Fragment.Marked (fragment : Fragment) : Prop := ∃ name, fragment.Exposes name

/-- A pattern with a marker is one that is split. -/
theorem Fragment.marked_pattern_iff {pattern : Pattern} :
    (Fragment.pattern pattern).Marked ↔ (Marker.split pattern.source).length ≠ 1 := by
  constructor
  · intro hgiven hsplit
    obtain ⟨name, other, hpattern, hname⟩ := hgiven
    cases hpattern
    rw [Marker.split_eq_singleton hsplit] at hname
    simp [Marker.parts] at hname
  · intro hsplit
    have hthree := (Template.length_split_of_marked hsplit).2
    have hsecond : (Marker.parts (Marker.split pattern.source))[1]? =
        some (.placeholder (Marker.split pattern.source)[1]) := by
      rw [Marker.getElem?_parts, List.getElem?_eq_getElem]
      rfl
    exact ⟨_, pattern, rfl, List.mem_of_getElem? hsecond⟩

theorem Fragment.nodeCount_of_marked {fragment : Fragment} (h : fragment.Marked) :
    fragment.nodeCount = 1 := by
  cases fragment with
  | pattern pattern => exact if_neg (marked_pattern_iff.1 h)
  | literal raw => obtain ⟨name, pattern, heq, -⟩ := h; cases heq
  | template place => obtain ⟨name, pattern, heq, -⟩ := h; cases heq

theorem Fragment.nodeCount_of_not_marked {fragment : Fragment} (h : ¬ fragment.Marked) :
    fragment.nodeCount = 0 := by
  cases fragment with
  | pattern pattern =>
      rw [marked_pattern_iff, not_not] at h
      exact if_pos h
  | literal raw => rfl
  | template place => rfl

/-- A slot of a node is on record for a name, but holds neither the name nor a child. -/
structure Node.Stray (node : Node) (name : String) (j : Nat) : Prop where
  recorded : j ∈ node.through name
  ne_placeholder : node.content[j]? ≠ some (.placeholder name)
  ne_node : ∀ c, node.content[j]? ≠ some (.node c)

namespace Template

variable {template other : Template} {p q j : Nat} {name found : String} {value : Fragment}

/-! ## Old nodes refer to each other as before -/

section

variable {site : Nat → Nat → Prop} {slot : Slot} {gone : String → Prop}

/-- Only the new slot refers to a new node. -/
theorem Overwritten.refers_iff (h : Overwritten template other site slot gone)
    (hq : q < template.nodeCount) : other.Refers p q ↔ template.Refers p q := by
  refine exists_congr fun j => ?_
  rw [h.content_node_iff, or_iff_left]
  intro hnew
  exact absurd ((h.new_iff q).2 hnew.1).1 (Nat.not_le.2 hq)

/-- An old node is reached as before, because no new node stands on the way. -/
theorem Overwritten.reaches_iff (h : Overwritten template other site slot gone)
    (hq : q < template.nodeCount) :
    Relation.ReflTransGen other.Refers p q ↔ Relation.ReflTransGen template.Refers p q := by
  constructor
  · intro hpath
    induction hpath with
    | refl => exact .refl
    | tail _ hrefers ih =>
        have hold := (h.refers_iff hq).1 hrefers
        obtain ⟨j, hj⟩ := hold
        exact (ih (lt_nodeCount_of_content hj)).tail ⟨j, hj⟩
  · intro hpath
    have hkept : ∀ a b, template.Refers a b → other.Refers a b := by
      intro a b hrefers
      obtain ⟨j, hj⟩ := hrefers
      exact ⟨j, h.content_node_iff.2 (Or.inl hj)⟩
    exact Relation.ReflTransGen.mono hkept _ _ hpath

end

/-! ## The new node -/

/-- The names that stand in the node made for a fragment are those that the fragment opens. -/
theorem exists_placeholder_place_iff (fragment : Fragment) (hp : template.nodeCount ≤ p) :
    (∃ j : Nat, ((template.place fragment).2.node p).content[j]? = some (.placeholder name)) ↔
      p = template.nodeCount ∧ fragment.Exposes name := by
  have hnone : ∀ j : Nat, (template.node p).content[j]? ≠ some (.placeholder name) := by
    intro j
    rw [node_of_nodeCount_le hp]
    simp
  have hofPart : ∀ part, Slot.ofPart part = .placeholder name ↔ part = .placeholder name := by
    intro part
    cases part <;> simp [Slot.ofPart]
  cases fragment with
  | literal raw => simpa [place, Fragment.Exposes] using hnone
  | template place => simpa [Template.place, Fragment.Exposes] using hnone
  | pattern pattern =>
      by_cases hsplit : (Marker.split pattern.source).length = 1
      · have hunexposed : ¬ (Fragment.pattern pattern).Exposes name := fun h =>
          Fragment.marked_pattern_iff.1 ⟨name, h⟩ hsplit
        rw [place_of_unmarked template hsplit]
        simpa [hunexposed] using hnone
      · rw [place_of_marked template hsplit, node_push]
        split
        · next hlast =>
            have hpart : (∃ j : Nat, (Node.ofParts (Marker.parts
                (Marker.split pattern.source))).content[j]? = some (.placeholder name)) ↔
                .placeholder name ∈ Marker.parts (Marker.split pattern.source) := by
              rw [Node.content_ofParts, ← Array.mem_iff_getElem?, List.mem_toArray, List.mem_map]
              simp [hofPart]
            rw [hpart]
            simp [Fragment.Exposes, hlast]
        · next hlast => simpa [hlast] using hnone

/-! ## Names on record -/

/-- **What is on record after a name has been filled in.**  A name is on record at a node if it was
before and is not the one that has been filled in, or if the value opens it and the new node stands
below. -/
theorem Sound.mem_placeholders_bind_iff (hsound : Sound template)
    (hname : name ∈ (template.node root).placeholders) :
    found ∈ ((template.bind name value).node p).placeholders ↔
      found ≠ name ∧ found ∈ (template.node p).placeholders ∨
        value.Exposes found ∧
          Relation.ReflTransGen (template.bind name value).Refers p template.nodeCount := by
  have hsound' := hsound.bind name value
  obtain ⟨wired, heq, hwired, hnew⟩ := exists_rewired_bind hsound value hname
  have hlinks := sameLinks_announce wired (template.place value).1
  rw [← heq] at hlinks
  have hrefers : (template.bind name value).Refers = wired.Refers := by
    funext p q
    rw [Refers, Refers, hlinks.content]
  rw [hsound'.mem_placeholders_iff, hsound.mem_placeholders_iff, hrefers]
  simp only [hlinks.content]
  constructor
  · intro hgiven
    obtain ⟨q, hpath, j, hj⟩ := hgiven
    by_cases hq : q < template.nodeCount
    · obtain ⟨hkept, hold⟩ := (hwired.content_placeholder_iff hq).1 hj
      exact Or.inl ⟨hkept, q, (hwired.reaches_iff hq).1 hpath, j, hold⟩
    · have hq' := Nat.le_of_not_lt hq
      rw [hnew q hq'] at hj
      obtain ⟨rfl, hexposes⟩ := (exists_placeholder_place_iff value hq').1 ⟨j, hj⟩
      exact Or.inr ⟨hexposes, hpath⟩
  · intro hgiven
    rcases hgiven with ⟨hkept, q, hpath, j, hj⟩ | ⟨hexposes, hpath⟩
    · have hq := lt_nodeCount_of_content hj
      exact ⟨q, (hwired.reaches_iff hq).2 hpath, j,
        (hwired.content_placeholder_iff hq).2 ⟨hkept, hj⟩⟩
    · obtain ⟨j, hj⟩ :=
        (exists_placeholder_place_iff value (Nat.le_refl template.nodeCount)).2 ⟨rfl, hexposes⟩
      refine ⟨_, hpath, j, ?_⟩
      rwa [hnew _ (Nat.le_refl _)]

/-- The slots on record for a name that neither goes nor comes are the same. -/
theorem Sound.mem_through_bind_iff (hsound : Sound template)
    (hname : name ∈ (template.node root).placeholders) (hfound : found ≠ name)
    (hvalue : ¬ value.Exposes found) (hp : p < template.nodeCount) :
    j ∈ ((template.bind name value).node p).through found ↔
      j ∈ (template.node p).through found := by
  have hsound' := hsound.bind name value
  have hnames : ∀ q, found ∈ ((template.bind name value).node q).placeholders ↔
      found ∈ (template.node q).placeholders := by
    intro q
    rw [hsound.mem_placeholders_bind_iff hname]
    simp [hfound, hvalue]
  obtain ⟨wired, heq, hwired, -⟩ := exists_rewired_bind hsound value hname
  have hlinks := sameLinks_announce wired (template.place value).1
  rw [← heq] at hlinks
  rw [hsound'.toVisible.mem_through_iff, hsound.toVisible.mem_through_iff, hlinks.content,
    hwired.content_placeholder_iff hp]
  simp only [hnames, hwired.content_node_iff]
  refine or_congr (and_iff_right hfound) (exists_congr fun c => and_congr_left fun hc => ?_)
  rw [or_iff_left]
  intro hgiven
  have hc' := ((hwired.new_iff c).2 hgiven.1).1
  rw [node_of_nodeCount_le hc'] at hc
  simp at hc

/-- Two tables that record the same slots for a name have the same entry for it. -/
theorem entry_congr {node node' : Node} (hname : name ∈ node.placeholders ↔ name ∈ node'.placeholders)
    (hthrough : ∀ j, j ∈ node.through name ↔ j ∈ node'.through name) :
    node.placeholders[name]?.map Std.TreeSet.toList =
      node'.placeholders[name]?.map Std.TreeSet.toList := by
  by_cases hopen : name ∈ node.placeholders
  · rw [getElem?_placeholders hopen, getElem?_placeholders (hname.1 hopen), Option.map_some,
      Option.map_some, Option.some.injEq]
    refine (Positions.pairwise_toList _).eq_of_mem_iff (Positions.pairwise_toList _) fun j => ?_
    rw [Std.TreeSet.mem_toList, Std.TreeSet.mem_toList, hthrough]
  · rw [Std.TreeMap.getElem?_eq_none hopen, Std.TreeMap.getElem?_eq_none (hname.not.1 hopen)]

/-! ## The pass over the nodes -/

/-- The pass that fills in a name when it comes to a node. -/
def passTo (template : Template) (name : String) (value : Slot) (k : Nat) : Sweep :=
  (List.range k).foldl (Sweep.visit name value) ⟨template, Std.TreeSet.empty.insert root, []⟩

/-- When the pass comes to a node that it has reached, this is still as it was before the call, and so
each slot on record for the name holds it or leads to it. -/
theorem Sound.not_stray_passTo (hsound : Sound template) {placed : Template} {slot : Slot}
    (hplaced : Placed template placed slot) (name : String) {k : Nat}
    (hreached : k ∈ (placed.passTo name slot k).reached) (j : Nat) :
    ¬ ((placed.passTo name slot k).template.node k).Stray name j := by
  have hswept : Swept template placed name slot k (placed.passTo name slot k) :=
    swept_range name hsound hplaced k
  have hk : k < template.nodeCount := by
    by_contra hk
    exact hswept.not_mem_reached hsound (Nat.le_of_not_lt hk) hreached
  have hnode : (placed.passTo name slot k).template.node k = template.node k := by
    rw [hswept.undone k fun hdone => Nat.lt_irrefl k hdone.1, hplaced.old k hk]
  intro hstray
  rw [hnode] at hstray
  rcases hsound.support k name j hstray.recorded with hhere | ⟨c, hc, -⟩
  · exact hstray.ne_placeholder hhere
  · exact hstray.ne_node c hc

/-! ## Filling in one name -/

/-- What filling in an open name leaves. -/
structure FilledIn (template bound : Template) (name : String) (value : Fragment) : Prop where
  /-- In the old nodes, exactly the slots where the name stood are overwritten, and all of them with the
  same slot, which refers to the new node if there is one. -/
  slots : ∃ slot, (∀ c, slot = .node c ↔ value.Marked ∧ c = template.nodeCount) ∧
    ∀ (p j : Nat), p < template.nodeCount →
      ((bound.node p).content[j]? ≠ (template.node p).content[j]? ↔
        (template.node p).content[j]? = some (.placeholder name)) ∧
      ((template.node p).content[j]? = some (.placeholder name) →
        (bound.node p).content[j]? = some slot)
  /-- One node is added for a pattern with a marker, however many sites there are. -/
  nodeCount_of_marked : value.Marked → bound.nodeCount = template.nodeCount + 1
  /-- No node is added for any other value. -/
  nodeCount_of_not_marked : ¬ value.Marked → bound.nodeCount = template.nodeCount
  /-- The entries of all other names that the value does not open stay as they are. -/
  entry_eq : ∀ p other, p < template.nodeCount → other ≠ name → ¬ value.Exposes other →
    (bound.node p).placeholders[other]?.map Std.TreeSet.toList =
      (template.node p).placeholders[other]?.map Std.TreeSet.toList
  /-- The name is on record somewhere if and only if the value opens it again. -/
  reopened_iff : (∃ p, name ∈ (bound.node p).placeholders) ↔ value.Exposes name
  /-- It is on record at the new node and the nodes above it only. -/
  reaches_new : ∀ p, name ∈ (bound.node p).placeholders →
    template.nodeCount < bound.nodeCount ∧
      Relation.ReflTransGen bound.Refers p template.nodeCount

/-- The slot for a fragment refers to a node exactly if the fragment is marked, and then to the next
one. -/
theorem place_fst_eq_node_iff (template : Template) (fragment : Fragment) {c : Nat} :
    (template.place fragment).1 = .node c ↔ fragment.Marked ∧ c = template.nodeCount := by
  have hcount := nodeCount_place template fragment
  rw [← (placed_place template fragment).new_iff c, hcount]
  by_cases hmarked : fragment.Marked
  · rw [Fragment.nodeCount_of_marked hmarked]
    simp only [hmarked, true_and]
    omega
  · rw [Fragment.nodeCount_of_not_marked hmarked]
    simp only [hmarked, false_and, iff_false]
    omega

theorem Sound.filledIn_bind (hsound : Sound template) (value : Fragment)
    (hname : name ∈ (template.node root).placeholders) :
    FilledIn template (template.bind name value) name value where
  slots := by
    refine ⟨(template.place value).1, fun c => place_fst_eq_node_iff template value, ?_⟩
    intro p j hp
    have hbare := (placed_place template value).bare name
    rw [content_bind hsound value hname hp, Array.getElem?_map]
    cases hfound : (template.node p).content[j]? with
    | none => simp
    | some found =>
        by_cases hslot : found = .placeholder name
        · simp [hslot, hbare]
        · simp [hslot]
  nodeCount_of_marked hmarked := by
    rw [nodeCount_bind hsound value hname, nodeCount_place, Fragment.nodeCount_of_marked hmarked]
  nodeCount_of_not_marked hmarked := by
    rw [nodeCount_bind hsound value hname, nodeCount_place,
      Fragment.nodeCount_of_not_marked hmarked, Nat.add_zero]
  entry_eq p other hp hother hvalue := by
    refine entry_congr ?_ fun j => hsound.mem_through_bind_iff hname hother hvalue hp
    rw [hsound.mem_placeholders_bind_iff hname]
    simp [hother, hvalue]
  reopened_iff := by
    simp only [hsound.mem_placeholders_bind_iff hname, ne_eq, not_true_eq_false, false_and, false_or]
    exact ⟨fun h => h.choose_spec.1, fun h => ⟨_, h, .refl⟩⟩
  reaches_new p hp := by
    rw [hsound.mem_placeholders_bind_iff hname] at hp
    obtain ⟨hexposes, hpath⟩ := hp.resolve_left fun h => h.1 rfl
    refine ⟨?_, hpath⟩
    rw [nodeCount_bind hsound value hname, nodeCount_place, Fragment.nodeCount_of_marked ⟨name, hexposes⟩]
    exact Nat.lt_succ_self _

/-- **Filling in a name reaches all its sites, changes nothing else, and makes at most one node.**  The
pass that overwrites the sites never comes to a slot on record for the name that holds neither the name
nor a child. -/
theorem bind_exact (h : Reachable template) (hname : name ∈ template.unassigned) (value : Fragment) :
    FilledIn template (template.bind name value) name value ∧
      let (slot, placed) := template.place value
      (placed.replace name slot).1 = (placed.passTo name slot placed.nodeCount).template ∧
        ∀ k, k ∈ (placed.passTo name slot k).reached →
          ∀ j, ¬ ((placed.passTo name slot k).template.node k).Stray name j := by
  have hsound := h.sound
  refine ⟨hsound.filledIn_bind value (Node.mem_names.1 hname), rfl, fun k hreached j => ?_⟩
  exact hsound.not_stray_passTo (placed_place template value) name hreached j

/-- In the template `fork` the name stands in two nodes.  Both get the same slot, and one node is
added. -/
theorem bind_exact_fork : Reachable (build fork) ∧ "s" ∈ (build fork).unassigned ∧
    ((build fork).bind "s" forkedValue).nodeCount = (build fork).nodeCount + 1 ∧
    ∃ slot, (((build fork).bind "s" forkedValue).node 1).content[1]? = some slot ∧
      (((build fork).bind "s" forkedValue).node 2).content[1]? = some slot := by
  have hreachable := reachable_build fork
  have hopen : "s" ∈ (build fork).unassigned := by
    have hnames : (build fork).unassigned = ["s"] := by cbv
    rw [hnames]
    exact List.mem_singleton_self _
  have hmarked : forkedValue.Marked := by
    refine Fragment.marked_pattern_iff.2 ?_
    have hsplit : Marker.split "<\\VAR\x7bt\x7d>" = ["<", "t", ">"] := by cbv
    rw [hsplit]
    decide
  obtain ⟨hfilled, -⟩ := bind_exact hreachable hopen forkedValue
  obtain ⟨slot, -, hslot⟩ := hfilled.slots
  have hcount : (build fork).nodeCount = 3 := by cbv
  have hfirst : ((build fork).node 1).content[1]? = some (.placeholder "s") := by cbv
  have hsecond : ((build fork).node 2).content[1]? = some (.placeholder "s") := by cbv
  refine ⟨hreachable, hopen, hfilled.nodeCount_of_marked hmarked, slot, ?_, ?_⟩
  · exact (hslot 1 1 (by rw [hcount]; decide)).2 hfirst
  · exact (hslot 2 1 (by rw [hcount]; decide)).2 hsecond

end Template

end RegexTemplate
