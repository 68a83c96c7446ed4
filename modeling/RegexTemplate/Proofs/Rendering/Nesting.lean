import RegexTemplate.Template.Rendering
import RegexTemplate.Proofs.Template.Runs

/-!
# Nested templates

A template nests those that were given to it as fragments, by their places on the shelf, and nothing
else (`mem_places_build_iff`, `mem_places_bindEach_iff`).  A fragment can only be a template that is
on the shelf already, so on a shelf that was filled by building templates from what was there, each
template nests only those before it (`Shelf.Stocked.ordered`).
-/

namespace RegexTemplate

/-- The place of the template that a slot nests. -/
def Slot.place? : Slot → Option Nat
  | .template place => some place
  | _ => none

theorem Slot.place?_eq_some_iff {slot : Slot} {place : Nat} :
    slot.place? = some place ↔ slot = .template place := by
  cases slot <;> simp [Slot.place?]

namespace Template

/-- The places that rendering a row of slots asks for, in order. -/
def placesIn (slots : List Slot) : List Nat := slots.filterMap Slot.place?

/-- The places that rendering a row of nodes asks for, in order: the last node comes first. -/
def placesOf : List Node → List Nat
  | [] => []
  | node :: nodes => placesOf nodes ++ placesIn node.content.toList

/-- The places of the templates that are nested in a template. -/
def places (template : Template) : List Nat := placesOf template.nodes.toList

/-- A template is nested if some slot holds it. -/
theorem mem_places {template : Template} {place : Nat} :
    place ∈ template.places ↔
      ∃ p j : Nat, (template.node p).content[j]? = some (.template place) := by
  have hof : ∀ nodes : List Node, place ∈ placesOf nodes ↔
      ∃ node ∈ nodes, Slot.template place ∈ node.content := by
    intro nodes
    induction nodes with
    | nil => simp [placesOf]
    | cons node nodes ih =>
        rw [placesOf, List.mem_append, ih, placesIn, List.mem_filterMap]
        simp only [Slot.place?_eq_some_iff, List.mem_cons, exists_eq_or_imp, Array.mem_toList_iff,
          exists_eq_right, or_comm]
  rw [places, hof]
  constructor
  · intro hgiven
    obtain ⟨node, hnode, hslot⟩ := hgiven
    obtain ⟨p, hp⟩ := Array.mem_iff_getElem?.1 (Array.mem_toList_iff.1 hnode)
    obtain ⟨j, hj⟩ := Array.mem_iff_getElem?.1 hslot
    exact ⟨p, j, by rw [Template.node, Array.getD_eq_getD_getElem?, hp]; exact hj⟩
  · intro hgiven
    obtain ⟨p, j, hj⟩ := hgiven
    cases hp : template.nodes[p]? with
    | none =>
        rw [Template.node, Array.getD_eq_getD_getElem?, hp] at hj
        simp at hj
    | some node =>
        rw [Template.node, Array.getD_eq_getD_getElem?, hp] at hj
        exact ⟨node, Array.mem_toList_iff.2 (Array.mem_of_getElem? hp), Array.mem_of_getElem? hj⟩

end Template

/-- The places nested in the template at a place; none if there is no template. -/
def Shelf.placesAt (shelf : Shelf) (place : Nat) : List Nat :=
  match shelf.templates[place]? with
  | some template => template.places
  | none => []

theorem Shelf.mem_placesAt_iff {shelf : Shelf} {place nested : Nat} :
    nested ∈ shelf.placesAt place ↔
      ∃ template, shelf.templates[place]? = some template ∧ nested ∈ template.places := by
  rw [placesAt]
  cases shelf.templates[place]? <;> simp

theorem Shelf.size_put (shelf : Shelf) (template : Template) :
    (shelf.put template).2.templates.size = shelf.templates.size + 1 := by
  rw [Shelf.put, Array.size_push]

/-- A template that is put on the shelf is the last, and the others stay where they are. -/
theorem Shelf.getElem?_put (shelf : Shelf) (template : Template) (place : Nat) :
    (shelf.put template).2.templates[place]? =
      if place = shelf.templates.size then some template else shelf.templates[place]? := by
  rw [Shelf.put, Array.getElem?_push]

/-- Each template on the shelf nests only those before it. -/
def Shelf.Ordered (shelf : Shelf) : Prop := ∀ place, ∀ nested ∈ shelf.placesAt place, nested < place

/-- A template that nests some of those on the shelf can be put behind them. -/
theorem Shelf.Ordered.put {shelf : Shelf} (hshelf : shelf.Ordered) {template : Template}
    (htemplate : ∀ place ∈ template.places, place < shelf.templates.size) :
    (shelf.put template).2.Ordered := by
  intro place nested hnested
  obtain ⟨found, hfound, hnested⟩ := mem_placesAt_iff.1 hnested
  rw [getElem?_put] at hfound
  split at hfound
  · next hplace =>
      cases hfound
      rw [hplace]
      exact htemplate nested hnested
  · exact hshelf place nested (mem_placesAt_iff.2 ⟨found, hfound, hnested⟩)

namespace Template

variable {template : Template} {p j place : Nat} {slot : Slot}

theorem place_fst_eq_template_iff {fragment : Fragment} :
    (template.place fragment).1 = .template place ↔ fragment = .template place := by
  cases fragment with
  | literal raw => simp [Template.place]
  | template other => simp [Template.place]
  | pattern pattern =>
      by_cases hsplit : (Marker.split pattern.source).length = 1
      · simp [place_of_unmarked template hsplit]
      · simp [place_of_marked template hsplit]

/-- The slots of a node that is made for a fragment are parts of its text. -/
theorem exists_part_of_place {fragment : Fragment} (hp : template.nodeCount ≤ p)
    (hslot : ((template.place fragment).2.node p).content[j]? = some slot) :
    ∃ part, slot = .ofPart part := by
  have hold : (template.node p).content[j]? ≠ some slot := by
    rw [node_of_nodeCount_le hp]
    simp
  cases fragment with
  | literal raw => exact absurd hslot hold
  | template other => exact absurd hslot hold
  | pattern pattern =>
      by_cases hsplit : (Marker.split pattern.source).length = 1
      · rw [place_of_unmarked template hsplit] at hslot
        exact absurd hslot hold
      · rw [place_of_marked template hsplit, node_push] at hslot
        split at hslot
        · rw [Node.content_ofParts, List.getElem?_toArray, List.getElem?_map,
            Option.map_eq_some_iff] at hslot
          obtain ⟨part, -, heq⟩ := hslot
          exact ⟨part, heq.symm⟩
        · exact absurd hslot hold

/-- Adding a fragment nests no template but the fragment. -/
theorem places_append (hsound : Sound template) (fragment : Fragment)
    (hplace : place ∈ (template.append fragment).places) :
    place ∈ template.places ∨ fragment = .template place := by
  obtain ⟨p, j, hslot⟩ := mem_places.1 hplace
  by_cases hp : p < template.nodeCount
  · rw [content_append hsound fragment hp] at hslot
    split at hslot
    · rw [Array.getElem?_push] at hslot
      split at hslot
      · exact Or.inr (place_fst_eq_template_iff.1 (Option.some.inj hslot))
      · exact Or.inl (mem_places.2 ⟨root, j, hslot⟩)
    · exact Or.inl (mem_places.2 ⟨p, j, hslot⟩)
  · rw [new_content_append hsound fragment (Nat.le_of_not_lt hp)] at hslot
    obtain ⟨part, hpart⟩ := exists_part_of_place (Nat.le_of_not_lt hp) hslot
    cases part <;> cases hpart

/-- Filling in a name nests no template but the value. -/
theorem places_bind (hsound : Sound template) (name : String) (value : Fragment)
    (hplace : place ∈ (template.bind name value).places) :
    place ∈ template.places ∨ value = .template place := by
  by_cases hname : name ∈ (template.node root).placeholders
  · obtain ⟨p, j, hslot⟩ := mem_places.1 hplace
    by_cases hp : p < template.nodeCount
    · rw [content_bind hsound value hname hp, Array.getElem?_map, Option.map_eq_some_iff] at hslot
      obtain ⟨found, hfound, heq⟩ := hslot
      split at heq
      · exact Or.inr (place_fst_eq_template_iff.1 heq)
      · exact Or.inl (mem_places.2 ⟨p, j, heq ▸ hfound⟩)
    · rw [new_content_bind hsound value hname (Nat.le_of_not_lt hp)] at hslot
      obtain ⟨part, hpart⟩ := exists_part_of_place (Nat.le_of_not_lt hp) hslot
      cases part <;> cases hpart
  · rw [bind_of_not_mem value hname] at hplace
    exact Or.inl hplace

/-- Adding a fragment nests just the fragment. -/
theorem mem_places_append_iff (hsound : Sound template) (fragment : Fragment) :
    place ∈ (template.append fragment).places ↔
      place ∈ template.places ∨ fragment = .template place := by
  refine ⟨places_append hsound fragment, fun hgiven => ?_⟩
  rcases hgiven with hplace | rfl
  · obtain ⟨p, j, hslot⟩ := mem_places.1 hplace
    refine mem_places.2 ⟨p, j, ?_⟩
    rw [content_append hsound fragment (lt_nodeCount_of_content hslot)]
    split
    · next heq =>
        rw [heq] at hslot
        rw [Array.getElem?_push, if_neg]
        · exact hslot
        · exact Nat.ne_of_lt (Array.getElem?_eq_some_iff.1 hslot).1
    · exact hslot
  · have hroot : root < template.nodeCount := hsound.nodeCount_pos
    refine mem_places.2 ⟨root, (template.node root).content.size, ?_⟩
    rw [content_append hsound _ hroot, if_pos rfl, Array.getElem?_push, if_pos rfl]
    rfl

/-- Filling in a name nests just the value, and only if the name is open. -/
theorem mem_places_bind_iff (hsound : Sound template) (name : String) (value : Fragment) :
    place ∈ (template.bind name value).places ↔
      place ∈ template.places ∨ value = .template place ∧ name ∈ template.unassigned := by
  rw [unassigned, Node.mem_names]
  by_cases hname : name ∈ (template.node root).placeholders
  · have hcontent : ∀ {p j : Nat} {slot : Slot}, (template.node p).content[j]? = some slot →
        ((template.bind name value).node p).content[j]? =
          some (if slot = .placeholder name then (template.place value).1 else slot) := by
      intro p j slot hslot
      rw [content_bind hsound value hname (lt_nodeCount_of_content hslot), Array.getElem?_map,
        hslot, Option.map_some]
    constructor
    · intro hplace
      exact (places_bind hsound name value hplace).imp_right fun heq => ⟨heq, hname⟩
    · intro hgiven
      rcases hgiven with hplace | ⟨rfl, -⟩
      · obtain ⟨p, j, hslot⟩ := mem_places.1 hplace
        refine mem_places.2 ⟨p, j, ?_⟩
        rw [hcontent hslot, if_neg (by simp)]
      · -- the name stands in some slot, which now holds the template
        obtain ⟨p, -, j, hslot⟩ := hsound.mem_placeholders_iff.1 hname
        refine mem_places.2 ⟨p, j, ?_⟩
        rw [hcontent hslot, if_pos rfl]
        rfl
  · rw [bind_of_not_mem value hname]
    simp [hname]

/-- A template that is built nests those of its fragments that are templates. -/
theorem mem_places_build_iff {fragments : List Fragment} :
    place ∈ (build fragments).places ↔ .template place ∈ fragments := by
  have hrest : ∀ (fragments : List Fragment) {template : Template}, Sound template →
      (place ∈ (fragments.foldl append template).places ↔
        place ∈ template.places ∨ .template place ∈ fragments) := by
    intro fragments
    induction fragments with
    | nil => simp
    | cons fragment fragments ih =>
        intro template hsound
        rw [List.foldl_cons, ih (hsound.append fragment), mem_places_append_iff hsound, or_assoc,
          List.mem_cons, eq_comm]
  have hempty : empty.places = [] := rfl
  rw [build, hrest fragments sound_empty, hempty]
  simp

/-- Filling in names one after the other nests the values that are templates, as far as their names are
open when it is their turn. -/
theorem mem_places_bindEach_iff (hsound : Sound template) {bindings : List (String × Fragment)} :
    place ∈ (template.bindEach bindings).places ↔ place ∈ template.places ∨
      ∃ before name after, bindings = before ++ (name, .template place) :: after ∧
        name ∈ (template.bindEach before).unassigned := by
  induction bindings using List.reverseRecOn with
  | nil => simp [bindEach]
  | append_singleton bindings binding ih =>
      obtain ⟨name, value⟩ := binding
      have hlast : template.bindEach (bindings ++ [(name, value)]) =
          (template.bindEach bindings).bind name value := by
        rw [bindEach, List.foldl_append]
        rfl
      rw [hlast, mem_places_bind_iff (hsound.bindEach bindings), ih, or_assoc]
      refine or_congr_right ⟨fun hgiven => ?_, fun hgiven => ?_⟩
      · rcases hgiven with ⟨before, other, after, rfl, hopen⟩ | ⟨rfl, hopen⟩
        · exact ⟨before, other, after ++ [(name, value)], by simp, hopen⟩
        · exact ⟨bindings, name, [], rfl, hopen⟩
      · obtain ⟨before, other, after, heq, hopen⟩ := hgiven
        rcases List.eq_nil_or_concat after with rfl | ⟨after, last, rfl⟩
        · obtain ⟨rfl, hbinding⟩ := List.append_inj' heq rfl
          cases hbinding
          exact Or.inr ⟨rfl, hopen⟩
        · rw [List.concat_eq_append, ← List.cons_append, ← List.append_assoc] at heq
          obtain ⟨rfl, -⟩ := List.append_inj' heq rfl
          exact Or.inl ⟨before, other, after, rfl, hopen⟩

/-- A template nests those of the given fragments that are templates, and no others. -/
theorem places_performAll {fragments : List (Except TemplateError Fragment)} {start : Template}
    {calls : List Call} (hstart : ofFragments fragments = .ok start)
    (hplace : place ∈ (start.performAll calls).places) :
    .ok (.template place) ∈ given fragments calls := by
  refine performAll_induction (motive := fun template =>
    place ∈ template.places → .ok (.template place) ∈ given fragments calls) hstart ?_ ?_ ?_ hplace
  · intro hempty
    simp [places, empty, placesOf, placesIn] at hempty
  · intro template fragment hgiven hsound h hplace
    exact (places_append hsound fragment hplace).elim h fun heq => heq ▸ hgiven
  · intro template value name hgiven hsound h hplace
    exact (places_bind hsound name value hplace).elim h fun heq => heq ▸ hgiven

end Template

/-- The shelves that are filled by building templates from fragments and calls, where only a template
that is on the shelf can be given as a fragment. -/
inductive Shelf.Stocked : Shelf → Prop
  | empty : Stocked {}
  | put {shelf : Shelf} {fragments : List (Except TemplateError Fragment)} {start : Template}
      {calls : List Template.Call} (hshelf : Stocked shelf)
      (hstart : Template.ofFragments fragments = .ok start)
      (hgiven : ∀ place, .ok (.template place) ∈ Template.given fragments calls →
        place < shelf.templates.size) : Stocked (shelf.put (start.performAll calls)).2

theorem Shelf.Stocked.put_build {shelf : Shelf} (hshelf : shelf.Stocked) (fragments : List Fragment)
    (hgiven : ∀ place, .template place ∈ fragments → place < shelf.templates.size) :
    (shelf.put (.build fragments)).2.Stocked := by
  have hstart : Template.ofFragments (fragments.map .ok) = .ok (.build fragments) :=
    Template.ofFragments_eq_ok_iff.2 ⟨fragments, rfl, rfl⟩
  have hput : (shelf.put ((Template.build fragments).performAll [])).2.Stocked := by
    refine .put hshelf hstart fun place hplace => hgiven place ?_
    simpa [Template.given] using hplace
  exact hput

/-- On such a shelf each template nests only those before it. -/
theorem Shelf.Stocked.ordered {shelf : Shelf} (h : shelf.Stocked) : shelf.Ordered := by
  induction h with
  | empty => exact fun place nested hnested => by simp [mem_placesAt_iff] at hnested
  | put _ hstart hgiven ih =>
      exact ih.put fun place hplace => hgiven place (Template.places_performAll hstart hplace)

end RegexTemplate
