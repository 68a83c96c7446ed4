import RegexTemplate.Proofs.Rendering.Spelling

/-!
# When and why rendering fails

Rendering stops at the first template that is not complete.  The templates that it meets are listed by
`Shelf.met`: the template itself, then each nested one with what it nests in turn, where the last node
of a template comes first and the slots of a node follow each other.  The failure of a complete
template is the first among those of its nested templates (`failure?_render`), and so the failure of
any template is that of the first incomplete one (`failure?_plain`).

The loop over the nodes has branches that it should never take: a slot with an open name, a child that
does not stand behind its parent, a text that is missing.  `renderGuarded` is the same loop with these
branches left open.  In a sound template it makes no difference what they do
(`Sound.renderGuarded_eq`).

Main statement: `failures_exact`.
-/

namespace RegexTemplate

/-- Why a computation has failed, if it has. -/
def failure? {α : Type} : Except TemplateError α → Option TemplateError
  | .ok _ => none
  | .error e => some e

theorem failure?_eq_some_iff {α : Type} {x : Except TemplateError α} {e : TemplateError} :
    failure? x = some e ↔ x = .error e := by
  cases x <;> simp [failure?]

/-- Of two steps the first failure counts, if that of the second does not depend on the first. -/
theorem failure?_bind {α β : Type} {x : Except TemplateError α} {f : α → Except TemplateError β}
    {later : Option TemplateError} (hlater : ∀ a, failure? (f a) = later) :
    failure? (x >>= f) = (failure? x).or later := by
  cases x with
  | error e => rfl
  | ok a => exact hlater a

/-- What is found first in rows put together is what is found first in one of them. -/
theorem findSome?_flatMap {α β γ : Type} {rows : α → List β} {find : β → Option γ}
    {findAt : α → Option γ} {l : List α} (h : ∀ a ∈ l, findAt a = (rows a).findSome? find) :
    l.findSome? findAt = (l.flatMap rows).findSome? find := by
  induction l with
  | nil => rfl
  | cons a l ih =>
      rw [List.findSome?_cons, List.flatMap_cons, List.findSome?_append, h a List.mem_cons_self,
        ih fun b hb => h b (List.mem_cons_of_mem _ hb)]
      cases (rows a).findSome? find <;> rfl

theorem failure?_bind_pure {α β : Type} {x : Except TemplateError α} (f : α → β) :
    failure? (x >>= fun a => pure (f a)) = failure? x := by
  cases x <;> rfl

namespace Template

variable {template : Template} {nested : Nat → Except TemplateError String}

/-- Why a template is refused before any of its nodes is rendered. -/
def refusal? (template : Template) : Option TemplateError :=
  if template.isComplete then none else some (.unboundPlaceholder template.unassigned)

theorem refusal?_eq_none_iff : template.refusal? = none ↔ template.unassigned = [] := by
  rw [← isComplete_iff_unassigned, refusal?]
  split <;> simp [*]

theorem refusal?_eq_some_iff {e : TemplateError} :
    template.refusal? = some e ↔
      template.unassigned ≠ [] ∧ e = .unboundPlaceholder template.unassigned := by
  rw [Ne, ← isComplete_iff_unassigned, refusal?]
  split <;> simp [*, eq_comm]

/-- In a complete template no slot holds an open name. -/
theorem Sound.slot_ne_placeholder (hsound : Sound template) (hcomplete : template.isComplete)
    {p : Nat} {slot : Slot} (hslot : slot ∈ (template.node p).content.toList) (name : String) :
    slot ≠ .placeholder name := by
  rintro rfl
  obtain ⟨j, hj⟩ := Array.mem_iff_getElem?.1 (Array.mem_toList_iff.1 hslot)
  have hp : p < template.nodeCount := lt_nodeCount_of_content hj
  have hopen : name ∈ (template.node root).placeholders :=
    hsound.mem_placeholders_iff.2 ⟨p, hsound.reaches hp, j, hj⟩
  rw [isComplete, Std.TreeMap.isEmpty_iff_forall_not_mem] at hcomplete
  exact hcomplete name hopen

/-- A row of slots without open names fails as the first nested template that does. -/
theorem failure?_renderSlots {child : Nat → String} {slots : List Slot}
    (hclosed : ∀ slot ∈ slots, ∀ name, slot ≠ .placeholder name) :
    failure? (renderSlots nested child slots) =
      (placesIn slots).findSome? fun place => failure? (nested place) := by
  induction slots with
  | nil => rfl
  | cons slot slots ih =>
      have hrest := ih fun other hother => hclosed other (List.mem_cons_of_mem _ hother)
      rw [renderSlots, failure?_bind fun text => failure?_bind_pure (text ++ ·), hrest]
      cases slot with
      | literal text => rfl
      | placeholder name => exact absurd rfl (hclosed _ List.mem_cons_self name)
      | node c => rfl
      | template place =>
          have hplaces : placesIn (.template place :: slots) = place :: placesIn slots := rfl
          rw [hplaces, List.findSome?_cons, renderSlot]
          cases nested place <;> rfl

theorem failure?_renderNodes {p : Nat} {nodes : List Node}
    (hclosed : ∀ node ∈ nodes, ∀ slot ∈ node.content.toList, ∀ name, slot ≠ .placeholder name) :
    failure? (renderNodes nested p nodes) =
      (placesOf nodes).findSome? fun place => failure? (nested place) := by
  induction nodes generalizing p with
  | nil => rfl
  | cons node nodes ih =>
      have hbehind := ih (p := p + 1) fun other hother => hclosed other (List.mem_cons_of_mem _ hother)
      rw [renderNodes, failure?_bind, hbehind, placesOf, List.findSome?_append]
      intro texts
      rw [failure?_bind_pure, failure?_renderSlots (hclosed node List.mem_cons_self)]

/-- An incomplete template is refused, and a complete one fails as the first nested template that
does. -/
theorem Sound.failure?_render (hsound : Sound template) :
    failure? (template.render nested) = template.refusal?.or
      (template.places.findSome? fun place => failure? (nested place)) := by
  rw [render, refusal?]
  split
  · next hcomplete =>
      rw [failure?_bind_pure, Option.none_or, places, failure?_renderNodes]
      intro node hnode
      obtain ⟨p, hp⟩ := Array.mem_iff_getElem?.1 (Array.mem_toList_iff.1 hnode)
      have hslots : ∀ slot ∈ (template.node p).content.toList, ∀ name, slot ≠ .placeholder name :=
        fun slot hslot => hsound.slot_ne_placeholder hcomplete hslot
      rw [Template.node, Array.getD_eq_getD_getElem?, hp] at hslots
      exact hslots
  · rfl

/-- What rendering does in the branches that it should never take. -/
structure Fallbacks (m : Type → Type) where
  /-- A slot holds an open name. -/
  openName : (name : String) → m String
  /-- A child does not stand behind the node that refers to it. -/
  earlyChild : (parent child : Nat) → m String
  /-- A child has no text. -/
  missingText : (child : Nat) → m String
  /-- The root has no text. -/
  missingRoot : m String

section

variable {m : Type → Type} [Monad m]

/-- The text of a slot of the node at `id`, where the texts of the nodes behind it are given. -/
def slotGuarded (fallbacks : Fallbacks m) (nested : Nat → m String) (id : Nat)
    (texts : List String) : Slot → m String
  | .literal text => return text
  | .placeholder name => fallbacks.openName name
  | .node child =>
    if id < child then
      match texts[child - (id + 1)]? with
      | some text => return text
      | none => fallbacks.missingText child
    else fallbacks.earlyChild id child
  | .template place => nested place

/-- The text of a row of slots. -/
def slotsGuarded (fallbacks : Fallbacks m) (nested : Nat → m String) (id : Nat)
    (texts : List String) : List Slot → m String
  | [] => return ""
  | slot :: slots => do
    let text ← slotGuarded fallbacks nested id texts slot
    return text ++ (← slotsGuarded fallbacks nested id texts slots)

/-- The texts of a row of nodes, of which the last one is rendered first. -/
def nodesGuarded (fallbacks : Fallbacks m) (nested : Nat → m String) :
    (id : Nat) → List Node → m (List String)
  | _, [] => return []
  | id, node :: nodes => do
    let texts ← nodesGuarded fallbacks nested (id + 1) nodes
    let text ← slotsGuarded fallbacks nested id texts node.content.toList
    return text :: texts

variable [MonadExceptOf TemplateError m]

/-- Rendering, with the branches left open that it should never take. -/
def renderGuarded (fallbacks : Fallbacks m) (nested : Nat → m String) (template : Template) :
    m String := do
  if template.isComplete then
    match ← nodesGuarded fallbacks nested root template.nodes.toList with
    | text :: _ => return text
    | [] => fallbacks.missingRoot
  else throw (.unboundPlaceholder template.unassigned)

/-- What rendering does do there: it reports the single name, and goes on with the empty text. -/
def Fallbacks.usual : Fallbacks m where
  openName name := throw (.unboundPlaceholder [name])
  earlyChild _ _ := return ""
  missingText _ := return ""
  missingRoot := return ""

/-- The text of a child as rendering looks it up. -/
def textOfChild (id : Nat) (texts : List String) (child : Nat) : String :=
  if id < child then texts.getD (child - (id + 1)) "" else ""

theorem slotsGuarded_usual (nested : Nat → m String) (id : Nat) (texts : List String)
    (slots : List Slot) :
    slotsGuarded .usual nested id texts slots =
      renderSlots nested (textOfChild id texts) slots := by
  have hslot : ∀ slot, slotGuarded .usual nested id texts slot =
      renderSlot nested (textOfChild id texts) slot := by
    intro slot
    cases slot with
    | literal text => rfl
    | placeholder name => rfl
    | template place => rfl
    | node child =>
        rw [slotGuarded, renderSlot, textOfChild, List.getD_eq_getElem?_getD]
        split
        · cases texts[child - (id + 1)]? <;> rfl
        · rfl
  induction slots with
  | nil => rfl
  | cons slot slots ih => rw [slotsGuarded, renderSlots, hslot, ih]

/-- Rendering is the loop with the usual fallbacks. -/
theorem render_eq_renderGuarded (nested : Nat → m String) (template : Template) :
    template.render nested = template.renderGuarded .usual nested := by
  have hnodes : ∀ id nodes, renderNodes nested id nodes =
      nodesGuarded .usual nested id nodes := by
    intro id nodes
    induction nodes generalizing id with
    | nil => rfl
    | cons node nodes ih =>
        rw [renderNodes, nodesGuarded, ih]
        refine bind_congr fun texts => ?_
        rw [slotsGuarded_usual]
        rfl
  rw [render, renderGuarded, hnodes]
  split
  · refine bind_congr fun texts => ?_
    cases texts <;> rfl
  · rfl

/-- What comes after rendering a row of nodes may count on a text for each of them. -/
theorem renderNodes_bind_congr [LawfulMonad m] {nested : Nat → m String} {p : Nat}
    {nodes : List Node} {α : Type} {f g : List String → m α}
    (h : ∀ texts, texts.length = nodes.length → f texts = g texts) :
    renderNodes nested p nodes >>= f = renderNodes nested p nodes >>= g := by
  induction nodes generalizing p f g with
  | nil => rw [renderNodes, pure_bind, pure_bind, h [] rfl]
  | cons node nodes ih =>
      rw [renderNodes, bind_assoc, bind_assoc]
      -- to the nodes behind this one, rendering it is part of what comes after
      refine ih fun texts htexts => ?_
      rw [bind_assoc, bind_assoc]
      refine bind_congr fun text => ?_
      rw [pure_bind, pure_bind]
      exact h _ (by rw [List.length_cons, List.length_cons, htexts])

/-- In a complete sound template, a slot leads to none of the branches that are left open, once the
nodes behind it have been rendered. -/
theorem Sound.slotGuarded_eq (hsound : Sound template) (hcomplete : template.isComplete)
    (fallbacks : Fallbacks m) (nested : Nat → m String) {p : Nat} {texts : List String}
    (hcount : p + texts.length + 1 = template.nodeCount) {slot : Slot}
    (hslot : slot ∈ (template.node p).content.toList) :
    slotGuarded fallbacks nested p texts slot = renderSlot nested (textOfChild p texts) slot := by
  cases slot with
  | literal text => rfl
  | template place => rfl
  | placeholder name => exact absurd rfl (hsound.slot_ne_placeholder hcomplete hslot name)
  | node child =>
      have hrefers := refers_of_mem hslot
      have hlt := hsound.forward p child hrefers
      have hvalid := hsound.valid p child hrefers
      have hindex : child - (p + 1) < texts.length := by omega
      rw [slotGuarded, renderSlot, textOfChild, if_pos hlt, if_pos hlt,
        List.getD_eq_getElem?_getD, List.getElem?_eq_getElem hindex]
      rfl

theorem Sound.slotsGuarded_eq (hsound : Sound template) (hcomplete : template.isComplete)
    (fallbacks : Fallbacks m) (nested : Nat → m String) {p : Nat} {texts : List String}
    (hcount : p + texts.length + 1 = template.nodeCount) {slots : List Slot}
    (hslots : slots ⊆ (template.node p).content.toList) :
    slotsGuarded fallbacks nested p texts slots =
      renderSlots nested (textOfChild p texts) slots := by
  induction slots with
  | nil => rfl
  | cons slot slots ih =>
      rw [List.cons_subset] at hslots
      rw [slotsGuarded, renderSlots, ih hslots.2,
        hsound.slotGuarded_eq hcomplete fallbacks nested hcount hslots.1]

theorem Sound.nodesGuarded_eq [LawfulMonad m] (hsound : Sound template)
    (hcomplete : template.isComplete) (fallbacks : Fallbacks m) (nested : Nat → m String) {p : Nat}
    {nodes : List Node} (hnodes : template.nodes.toList.drop p = nodes) :
    nodesGuarded fallbacks nested p nodes = renderNodes nested p nodes := by
  induction nodes generalizing p with
  | nil => rfl
  | cons node nodes ih =>
      obtain ⟨hnode, hcount, hnodes⟩ := node_of_drop_eq_cons hnodes
      rw [nodesGuarded, renderNodes, ih hnodes]
      refine renderNodes_bind_congr fun texts htexts => ?_
      rw [hsound.slotsGuarded_eq hcomplete fallbacks nested (p := p) (by omega)
        (hnode ▸ List.Subset.refl _)]
      rfl

/-- **In a sound template rendering takes none of the branches that are left open.** -/
theorem Sound.renderGuarded_eq [LawfulMonad m] (hsound : Sound template) (fallbacks : Fallbacks m)
    (nested : Nat → m String) : template.renderGuarded fallbacks nested = template.render nested := by
  rw [renderGuarded, render]
  split
  · next hcomplete =>
      have hnodes : nodesGuarded fallbacks nested root template.nodes.toList = _ :=
        hsound.nodesGuarded_eq (p := root) hcomplete fallbacks nested rfl
      rw [hnodes]
      refine renderNodes_bind_congr fun texts htexts => ?_
      have hpos := hsound.nodeCount_pos
      cases texts with
      | nil => exact absurd htexts (Nat.ne_of_lt hpos)
      | cons text texts => rfl
  · rfl

end

end Template

namespace Shelf

open Template (refusal?)

/-- The template at a place and those that are nested in it, in the order in which rendering meets
them. -/
def metAt (shelf : Shelf) (place : Nat) : List Template :=
  match shelf.templates[place]? with
  | some template =>
    template :: template.places.flatMap fun earlier =>
      if earlier < place then shelf.metAt earlier else []
  | none => []
termination_by place

/-- A template and those that are nested in it, in the order in which rendering meets them. -/
def met (shelf : Shelf) (template : Template) : List Template :=
  template :: template.places.flatMap shelf.metAt

variable {shelf : Shelf} {template : Template} {place : Nat}

theorem metAt_of_some (hshelf : shelf.Ordered) (htemplate : shelf.templates[place]? = some template) :
    shelf.metAt place = shelf.met template := by
  rw [metAt, htemplate, met]
  refine congrArg _ (List.flatMap_congr fun nested hnested => if_pos ?_)
  exact hshelf place nested (mem_placesAt_iff.2 ⟨template, htemplate, hnested⟩)

/-- What is met from a place on is nested where the place is. -/
theorem Nested.exists_of_mem_metAt (hshelf : shelf.Ordered) {places : List Nat}
    (hplace : shelf.Nested places place) (hmet : template ∈ shelf.metAt place) :
    ∃ place, shelf.Nested places place ∧ shelf.templates[place]? = some template := by
  induction place using Nat.strongRecOn with
  | ind place ih =>
      cases hfound : shelf.templates[place]? with
      | none =>
          rw [metAt, hfound] at hmet
          cases hmet
      | some found =>
          rw [metAt_of_some hshelf hfound, met] at hmet
          rcases List.mem_cons.1 hmet with rfl | hmet
          · exact ⟨place, hplace, hfound⟩
          · obtain ⟨nested, hnested, hmet⟩ := List.mem_flatMap.1 hmet
            have hnested := mem_placesAt_iff.2 ⟨found, hfound, hnested⟩
            -- what is nested stands earlier on the shelf, so the descent ends
            exact ih nested (hshelf place nested hnested) (hplace.deeper hnested) hmet

/-- What is met from a nested place on is met from those on where it is nested. -/
theorem Nested.metAt_subset (hshelf : shelf.Ordered) {places : List Nat}
    (hplace : shelf.Nested places place) : shelf.metAt place ⊆ places.flatMap shelf.metAt := by
  induction hplace with
  | here hplace => exact fun found hfound => List.mem_flatMap.2 ⟨_, hplace, hfound⟩
  | @deeper place nested _ hnested ih =>
      obtain ⟨parent, hparent, hnested⟩ := mem_placesAt_iff.1 hnested
      rw [metAt_of_some hshelf hparent, met] at ih
      refine fun found hfound => ih (List.mem_cons_of_mem _ ?_)
      exact List.mem_flatMap.2 ⟨nested, hnested, hfound⟩

/-- What is met below some places is what is nested in them. -/
theorem mem_flatMap_metAt_iff (hshelf : shelf.Ordered) {places : List Nat} :
    template ∈ places.flatMap shelf.metAt ↔
      ∃ place, shelf.Nested places place ∧ shelf.templates[place]? = some template := by
  constructor
  · intro hgiven
    obtain ⟨place, hplace, hmet⟩ := List.mem_flatMap.1 hgiven
    exact (Nested.here hplace).exists_of_mem_metAt hshelf hmet
  · intro hgiven
    obtain ⟨place, hplace, htemplate⟩ := hgiven
    refine hplace.metAt_subset hshelf ?_
    rw [metAt_of_some hshelf htemplate]
    exact List.mem_cons_self

/-- A template comes from a run in which only templates on the shelf are given as fragments. -/
def Supplies (shelf : Shelf) (template : Template) : Prop :=
  ∃ fragments start calls, Template.ofFragments fragments = .ok start ∧
    (∀ place, .ok (.template place) ∈ Template.given fragments calls →
      place < shelf.templates.size) ∧
    template = start.performAll calls

theorem Supplies.sound (htemplate : shelf.Supplies template) : template.Sound := by
  obtain ⟨fragments, start, calls, hstart, -, rfl⟩ := htemplate
  exact ((Template.Reachable.built hstart).performAll calls).sound

theorem Supplies.lt (htemplate : shelf.Supplies template) (hplace : place ∈ template.places) :
    place < shelf.templates.size := by
  obtain ⟨fragments, start, calls, hstart, hgiven, rfl⟩ := htemplate
  exact hgiven place (Template.places_performAll hstart hplace)

/-- Each template on a shelf comes from such a run. -/
theorem Stocked.supplies (hshelf : shelf.Stocked)
    (htemplate : shelf.templates[place]? = some template) : shelf.Supplies template := by
  have hmore : ∀ {shelf : Shelf} {last template : Template}, shelf.Supplies template →
      (shelf.put last).2.Supplies template := by
    intro shelf last template hgiven
    obtain ⟨fragments, start, calls, hstart, hgiven, rfl⟩ := hgiven
    refine ⟨fragments, start, calls, hstart, fun place hplace => ?_, rfl⟩
    rw [size_put]
    exact Nat.lt_succ_of_lt (hgiven place hplace)
  induction hshelf with
  | empty => simp at htemplate
  | @put shelf fragments start calls _ hstart hgiven ih =>
      rw [getElem?_put] at htemplate
      split at htemplate
      · cases htemplate
        exact hmore ⟨fragments, start, calls, hstart, hgiven, rfl⟩
      · exact hmore (ih htemplate)

/-- A template fails as the first incomplete one that is met, if this holds of those that are nested in
it. -/
theorem failure?_plain_of_nested (hsound : template.Sound)
    (hnested : ∀ nested ∈ template.places,
      failure? (shelf.renderAt afresh nested) = (shelf.metAt nested).findSome? refusal?) :
    failure? (shelf.plain template) = (shelf.met template).findSome? refusal? := by
  have hplaces := findSome?_flatMap hnested
  rw [plain, hsound.failure?_render, met, List.findSome?_cons, ← hplaces]
  cases template.refusal? <;> rfl

theorem failure?_renderAt (hshelf : shelf.Stocked) (hplace : place < shelf.templates.size) :
    failure? (shelf.renderAt afresh place) = (shelf.metAt place).findSome? refusal? := by
  induction place using Nat.strongRecOn with
  | ind place ih =>
      have htemplate := Array.getElem?_eq_getElem hplace
      rw [renderAt_afresh hshelf.ordered htemplate, metAt_of_some hshelf.ordered htemplate]
      refine failure?_plain_of_nested (hshelf.supplies htemplate).sound fun nested hnested => ?_
      have hlt := hshelf.ordered place nested (mem_placesAt_iff.2 ⟨_, htemplate, hnested⟩)
      exact ih nested hlt (hlt.trans hplace)

/-- **Rendering fails as the first incomplete template that it meets.** -/
theorem failure?_compileSource (hshelf : shelf.Stocked) (htemplate : shelf.Supplies template) :
    failure? (shelf.compileSource template) = (shelf.met template).findSome? refusal? := by
  rw [compileSource_eq_plain hshelf.ordered]
  exact failure?_plain_of_nested htemplate.sound fun nested hnested =>
    failure?_renderAt hshelf (htemplate.lt hnested)

theorem mem_met_iff (hshelf : shelf.Ordered) {found : Template} :
    found ∈ shelf.met template ↔ found = template ∨
      ∃ place, shelf.Nested template.places place ∧ shelf.templates[place]? = some found := by
  rw [met, List.mem_cons, mem_flatMap_metAt_iff hshelf]

/-- A template can be compiled if all that are met are complete. -/
theorem exists_compileSource_iff (hshelf : shelf.Stocked) (htemplate : shelf.Supplies template) :
    (∃ text, shelf.compileSource template = .ok text) ↔
      ∀ found ∈ shelf.met template, found.unassigned = [] := by
  have hfailure := failure?_compileSource hshelf htemplate
  simp only [← Template.refusal?_eq_none_iff, ← List.findSome?_eq_none_iff, ← hfailure]
  cases shelf.compileSource template <;> simp [failure?]

theorem Supplies.sound_of_mem_met (hshelf : shelf.Stocked) (htemplate : shelf.Supplies template)
    {found : Template} (hfound : found ∈ shelf.met template) : found.Sound := by
  rcases (mem_met_iff hshelf.ordered).1 hfound with rfl | ⟨place, -, hplace⟩
  · exact htemplate.sound
  · exact (hshelf.supplies hplace).sound

/-- **Failures are exact.**  Let a template come from a run in which templates on the shelf are given
as fragments, and let these have come about in the same way.  Then

* compiling it fails as the first incomplete template that is met, and the cause lists all its open
  names;
* the templates that are met are the template itself and those nested in it at any depth;
* hence it fails if and only if one of these has an open name;
* if the template itself has one, it is the first;
* the names come in ascending order, each of them once;
* rendering any of the templates that are met takes none of the branches for an open name in a slot, a
  child in front of its parent or a missing text, so that they may be anything. -/
theorem failures_exact (hshelf : shelf.Stocked) (htemplate : shelf.Supplies template) :
    (∀ e, shelf.compileSource template = .error e ↔ ∃ before first after,
      shelf.met template = before ++ first :: after ∧
      (∀ earlier ∈ before, earlier.unassigned = []) ∧ first.unassigned ≠ [] ∧
      e = .unboundPlaceholder first.unassigned) ∧
    (∀ found, found ∈ shelf.met template ↔ found = template ∨
      ∃ place, shelf.Nested template.places place ∧ shelf.templates[place]? = some found) ∧
    ((∃ e, shelf.compileSource template = .error e) ↔ template.unassigned ≠ [] ∨
      ∃ place nested, shelf.Nested template.places place ∧
        shelf.templates[place]? = some nested ∧ nested.unassigned ≠ []) ∧
    (template.unassigned ≠ [] →
      shelf.compileSource template = .error (.unboundPlaceholder template.unassigned)) ∧
    (∀ found ∈ shelf.met template, found.unassigned.Pairwise (· < ·)) ∧
    ∀ found ∈ shelf.met template, ∀ (m : Type → Type) [Monad m] [LawfulMonad m]
      [MonadExceptOf TemplateError m] (fallbacks : Template.Fallbacks m) (nested : Nat → m String),
      found.renderGuarded fallbacks nested = found.render nested := by
  have hfirst : ∀ e, shelf.compileSource template = .error e ↔ ∃ before first after,
      shelf.met template = before ++ first :: after ∧
      (∀ earlier ∈ before, earlier.unassigned = []) ∧ first.unassigned ≠ [] ∧
      e = .unboundPlaceholder first.unassigned := by
    intro e
    rw [← failure?_eq_some_iff, failure?_compileSource hshelf htemplate,
      List.findSome?_eq_some_iff]
    simp only [Template.refusal?_eq_some_iff, Template.refusal?_eq_none_iff, and_assoc,
      and_comm]
  refine ⟨hfirst, fun found => mem_met_iff hshelf.ordered, ?_, fun hopen => ?_,
    fun found _ => Template.pairwise_unassigned found, ?_⟩
  · constructor
    · intro hgiven
      obtain ⟨e, he⟩ := hgiven
      obtain ⟨before, first, after, hmet, -, hopen, -⟩ := (hfirst e).1 he
      have hfound : first ∈ shelf.met template := hmet ▸ by simp
      rcases (mem_met_iff hshelf.ordered).1 hfound with rfl | ⟨place, hplace, hnested⟩
      · exact Or.inl hopen
      · exact Or.inr ⟨place, first, hplace, hnested, hopen⟩
    · intro hgiven
      have hfound : ∃ found ∈ shelf.met template, found.unassigned ≠ [] := by
        rcases hgiven with hopen | ⟨place, nested, hplace, hnested, hopen⟩
        · exact ⟨template, (mem_met_iff hshelf.ordered).2 (Or.inl rfl), hopen⟩
        · exact ⟨nested, (mem_met_iff hshelf.ordered).2 (Or.inr ⟨place, hplace, hnested⟩), hopen⟩
      obtain ⟨found, hfound, hopen⟩ := hfound
      cases hrun : shelf.compileSource template with
      | error e => exact ⟨e, rfl⟩
      | ok text =>
          have hnone := failure?_compileSource hshelf htemplate
          rw [hrun, failure?, eq_comm, List.findSome?_eq_none_iff] at hnone
          exact absurd (Template.refusal?_eq_none_iff.1 (hnone found hfound)) hopen
  · exact (hfirst _).2 ⟨[], template, _, rfl, by simp, hopen, rfl⟩
  · intro found hfound m _ _ _ fallbacks nested
    exact (htemplate.sound_of_mem_met hshelf hfound).renderGuarded_eq fallbacks nested

/-- Two templates on a shelf, each of which waits for a value. -/
def rack : Shelf :=
  ((({} : Shelf).put (.build [.pattern ⟨"\\VAR\x7bx\x7d", ""⟩])).2.put
    (.build [.pattern ⟨"\\VAR\x7by\x7d", ""⟩])).2

/-- A complete template that nests the first in its root, and the second in the node behind it. -/
def stalled : Template :=
  (Template.build [.template 0, .pattern ⟨"(\\VAR\x7ba\x7d)", ""⟩]).performAll
    [.bind "a" (.ok (.template 1))]

/-- The second is met first. -/
theorem failures_exact_stalled : rack.Stocked ∧ rack.Supplies stalled ∧
    rack.compileSource stalled = .error (.unboundPlaceholder ["y"]) := by
  have hstocked : rack.Stocked :=
    (Stocked.empty.put_build _ (by simp)).put_build _ (by simp)
  have hsupplies : rack.Supplies stalled := by
    refine ⟨_, _, _, Template.ofFragments_eq_ok_iff.2 ⟨_, rfl, rfl⟩, fun place hplace => ?_, rfl⟩
    have hsize : rack.templates.size = 2 := rfl
    simp only [Template.given, Template.Call.bindings, List.map_cons, List.map_nil,
      List.flatMap_singleton, List.cons_append, List.nil_append, List.mem_cons, List.not_mem_nil,
      Except.ok.injEq, Fragment.template.injEq, reduceCtorEq, or_false, false_or] at hplace
    omega
  have hplaces : stalled.places = [1, 0] := by cbv
  have hsecond : rack.templates[1]? =
      some (.build [.pattern ⟨"\\VAR\x7by\x7d", ""⟩]) := rfl
  have hmet : ∃ after, rack.met stalled =
      [stalled] ++ Template.build [.pattern ⟨"\\VAR\x7by\x7d", ""⟩] :: after := by
    rw [met, hplaces, List.flatMap_cons, metAt_of_some hstocked.ordered hsecond,
      met]
    exact ⟨_, rfl⟩
  have hnames :
      (Template.build [.pattern ⟨"\\VAR\x7by\x7d", ""⟩]).unassigned = ["y"] := by cbv
  have hcomplete : stalled.unassigned = [] := by cbv
  obtain ⟨after, hmet⟩ := hmet
  refine ⟨hstocked, hsupplies, ((failures_exact hstocked hsupplies).1 _).2
    ⟨[stalled], _, after, hmet, ?_, ?_, ?_⟩⟩
  · simp [hcomplete]
  · simp [hnames]
  · rw [hnames]

end Shelf

end RegexTemplate
