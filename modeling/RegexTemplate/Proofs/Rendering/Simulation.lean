import RegexTemplate.Proofs.Rendering.Nesting

/-!
# Rendering in two ways at once

Rendering is one walk over the nodes, with the effects left open: the texts of nested templates may be
remembered, made afresh or noted in a journal.  To compare two such ways it is enough to compare what
they do where they ask for a nested template.  A `Simulation` is a relation between computations that
follows the walk; it also keeps the list of places that are asked for, in order.

Main statements: `Simulation.render`, for one template, and `Simulation.renderAt`, for a template on
a shelf and everything nested in it.
-/

namespace RegexTemplate

/-- A relation between computations in two ways of rendering that ask for the same nested templates.
It holds of equal results and equal failures, and it follows the order of steps. -/
structure Simulation (m n : Type → Type) [Monad m] [Monad n] [MonadExceptOf TemplateError m]
    [MonadExceptOf TemplateError n] where
  Rel : {α : Type} → List Nat → m α → n α → Prop
  pure : ∀ {α : Type} (a : α), Rel [] (pure a) (pure a)
  throw : ∀ {α : Type} (asked : List Nat) (e : TemplateError),
    Rel asked (throw e : m α) (throw e : n α)
  bind : ∀ {α β : Type} {first rest : List Nat} {x : m α} {y : n α} {f : α → m β} {g : α → n β},
    Rel first x y → (∀ a, Rel rest (f a) (g a)) → Rel (first ++ rest) (x >>= f) (y >>= g)

namespace Simulation

variable {m n : Type → Type} [Monad m] [Monad n] [MonadExceptOf TemplateError m]
  [MonadExceptOf TemplateError n] (sim : Simulation m n)

/-- Related computations stay related when their results are changed in the same way. -/
theorem map {α β : Type} {asked : List Nat} {x : m α} {y : n α} (h : sim.Rel asked x y)
    (f : α → β) :
    sim.Rel asked (x >>= fun a => Pure.pure (f a)) (y >>= fun a => Pure.pure (f a)) := by
  have hbind := sim.bind h fun a => sim.pure (f a)
  rwa [List.append_nil] at hbind

variable {nested : Nat → m String} {nested' : Nat → n String}

theorem renderSlot (child : Nat → String) (slot : Slot)
    (hnested : ∀ place, slot.place? = some place → sim.Rel [place] (nested place) (nested' place)) :
    sim.Rel slot.place?.toList (Template.renderSlot nested child slot)
      (Template.renderSlot nested' child slot) := by
  cases slot with
  | literal text => exact sim.pure text
  | placeholder name => exact sim.throw [] _
  | node id => exact sim.pure (child id)
  | template place => exact hnested place rfl

theorem renderSlots (child : Nat → String) (slots : List Slot)
    (hnested : ∀ place ∈ Template.placesIn slots,
      sim.Rel [place] (nested place) (nested' place)) :
    sim.Rel (Template.placesIn slots) (Template.renderSlots nested child slots)
      (Template.renderSlots nested' child slots) := by
  induction slots with
  | nil => exact sim.pure ""
  | cons slot slots ih =>
      have hplaces : Template.placesIn (slot :: slots) =
          slot.place?.toList ++ Template.placesIn slots := by
        rw [Template.placesIn, List.filterMap_cons]
        cases slot.place? <;> rfl
      rw [hplaces] at hnested ⊢
      have hfirst := sim.renderSlot child slot fun place hplace =>
        hnested place (List.mem_append_left _ (by simp [hplace]))
      have hrest := ih fun place hplace => hnested place (List.mem_append_right _ hplace)
      exact sim.bind hfirst fun text => sim.map hrest (text ++ ·)

theorem renderNodes (id : Nat) (nodes : List Node)
    (hnested : ∀ place ∈ Template.placesOf nodes,
      sim.Rel [place] (nested place) (nested' place)) :
    sim.Rel (Template.placesOf nodes) (Template.renderNodes nested id nodes)
      (Template.renderNodes nested' id nodes) := by
  induction nodes generalizing id with
  | nil => exact sim.pure []
  | cons node nodes ih =>
      have hlater := ih (id + 1) fun place hplace => hnested place (List.mem_append_left _ hplace)
      refine sim.bind hlater fun texts => ?_
      have hslots := sim.renderSlots
        (fun other => if id < other then texts.getD (other - (id + 1)) "" else "")
        node.content.toList fun place hplace => hnested place (List.mem_append_right _ hplace)
      exact sim.map hslots (· :: texts)

/-- Rendering a template in two ways is related if asking for each nested template is. -/
theorem render (template : Template)
    (hnested : ∀ place ∈ template.places, sim.Rel [place] (nested place) (nested' place)) :
    sim.Rel template.places (template.render nested) (template.render nested') := by
  rw [Template.render, Template.render]
  split
  · exact sim.map (sim.renderNodes Template.root template.nodes.toList hnested) (·.headD "")
  · exact sim.throw _ _

/-- Rendering a template on a shelf in two ways is related if the two ways of asking for a nested
template are, given that rendering it is. -/
theorem renderAt {asking : (Nat → m String) → Nat → m String}
    {asking' : (Nat → n String) → Nat → n String} {shelf : Shelf} (hshelf : shelf.Ordered)
    (hasking : ∀ (render : Nat → m String) (render' : Nat → n String) (place : Nat),
      sim.Rel (shelf.placesAt place) (render place) (render' place) →
      render' place = shelf.renderAt asking' place →
      sim.Rel [place] (asking render place) (asking' render' place))
    (place : Nat) :
    sim.Rel (shelf.placesAt place) (shelf.renderAt asking place)
      (shelf.renderAt asking' place) := by
  induction place using Nat.strongRecOn with
  | ind place ih =>
      rw [Shelf.renderAt, Shelf.renderAt]
      cases htemplate : shelf.templates[place]? with
      | none => exact sim.throw _ _
      | some template =>
          have hplaces : shelf.placesAt place = template.places := by
            rw [Shelf.placesAt, htemplate]
          rw [hplaces]
          refine sim.render template fun nested hnested => hasking _ _ nested ?_ ?_
          · have hlt := hshelf place nested (hplaces ▸ hnested)
            simpa only [hlt, if_true] using ih nested hlt
          · have hlt := hshelf place nested (hplaces ▸ hnested)
            simp only [hlt, if_true]

/-- Equal computations, as a simulation. -/
def same : Simulation m m where
  Rel _ x y := x = y
  pure _ := rfl
  throw _ _ := rfl
  bind hfirst hrest := by rw [hfirst, funext hrest]

end Simulation

/-- Only how the nested templates are asked for counts. -/
theorem Template.render_congr {m : Type → Type} [Monad m] [MonadExceptOf TemplateError m]
    {nested nested' : Nat → m String} (template : Template)
    (hnested : ∀ place ∈ template.places, nested place = nested' place) :
    template.render nested = template.render nested' :=
  Simulation.same.render template hnested

end RegexTemplate
