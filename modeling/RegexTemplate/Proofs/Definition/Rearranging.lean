import Mathlib.Data.List.Perm.Subperm
import RegexTemplate.Proofs.Definition.Accepting
import RegexTemplate.Proofs.Runs.Matching

/-!
# Documents that keep some recipes

From a document that is accepted some of the recipes can be kept, and they can be put in another
order, as long as each stands behind those that it refers to.  What is left is accepted, too
(`exists_built`).  The templates stand in other places then, so they are not equal: they match slot by
slot, where a nested template matches the one of the same name (`Slot.Moved`, `Built.matched`).  Such
templates have the same open names and the same number of nodes, and since those that they nest match
in turn, they render alike (`Shelf.renderAt_eq_of_moved`).

Main statement: `parse_rearranged`.
-/

namespace RegexTemplate

/-- A slot and the one in its place where templates stand in other places: the same slot, or one that
nests the same template in its other place. -/
inductive Slot.Moved (Same : Nat → Nat → Prop) : Slot → Slot → Prop
  | same {slot : Slot} (hplace : slot.place? = none) : Moved Same slot slot
  | template {place place' : Nat} (hsame : Same place place') :
      Moved Same (.template place) (.template place')

theorem Slot.respectful_moved (Same : Nat → Nat → Prop) : Slot.Respectful (Slot.Moved Same) where
  refl _ hplace := .same hplace
  placeholder_iff h name := by cases h <;> simp
  node_iff h child := by cases h <;> simp

/-- **Templates that have been moved render alike**, if those on the one shelf match those on the
other in their other places. -/
theorem Shelf.renderAt_eq_of_moved {shelf other : Shelf} {Same : Nat → Nat → Prop}
    (hshelf : shelf.Ordered) (hother : other.Ordered)
    (hmoved : ∀ place place', Same place place' → ∃ template template',
      shelf.templates[place]? = some template ∧ other.templates[place']? = some template' ∧
        template.Matched (Slot.Moved Same) template')
    {place place' : Nat} (hsame : Same place place') :
    shelf.renderAt afresh place = other.renderAt afresh place' := by
  induction place using Nat.strongRecOn generalizing place' with
  | ind place ih =>
      obtain ⟨template, template', htemplate, htemplate', hmatched⟩ := hmoved place place' hsame
      rw [renderAt_afresh hshelf htemplate, renderAt_afresh hother htemplate', plain, plain]
      refine hmatched.render_eq (Slot.respectful_moved Same) fun p slot hslot slot' hslots child => ?_
      cases hslots with
      | same hplace =>
          cases slot with
          | template nested => cases hplace
          | _ => rfl
      | @template nested nested' hnested =>
          -- what is nested stands earlier on the shelf
          obtain ⟨j, hj⟩ := Array.mem_iff_getElem?.1 (Array.mem_toList_iff.1 hslot)
          have hlt := hshelf place nested
            (mem_placesAt_iff.2 ⟨template, htemplate, Template.mem_places.2 ⟨p, j, hj⟩⟩)
          exact ih nested hlt hnested

namespace Definition

open Toml (Value)

/-- Two recipes that say the same, in places of their own. -/
structure Recipe.Agrees (recipe recipe' : Recipe) : Prop where
  name_eq : recipe.name.value = recipe'.name.value
  fragments : List.Forall₂ (fun value value' => value.value.Agrees value'.value)
    recipe.fragments recipe'.fragments
  vars : List.Forall₂ (fun var var' => var.1 = var'.1 ∧ var.2.value.Agrees var'.2.value)
    recipe.vars recipe'.vars

variable {known known' : List String} {recipe recipe' : Recipe} {recipes recipes' kept : List Recipe}
  {template template' : Template} {templates templates' : List (String × Template)}
  {Same : Nat → Nat → Prop}

/-- What two rows that are related to the same row have in common. -/
theorem forall₂_of_common {α β γ : Type} {R : α → β → Prop} {S : α → γ → Prop} {T : β → γ → Prop}
    {inputs : List α} {outputs : List β} {others : List γ} (h : List.Forall₂ R inputs outputs)
    (h' : List.Forall₂ S inputs others)
    (hrelated : ∀ input output other, R input output → S input other → T output other) :
    List.Forall₂ T outputs others := by
  induction h generalizing others with
  | nil =>
      cases h'
      exact .nil
  | cons hfirst _ ih =>
      cases h' with
      | cons hother hrest => exact .cons (hrelated _ _ _ hfirst hother) (ih hrest)

/-- A row is related to some row if each of its items is related to something. -/
theorem exists_forall₂ {α β : Type} {R : α → β → Prop} {inputs : List α}
    (h : ∀ input ∈ inputs, ∃ output, R input output) : ∃ outputs, List.Forall₂ R inputs outputs := by
  induction inputs with
  | nil => exact ⟨[], .nil⟩
  | cons input inputs ih =>
      obtain ⟨output, houtput⟩ := h input List.mem_cons_self
      obtain ⟨outputs, houtputs⟩ := ih fun other hother => h other (List.mem_cons_of_mem _ hother)
      exact ⟨output :: outputs, .cons houtput houtputs⟩

/-- What a value converts to among some templates matches what it converts to among others. -/
theorem Converts.matched {value : Spanned Value} {fragment fragment' : Fragment}
    (hsame : ∀ (name : String) place place', known.findIdx? (· == name) = some place →
      known'.findIdx? (· == name) = some place' → Same place place')
    (h : Converts known value fragment) (h' : Converts known' value fragment') :
    fragment.Matched (Slot.Moved Same) fragment' := by
  cases hreference : reference? value.value with
  | none =>
      unfold Converts at h h'
      rw [fragmentOfValue_independent hreference known' known, h] at h'
      cases h'
      refine .same fun place hplace => ?_
      exact fragmentOfValue_ne_template hreference (hplace ▸ h)
  | some name =>
      obtain ⟨place, hplace, rfl⟩ := exists_place_of_reference hreference h
      obtain ⟨place', hplace', rfl⟩ := exists_place_of_reference hreference h'
      exact .slots (fun _ => rfl) (fun _ => rfl) (.template (hsame name place place' hplace hplace'))

/-- The templates that a recipe yields among some templates and among others match. -/
theorem Recipe.Yields.matched
    (hsame : ∀ (name : String) place place', known.findIdx? (· == name) = some place →
      known'.findIdx? (· == name) = some place' → Same place place')
    (h : recipe.Yields known template) (h' : recipe.Yields known' template') :
    template.Matched (Slot.Moved Same) template' := by
  obtain ⟨fragments, bindings, hfragments, hbindings, rfl⟩ := h
  obtain ⟨fragments', bindings', hfragments', hbindings', rfl⟩ := h'
  have hR := Slot.respectful_moved Same
  have hbuilt : List.Forall₂ (Fragment.Matched (Slot.Moved Same)) fragments fragments' := by
    refine forall₂_of_common hfragments hfragments' fun value fragment fragment' hone hother => ?_
    exact hone.matched hsame hother
  have hbound : List.Forall₂ (fun binding binding' => binding.1 = binding'.1 ∧
      Fragment.Matched (Slot.Moved Same) binding.2 binding'.2) bindings bindings' := by
    refine forall₂_of_common hbindings hbindings' fun var binding binding' hone hother => ?_
    exact ⟨hone.1.symm.trans hother.1, hone.2.matched hsame hother.2⟩
  exact (Template.matched_build hR hbuilt).bindEach hR hbound

/-- A value that can be converted can be converted wherever the template that it refers to is
known. -/
theorem Converts.exists_elsewhere {value : Spanned Value} {fragment : Fragment}
    (h : Converts known value fragment)
    (hreference : ∀ name, reference? value.value = some name → name ∈ known') :
    ∃ fragment', Converts known' value fragment' := by
  unfold Converts at h ⊢
  cases hname : reference? value.value with
  | none => exact ⟨fragment, by rw [fragmentOfValue_independent hname known' known, h]⟩
  | some name =>
      obtain ⟨place, hplace⟩ : ∃ place, known'.findIdx? (· == name) = some place := by
        refine Option.isSome_iff_exists.1 (List.findIdx?_isSome.trans ?_)
        exact List.any_eq_true.2 ⟨name, hreference name hname, by simp⟩
      exact ⟨.template place, fragmentOfValue_eq_template_iff.2 ⟨name, hname, hplace⟩⟩

/-- A recipe that yields a template yields one wherever those that it refers to are known. -/
theorem Recipe.Yields.exists_elsewhere (h : recipe.Yields known template)
    (hreferences : ∀ name ∈ recipe.references, name ∈ known') :
    ∃ template', recipe.Yields known' template' := by
  obtain ⟨fragments, bindings, hfragments, hbindings, -⟩ := h
  have hknown : ∀ {value : Spanned Value}, value ∈ recipe.fragments ++ recipe.vars.map Prod.snd →
      ∀ name, reference? value.value = some name → name ∈ known' := by
    intro value hvalue name hname
    exact hreferences name (List.mem_filterMap.2 ⟨value, hvalue, hname⟩)
  obtain ⟨fragments', hfragments'⟩ :
      ∃ fragments', List.Forall₂ (Converts known') recipe.fragments fragments' := by
    refine exists_forall₂ fun value hvalue => ?_
    obtain ⟨fragment, -, hconverted⟩ := exists_related hfragments.flip hvalue
    exact Converts.exists_elsewhere hconverted (hknown (List.mem_append_left _ hvalue))
  obtain ⟨bindings', hbindings'⟩ :
      ∃ bindings', List.Forall₂ (Binds known') recipe.vars bindings' := by
    refine exists_forall₂ fun var hvar => ?_
    obtain ⟨binding, -, -, hconverted⟩ := exists_related hbindings.flip hvar
    obtain ⟨fragment, hfragment⟩ := Converts.exists_elsewhere hconverted
      (hknown (List.mem_append_right _ (List.mem_map_of_mem hvar)))
    exact ⟨(var.1, fragment), rfl, hfragment⟩
  exact ⟨_, fragments', bindings', hfragments', hbindings', rfl⟩

/-- Recipes that say the same yield the same. -/
theorem Recipe.Agrees.yields (h : recipe.Agrees recipe') (hyields : recipe.Yields known template) :
    recipe'.Yields known template := by
  obtain ⟨fragments, bindings, hfragments, hbindings, rfl⟩ := hyields
  refine ⟨fragments, bindings, ?_, ?_, rfl⟩
  · refine forall₂_of_common h.fragments hfragments fun value value' fragment hvalue hconverted => ?_
    exact (fragmentOfValue_congr hvalue).symm.trans hconverted
  · refine forall₂_of_common h.vars hbindings fun var var' binding hvar hbinding => ?_
    exact ⟨hvar.1.symm.trans hbinding.1, (fragmentOfValue_congr hvar.2).symm.trans hbinding.2⟩

/-- The same templates are built from recipes that say the same. -/
theorem Built.of_agrees (h : Built recipes templates)
    (hagrees : List.Forall₂ Recipe.Agrees recipes recipes') : Built recipes' templates := by
  induction h generalizing recipes' with
  | nil =>
      cases hagrees
      exact .nil
  | @snoc recipes templates recipe template h hnew hyields ih =>
      obtain ⟨front, last, back, rfl, hfront, hlast, hback⟩ := forall₂_append_cons hagrees.flip
      cases hback
      have hname : recipe.name.value = last.name.value := hlast.name_eq
      rw [hname] at hnew ⊢
      exact (ih hfront.flip).snoc hnew (hlast.yields hyields)

/-- Recipes with different names, each of which can be built somewhere, can be built in any order in
which they stand behind those that they refer to. -/
theorem exists_built (hnodup : (kept.map (·.name.value)).Nodup)
    (hyields : ∀ recipe ∈ kept, ∃ known template, recipe.Yields known template)
    (hreferences : ∀ before recipe after, kept = before ++ recipe :: after →
      ∀ name ∈ recipe.references, name ∈ before.map (·.name.value)) :
    ∃ templates, Built kept templates := by
  induction kept using List.reverseRecOn with
  | nil => exact ⟨[], .nil⟩
  | append_singleton kept recipe ih =>
      rw [List.map_append, List.nodup_append] at hnodup
      obtain ⟨hkept, -, hnew⟩ := hnodup
      obtain ⟨templates, h⟩ := ih hkept
        (fun other hother => hyields other (List.mem_append_left _ hother))
        (fun before other after heq => hreferences before other (after ++ [recipe]) (by simp [heq]))
      obtain ⟨known, template, hknown⟩ := hyields recipe (by simp)
      have hbefore := hreferences kept recipe [] rfl
      rw [← h.names_eq] at hbefore hnew
      obtain ⟨template', htemplate'⟩ := hknown.exists_elsewhere hbefore
      refine ⟨_, h.snoc (fun hmem => ?_) htemplate'⟩
      exact hnew _ hmem _ (List.mem_singleton_self _) rfl

/-- Two places where templates of the same name stand. -/
def SameName (templates templates' : List (String × Template)) (place place' : Nat) : Prop :=
  ∃ name, (templates.map Prod.fst)[place]? = some name ∧
    (templates'.map Prod.fst)[place']? = some name

/-- The templates of the recipes that are kept match those that were there. -/
theorem Built.matched (h : Built recipes templates) (h' : Built kept templates')
    (hkept : kept ⊆ recipes) {place place' : Nat}
    (hsame : SameName templates templates' place place') :
    ∃ template template', (shelfOf templates).templates[place]? = some template ∧
      (shelfOf templates').templates[place']? = some template' ∧
      template.Matched (Slot.Moved (SameName templates templates')) template' := by
  obtain ⟨name, hname, hname'⟩ := hsame
  obtain ⟨template, htemplate, honShelf⟩ := exists_of_name hname
  obtain ⟨template', htemplate', honShelf'⟩ := exists_of_name hname'
  obtain ⟨recipe, hrecipe, hrecipename, hyields⟩ := h.exists_recipe htemplate
  obtain ⟨recipe', hrecipe', hrecipename', hyields'⟩ := h'.exists_recipe htemplate'
  -- a name stands for one recipe of the whole document
  obtain ⟨whole, hwhole⟩ := List.mem_iff_getElem?.1 (hkept (List.mem_of_getElem? hrecipe'))
  obtain ⟨-, rfl⟩ := h.recipe_unique hrecipe hwhole (hrecipename.trans hrecipename'.symm)
  refine ⟨template, template', honShelf, honShelf', hyields.matched ?_ hyields'⟩
  intro other nested nested' hnested hnested'
  exact ⟨other, (h.findIdx?_known_iff.1 hnested).2, (h'.findIdx?_known_iff.1 hnested').2⟩

/-- What has been kept shows as before. -/
theorem Built.shows_alike {definition definition' : Definition}
    (h : Built recipes definition.templates) (h' : Built kept definition'.templates)
    (hkept : kept ⊆ recipes) (hrecipe : recipe ∈ kept) :
    ∃ template template', definition.get? recipe.name.value = some template ∧
      definition'.get? recipe.name.value = some template' ∧
      template.unassigned = template'.unassigned ∧ template.nodeCount = template'.nodeCount ∧
      definition.shelf.compileSource template = definition'.shelf.compileSource template' := by
  obtain ⟨place, hplace⟩ := List.mem_iff_getElem?.1 (hkept hrecipe)
  obtain ⟨place', hplace'⟩ := List.mem_iff_getElem?.1 hrecipe
  obtain ⟨template, htemplate, -⟩ := h.exists_yields hplace
  obtain ⟨template', htemplate', -⟩ := h'.exists_yields hplace'
  have hsame : SameName definition.templates definition'.templates place place' := by
    refine ⟨recipe.name.value, ?_, ?_⟩
    · rw [List.getElem?_map, htemplate]
      rfl
    · rw [List.getElem?_map, htemplate']
      rfl
  obtain ⟨one, other, hone, hother, hmatched⟩ := h.matched h' hkept hsame
  have heq : one = template ∧ other = template' := by
    rw [getElem?_shelfOf, htemplate] at hone
    rw [getElem?_shelfOf, htemplate'] at hother
    exact ⟨(Option.some.inj hone).symm, (Option.some.inj hother).symm⟩
  obtain ⟨rfl, rfl⟩ := heq
  refine ⟨one, other, (get?_eq_some_iff h.nodup).2 ⟨place, htemplate⟩,
    (get?_eq_some_iff h'.nodup).2 ⟨place', htemplate'⟩,
    hmatched.unassigned_eq (Slot.respectful_moved _), hmatched.nodeCount_eq, ?_⟩
  have hshelf : definition.shelf = shelfOf definition.templates := rfl
  have hshelf' : definition'.shelf = shelfOf definition'.templates := rfl
  have hordered := h.stocked.ordered
  have hordered' := h'.stocked.ordered
  rw [hshelf, hshelf', Shelf.compileSource_eq_plain hordered, Shelf.compileSource_eq_plain hordered',
    ← Shelf.renderAt_afresh hordered hone, ← Shelf.renderAt_afresh hordered' hother]
  exact Shelf.renderAt_eq_of_moved hordered hordered' (fun _ _ => h.matched h' hkept) hsame

/-- **Recipes can be kept and rearranged.**  Let a text be read as a document and accepted, and let
some of its recipes be kept, each at most once and in any order.  Let there be at least one, let the
declared entry be among them if there is one, and let each stand behind those that it refers to.  Then
a document that is made of them, in places of its own, is accepted, and for each name that is kept,
the template has the same open names and the same number of nodes as before, and the same text or the
same cause why it has none. -/
theorem parse_rearranged {source : String} {fileId : Nat} {document document' : Document}
    {definition : Definition} {kept : List Recipe}
    (hread : readDocument fileId source = .ok document)
    (hparse : parse source fileId = .ok definition) (hkept : kept.Subperm document.recipes)
    (hsome : kept ≠ [])
    (hentry : ∀ entry, document.entry = some entry → entry.value ∈ kept.map (·.name.value))
    (hreferences : ∀ before recipe after, kept = before ++ recipe :: after →
      ∀ name ∈ recipe.references, name ∈ before.map (·.name.value))
    (hrecipes : List.Forall₂ Recipe.Agrees kept document'.recipes)
    (hentry' : document'.entry.map (·.value) = document.entry.map (·.value)) (fileId' : Nat) :
    ∃ definition', ofDocument fileId' document' = .ok definition' ∧
      (∀ source', readDocument fileId' source' = .ok document' →
        parse source' fileId' = .ok definition') ∧
      ∀ recipe ∈ kept, ∃ template template',
        definition.get? recipe.name.value = some template ∧
        definition'.get? recipe.name.value = some template' ∧
        template.unassigned = template'.unassigned ∧ template.nodeCount = template'.nodeCount ∧
        definition.shelf.compileSource template = definition'.shelf.compileSource template' := by
  rw [parse_of_readDocument hread] at hparse
  obtain ⟨h, -⟩ := ofDocument_eq_ok_iff.1 hparse
  have hnodup : (kept.map (·.name.value)).Nodup := by
    have hnames := h.nodup
    rw [h.names_eq] at hnames
    obtain ⟨part, hperm, hsublist⟩ := hkept
    exact (hperm.map _).nodup_iff.1 (hnames.sublist (hsublist.map _))
  have hyields : ∀ recipe ∈ kept, ∃ known template, recipe.Yields known template := by
    intro recipe hrecipe
    obtain ⟨place, hplace⟩ := List.mem_iff_getElem?.1 (hkept.subset hrecipe)
    obtain ⟨template, -, hyields⟩ := h.exists_yields hplace
    exact ⟨_, template, hyields⟩
  obtain ⟨templates, h'⟩ := exists_built hnodup hyields hreferences
  have haccepted : ofDocument fileId' document' =
      .ok ⟨templates, document'.entry.map (·.value)⟩ := by
    refine ofDocument_eq_ok_iff.2 ⟨h'.of_agrees hrecipes, ?_, ?_, rfl⟩
    · intro hnil
      rw [hnil] at hrecipes
      exact hsome (List.forall₂_nil_right_iff.1 hrecipes)
    · intro entry hdeclared
      have hvalue : document.entry.map (·.value) = some entry.value := by
        rw [← hentry', hdeclared]
        rfl
      obtain ⟨before, hbefore, heq⟩ := Option.map_eq_some_iff.1 hvalue
      have hnames : names ⟨templates, document'.entry.map (·.value)⟩ =
          kept.map (·.name.value) := h'.names_eq
      rw [hnames, ← heq]
      exact hentry before hbefore
  refine ⟨_, haccepted, fun source' hread' => ?_, fun recipe hrecipe => ?_⟩
  · rw [parse_of_readDocument hread', haccepted]
  · exact h.shows_alike h' hkept.subset hrecipe

/-! ## Recipes in outline

Recipes that are made of texts and of references agree as soon as they have the same outline, and an
outline can be compared by evaluation.
-/

/-- A value as far as it is a text or refers to a template. -/
inductive Gist
  | text (text : String)
  | template (name : String)
  | other
deriving DecidableEq

namespace Gist

/-- The template that a value refers to. -/
def template? : Gist → Option String
  | .template name => some name
  | _ => none

/-- What a value is. -/
def of : Value → Gist
  | .string content => .text content
  | value => (reference? value).elim .other .template

variable {value value' : Value}

/-- A value that is no text shows what it refers to. -/
theorem of_eq_elim (h : ∀ content, value ≠ .string content) :
    of value = (reference? value).elim .other .template := by
  cases value with
  | string content => exact absurd rfl (h content)
  | _ => rfl

theorem template?_of (value : Value) : (of value).template? = reference? value := by
  cases value with
  | string content => rfl
  | _ =>
      rw [of_eq_elim (by simp)]
      cases reference? _ <;> rfl

theorem of_eq_text {content : String} (h : of value = .text content) : value = .string content := by
  cases value with
  | string other =>
      cases h
      rfl
  | _ =>
      rw [of_eq_elim (by simp)] at h
      cases hreference : reference? _ <;> rw [hreference] at h <;> cases h

/-- Two values of the same kind agree if it is known what they are. -/
theorem agrees (h : of value = of value') (hclear : of value ≠ .other) : value.Agrees value' := by
  cases hgist : of value with
  | text content =>
      rw [of_eq_text hgist, of_eq_text (h.symm.trans hgist)]
      exact .refl _
  | template name =>
      have hreference : ∀ {value : Value}, of value = .template name →
          reference? value = some name := by
        intro value hvalue
        rw [← template?_of, hvalue, template?]
      exact agrees_of_reference (hreference hgist) (hreference (h.symm.trans hgist))
  | other => exact absurd hgist hclear

end Gist

/-- A recipe in outline. -/
structure Outline where
  name : String
  fragments : List Gist
  vars : List (String × Gist)
deriving DecidableEq

/-- Whether it is known of all values of a recipe what they are. -/
def Outline.Clear (outline : Outline) : Prop :=
  Gist.other ∉ outline.fragments ∧ Gist.other ∉ outline.vars.map Prod.snd

instance (outline : Outline) : Decidable outline.Clear := inferInstanceAs (Decidable (_ ∧ _))

/-- The templates that a recipe refers to. -/
def Outline.references (outline : Outline) : List String :=
  (outline.fragments ++ outline.vars.map Prod.snd).filterMap Gist.template?

/-- The outline of a recipe. -/
def Recipe.outline (recipe : Recipe) : Outline where
  name := recipe.name.value
  fragments := recipe.fragments.map fun value => .of value.value
  vars := recipe.vars.map fun var => (var.1, .of var.2.value)

theorem Recipe.references_outline (recipe : Recipe) :
    recipe.outline.references = recipe.references := by
  simp only [Outline.references, outline, references, List.map_map,
    List.filterMap_append, List.filterMap_map, Function.comp_def, Gist.template?_of]

/-- Two rows agree item by item where something that tells them apart is the same. -/
theorem forall₂_of_map_eq {α β : Type} {R : α → α → Prop} {f : α → β} {inputs outputs : List α}
    (h : inputs.map f = outputs.map f)
    (hrelated : ∀ input ∈ inputs, ∀ output, f input = f output → R input output) :
    List.Forall₂ R inputs outputs := by
  induction inputs generalizing outputs with
  | nil =>
      rw [List.map_eq_nil_iff.1 h.symm]
      exact .nil
  | cons input inputs ih =>
      obtain ⟨output, outputs, rfl, hfirst, hrest⟩ := List.map_eq_cons_iff.1 h.symm
      refine .cons (hrelated input List.mem_cons_self output hfirst.symm) (ih hrest.symm ?_)
      exact fun other hother => hrelated other (List.mem_cons_of_mem input hother)

/-- Recipes with the same clear outline say the same. -/
theorem Recipe.agrees_of_outline (h : recipe.outline = recipe'.outline)
    (hclear : recipe.outline.Clear) : recipe.Agrees recipe' where
  name_eq := congrArg Outline.name h
  fragments := by
    refine forall₂_of_map_eq (congrArg Outline.fragments h) fun value hvalue value' heq => ?_
    refine Gist.agrees heq fun hother => hclear.1 ?_
    exact hother ▸ List.mem_map_of_mem hvalue
  vars := by
    refine forall₂_of_map_eq (congrArg Outline.vars h) fun var hvar var' heq => ?_
    obtain ⟨hname, hvalue⟩ := Prod.mk.inj heq
    refine ⟨hname, Gist.agrees hvalue fun hother => hclear.2 ?_⟩
    exact List.mem_map.2 ⟨(var.1, .of var.2.value), List.mem_map_of_mem hvar, hother⟩

/-- Whether each of some recipes stands behind those that it refers to, behind some names. -/
def standBehind (names : List String) : List Outline → Bool
  | [] => true
  | outline :: outlines =>
    outline.references.all names.contains && standBehind (names ++ [outline.name]) outlines

theorem references_of_standBehind {names : List String}
    (h : standBehind names (recipes.map Recipe.outline)) :
    ∀ before recipe after, recipes = before ++ recipe :: after →
      ∀ name ∈ recipe.references, name ∈ names ++ before.map (·.name.value) := by
  induction recipes generalizing names with
  | nil => simp
  | cons first recipes ih =>
      intro before recipe after heq name hname
      rw [List.map_cons, standBehind, Bool.and_eq_true] at h
      cases before with
      | nil =>
          obtain ⟨rfl, -⟩ := List.cons.inj heq
          rw [← Recipe.references_outline] at hname
          exact List.mem_append_left _ (List.contains_iff_mem.1 (List.all_eq_true.1 h.1 name hname))
      | cons earlier before =>
          obtain ⟨rfl, hrest⟩ := List.cons.inj heq
          rw [List.map_cons, List.append_cons]
          exact ih h.2 before recipe after hrest name hname

/-- Five recipes.  The third one fills in its names, with the second one and with a text, the fourth one
leaves a name open, and the last one nests the third. -/
def assorted : String :=
  "entry = 'all'\ntemplate = [['x', ['/x/']], ['word', ['/w+/']], " ++
  "['pair', ['/(\\VAR\x7bl\x7d-\\VAR\x7br\x7d)/'], " ++
  "\x7b l = \x7b template = 'word' \x7d, r = '/z/' \x7d], " ++
  "['open', ['/\\VAR\x7bwho\x7d!/']], ['all', [\x7b template = 'pair' \x7d, '/$/']]]"

/-- Four of them in another order, written in their own way. -/
def sorted : String :=
  "entry = 'all'\ntemplate = [['open', ['/\\VAR\x7bwho\x7d!/']], ['word', ['/w+/']],\n" ++
  "['pair', ['/(\\VAR\x7bl\x7d-\\VAR\x7br\x7d)/'], " ++
  "\x7bl=\x7btemplate='word'\x7d,r='/z/'\x7d],\n['all', [\x7btemplate='pair'\x7d,'/$/']]]\n"

/-- The four recipes in outline. -/
def sortedOutlines : List Outline :=
  [⟨"open", [.text "/\\VAR\x7bwho\x7d!/"], []⟩, ⟨"word", [.text "/w+/"], []⟩,
    ⟨"pair", [.text "/(\\VAR\x7bl\x7d-\\VAR\x7br\x7d)/"],
      [("l", .template "word"), ("r", .text "/z/")]⟩,
    ⟨"all", [.template "pair", .text "/$/"], []⟩]

/-- What the templates of a definition show: their open names, and their texts if they have any. -/
def shown (definition : Definition) : List (String × List String × Option String) :=
  definition.templates.map fun (name, template) =>
    (name, template.unassigned, (definition.shelf.compileSource template).toOption)

/-- The first document is accepted, and has the four recipes in its own order behind another one. -/
theorem exists_read_assorted : ∃ document definition x hole word pair all,
    readDocument 0 assorted = .ok document ∧ parse assorted 0 = .ok definition ∧
      document.entry.map (·.value) = some "all" ∧ document.recipes = [x, word, pair, hole, all] ∧
      [hole, word, pair, all].map Recipe.outline = sortedOutlines ∧
      shown definition = [("x", [], some "x"), ("word", [], some "w+"), ("pair", [], some "(w+-z)"),
        ("open", ["who"], none), ("all", [], some "(w+-z)$")] := by
  have hread : (readDocument 0 assorted).toOption.map (fun document =>
      (document.entry.map (·.value), document.recipes.map Recipe.outline)) =
      some (some "all", ⟨"x", [.text "/x/"], []⟩ ::
        [sortedOutlines[1], sortedOutlines[2], sortedOutlines[0], sortedOutlines[3]]) := by
    decide +kernel
  have haccepted : (parse assorted 0).toOption.map shown =
      some [("x", [], some "x"), ("word", [], some "w+"), ("pair", [], some "(w+-z)"),
        ("open", ["who"], none), ("all", [], some "(w+-z)$")] := by
    decide +kernel
  obtain ⟨document, hdocument, hread⟩ := exists_of_toOption_map hread
  obtain ⟨definition, hdefinition, hshown⟩ := exists_of_toOption_map haccepted
  simp only [Prod.mk.injEq, List.map_eq_cons_iff, List.map_eq_nil_iff] at hread
  obtain ⟨hentry, x, _, hrecipes, -, word, _, rfl, hword, pair, _, rfl, hpair, hole, _, rfl, hhole, all,
    _, rfl, hall, rfl⟩ := hread
  refine ⟨document, definition, x, hole, word, pair, all, hdocument, hdefinition, hentry, hrecipes, ?_,
    hshown⟩
  simp only [List.map_cons, List.map_nil, hhole, hword, hpair, hall]
  rfl

/-- The second document is accepted, and what is kept shows the same in both: the templates with their
texts, and the one that has none since a name is open. -/
theorem parse_rearranged_sorted : ∃ definition definition',
    parse assorted 0 = .ok definition ∧ parse sorted 1 = .ok definition' ∧
      shown definition = [("x", [], some "x"), ("word", [], some "w+"), ("pair", [], some "(w+-z)"),
        ("open", ["who"], none), ("all", [], some "(w+-z)$")] ∧
      ∀ name ∈ ["open", "word", "pair", "all"], ∃ template template',
        definition.get? name = some template ∧ definition'.get? name = some template' ∧
          template.unassigned = template'.unassigned ∧ template.nodeCount = template'.nodeCount ∧
          definition.shelf.compileSource template = definition'.shelf.compileSource template' := by
  obtain ⟨document, definition, x, hole, word, pair, all, hread, hparse, hentry, hrecipes, houtlines,
    hshown⟩ := exists_read_assorted
  have hsorted : (readDocument 1 sorted).toOption.map (fun document =>
      (document.entry.map (·.value), document.recipes.map Recipe.outline)) =
      some (some "all", sortedOutlines) := by
    decide +kernel
  obtain ⟨document', hread', hsorted⟩ := exists_of_toOption_map hsorted
  obtain ⟨hentry', hrecipes'⟩ := Prod.mk.inj hsorted
  have hnames : [hole, word, pair, all].map (·.name.value) = ["open", "word", "pair", "all"] :=
    congrArg (List.map Outline.name) houtlines
  have hkept : [hole, word, pair, all].Subperm document.recipes := by
    have hperm : ([word, pair] ++ hole :: [all]).Perm (hole :: ([word, pair] ++ [all])) :=
      List.perm_middle
    rw [hrecipes]
    exact ⟨[word, pair, hole, all], hperm, List.sublist_cons_self x [word, pair, hole, all]⟩
  have hdeclared : ∀ entry, document.entry = some entry →
      entry.value ∈ [hole, word, pair, all].map (·.name.value) := by
    intro entry heq
    rw [heq] at hentry
    have hvalue : entry.value = "all" := Option.some.inj hentry
    rw [hnames, hvalue]
    decide
  have hstand : standBehind [] ([hole, word, pair, all].map Recipe.outline) := by
    rw [houtlines]
    decide
  have hagrees : List.Forall₂ Recipe.Agrees [hole, word, pair, all] document'.recipes := by
    refine forall₂_of_map_eq (houtlines.trans hrecipes'.symm) fun recipe hrecipe recipe' heq => ?_
    have hclear : ∀ outline ∈ sortedOutlines, outline.Clear := by decide
    exact Recipe.agrees_of_outline heq (hclear _ (houtlines ▸ List.mem_map_of_mem hrecipe))
  obtain ⟨definition', -, hparse', hshows⟩ := parse_rearranged hread hparse hkept (by simp)
    hdeclared (references_of_standBehind hstand) hagrees (hentry'.trans hentry.symm) 1
  refine ⟨definition, definition', hparse, hparse' sorted hread', hshown, fun name hname => ?_⟩
  rw [← hnames] at hname
  obtain ⟨recipe, hrecipe, rfl⟩ := List.mem_map.1 hname
  exact hshows recipe hrecipe

end Definition

end RegexTemplate
