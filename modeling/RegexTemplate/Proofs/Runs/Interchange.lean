import RegexTemplate.Proofs.Rendering.Spelling
import RegexTemplate.Proofs.Runs.Matching
import RegexTemplate.Proofs.Template.Structure

/-!
# A nested template and its text

A template that is nested in another can be replaced by the pattern that it compiles to, as long as the
text of this pattern holds no marker.  Two runs that differ in this way, at any of the places where
templates are given, lead to templates that are alike node by node: they differ only in slots where one
nests a template and the other holds the text of it (`Template.Alike`).  The fragments that the runs are
given match in this sense (`matched_of_interchanged`), so whole runs keep templates alike
(`Alike.performAll`); and templates that are alike have the same open names and render alike
(`Alike.unassigned_eq`, `Alike.render_eq`).

Main statement: `Shelf.interchangeable_exact`.
-/

namespace RegexTemplate

variable {shelf : Shelf}

/-- A fragment of one run and the one in its place in another.  They are the same, or the second is the
pattern of the template that the first nests, and its text holds no marker. -/
inductive Fragment.Interchanged (shelf : Shelf) : Fragment → Fragment → Prop
  | same {fragment : Fragment}
      (hplace : ∀ place, fragment = .template place → place < shelf.templates.size) :
      Interchanged shelf fragment fragment
  | compiled {place : Nat} {template : Template} {pattern : Pattern}
      (htemplate : shelf.templates[place]? = some template)
      (hcompile : shelf.compile template = .ok pattern)
      (hunmarked : (Marker.split pattern.source).length = 1) :
      Interchanged shelf (.template place) (.pattern pattern)

/-- A slot of one template and the one in its place in another.  They are the same, or the second holds
the text of the template that the first nests. -/
inductive Slot.Alike (shelf : Shelf) : Slot → Slot → Prop
  | same {slot : Slot} (hplace : ∀ place, slot = .template place → place < shelf.templates.size) :
      Alike shelf slot slot
  | text {place : Nat} {text : String} (hplace : place < shelf.templates.size)
      (htext : shelf.renderAt Shelf.afresh place = .ok text) :
      Alike shelf (.template place) (.literal text)

/-- What one of them nests is on the shelf. -/
theorem Slot.Alike.place_lt {slot slot' : Slot} (h : slot.Alike shelf slot') {place : Nat}
    (hplace : slot = .template place ∨ slot' = .template place) : place < shelf.templates.size := by
  cases h with
  | same hsame => exact hsame place (hplace.elim id id)
  | text hlt =>
      rcases hplace with heq | heq
      · cases heq
        exact hlt
      · cases heq

/-- Slots that are alike differ only in what nests something. -/
theorem Slot.respectful_alike (shelf : Shelf) : Slot.Respectful (Slot.Alike shelf) where
  refl slot hslot := by
    refine .same fun place hplace => ?_
    rw [hplace] at hslot
    cases hslot
  placeholder_iff h name := by cases h <;> simp
  node_iff h child := by cases h <;> simp

/-- The source of the pattern of a template is its text. -/
theorem Shelf.compileSource_of_compile {template : Template} {pattern : Pattern}
    (hcompile : shelf.compile template = .ok pattern) :
    shelf.compileSource template = .ok pattern.source := by
  rw [compile] at hcompile
  cases hrun : shelf.compileSource template with
  | error e =>
      rw [hrun] at hcompile
      cases hcompile
  | ok text =>
      rw [hrun] at hcompile
      cases hcompile
      rfl

namespace Template

/-- Two templates with the same nodes, which differ only in slots where one nests a template and the
other holds the text of it. -/
structure Alike (shelf : Shelf) (template other : Template) : Prop where
  sound : Sound template
  sound' : Sound other
  nodeCount_eq : template.nodeCount = other.nodeCount
  slots : ∀ p, List.Forall₂ (Slot.Alike shelf) (template.node p).content.toList
    (other.node p).content.toList

variable {template other : Template} {fragment fragment' : Fragment}

theorem alike_iff_matched : Alike shelf template other ↔ Matched (Slot.Alike shelf) template other :=
  ⟨fun h => ⟨h.sound, h.sound', h.nodeCount_eq, h.slots⟩,
    fun h => ⟨h.sound, h.sound', h.nodeCount_eq, h.slots⟩⟩

/-- Interchanged fragments match: the text of a template becomes the only slot of its pattern. -/
theorem matched_of_interchanged (hshelf : shelf.Ordered)
    (hfragment : fragment.Interchanged shelf fragment') :
    fragment.Matched (Slot.Alike shelf) fragment' := by
  cases hfragment with
  | same hplace =>
      cases fragment with
      | literal raw => exact .same (by simp)
      | pattern pattern => exact .same (by simp)
      | template place =>
          refine .slots (fun _ => rfl) (fun _ => rfl) (.same fun nested hnested => hplace nested ?_)
          cases hnested
          rfl
  | @compiled place nested pattern htemplate hcompile hunmarked =>
      refine .slots (fun _ => rfl) (fun template => place_of_unmarked template hunmarked) ?_
      refine .text (Array.getElem?_eq_some_iff.1 htemplate).1 ?_
      rw [Shelf.renderAt_afresh hshelf htemplate, ← Shelf.compileSource_eq_plain hshelf]
      exact Shelf.compileSource_of_compile hcompile

/-- Templates that are alike have the same open names. -/
theorem Alike.unassigned_eq (h : Alike shelf template other) :
    template.unassigned = other.unassigned :=
  (alike_iff_matched.1 h).unassigned_eq (Slot.respectful_alike shelf)

theorem alike_build (hshelf : shelf.Ordered) {values values' : List Fragment}
    (hvalues : List.Forall₂ (Fragment.Interchanged shelf) values values') :
    Alike shelf (build values) (build values') :=
  alike_iff_matched.2 (matched_build (Slot.respectful_alike shelf)
    (hvalues.imp fun _ _ hvalue => matched_of_interchanged hshelf hvalue))

/-- Two values for the same name.  They have converted to interchanged fragments, or have failed to
convert alike. -/
inductive BindingInterchanged (shelf : Shelf) :
    String × Except TemplateError Fragment → String × Except TemplateError Fragment → Prop
  | ok (name : String) {value value' : Fragment} (hvalue : value.Interchanged shelf value') :
      BindingInterchanged shelf (name, .ok value) (name, .ok value')
  | error (name : String) (e : TemplateError) :
      BindingInterchanged shelf (name, .error e) (name, .error e)

/-- Two calls of the same kind, whose values are interchanged. -/
inductive Call.Interchanged (shelf : Shelf) : Call → Call → Prop
  | bind {name : String} {value value' : Except TemplateError Fragment}
      (hvalue : BindingInterchanged shelf (name, value) (name, value')) :
      Interchanged shelf (.bind name value) (.bind name value')
  | bindAll {bindings bindings' : List (String × Except TemplateError Fragment)}
      (hbindings : List.Forall₂ (BindingInterchanged shelf) bindings bindings') :
      Interchanged shelf (.bindAll bindings) (.bindAll bindings')
  | withBindings {bindings bindings' : List (String × Except TemplateError Fragment)}
      (hbindings : List.Forall₂ (BindingInterchanged shelf) bindings bindings') :
      Interchanged shelf (.withBindings bindings) (.withBindings bindings')

/-- A call in which only templates on the shelf are given is interchanged with itself. -/
theorem Call.Interchanged.refl {call : Call} (h : ∀ binding ∈ call.bindings, ∀ place,
    binding.2 = .ok (.template place) → place < shelf.templates.size) :
    call.Interchanged shelf call := by
  have hbinding : ∀ binding ∈ call.bindings, BindingInterchanged shelf binding binding := by
    intro binding hmem
    obtain ⟨name, value⟩ := binding
    cases value with
    | ok value => exact .ok name (.same fun place hplace => h _ hmem place (congrArg _ hplace))
    | error e => exact .error name e
  cases call with
  | bind name value => exact .bind (hbinding _ (List.mem_singleton_self _))
  | bindAll bindings => exact .bindAll (List.forall₂_same.2 hbinding)
  | withBindings bindings => exact .withBindings (List.forall₂_same.2 hbinding)

/-- What takes effect of a row of values is interchanged, and both rows fail alike. -/
theorem converted_interchanged {bindings bindings' : List (String × Except TemplateError Fragment)}
    (h : List.Forall₂ (BindingInterchanged shelf) bindings bindings') :
    List.Forall₂ (fun binding binding' => binding.1 = binding'.1 ∧
        Fragment.Interchanged shelf binding.2 binding'.2) (converted bindings) (converted bindings') ∧
      firstFailure bindings = firstFailure bindings' := by
  induction h with
  | nil => exact ⟨.nil, rfl⟩
  | cons hbinding _ ih =>
      cases hbinding with
      | ok name hvalue => exact ⟨.cons ⟨rfl, hvalue⟩ ih.1, ih.2⟩
      | error name e => exact ⟨.nil, rfl⟩

theorem Call.Interchanged.effective {call call' : Call} (h : call.Interchanged shelf call') :
    List.Forall₂ (fun binding binding' => binding.1 = binding'.1 ∧
      Fragment.Interchanged shelf binding.2 binding'.2) call.effective call'.effective := by
  cases h with
  | bind hvalue => exact (converted_interchanged (.cons hvalue .nil)).1
  | bindAll hbindings => exact (converted_interchanged hbindings).1
  | withBindings hbindings =>
      obtain ⟨hconverted, hfailure⟩ := converted_interchanged hbindings
      rw [Call.effective, Call.effective, hfailure]
      split
      · exact hconverted
      · exact .nil

/-- Whole runs keep templates alike. -/
theorem Alike.performAll (h : Alike shelf template other) (hshelf : shelf.Ordered)
    {calls calls' : List Call} (hcalls : List.Forall₂ (Call.Interchanged shelf) calls calls') :
    Alike shelf (template.performAll calls) (other.performAll calls') := by
  rw [performAll_eq_bindEach, performAll_eq_bindEach]
  have hbindings := List.rel_flatMap hcalls fun _ _ hcall => hcall.effective
  exact alike_iff_matched.2 ((alike_iff_matched.1 h).bindEach (Slot.respectful_alike shelf)
    (hbindings.imp fun _ _ hbinding => ⟨hbinding.1, matched_of_interchanged hshelf hbinding.2⟩))

/-- Asking for a template on the shelf gives what rendering it afresh gives. -/
def AnswersAs (shelf : Shelf) (nested : Nat → Except TemplateError String) : Prop :=
  ∀ place < shelf.templates.size, nested place = shelf.renderAt Shelf.afresh place

variable {nested nested' : Nat → Except TemplateError String}

/-- Slots that are alike render alike, where nested templates have the texts that they have on the
shelf. -/
theorem renderSlot_alike (hnested : AnswersAs shelf nested) (hnested' : AnswersAs shelf nested')
    (child : Nat → String) {slot slot' : Slot} (h : slot.Alike shelf slot') :
    renderSlot nested child slot = renderSlot nested' child slot' := by
  cases h with
  | text hplace htext =>
      rw [renderSlot, renderSlot, hnested _ hplace, htext]
      rfl
  | same hplace =>
      cases slot with
      | template place =>
          have hlt := hplace place rfl
          rw [renderSlot, renderSlot, hnested place hlt, hnested' place hlt]
      | literal text => rfl
      | placeholder name => rfl
      | node child => rfl

/-- Templates that are alike render alike. -/
theorem Alike.render_eq (h : Alike shelf template other) (hnested : AnswersAs shelf nested)
    (hnested' : AnswersAs shelf nested') :
    template.render nested = other.render nested' := by
  refine (alike_iff_matched.1 h).render_eq (Slot.respectful_alike shelf) ?_
  exact fun _ _ _ _ hslots child => renderSlot_alike hnested hnested' child hslots

/-- Templates that are alike nest only templates on the shelf. -/
theorem Alike.places_lt (h : Alike shelf template other) {place : Nat}
    (hplace : place ∈ template.places ∨ place ∈ other.places) : place < shelf.templates.size := by
  have hslots : ∀ {slots slots' : List Slot}, List.Forall₂ (Slot.Alike shelf) slots slots' →
      .template place ∈ slots ∨ .template place ∈ slots' → place < shelf.templates.size := by
    intro slots slots' hslots
    induction hslots with
    | nil => simp
    | cons hslot _ ih =>
        intro hgiven
        rw [List.mem_cons, List.mem_cons] at hgiven
        rcases hgiven with (heq | hrest) | (heq | hrest)
        · exact hslot.place_lt (Or.inl heq.symm)
        · exact ih (Or.inl hrest)
        · exact hslot.place_lt (Or.inr heq.symm)
        · exact ih (Or.inr hrest)
  rw [mem_places, mem_places] at hplace
  rcases hplace with ⟨p, j, hj⟩ | ⟨p, j, hj⟩
  · exact hslots (h.slots p) (Or.inl (Array.mem_toList_iff.2 (Array.mem_of_getElem? hj)))
  · exact hslots (h.slots p) (Or.inr (Array.mem_toList_iff.2 (Array.mem_of_getElem? hj)))

end Template

namespace Shelf

variable {other : Shelf} {place : Nat}

/-- Two shelves that are filled by two runs which differ only in that some nested templates of the
first are replaced by the patterns that they compile to, where the texts of these hold no markers.  A
template of the runs is put on the shelf as it stands at some moment, whether others nest it or not. -/
inductive Interchanged : Shelf → Shelf → Prop
  | empty : Interchanged {} {}
  | put {shelf other : Shelf} {values values' : List Fragment}
      {calls calls' : List Template.Call} (hshelves : Interchanged shelf other)
      (hvalues : List.Forall₂ (Fragment.Interchanged shelf) values values')
      (hcalls : List.Forall₂ (Template.Call.Interchanged shelf) calls calls') :
      Interchanged (shelf.put ((Template.build values).performAll calls)).2
        (other.put ((Template.build values').performAll calls')).2

/-- Every run is interchanged with itself. -/
theorem Stocked.interchanged (h : shelf.Stocked) : shelf.Interchanged shelf := by
  induction h with
  | empty => exact .empty
  | @put shelf fragments start calls _ hstart hgiven ih =>
      obtain ⟨values, rfl, rfl⟩ := Template.ofFragments_eq_ok_iff.1 hstart
      refine .put ih (List.forall₂_same.2 fun value hvalue => .same fun place hplace => ?_)
        (List.forall₂_same.2 fun call hcall => .refl fun binding hbinding place hplace => ?_)
      · exact hgiven place (List.mem_append_left _ (hplace ▸ List.mem_map_of_mem hvalue))
      · refine hgiven place (List.mem_append_right _ (List.mem_map.2 ⟨binding, ?_, hplace⟩))
        exact List.mem_flatMap.2 ⟨call, hcall, hbinding⟩

theorem renderAt_of_size_le (hplace : shelf.templates.size ≤ place) :
    shelf.renderAt afresh place = .error (.unknownTemplate (toString place)) := by
  rw [renderAt, Array.getElem?_eq_none hplace]
  rfl

/-- A template is rendered as before when others have been put on the shelf. -/
theorem renderAt_put (template : Template) (hplace : place < shelf.templates.size) :
    (shelf.put template).2.renderAt afresh place = shelf.renderAt afresh place := by
  induction place using Nat.strongRecOn with
  | ind place ih =>
      have hsame : (shelf.put template).2.templates[place]? = shelf.templates[place]? := by
        rw [getElem?_put, if_neg (Nat.ne_of_lt hplace)]
      rw [renderAt, renderAt, hsame, Array.getElem?_eq_getElem hplace]
      refine Template.render_congr _ fun nested _ => ?_
      rw [afresh, afresh]
      split
      · next hlt => exact ih nested hlt (hlt.trans hplace)
      · rfl

/-- What two runs have in common that differ in this way. -/
structure Agrees (shelf other : Shelf) : Prop where
  ordered : shelf.Ordered
  ordered' : other.Ordered
  size_eq : shelf.templates.size = other.templates.size
  renderAt_eq : ∀ place, shelf.renderAt afresh place = other.renderAt afresh place
  shows : ∀ (place : Nat) template template', shelf.templates[place]? = some template →
    other.templates[place]? = some template' →
    template.unassigned = template'.unassigned ∧ template.nodeCount = template'.nodeCount

/-- Templates that are alike are put on shelves that agree. -/
theorem Agrees.put (h : shelf.Agrees other) {template template' : Template}
    (halike : template.Alike shelf template') :
    (shelf.put template).2.Agrees (other.put template').2 := by
  have hordered := h.ordered.put fun place hplace => halike.places_lt (Or.inl hplace)
  have hordered' := h.ordered'.put fun place hplace =>
    h.size_eq ▸ halike.places_lt (Or.inr hplace)
  -- both new templates nest only what was there, and this renders as before
  have hbefore : Template.AnswersAs shelf ((shelf.put template).2.renderAt afresh) :=
    fun place hplace => renderAt_put template hplace
  have hbefore' : Template.AnswersAs shelf ((other.put template').2.renderAt afresh) := by
    intro place hplace
    rw [renderAt_put template' (h.size_eq ▸ hplace), h.renderAt_eq]
  refine ⟨hordered, hordered', ?_, fun place => ?_, fun place found found' hfound hfound' => ?_⟩
  · rw [size_put, size_put, h.size_eq]
  · rcases Nat.lt_trichotomy place shelf.templates.size with hlt | rfl | hgt
    · rw [hbefore place hlt, hbefore' place hlt]
    · have hlast : (shelf.put template).2.templates[shelf.templates.size]? = some template := by
        rw [getElem?_put, if_pos rfl]
      have hlast' : (other.put template').2.templates[shelf.templates.size]? = some template' := by
        rw [getElem?_put, if_pos h.size_eq]
      rw [renderAt_afresh hordered hlast, renderAt_afresh hordered' hlast', plain, plain]
      exact halike.render_eq hbefore hbefore'
    · rw [renderAt_of_size_le (by rwa [size_put]),
        renderAt_of_size_le (by rwa [size_put, ← h.size_eq])]
  · rw [getElem?_put] at hfound hfound'
    rw [← h.size_eq] at hfound'
    split at hfound
    · next hplace =>
        rw [if_pos hplace] at hfound'
        cases hfound
        cases hfound'
        exact ⟨halike.unassigned_eq, halike.nodeCount_eq⟩
    · next hplace =>
        rw [if_neg hplace] at hfound'
        exact h.shows place found found' hfound hfound'

theorem Interchanged.agrees (h : shelf.Interchanged other) : shelf.Agrees other := by
  induction h with
  | empty => exact ⟨Stocked.empty.ordered, Stocked.empty.ordered, rfl, fun _ => rfl, by simp⟩
  | put _ hvalues hcalls ih =>
      exact ih.put ((Template.alike_build ih.ordered hvalues).performAll ih.ordered hcalls)

/-- A pattern whose text holds a marker opens a name, and a nested template does not. -/
theorem unassigned_ne_of_marked {pattern : Pattern}
    (hmarked : 1 < (Marker.split pattern.source).length) (place : Nat) :
    (Template.build [.template place]).unassigned ≠ (Template.build [.pattern pattern]).unassigned := by
  have hopen : Marker.Part.placeholder ((Marker.split pattern.source)[1]) ∈
      Marker.parts (Marker.split pattern.source) := by
    refine List.mem_of_getElem? (i := 1) ?_
    rw [Marker.getElem?_parts, List.getElem?_eq_getElem hmarked]
    rfl
  have hname : (Marker.split pattern.source)[1] ∈
      (Template.build [.pattern pattern]).unassigned := by
    rw [(Template.sound_build _).mem_unassigned_iff, Template.expand_build]
    simp only [List.flatMap_singleton, Fragment.tokens, List.mem_map]
    exact ⟨_, hopen, rfl⟩
  intro heq
  rw [← heq, (Template.sound_build _).mem_unassigned_iff, Template.expand_build] at hname
  simp [Fragment.tokens] at hname

/-- **A nested template is its text, exactly if this text holds no marker.**

* Let the templates of a run be put on a shelf, and those of another run, which differs only in that
  some nested templates, at any of the places where they are given, are replaced by the patterns that
  they compile to, where the text of each of these is its only part.  Then each template of the one run
  agrees with that of the other in its open names, in whether it is complete, in the number of its
  nodes, and in its text or the cause why it has none.
* If the pattern that a template compiles to splits into more parts than one, then building from the
  template and building from the pattern leave different names open. -/
theorem interchangeable_exact :
    (∀ shelf other : Shelf, shelf.Interchanged other →
      shelf.templates.size = other.templates.size ∧
      ∀ (place : Nat) template template', shelf.templates[place]? = some template →
        other.templates[place]? = some template' →
        template.unassigned = template'.unassigned ∧
        template.isComplete = template'.isComplete ∧
        template.nodeCount = template'.nodeCount ∧
        shelf.compileSource template = other.compileSource template') ∧
    ∀ (shelf : Shelf) (place : Nat) template pattern, shelf.Stocked →
      shelf.templates[place]? = some template → shelf.compile template = .ok pattern →
      1 < (Marker.split pattern.source).length →
      (Template.build [.template place]).unassigned ≠
        (Template.build [.pattern pattern]).unassigned := by
  refine ⟨fun shelf other h => ?_, fun shelf place template pattern _ _ _ hmarked =>
    unassigned_ne_of_marked hmarked place⟩
  have hagrees := h.agrees
  refine ⟨hagrees.size_eq, fun place template template' htemplate htemplate' => ?_⟩
  obtain ⟨hnames, hcount⟩ := hagrees.shows place template template' htemplate htemplate'
  refine ⟨hnames, Template.isComplete_congr hnames, hcount, ?_⟩
  rw [compileSource_eq_plain hagrees.ordered, compileSource_eq_plain hagrees.ordered',
    ← renderAt_afresh hagrees.ordered htemplate, ← renderAt_afresh hagrees.ordered' htemplate']
  exact hagrees.renderAt_eq place

/-- A template whose text holds a marker, which lies across the border of two fragments. -/
def seam : Template := .build [.pattern ⟨"\\VA", ""⟩, .pattern ⟨"R\x7bx\x7d", ""⟩]

/-- A template without markers in its text and this one on a shelf. -/
def tray : Shelf := ((({} : Shelf).put digit).2.put seam).2

/-- A template that nests the first in two ways. -/
def doubled : Template :=
  (Template.build [.template 0, .pattern ⟨"-\\VAR\x7bn\x7d", ""⟩]).performAll
    [.bind "n" (.ok (.template 0))]

/-- The same template with the text of the first in one of these places. -/
def spelled : Template :=
  (Template.build [.pattern ⟨"\\d", ""⟩, .pattern ⟨"-\\VAR\x7bn\x7d", ""⟩]).performAll
    [.bind "n" (.ok (.template 0))]

/-- The first is its text, and the second is not. -/
theorem interchangeable_exact_tray :
    (tray.put doubled).2.Interchanged (tray.put spelled).2 ∧
      (tray.put doubled).2.compileSource doubled = (tray.put spelled).2.compileSource spelled ∧
      tray.Stocked ∧ tray.compile seam = .ok ⟨"\\VAR\x7bx\x7d", ""⟩ ∧
      (Template.build [.template 1]).unassigned ≠
        (Template.build [.pattern ⟨"\\VAR\x7bx\x7d", ""⟩]).unassigned := by
  have hstocked : tray.Stocked := (Stocked.empty.put_build _ (by simp)).put_build _ (by simp)
  have hdigit : tray.compile digit = .ok ⟨"\\d", ""⟩ := by cbv
  have hseam : tray.compile seam = .ok ⟨"\\VAR\x7bx\x7d", ""⟩ := by cbv
  have hrun : (tray.put doubled).2.Interchanged (tray.put spelled).2 := by
    refine .put hstocked.interchanged
      (.cons (.compiled (by rfl) hdigit (by cbv)) (.cons (.same (by simp)) .nil))
      (.cons (.refl fun binding hbinding place hplace => ?_) .nil)
    rw [List.mem_singleton.1 hbinding] at hplace
    cases hplace
    exact Nat.zero_lt_two
  obtain ⟨hruns, hmarked⟩ := interchangeable_exact
  obtain ⟨-, hagree⟩ := hruns _ _ hrun
  obtain ⟨-, -, -, htext⟩ := hagree 2 doubled spelled rfl rfl
  exact ⟨hrun, htext, hstocked, hseam, hmarked tray 1 seam _ hstocked rfl hseam (by cbv)⟩

end Shelf

end RegexTemplate
