import RegexTemplate.Proofs.Template.Runs

/-!
# Where a call that fills in names stops

A call works on its template in place and stops at the first value that does not convert.  In place, a
name is filled in step by step (`Filling.fill`): the value is converted, the name is looked up, the value
gets a slot and perhaps a new node, the places of the name are overwritten one after the other, and the
new node is linked to each of them before its own names are passed on.  Nothing fails once something has
been changed, so that a step which fails leaves the template as it found it (`Filling.perform_fill`), and a
call that stops leaves what the bindings in front of that value have made of it
(`bindAll_eq_some_iff`).  Over a whole row of bindings, filling in place and filling in one template after
the other come to the same (`Filling.perform_fillAll`).

Main statement: `bindAll_exact`.
-/

namespace RegexTemplate.Template

variable {template bound : Template} {name : String} {e : TemplateError}
  {bindings xs ys : List (String × Except TemplateError Fragment)}

/-- A step that works on a template in place.  When it fails, what has been done to the template
remains. -/
abbrev Filling := ExceptT TemplateError (StateM Template)

namespace Filling

/-- The result of a step, and the template that it leaves. -/
def perform {α : Type} (step : Filling α) (template : Template) :
    Except TemplateError α × Template :=
  step.run.run template

/-- Links a new node to the places that have been overwritten, one node after the other. -/
def attachAll (child : Nat) (sites : List (Nat × List Nat)) : Filling Unit :=
  forM sites fun (parent, positions) => modify (·.attach child parent positions)

/-- Fills in a name that is open. -/
def fillOpen (name : String) (fragment : Fragment) : Filling Unit := do
  let slot ← modifyGet (·.place fragment)
  let sites ← modifyGet fun template => (template.replace name slot).swap
  match slot.child? with
  | some child => do
    attachAll child sites
    modify (·.propagate child)
  | none => return ()

/-- Fills in a name.  The value is converted first, whether or not the name is open. -/
def fill (name : String) (value : Except TemplateError Fragment) : Filling Unit := do
  let fragment ← liftExcept value
  if ((← get).node root).placeholders.contains name then fillOpen name fragment

/-- Fills in names one after the other. -/
def fillAll (bindings : List (String × Except TemplateError Fragment)) : Filling Unit :=
  forM bindings fun (name, value) => fill name value

/-- A step that fails ends what is done, and what has been done before remains. -/
theorem perform_bind {α β : Type} (step : Filling α) (next : α → Filling β) (template : Template) :
    (step >>= next).perform template =
      match step.perform template with
      | (.ok a, left) => (next a).perform left
      | (.error e, left) => (.error e, left) := by
  unfold perform
  rw [ExceptT.run_bind, StateT.run_bind]
  cases step.run.run template with
  | mk result left => cases result <;> rfl

theorem perform_modify (change : Template → Template) (template : Template) :
    (modify change : Filling Unit).perform template = (.ok (), change template) := rfl

theorem perform_attachAll (child : Nat) (sites : List (Nat × List Nat)) (template : Template) :
    (attachAll child sites).perform template =
      (.ok (), sites.foldl (fun attached (parent, positions) =>
        attached.attach child parent positions) template) := by
  unfold attachAll
  induction sites generalizing template with
  | nil => rfl
  | cons site sites ih =>
      rw [List.forM_cons, perform_bind, perform_modify, List.foldl_cons]
      exact ih _

theorem perform_modifyGet_bind {α β : Type} (change : Template → α × Template)
    (next : α → Filling β) (template : Template) :
    ((modifyGet change : Filling α) >>= next).perform template =
      (next (change template).1).perform (change template).2 := rfl

theorem perform_fillOpen (fragment : Fragment)
    (hopen : (template.node root).placeholders.contains name) :
    (fillOpen name fragment).perform template = (.ok (), template.bind name fragment) := by
  rw [fillOpen, perform_modifyGet_bind, perform_modifyGet_bind, Template.bind, if_pos hopen]
  dsimp only [Prod.fst_swap, Prod.snd_swap]
  cases (template.place fragment).1.child? with
  | none => rfl
  | some child =>
      dsimp only
      rw [perform_bind, perform_attachAll]
      exact perform_modify _ _

/-- A name is filled in completely if its value converts, and else the template stays as it is. -/
theorem perform_fill (name : String) (value : Except TemplateError Fragment) (template : Template) :
    (fill name value).perform template =
      match value with
      | .ok fragment => (.ok (), template.bind name fragment)
      | .error e => (.error e, template) := by
  cases value with
  | error e => rfl
  | ok fragment =>
      have hstart : (fill name (.ok fragment)).perform template =
          (if (template.node root).placeholders.contains name then fillOpen name fragment
            else pure ()).perform template := rfl
      rw [hstart]
      split
      · next hopen => exact perform_fillOpen fragment hopen
      · next hclosed =>
          dsimp only
          rw [bind_of_not_mem fragment hclosed]
          rfl

/-- Filling in names in place does what filling them in one after the other does, and stops where
that does. -/
theorem perform_fillAll (bindings : List (String × Except TemplateError Fragment))
    (template : Template) :
    (fillAll bindings).perform template =
      ((template.bindAll bindings).2.elim (.ok ()) .error, (template.bindAll bindings).1) := by
  unfold fillAll
  fun_induction bindAll template bindings with
  | case1 template => rfl
  | case2 template name value rest ih =>
      rw [List.forM_cons, perform_bind, perform_fill]
      exact ih
  | case3 template name e rest =>
      rw [List.forM_cons, perform_bind, perform_fill]
      rfl

end Filling

/-- Bindings whose values have all converted. -/
def allConverted (values : List (String × Fragment)) :
    List (String × Except TemplateError Fragment) :=
  values.map fun binding => (binding.1, .ok binding.2)

theorem bindAll_append (template : Template)
    (xs ys : List (String × Except TemplateError Fragment)) :
    template.bindAll (xs ++ ys) =
      match template.bindAll xs with
      | (bound, none) => bound.bindAll ys
      | (bound, some e) => (bound, some e) := by
  fun_induction bindAll template xs with
  | case1 template => rfl
  | case2 template name value rest ih => exact ih
  | case3 template name e rest => rfl

/-- Bindings have all converted, or there is a first one that has not. -/
theorem eq_allConverted_or_exists_error
    (bindings : List (String × Except TemplateError Fragment)) :
    (∃ values, bindings = allConverted values) ∨
      ∃ before name e after, bindings = allConverted before ++ (name, .error e) :: after := by
  induction bindings with
  | nil => exact Or.inl ⟨[], rfl⟩
  | cons binding bindings ih =>
      obtain ⟨name, value⟩ := binding
      cases value with
      | error e => exact Or.inr ⟨[], name, e, bindings, rfl⟩
      | ok value =>
          rcases ih with ⟨values, rfl⟩ | ⟨before, other, e, after, rfl⟩
          · exact Or.inl ⟨(name, value) :: values, rfl⟩
          · exact Or.inr ⟨(name, value) :: before, other, e, after, rfl⟩

theorem bindAll_allConverted (template : Template) (values : List (String × Fragment)) :
    template.bindAll (allConverted values) = (template.bindEach values, none) :=
  bindAll_map_ok template values

/-- At a value that has not converted, the call stops. -/
theorem bindAll_allConverted_append_error (template : Template)
    (before : List (String × Fragment)) (name : String) (e : TemplateError)
    (after : List (String × Except TemplateError Fragment)) :
    template.bindAll (allConverted before ++ (name, .error e) :: after) =
      (template.bindEach before, some e) := by
  rw [bindAll_append, bindAll_allConverted]
  rfl

theorem bindAll_eq_none_iff : template.bindAll bindings = (bound, none) ↔
    ∃ values, bindings = allConverted values ∧ bound = template.bindEach values := by
  constructor
  · intro h
    rcases eq_allConverted_or_exists_error bindings with ⟨values, rfl⟩ | ⟨before, name, e, after, rfl⟩
    · rw [bindAll_allConverted, Prod.mk.injEq] at h
      exact ⟨values, rfl, h.1.symm⟩
    · rw [bindAll_allConverted_append_error, Prod.mk.injEq] at h
      cases h.2
  · intro hgiven
    obtain ⟨values, rfl, rfl⟩ := hgiven
    exact bindAll_allConverted template values

theorem bindAll_eq_some_iff : template.bindAll bindings = (bound, some e) ↔
    ∃ before name after, bindings = allConverted before ++ (name, .error e) :: after ∧
      bound = template.bindEach before := by
  constructor
  · intro h
    rcases eq_allConverted_or_exists_error bindings with
      ⟨values, rfl⟩ | ⟨before, name, e', after, rfl⟩
    · rw [bindAll_allConverted, Prod.mk.injEq] at h
      cases h.2
    · rw [bindAll_allConverted_append_error, Prod.mk.injEq, Option.some.injEq] at h
      obtain ⟨rfl, rfl⟩ := h
      exact ⟨before, name, after, rfl, rfl⟩
  · intro hgiven
    obtain ⟨before, name, after, rfl, rfl⟩ := hgiven
    exact bindAll_allConverted_append_error template before name e after

/-- A call succeeds if and only if every value has converted. -/
theorem snd_bindAll_eq_none_iff : (template.bindAll bindings).2 = none ↔
    ∀ binding ∈ bindings, ∃ value, binding.2 = .ok value := by
  constructor
  · intro h
    obtain ⟨values, rfl, -⟩ := bindAll_eq_none_iff.1 (Prod.ext rfl h)
    rw [allConverted, List.forall_mem_map]
    exact fun binding _ => ⟨binding.2, rfl⟩
  · intro hall
    rw [bindAll_eq]
    exact firstFailure_eq_none hall

theorem withBindings_eq_ok_iff : template.withBindings bindings = .ok bound ↔
    template.bindAll bindings = (bound, none) := by
  unfold withBindings
  cases template.bindAll bindings with
  | mk left failure => cases failure <;> simp

theorem withBindings_eq_error_iff : template.withBindings bindings = .error e ↔
    ∃ bound, template.bindAll bindings = (bound, some e) := by
  unfold withBindings
  cases template.bindAll bindings with
  | mk left failure => cases failure <;> simp

theorem perform_fill_of_not_mem_unassigned (value : Fragment) (hname : name ∉ template.unassigned) :
    (Filling.fill name (.ok value)).perform template = (.ok (), template) := by
  rw [unassigned, Node.mem_names] at hname
  rw [Filling.perform_fill]
  dsimp only
  rw [bind_of_not_mem value hname]

/-- **Filling in names is a fold that stops at the first value which does not convert.**

* It succeeds with what the bindings make of the template one after the other if and only if all values
  convert, whether or not their names are open.
* Otherwise it fails as the first value does that does not convert, with what the bindings in front of it
  have made of the template.
* A longer row of bindings is filled in by filling in its two parts, the second if the first succeeds.
* A copy is filled in with the same result, and is there only after a success.
* Filling in place, step by step, gives the same result and leaves the same template; a step whose value
  does not convert changes nothing, and neither does one whose name is not open. -/
theorem bindAll_exact (template : Template) :
    (∀ bindings, (template.bindAll bindings).2 = none ↔
      ∀ binding ∈ bindings, ∃ value, binding.2 = .ok value) ∧
    (∀ bindings bound, template.bindAll bindings = (bound, none) ↔
      ∃ values, bindings = allConverted values ∧ bound = template.bindEach values) ∧
    (∀ bindings bound e, template.bindAll bindings = (bound, some e) ↔
      ∃ before name after, bindings = allConverted before ++ (name, .error e) :: after ∧
        bound = template.bindEach before) ∧
    (∀ xs ys, template.bindAll (xs ++ ys) =
      match template.bindAll xs with
      | (bound, none) => bound.bindAll ys
      | (bound, some e) => (bound, some e)) ∧
    (∀ bindings bound, template.withBindings bindings = .ok bound ↔
      template.bindAll bindings = (bound, none)) ∧
    (∀ bindings e, template.withBindings bindings = .error e ↔
      ∃ bound, template.bindAll bindings = (bound, some e)) ∧
    (∀ bindings, (Filling.fillAll bindings).perform template =
      ((template.bindAll bindings).2.elim (.ok ()) .error, (template.bindAll bindings).1)) ∧
    (∀ name e, (Filling.fill name (.error e)).perform template = (.error e, template)) ∧
    ∀ name value, name ∉ template.unassigned →
      (Filling.fill name (.ok value)).perform template = (.ok (), template) := by
  refine ⟨fun _ => snd_bindAll_eq_none_iff, fun _ _ => bindAll_eq_none_iff,
    fun _ _ _ => bindAll_eq_some_iff, bindAll_append template, fun _ _ => withBindings_eq_ok_iff,
    fun _ _ => withBindings_eq_error_iff, fun bindings => Filling.perform_fillAll bindings template,
    fun name e => Filling.perform_fill name (.error e) template, ?_⟩
  intro name value hname
  exact perform_fill_of_not_mem_unassigned value hname

/-- A template with two open names. -/
def paired : Template := build [.pattern ⟨"\\VAR\x7ba\x7d\\VAR\x7bb\x7d", ""⟩]

/-- Bindings for a name that is open, one that is not, one whose value does not convert, and one more. -/
def broken : List (String × Except TemplateError Fragment) :=
  [("a", .ok (.literal "+")), ("z", .ok (.literal "-")), ("b", .error (.unknownTemplate "t")),
    ("b", .ok (.literal "*"))]

theorem unassigned_paired : paired.unassigned = ["a", "b"] := by decide +kernel

/-- The first two are filled in, although the second is not open, and the last one is not. -/
theorem bindAll_exact_broken :
    "z" ∉ paired.unassigned ∧
      paired.bindAll broken =
        (paired.bindEach [("a", .literal "+"), ("z", .literal "-")], some (.unknownTemplate "t")) ∧
      (paired.bindEach [("a", .literal "+"), ("z", .literal "-")]).unassigned = ["b"] ∧
      paired.withBindings broken = .error (.unknownTemplate "t") ∧
      (Filling.fillAll broken).perform paired = (.error (.unknownTemplate "t"),
        paired.bindEach [("a", .literal "+"), ("z", .literal "-")]) ∧
      (Filling.fill "z" (.ok (.literal "-"))).perform paired = (.ok (), paired) := by
  have hclosed : "z" ∉ paired.unassigned := by
    rw [unassigned_paired]
    decide
  obtain ⟨-, -, hstops, -, -, hcopy, hplace, -, hpassed⟩ := bindAll_exact paired
  have hstopped : paired.bindAll broken =
      (paired.bindEach [("a", .literal "+"), ("z", .literal "-")], some (.unknownTemplate "t")) :=
    (hstops _ _ _).2 ⟨[("a", .literal "+"), ("z", .literal "-")], "b", [("b", .ok (.literal "*"))],
      rfl, rfl⟩
  have hperformed := hplace broken
  rw [hstopped] at hperformed
  exact ⟨hclosed, hstopped, by decide +kernel, (hcopy _ _).2 ⟨_, hstopped⟩, hperformed, hpassed _ _ hclosed⟩

end RegexTemplate.Template
