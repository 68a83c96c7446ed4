import RegexTemplate.Proofs.Template.Filling

/-!
# Runs of calls

A template comes from fragments and from calls that fill in names.  Each value of a call may have
failed to convert, and then the call stops there; the names before it stay filled in, unless the call
works on a copy.  Whatever the calls are, the result is that of filling in single names one after the
other (`performAll_eq_bindEach`), so that whatever building gives and filling in one name keeps holds
of every reachable template (`Reachable.induction`).
-/

namespace RegexTemplate.Template

/-- A call that fills in names.  The values may have failed to convert. -/
inductive Call where
  /-- Fills in one name. -/
  | bind (name : String) (value : Except TemplateError Fragment)
  /-- Fills in names one after the other, until a value has failed to convert. -/
  | bindAll (bindings : List (String × Except TemplateError Fragment))
  /-- Does so on a copy, which takes the place of the template if every value converts. -/
  | withBindings (bindings : List (String × Except TemplateError Fragment))

namespace Call

/-- The names of a call with their values. -/
def bindings : Call → List (String × Except TemplateError Fragment)
  | .bind name value => [(name, value)]
  | .bindAll bindings => bindings
  | .withBindings bindings => bindings

/-- The template that a call leaves, and why it failed if it did. -/
def perform (template : Template) : Call → Template × Option TemplateError
  | .bind name (.ok value) => (template.bind name value, none)
  | .bind _ (.error e) => (template, some e)
  | .bindAll bindings => template.bindAll bindings
  | .withBindings bindings =>
    match template.withBindings bindings with
    | .ok bound => (bound, none)
    | .error e => (template, some e)

end Call

/-- The template that a row of calls leaves, whether they fail or not. -/
def performAll (template : Template) (calls : List Call) : Template :=
  calls.foldl (fun reached call => (call.perform reached).1) template

/-- The fragments that a template is built from and the values of the calls that follow. -/
def given (fragments : List (Except TemplateError Fragment)) (calls : List Call) :
    List (Except TemplateError Fragment) :=
  fragments ++ (calls.flatMap Call.bindings).map Prod.snd

/-- The templates that are built from fragments and filled in by calls. -/
inductive Reachable : Template → Prop
  | built {fragments : List (Except TemplateError Fragment)} {template : Template}
      (hbuilt : ofFragments fragments = .ok template) : Reachable template
  | called {template : Template} (htemplate : Reachable template) (call : Call) :
      Reachable (call.perform template).1

/-- The bindings in front of the first value that has failed to convert. -/
def converted : List (String × Except TemplateError Fragment) → List (String × Fragment)
  | [] => []
  | (name, .ok value) :: rest => (name, value) :: converted rest
  | (_, .error _) :: _ => []

/-- Why the first value that has failed to convert did so. -/
def firstFailure : List (String × Except TemplateError Fragment) → Option TemplateError
  | [] => none
  | (_, .ok _) :: rest => firstFailure rest
  | (_, .error e) :: _ => some e

/-- The bindings of a call that take effect. -/
def Call.effective : Call → List (String × Fragment)
  | .bind name value => converted [(name, value)]
  | .bindAll bindings => converted bindings
  | .withBindings bindings => if firstFailure bindings = none then converted bindings else []

/-- Filling in names until a value has failed fills in those in front of it. -/
theorem bindAll_eq (template : Template)
    (bindings : List (String × Except TemplateError Fragment)) :
    template.bindAll bindings =
      (template.bindEach (converted bindings), firstFailure bindings) := by
  fun_induction converted bindings generalizing template with
  | case1 => rfl
  | case2 name value rest ih =>
      rw [bindAll, ih]
      rfl
  | case3 => rfl

/-- Values that have converted are all filled in, and the call succeeds. -/
theorem bindAll_map_ok (template : Template) (bindings : List (String × Fragment)) :
    template.bindAll (bindings.map fun binding => (binding.1, .ok binding.2)) =
      (template.bindEach bindings, none) := by
  induction bindings generalizing template with
  | nil => rfl
  | cons binding bindings ih => exact ih (template.bind binding.1 binding.2)

theorem withBindings_map_ok (template : Template) (bindings : List (String × Fragment)) :
    template.withBindings (bindings.map fun binding => (binding.1, .ok binding.2)) =
      .ok (template.bindEach bindings) := by
  rw [withBindings, bindAll_map_ok]

/-- A call fills in the names that take effect, one after the other, and fails as the first value that
has failed to convert. -/
theorem perform_eq (template : Template) (call : Call) :
    call.perform template = (template.bindEach call.effective, firstFailure call.bindings) := by
  cases call with
  | bind name value => cases value <;> rfl
  | bindAll bindings => exact bindAll_eq template bindings
  | withBindings bindings =>
      rw [Call.perform, withBindings, bindAll_eq, Call.effective, Call.bindings]
      cases firstFailure bindings <;> simp [bindEach]

/-- So does every row of calls. -/
theorem performAll_eq_bindEach (template : Template) (calls : List Call) :
    template.performAll calls = template.bindEach (calls.flatMap Call.effective) := by
  induction calls generalizing template with
  | nil => rfl
  | cons call calls ih =>
      have hrest := ih (call.perform template).1
      rw [perform_eq] at hrest
      rw [performAll, List.foldl_cons, ← performAll, perform_eq, hrest, List.flatMap_cons, bindEach,
        bindEach, bindEach, List.foldl_append]

/-- If no value has failed to convert, all bindings take effect. -/
theorem bindings_eq_of_succeeds {call : Call} (hcall : firstFailure call.bindings = none) :
    call.bindings = call.effective.map fun binding => (binding.1, .ok binding.2) := by
  have hconverted : ∀ bindings, firstFailure bindings = none →
      bindings = (converted bindings).map fun binding => (binding.1, .ok binding.2) := by
    intro bindings hbindings
    fun_induction converted bindings with
    | case1 => rfl
    | case2 name value rest ih => rw [List.map_cons, ← ih hbindings]
    | case3 name e rest => cases hbindings
  cases call with
  | bind name value => exact hconverted _ hcall
  | bindAll bindings => exact hconverted _ hcall
  | withBindings bindings =>
      have hnone : firstFailure bindings = none := hcall
      rw [Call.effective, if_pos hnone]
      exact hconverted _ hnone

/-- No value has failed to convert if each of them has converted. -/
theorem firstFailure_eq_none {bindings : List (String × Except TemplateError Fragment)}
    (hbindings : ∀ binding ∈ bindings, ∃ value, binding.2 = .ok value) :
    firstFailure bindings = none := by
  fun_induction firstFailure bindings with
  | case1 => rfl
  | case2 name value rest ih =>
      exact ih fun binding hmem => hbindings binding (List.mem_cons_of_mem _ hmem)
  | case3 name e rest =>
      obtain ⟨value, heq⟩ := hbindings _ List.mem_cons_self
      cases heq

/-- The bindings of calls whose values have all converted take effect as they are. -/
theorem effective_of_bindings {calls : List Call} {bindings : List (String × Fragment)}
    (hcalls : calls.flatMap Call.bindings =
      bindings.map fun binding => (binding.1, .ok binding.2)) :
    calls.flatMap Call.effective = bindings := by
  have hall : calls.flatMap Call.bindings =
      (calls.flatMap Call.effective).map fun binding => (binding.1, .ok binding.2) := by
    rw [List.map_flatMap]
    refine List.flatMap_congr fun call hcall => bindings_eq_of_succeeds (firstFailure_eq_none ?_)
    intro binding hbinding
    have hmem := List.mem_flatMap.2 ⟨call, hcall, hbinding⟩
    rw [hcalls, List.mem_map] at hmem
    obtain ⟨given, -, rfl⟩ := hmem
    exact ⟨given.2, rfl⟩
  rw [hcalls] at hall
  refine (List.map_injective_iff.2 ?_ hall).symm
  intro binding other heq
  rw [Prod.mk.injEq, Except.ok.injEq] at heq
  exact Prod.ext heq.1 heq.2

theorem mem_of_mem_effective {call : Call} {binding : String × Fragment}
    (h : binding ∈ call.effective) : (binding.1, .ok binding.2) ∈ call.bindings := by
  have hconverted : ∀ bindings, binding ∈ converted bindings →
      (binding.1, .ok binding.2) ∈ bindings := by
    intro bindings hbinding
    fun_induction converted bindings with
    | case1 => cases hbinding
    | case2 name value rest ih =>
        rcases List.mem_cons.1 hbinding with rfl | hrest
        · exact List.mem_cons_self
        · exact List.mem_cons_of_mem _ (ih hrest)
    | case3 => cases hbinding
  cases call with
  | bind name value => exact hconverted _ h
  | bindAll bindings => exact hconverted _ h
  | withBindings bindings =>
      rw [Call.effective] at h
      split at h
      · exact hconverted _ h
      · cases h

/-- A row of values converts if and only if each of them has converted. -/
theorem mapM_id_eq_ok_iff {fragments : List (Except TemplateError Fragment)}
    {values : List Fragment} : fragments.mapM id = .ok values ↔ fragments = values.map .ok := by
  induction fragments generalizing values with
  | nil => cases values <;> simp [pure, Except.pure]
  | cons fragment fragments ih =>
      rw [List.mapM_cons]
      cases fragment with
      | error e => cases values <;> simp [Bind.bind, Except.bind]
      | ok value =>
          cases hrest : fragments.mapM id with
          | error e =>
              have hnone : ∀ values : List Fragment, fragments ≠ values.map .ok :=
                fun values heq => by simp [ih.2 heq] at hrest
              cases values <;> simp [Bind.bind, Except.bind, hnone]
          | ok rest =>
              have hsome : ∀ values : List Fragment, fragments = values.map .ok ↔ rest = values :=
                fun values => by rw [← ih, hrest, Except.ok.injEq]
              cases values <;> simp [Bind.bind, Except.bind, pure, Except.pure, hsome]

/-- A template that was built comes from fragments all of which have converted. -/
theorem ofFragments_eq_ok_iff {fragments : List (Except TemplateError Fragment)}
    {template : Template} :
    ofFragments fragments = .ok template ↔
      ∃ values : List Fragment, fragments = values.map .ok ∧ template = build values := by
  rw [ofFragments]
  cases hvalues : fragments.mapM id with
  | error e =>
      refine ⟨fun h => by simp [Bind.bind, Except.bind] at h, ?_⟩
      intro hgiven
      obtain ⟨values, heq, -⟩ := hgiven
      rw [mapM_id_eq_ok_iff.2 heq] at hvalues
      cases hvalues
  | ok values =>
      have hfragments := mapM_id_eq_ok_iff.1 hvalues
      constructor
      · intro h
        simp only [Bind.bind, Except.bind, pure, Except.pure, Except.ok.injEq] at h
        exact ⟨values, hfragments, h.symm⟩
      · intro hgiven
        obtain ⟨others, heq, rfl⟩ := hgiven
        rw [mapM_id_eq_ok_iff.2 heq, Except.ok.injEq] at hvalues
        rw [hvalues]
        rfl

theorem reachable_build (fragments : List Fragment) : Reachable (build fragments) :=
  .built (ofFragments_eq_ok_iff.2 ⟨fragments, rfl, rfl⟩)

theorem Reachable.performAll {template : Template} (h : Reachable template) (calls : List Call) :
    Reachable (template.performAll calls) := by
  induction calls generalizing template with
  | nil => exact h
  | cons call calls ih => exact ih (h.called call)

/-- What holds of every template that is built, and is kept when one name is filled in, holds of every
reachable template. -/
theorem Reachable.induction {motive : Template → Prop}
    (hbuild : ∀ fragments, motive (build fragments))
    (hbind : ∀ template name value, motive template → motive (template.bind name value))
    {template : Template} (h : Reachable template) : motive template := by
  have heach : ∀ (bindings : List (String × Fragment)) {template}, motive template →
      motive (template.bindEach bindings) := by
    intro bindings
    induction bindings with
    | nil => exact id
    | cons binding bindings ih =>
        exact fun {template} htemplate => ih (hbind template binding.1 binding.2 htemplate)
  induction h with
  | built hbuilt =>
      obtain ⟨values, -, rfl⟩ := ofFragments_eq_ok_iff.1 hbuilt
      exact hbuild values
  | @called template _ call ih =>
      rw [perform_eq]
      exact heach call.effective ih

theorem Sound.bindEach {template : Template} (hsound : Sound template)
    (bindings : List (String × Fragment)) : Sound (template.bindEach bindings) := by
  induction bindings generalizing template with
  | nil => exact hsound
  | cons binding bindings ih => exact ih (hsound.bind binding.1 binding.2)

theorem Reachable.sound {template : Template} (h : Reachable template) : Sound template :=
  h.induction sound_build fun _ name value hsound => hsound.bind name value

/-- What holds of the empty template, and is kept when a given fragment is added and when a name is
filled in with a given value, holds of the template that a run leaves. -/
theorem performAll_induction {fragments : List (Except TemplateError Fragment)} {start : Template}
    {calls : List Call} {motive : Template → Prop} (hstart : ofFragments fragments = .ok start)
    (hempty : motive empty)
    (happend : ∀ {template fragment}, .ok fragment ∈ given fragments calls → Sound template →
      motive template → motive (template.append fragment))
    (hbind : ∀ {template value} name, .ok value ∈ given fragments calls → Sound template →
      motive template → motive (template.bind name value)) :
    motive (start.performAll calls) := by
  obtain ⟨values, rfl, rfl⟩ := ofFragments_eq_ok_iff.1 hstart
  rw [performAll_eq_bindEach]
  let held : Template → Prop := fun template => motive template ∧ Sound template
  have hbuilt : held (build values) := by
    refine List.foldlRecOn (motive := held) values append ⟨hempty, sound_empty⟩ ?_
    intro template h value hvalue
    have hgiven : .ok value ∈ given (values.map .ok) calls :=
      List.mem_append_left _ (List.mem_map_of_mem hvalue)
    exact ⟨happend hgiven h.2 h.1, h.2.append value⟩
  have hfilled : held ((build values).bindEach (calls.flatMap Call.effective)) := by
    refine List.foldlRecOn (motive := held) _ _ hbuilt ?_
    intro template h binding hbinding
    obtain ⟨call, hcall, hbinding⟩ := List.mem_flatMap.1 hbinding
    have hgiven : .ok binding.2 ∈ given (values.map .ok) calls :=
      List.mem_append_right _ (List.mem_map.2
        ⟨_, List.mem_flatMap.2 ⟨call, hcall, mem_of_mem_effective hbinding⟩, rfl⟩)
    exact ⟨hbind binding.1 hgiven h.2 h.1, h.2.bind binding.1 binding.2⟩
  exact hfilled.1

end RegexTemplate.Template
