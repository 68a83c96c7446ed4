import RegexTemplate.Proofs.Definition.Collecting
import RegexTemplate.Proofs.Definition.Referring
import RegexTemplate.Proofs.Rendering.Failing

/-!
# Accepted documents

A document is accepted if every recipe has a new name and values that can all be converted, if there
is a recipe at all, and if a declared entry is one of the names (`ofDocument_eq_ok_iff`).  The
templates are then built in order, each from the fragments that its values convert to where the names
before it are known (`Built`).  What holds of the templates of an accepted document follows by
induction over the recipes: they have the names of the recipes, no name twice, so each is found by its
name (`get?_eq_some_iff`), and they stand on a shelf that is filled in order (`Built.stocked`).
-/

namespace RegexTemplate.Definition

/-- A value converts to a fragment, where the names of the templates built before are given. -/
def Converts (known : List String) (value : Spanned Toml.Value) (fragment : Fragment) : Prop :=
  fragmentOfValue known value.value = .ok fragment

/-- A variable makes a binding of its name, if its value converts. -/
def Binds (known : List String) (var : String × Spanned Toml.Value) (binding : String × Fragment) :
    Prop :=
  var.1 = binding.1 ∧ Converts known var.2 binding.2

/-- The template of a recipe: its values are converted, the template is built from the fragments, and
the variables are filled in one after the other. -/
def Recipe.Yields (recipe : Recipe) (known : List String) (template : Template) : Prop :=
  ∃ fragments bindings, List.Forall₂ (Converts known) recipe.fragments fragments ∧
    List.Forall₂ (Binds known) recipe.vars bindings ∧
    template = (Template.build fragments).bindEach bindings

/-- The templates of a row of recipes each of which has a new name and can be built. -/
inductive Built : List Recipe → List (String × Template) → Prop
  | nil : Built [] []
  | snoc {recipes : List Recipe} {templates : List (String × Template)} {recipe : Recipe}
      {template : Template} (h : Built recipes templates)
      (hnew : recipe.name.value ∉ templates.map Prod.fst)
      (hyields : recipe.Yields (templates.map Prod.fst) template) :
      Built (recipes ++ [recipe]) (templates ++ [(recipe.name.value, template)])

variable {fileId : Nat} {known : List String} {recipe : Recipe} {template : Template}
  {recipes : List Recipe} {templates : List (String × Template)} {definition : Definition}
  {name target : String} {place nested : Nat}

theorem failures_eq_nil_iff {ε α : Type} {results : List (Except ε α)} :
    failures results = [] ↔ results = (successes results).map .ok := by
  induction results with
  | nil => simp [failures, successes]
  | cons result results ih =>
      unfold failures successes at ih ⊢
      cases result with
      | ok value => simpa [Except.toOption] using ih
      | error e =>
          constructor
          · simp
          · intro heq
            simp only [List.filterMap_cons, Except.toOption] at heq
            have hmem : Except.error e ∈ List.map Except.ok (List.filterMap Except.toOption results) :=
              heq ▸ List.mem_cons_self
            simp at hmem

theorem successes_map_ok {ε α : Type} (values : List α) :
    successes (values.map (Except.ok : α → Except ε α)) = values := by
  unfold successes
  rw [List.filterMap_map]
  exact List.filterMap_some

theorem convert_eq_ok_iff (fileId : Nat) {value : Spanned Toml.Value} {fragment : Fragment} :
    convert fileId known value = .ok fragment ↔ Converts known value fragment := by
  unfold convert Converts
  cases fragmentOfValue known value.value <;> simp [Except.mapError]

theorem convert_map_eq_ok_iff (fileId : Nat) {name : String} {value : Spanned Toml.Value}
    {binding : String × Fragment} :
    (convert fileId known value).map (name, ·) = .ok binding ↔ Binds known (name, value) binding := by
  unfold Binds
  rw [← convert_eq_ok_iff fileId]
  obtain ⟨name', fragment⟩ := binding
  cases convert fileId known value <;> simp [Except.map]

/-- Results are all there if and only if each of them is there. -/
theorem map_eq_map_ok_iff {ε α β : Type} {convert : α → Except ε β} {inputs : List α}
    {outputs : List β} :
    inputs.map convert = outputs.map .ok ↔
      List.Forall₂ (fun input output => convert input = .ok output) inputs outputs := by
  rw [← List.forall₂_eq_eq_eq, List.forall₂_map_left_iff, List.forall₂_map_right_iff]

/-- What stands in the second of two related rows is related to something in the first. -/
theorem exists_related {α β : Type} {R : α → β → Prop} {inputs : List α} {outputs : List β}
    (h : List.Forall₂ R inputs outputs) {output : β} (houtput : output ∈ outputs) :
    ∃ input ∈ inputs, R input output := by
  induction h with
  | nil => cases houtput
  | cons hfirst _ ih =>
      rcases List.mem_cons.1 houtput with rfl | hrest
      · exact ⟨_, List.mem_cons_self, hfirst⟩
      · obtain ⟨input, hinput, hrelated⟩ := ih hrest
        exact ⟨input, List.mem_cons_of_mem _ hinput, hrelated⟩

/-- A row that is related to one which is put together is put together itself. -/
theorem forall₂_append_cons {α β : Type} {R : α → β → Prop} {inputs : List α} {before after : List β}
    {output : β} (h : List.Forall₂ R inputs (before ++ output :: after)) :
    ∃ front input back, inputs = front ++ input :: back ∧ List.Forall₂ R front before ∧
      R input output ∧ List.Forall₂ R back after := by
  induction before generalizing inputs with
  | nil =>
      obtain ⟨input, back, hinput, hback, rfl⟩ := List.forall₂_cons_right_iff.1 h
      exact ⟨[], input, back, rfl, .nil, hinput, hback⟩
  | cons first before ih =>
      obtain ⟨head, tail, hhead, htail, rfl⟩ := List.forall₂_cons_right_iff.1 h
      obtain ⟨front, input, back, rfl, hfront, hrest⟩ := ih htail
      exact ⟨head :: front, input, back, rfl, .cons hhead hfront, hrest⟩

/-- Fragments are all there if each of the values can be converted. -/
theorem map_fragments_eq_ok_iff (fileId : Nat) {values : List (Spanned Toml.Value)}
    {fragments : List Fragment} :
    values.map (convert fileId known) = fragments.map .ok ↔
      List.Forall₂ (Converts known) values fragments := by
  simp only [map_eq_map_ok_iff, convert_eq_ok_iff]

/-- Bindings are all there if each of the values can be converted. -/
theorem map_vars_eq_ok_iff (fileId : Nat) {vars : List (String × Spanned Toml.Value)}
    {bindings : List (String × Fragment)} :
    vars.map (fun (name, value) => (convert fileId known value).map (name, ·)) =
        bindings.map .ok ↔ List.Forall₂ (Binds known) vars bindings := by
  simp only [map_eq_map_ok_iff, convert_map_eq_ok_iff]

/-- Building a recipe succeeds with the template that it yields. -/
theorem buildRecipe_eq_ok_iff (fileId : Nat) :
    buildRecipe fileId known recipe = .ok template ↔ recipe.Yields known template := by
  unfold buildRecipe
  dsimp only
  constructor
  · intro hbuilt
    split at hbuilt
    · next hnone =>
        rw [List.append_eq_nil_iff, failures_eq_nil_iff, failures_eq_nil_iff] at hnone
        cases hbuilt
        exact ⟨_, _, (map_fragments_eq_ok_iff fileId).1 hnone.1,
          (map_vars_eq_ok_iff fileId).1 hnone.2, rfl⟩
    · cases hbuilt
  · intro hyields
    obtain ⟨fragments, bindings, hgiven, hbound, rfl⟩ := hyields
    rw [(map_fragments_eq_ok_iff fileId).2 hgiven, (map_vars_eq_ok_iff fileId).2 hbound,
      failures_eq_nil_iff.2 (by rw [successes_map_ok]),
      failures_eq_nil_iff.2 (by rw [successes_map_ok]), successes_map_ok, successes_map_ok]
    rfl

theorem built_snoc_iff : Built (recipes ++ [recipe]) templates ↔
    ∃ before template, templates = before ++ [(recipe.name.value, template)] ∧
      Built recipes before ∧ recipe.name.value ∉ before.map Prod.fst ∧
      recipe.Yields (before.map Prod.fst) template := by
  constructor
  · intro h
    generalize hrecipes : recipes ++ [recipe] = whole at h
    cases h with
    | nil => simp at hrecipes
    | @snoc recipes' before recipe' template h hnew hyields =>
        obtain ⟨rfl, hlast⟩ := List.append_inj' hrecipes rfl
        cases hlast
        exact ⟨before, template, rfl, h, hnew, hyields⟩
  · intro hgiven
    obtain ⟨before, template, rfl, h, hnew, hyields⟩ := hgiven
    exact h.snoc hnew hyields

/-- The loop ends without errors if and only if every recipe can be built. -/
theorem foldl_add_eq_iff (fileId : Nat) :
    recipes.foldl (Progress.add fileId) {} = ⟨templates, []⟩ ↔ Built recipes templates := by
  induction recipes using List.reverseRecOn generalizing templates with
  | nil =>
      constructor
      · intro h
        cases h
        exact .nil
      · intro h
        generalize hnil : ([] : List Recipe) = recipes at h
        cases h with
        | nil => rfl
        | snoc => simp at hnil
  | append_singleton recipes recipe ih =>
      rw [List.foldl_append, List.foldl_cons, List.foldl_nil, built_snoc_iff]
      have hstep := add_cases fileId (recipes.foldl (Progress.add fileId) {}) recipe
      generalize recipes.foldl (Progress.add fileId) {} = progress at ih hstep ⊢
      obtain ⟨built, errors⟩ := progress
      constructor
      · intro hadd
        rcases hstep with ⟨-, hnew, template, hbuilt, heq⟩ | ⟨hblock, heq⟩
        · rw [heq] at hadd
          cases hadd
          exact ⟨built, template, rfl, ih.1 rfl, hnew, (buildRecipe_eq_ok_iff fileId).1 hbuilt⟩
        · rw [heq, Progress.mk.injEq, List.append_eq_nil_iff] at hadd
          exact absurd hadd.2.2 hblock
      · intro hgiven
        obtain ⟨before, template, rfl, hbefore, hnew, hyields⟩ := hgiven
        cases ih.2 hbefore
        have hbuilt := (buildRecipe_eq_ok_iff fileId).2 hyields
        rcases hstep with ⟨-, -, other, hother, heq⟩ | ⟨hblock, -⟩
        · rw [heq]
          rw [hbuilt] at hother
          cases hother
          rfl
        · rcases buildRecipe_cases fileId hnew with ⟨hnone, -⟩ | ⟨-, hfailed⟩
          · exact absurd hnone hblock
          · rw [hbuilt] at hfailed
            cases hfailed

/-- There is nothing to report if no recipe leaves errors, there is a recipe, and a declared entry
names a template. -/
theorem report_eq_nil_iff {document : Document} {blocks : List (List Error)} :
    report fileId document blocks = [] ↔ blocks.flatten = [] ∧ document.recipes ≠ [] ∧
      ∀ entry, document.entry = some entry →
        entry.value ∈ available document.recipes blocks := by
  unfold report listing
  rw [List.append_eq_nil_iff, List.append_eq_nil_iff, and_assoc]
  refine and_congr_right fun hnone => ?_
  rw [hnone]
  cases document.recipes <;> cases document.entry <;> simp

/-- **Which documents are accepted, and as what.** -/
theorem ofDocument_eq_ok_iff {document : Document} :
    ofDocument fileId document = .ok definition ↔
      Built document.recipes definition.templates ∧ document.recipes ≠ [] ∧
        (∀ entry, document.entry = some entry → entry.value ∈ definition.names) ∧
        definition.declared = document.entry.map (·.value) := by
  obtain ⟨blocks, h⟩ := exists_blocks fileId document.recipes
  obtain ⟨herrors, hnames⟩ := h.progress
  have hcases := ofDocument_cases h
  simp only [ne_eq, report_eq_nil_iff, ← herrors, ← hnames] at hcases
  unfold names
  rw [← foldl_add_eq_iff fileId]
  generalize document.recipes.foldl (Progress.add fileId) {} = progress at hcases ⊢
  obtain ⟨built, errors⟩ := progress
  obtain ⟨templates, declared⟩ := definition
  rcases hcases with ⟨⟨rfl, hsome, hentry⟩, heq⟩ | ⟨hreport, heq⟩
  · rw [heq]
    constructor
    · intro hgiven
      cases hgiven
      exact ⟨rfl, hsome, hentry, rfl⟩
    · intro hgiven
      obtain ⟨htemplates, -, -, hdeclared⟩ := hgiven
      cases htemplates
      cases hdeclared
      rfl
  · rw [heq]
    constructor
    · intro hgiven
      cases hgiven
    · intro hgiven
      obtain ⟨htemplates, hsome, hentry, -⟩ := hgiven
      cases htemplates
      exact absurd ⟨rfl, hsome, hentry⟩ hreport

/-- The templates have the names of the recipes, in order. -/
theorem Built.names_eq (h : Built recipes templates) :
    templates.map Prod.fst = recipes.map (·.name.value) := by
  induction h with
  | nil => rfl
  | snoc _ _ _ ih => rw [List.map_append, List.map_append, ih]; rfl

/-- No name stands for two templates. -/
theorem Built.nodup (h : Built recipes templates) : (templates.map Prod.fst).Nodup := by
  induction h with
  | nil => exact List.nodup_nil
  | snoc _ hnew _ ih =>
      rw [List.map_append]
      refine List.nodup_append.2 ⟨ih, List.nodup_singleton _, fun name hname other hother heq => ?_⟩
      have hlast := List.mem_singleton.1 hother
      rw [heq, hlast] at hname
      exact hnew hname

theorem Built.length_eq (h : Built recipes templates) : templates.length = recipes.length := by
  have hnames := congrArg List.length h.names_eq
  rwa [List.length_map, List.length_map] at hnames

/-- Each template is the one that its recipe yields, where the names before it are known. -/
theorem Built.exists_yields (h : Built recipes templates)
    (hrecipe : recipes[place]? = some recipe) :
    ∃ template, templates[place]? = some (recipe.name.value, template) ∧
      recipe.Yields ((recipes.take place).map (·.name.value)) template := by
  induction h with
  | nil => simp at hrecipe
  | @snoc recipes templates last template h _ hyields ih =>
      by_cases hlt : place < recipes.length
      · rw [List.getElem?_append_left hlt] at hrecipe
        rw [List.getElem?_append_left (h.length_eq ▸ hlt),
          List.take_append_of_le_length (Nat.le_of_lt hlt)]
        exact ih hrecipe
      · rw [List.getElem?_append_right (Nat.le_of_not_lt hlt), List.getElem?_singleton] at hrecipe
        split at hrecipe
        · next hzero =>
            cases hrecipe
            have hplace : place = recipes.length := by omega
            subst hplace
            rw [List.take_left, ← h.length_eq, List.getElem?_concat_length, ← h.names_eq]
            exact ⟨template, rfl, hyields⟩
        · cases hrecipe

/-- The recipe that a template was built from. -/
theorem Built.exists_recipe (h : Built recipes templates)
    (htemplate : templates[place]? = some (name, template)) :
    ∃ recipe, recipes[place]? = some recipe ∧ recipe.name.value = name ∧
      recipe.Yields ((recipes.take place).map (·.name.value)) template := by
  have hlt : place < recipes.length := h.length_eq ▸ (List.getElem?_eq_some_iff.1 htemplate).1
  have hrecipe := List.getElem?_eq_getElem hlt
  obtain ⟨found, hfound, hyields⟩ := h.exists_yields hrecipe
  rw [htemplate] at hfound
  cases hfound
  exact ⟨_, hrecipe, rfl, hyields⟩

/-- The recipe of a name is the only one of this name. -/
theorem Built.recipe_unique (h : Built recipes templates) {place' : Nat} {recipe' : Recipe}
    (hrecipe : recipes[place]? = some recipe) (hrecipe' : recipes[place']? = some recipe')
    (hname : recipe.name.value = recipe'.name.value) : place = place' ∧ recipe = recipe' := by
  have hnodup := h.nodup
  rw [h.names_eq] at hnodup
  have hlt : place < (recipes.map (·.name.value)).length := by
    rw [List.length_map]
    exact (List.getElem?_eq_some_iff.1 hrecipe).1
  have hplace : place = place' := by
    refine (List.getElem?_inj hlt hnodup).1 ?_
    rw [List.getElem?_map, List.getElem?_map, hrecipe, hrecipe', Option.map_some, Option.map_some,
      hname]
  subst hplace
  exact ⟨rfl, Option.some.inj (hrecipe.symm.trans hrecipe')⟩

/-- A place on the shelf has one name, and a name has one place. -/
theorem findIdx?_eq_some_iff_of_nodup {names : List String} (hnodup : names.Nodup) :
    names.findIdx? (· == name) = some place ↔ names[place]? = some name := by
  rw [List.findIdx?_eq_some_iff_getElem, List.getElem?_eq_some_iff]
  constructor
  · intro hgiven
    obtain ⟨hlt, hname, -⟩ := hgiven
    exact ⟨hlt, by simpa using hname⟩
  · intro hgiven
    obtain ⟨hlt, rfl⟩ := hgiven
    refine ⟨hlt, by simp, fun j hj heq => ?_⟩
    have hsame : names[j] = names[place] := by simpa using heq
    exact Nat.ne_of_lt hj ((List.Nodup.getElem_inj_iff hnodup).1 hsame)

/-- The names that a recipe can refer to stand in front of it, at the places of the templates. -/
theorem Built.findIdx?_known_iff (h : Built recipes templates) :
    ((recipes.take place).map (·.name.value)).findIdx? (· == target) = some nested ↔
      nested < place ∧ (templates.map Prod.fst)[nested]? = some target := by
  have hnodup := h.nodup
  rw [h.names_eq] at hnodup ⊢
  rw [List.map_take, findIdx?_eq_some_iff_of_nodup (hnodup.sublist (List.take_sublist _ _)),
    List.getElem?_take]
  split <;> simp [*]

/-- The template of a name, where no name stands for two. -/
theorem get?_eq_some_iff (hnodup : definition.names.Nodup) :
    definition.get? name = some template ↔
      ∃ place : Nat, definition.templates[place]? = some (name, template) := by
  unfold get?
  rw [Option.map_eq_some_iff, ← List.mem_iff_getElem?]
  constructor
  · intro hgiven
    obtain ⟨⟨name', _⟩, hfound, rfl⟩ := hgiven
    have hname : name' = name := by simpa using List.find?_some hfound
    exact hname ▸ List.mem_of_find?_eq_some hfound
  · intro hmem
    cases hfound : definition.templates.find? (·.1 == name) with
    | none =>
        have hother := List.find?_eq_none.1 hfound (name, template) hmem
        simp at hother
    | some found =>
        have hname : found.1 = name := by simpa using List.find?_some hfound
        have heq : found = (name, template) :=
          List.inj_on_of_nodup_map hnodup (List.mem_of_find?_eq_some hfound) hmem hname
        exact ⟨found, rfl, by rw [heq]⟩

/-- A row of named templates as a shelf. -/
def shelfOf (templates : List (String × Template)) : Shelf := ⟨(templates.map Prod.snd).toArray⟩

theorem shelfOf_snoc (name : String) (template : Template) :
    shelfOf (templates ++ [(name, template)]) = ((shelfOf templates).put template).2 := by
  simp [shelfOf, Shelf.put]

theorem size_shelfOf (templates : List (String × Template)) :
    (shelfOf templates).templates.size = templates.length := by
  simp [shelfOf]

theorem getElem?_shelfOf (templates : List (String × Template)) (place : Nat) :
    (shelfOf templates).templates[place]? = templates[place]?.map Prod.snd := by
  simp [shelfOf]

/-- The template of a name stands on the shelf at its place. -/
theorem exists_of_name (hname : (templates.map Prod.fst)[place]? = some name) :
    ∃ template, templates[place]? = some (name, template) ∧
      (shelfOf templates).templates[place]? = some template := by
  rw [List.getElem?_map, Option.map_eq_some_iff] at hname
  obtain ⟨⟨_, template⟩, htemplate, rfl⟩ := hname
  refine ⟨template, htemplate, ?_⟩
  rw [getElem?_shelfOf, htemplate]
  rfl

/-- A value that has been converted nests only a template that is known. -/
theorem Converts.lt {value : Spanned Toml.Value} (h : Converts known value (.template place)) :
    place < known.length := by
  obtain ⟨name, -, hplace⟩ := fragmentOfValue_eq_template_iff.1 h
  exact (List.findIdx?_eq_some_iff_findIdx_eq.1 hplace).1

/-- The template of a recipe nests only templates that are known. -/
theorem Recipe.Yields.supplies (h : recipe.Yields (templates.map Prod.fst) template) :
    (shelfOf templates).Supplies template := by
  obtain ⟨fragments, bindings, hfragments, hbindings, rfl⟩ := h
  refine ⟨fragments.map .ok, .build fragments,
    [.withBindings (bindings.map fun binding => (binding.1, .ok binding.2))],
    Template.ofFragments_eq_ok_iff.2 ⟨fragments, rfl, rfl⟩, ?_, ?_⟩
  · intro place hplace
    rw [size_shelfOf, ← List.length_map (f := Prod.fst)]
    simp only [Template.given, Template.Call.bindings, List.flatMap_singleton, List.map_map,
      List.mem_append, List.mem_map, Function.comp_apply, Except.ok.injEq] at hplace
    rcases hplace with ⟨fragment, hfragment, rfl⟩ | ⟨binding, hbinding, heq⟩
    · obtain ⟨value, -, hvalue⟩ := exists_related hfragments hfragment
      exact hvalue.lt
    · obtain ⟨var, -, -, hvalue⟩ := exists_related hbindings hbinding
      rw [heq] at hvalue
      exact hvalue.lt
  · rw [Template.performAll, List.foldl_cons, List.foldl_nil, Template.Call.perform,
      Template.withBindings_map_ok]

/-- The templates stand on a shelf that is filled in order. -/
theorem Built.stocked (h : Built recipes templates) : (shelfOf templates).Stocked := by
  induction h with
  | nil => exact .empty
  | snoc _ _ hyields ih =>
      obtain ⟨fragments, start, calls, hstart, hgiven, rfl⟩ := hyields.supplies
      rw [shelfOf_snoc]
      exact .put ih hstart hgiven

/-- A text is accepted if it is read as a document that is accepted. -/
theorem parse_eq_ok_iff {source : String} :
    parse source fileId = .ok definition ↔
      ∃ document, readDocument fileId source = .ok document ∧
        ofDocument fileId document = .ok definition := by
  unfold parse
  cases readDocument fileId source <;> simp [Bind.bind, Except.bind]

end RegexTemplate.Definition
