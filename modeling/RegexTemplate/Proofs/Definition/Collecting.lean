import RegexTemplate.Definition.Basic
import RegexTemplate.Proofs.Template.Runs

/-!
# The errors of a document

A document is built recipe by recipe, and each recipe adds one block of errors: a single error if its
name stands for a template already, or else one for each value that cannot be converted, first among
the fragments and then among the variables (`block`).  What a value may refer to depends on the blocks
before: a template is there exactly if the block of its recipe is empty (`Blocks`).  One recipe adds
either its template or its block (`add_cases`), and so the whole loop collects all blocks in order
(`Blocks.progress`).

Main statement: `parse_errors_exact`.
-/

namespace RegexTemplate.Definition

/-- The errors of the values that cannot be converted, each with the place of its value. -/
def misfits (fileId : Nat) (known : List String) (values : List (Spanned Toml.Value)) : List Error :=
  values.filterMap fun value =>
    match fragmentOfValue known value.value with
    | .error e => some ⟨.template e, some value.span, fileId⟩
    | .ok _ => none

/-- The errors of one recipe, where the names of the templates built before it are given. -/
def block (fileId : Nat) (known : List String) (recipe : Recipe) : List Error :=
  if recipe.name.value ∈ known then
    [⟨.repeatedName recipe.name.value, some recipe.name.span, fileId⟩]
  else misfits fileId known recipe.fragments ++ misfits fileId known (recipe.vars.map Prod.snd)

/-- The names of the recipes whose blocks are empty. -/
def available (recipes : List Recipe) (blocks : List (List Error)) : List String :=
  (recipes.zip blocks).filterMap fun (recipe, block) =>
    if block.isEmpty then some recipe.name.value else none

/-- One block of errors for each recipe, where a recipe can refer to those before it whose blocks are
empty. -/
inductive Blocks (fileId : Nat) : List Recipe → List (List Error) → Prop
  | nil : Blocks fileId [] []
  | snoc {recipes : List Recipe} {blocks : List (List Error)} (h : Blocks fileId recipes blocks)
      (recipe : Recipe) :
      Blocks fileId (recipes ++ [recipe])
        (blocks ++ [block fileId (available recipes blocks) recipe])

/-- The errors of all recipes, or else the one for a document that has none. -/
def listing (fileId : Nat) (document : Document) (blocks : List (List Error)) : List Error :=
  blocks.flatten ++
    if document.recipes.isEmpty then [⟨.empty, some ⟨0, 0⟩, fileId⟩] else []

/-- All errors of a document: those of its recipes, and if there are none, the one for an entry that
names no template. -/
def report (fileId : Nat) (document : Document) (blocks : List (List Error)) : List Error :=
  listing fileId document blocks ++
    match document.entry with
    | some entry =>
      if (listing fileId document blocks).isEmpty ∧
          entry.value ∉ available document.recipes blocks then
        [⟨.undefinedEntry entry.value, some entry.span, fileId⟩]
      else []
    | none => []

/-- Builds the template of a recipe through the calls that may fail, with the branch left open in which
one of them has failed although every value has been converted. -/
def buildGuarded (onFailure : TemplateError → List Error) (fileId : Nat) (known : List String)
    (recipe : Recipe) : Except (List Error) Template :=
  let fragments := recipe.fragments.map (convert fileId known)
  let vars := recipe.vars.map fun (name, value) => (convert fileId known value).map (name, ·)
  match failures fragments ++ failures vars with
  | [] =>
    let built := Template.ofFragments ((successes fragments).map .ok)
    let bound := built.bind fun template =>
      template.withBindings ((successes vars).map fun (name, value) => (name, .ok value))
    bound.mapError onFailure
  | errors => .error errors

variable {fileId : Nat} {known : List String} {recipe : Recipe} {recipes : List Recipe}
  {blocks : List (List Error)}

/-- **The branch is never taken.**  It makes no difference what is done there. -/
theorem buildGuarded_eq (onFailure : TemplateError → List Error) (fileId : Nat)
    (known : List String) (recipe : Recipe) :
    buildGuarded onFailure fileId known recipe = buildRecipe fileId known recipe := by
  have hbuilt : ∀ fragments : List Fragment,
      Template.ofFragments (fragments.map .ok) = .ok (.build fragments) := by
    intro fragments
    exact Template.ofFragments_eq_ok_iff.2 ⟨fragments, rfl, rfl⟩
  unfold buildGuarded buildRecipe
  dsimp only
  generalize failures (recipe.fragments.map (convert fileId known)) ++ failures (recipe.vars.map
    fun (name, value) => (convert fileId known value).map (name, ·)) = errors
  cases errors with
  | nil =>
      rw [hbuilt, Except.bind, Template.withBindings_map_ok]
      rfl
  | cons error errors => rfl

theorem failures_fragments (fileId : Nat) (known : List String)
    (values : List (Spanned Toml.Value)) :
    failures (values.map (convert fileId known)) = misfits fileId known values := by
  unfold failures misfits
  rw [List.filterMap_map]
  refine List.filterMap_congr fun value _ => ?_
  rw [Function.comp_apply, convert]
  cases fragmentOfValue known value.value <;> rfl

theorem failures_vars (fileId : Nat) (known : List String)
    (vars : List (String × Spanned Toml.Value)) :
    failures (vars.map fun (name, value) => (convert fileId known value).map (name, ·)) =
      misfits fileId known (vars.map Prod.snd) := by
  unfold failures misfits
  rw [List.filterMap_map, List.filterMap_map]
  refine List.filterMap_congr fun binding _ => ?_
  obtain ⟨name, value⟩ := binding
  simp only [Function.comp_apply, convert]
  cases fragmentOfValue known value.value <;> rfl

/-- A recipe whose name is new is built if its block is empty, and fails with its block otherwise. -/
theorem buildRecipe_cases (fileId : Nat) (hnew : recipe.name.value ∉ known) :
    (block fileId known recipe = [] ∧ ∃ template, buildRecipe fileId known recipe = .ok template) ∨
    (block fileId known recipe ≠ [] ∧
      buildRecipe fileId known recipe = .error (block fileId known recipe)) := by
  unfold buildRecipe block
  simp only [failures_fragments, failures_vars, if_neg hnew]
  split
  · next hnone => exact Or.inl ⟨hnone, _, rfl⟩
  · next hsome => exact Or.inr ⟨hsome, rfl⟩

/-- **What one recipe does.**  If its block is empty, its template is added behind the others, and
otherwise its block is added to the errors. -/
theorem add_cases (fileId : Nat) (progress : Progress) (recipe : Recipe) :
    (block fileId (progress.templates.map Prod.fst) recipe = [] ∧
      recipe.name.value ∉ progress.templates.map Prod.fst ∧
      ∃ template, buildRecipe fileId (progress.templates.map Prod.fst) recipe = .ok template ∧
        progress.add fileId recipe =
          ⟨progress.templates ++ [(recipe.name.value, template)], progress.errors⟩) ∨
    (block fileId (progress.templates.map Prod.fst) recipe ≠ [] ∧
      progress.add fileId recipe = ⟨progress.templates,
        progress.errors ++ block fileId (progress.templates.map Prod.fst) recipe⟩) := by
  unfold Progress.add
  dsimp only
  split
  · next hrepeated =>
      have hblock : block fileId (progress.templates.map Prod.fst) recipe =
          [⟨.repeatedName recipe.name.value, some recipe.name.span, fileId⟩] := by
        rw [block, if_pos (List.contains_iff_mem.1 hrepeated)]
      exact Or.inr ⟨by simp [hblock], by rw [hblock]⟩
  · next hnew =>
      rw [List.contains_iff_mem] at hnew
      rcases buildRecipe_cases fileId hnew with
        ⟨hblock, template, hbuilt⟩ | ⟨hblock, hfailed⟩
      · exact Or.inl ⟨hblock, hnew, template, hbuilt, by rw [hbuilt]⟩
      · exact Or.inr ⟨hblock, by rw [hfailed]⟩

theorem length_of_blocks (h : Blocks fileId recipes blocks) : blocks.length = recipes.length := by
  induction h with
  | nil => rfl
  | snoc _ recipe ih => simp [ih]

/-- The name of one more recipe is available if its block is empty. -/
theorem available_snoc (hlength : blocks.length = recipes.length) (recipe : Recipe)
    (last : List Error) :
    available (recipes ++ [recipe]) (blocks ++ [last]) =
      available recipes blocks ++ if last.isEmpty then [recipe.name.value] else [] := by
  unfold available
  rw [List.zip_append hlength.symm, List.filterMap_append]
  cases last <;> rfl

/-- **What the loop does.**  The blocks of all recipes are collected in order, and the names of the
templates are those of the recipes whose blocks are empty. -/
theorem Blocks.progress (h : Blocks fileId recipes blocks) :
    (recipes.foldl (Progress.add fileId) {}).errors = blocks.flatten ∧
    (recipes.foldl (Progress.add fileId) {}).templates.map Prod.fst =
      available recipes blocks := by
  induction h with
  | nil => exact ⟨rfl, rfl⟩
  | @snoc recipes blocks h recipe ih =>
      obtain ⟨herrors, hnames⟩ := ih
      have hstep := add_cases fileId (recipes.foldl (Progress.add fileId) {}) recipe
      rw [hnames, herrors] at hstep
      rw [List.foldl_append, List.foldl_cons, List.foldl_nil, List.flatten_append,
        available_snoc (length_of_blocks h)]
      rcases hstep with ⟨hblock, -, template, -, hadd⟩ | ⟨hblock, hadd⟩
      · rw [hadd]
        simp [hblock, hnames]
      · rw [hadd]
        simp [hblock, hnames]

theorem exists_blocks (fileId : Nat) (recipes : List Recipe) :
    ∃ blocks, Blocks fileId recipes blocks := by
  induction recipes using List.reverseRecOn with
  | nil => exact ⟨[], .nil⟩
  | append_singleton recipes recipe ih =>
      obtain ⟨blocks, h⟩ := ih
      exact ⟨_, h.snoc recipe⟩

/-- The blocks of the first recipes are the first of the blocks. -/
theorem Blocks.of_append {more : List Recipe} (h : Blocks fileId (recipes ++ more) blocks) :
    Blocks fileId recipes (blocks.take recipes.length) := by
  induction more using List.reverseRecOn generalizing blocks with
  | nil =>
      rw [List.append_nil] at h
      rwa [← length_of_blocks h, List.take_length]
  | append_singleton more recipe ih =>
      rw [← List.append_assoc] at h
      generalize hwhole : recipes ++ more ++ [recipe] = whole at h
      cases h with
      | nil => simp at hwhole
      | @snoc recipes' blocks' h' recipe' =>
          obtain ⟨rfl, -⟩ := List.append_inj' hwhole rfl
          have hle : recipes.length ≤ blocks'.length := by
            rw [length_of_blocks h', List.length_append]
            exact Nat.le_add_right _ _
          rw [List.take_append_of_le_length hle]
          exact ih h'

/-- A document is built if there are no errors to report, and fails with all of them otherwise. -/
theorem ofDocument_cases {document : Document} (h : Blocks fileId document.recipes blocks) :
    (report fileId document blocks = [] ∧ ofDocument fileId document =
      .ok ⟨(document.recipes.foldl (Progress.add fileId) {}).templates,
        document.entry.map (·.value)⟩) ∨
    (report fileId document blocks ≠ [] ∧
      ofDocument fileId document = .error (report fileId document blocks)) := by
  obtain ⟨herrors, hnames⟩ := h.progress
  have hlisting : (document.recipes.foldl (Progress.add fileId) {}).errors ++
      emptyErrors fileId document = listing fileId document blocks := by
    rw [herrors]
    rfl
  unfold ofDocument
  dsimp only
  rw [hlisting]
  cases hlisted : listing fileId document blocks with
  | cons error errors =>
      right
      have hreport : report fileId document blocks = error :: errors := by
        unfold report
        cases document.entry <;> simp [hlisted]
      exact ⟨by simp [hreport], by rw [hreport]⟩
  | nil =>
      have hreport : entryErrors fileId (document.recipes.foldl (Progress.add fileId) {}).templates
          document = report fileId document blocks := by
        unfold entryErrors report
        rw [hnames, hlisted]
        cases document.entry with
        | none => rfl
        | some entry =>
            by_cases hentry : entry.value ∈ available document.recipes blocks <;> simp [hentry]
      dsimp only
      rw [hreport]
      cases hreported : report fileId document blocks with
      | nil => exact Or.inl ⟨rfl, rfl⟩
      | cons error errors => exact Or.inr ⟨by simp, rfl⟩

theorem parse_of_readDocument {source : String} {document : Document}
    (hread : readDocument fileId source = .ok document) :
    parse source fileId = ofDocument fileId document := by
  rw [parse, hread]
  rfl

/-- **Errors are collected exactly and completely.**  Let a text be read as a document.  Then there is
one block of errors for each of its recipes, and

* the templates that a recipe can refer to are those of the recipes before it whose blocks are empty;
* reading fails if and only if there is something to report, and then with just that: the blocks in
  order, the error for a document without recipes, and, if there is nothing else, the one for an entry
  that names no template;
* if there is nothing to report, the definition is there;
* a template whose values have all been converted is always built: what is done where that fails makes
  no difference. -/
theorem parse_errors_exact {source : String} {document : Document}
    (hread : readDocument fileId source = .ok document) :
    ∃ blocks, Blocks fileId document.recipes blocks ∧
      (∀ before after, document.recipes = before ++ after →
        (before.foldl (Progress.add fileId) {}).templates.map Prod.fst =
          available before (blocks.take before.length)) ∧
      (∀ errors, parse source fileId = .error errors ↔
        errors = report fileId document blocks ∧ report fileId document blocks ≠ []) ∧
      ((∃ definition, parse source fileId = .ok definition) ↔
        report fileId document blocks = []) ∧
      (∀ onFailure known recipe,
        buildGuarded onFailure fileId known recipe = buildRecipe fileId known recipe) ∧
      (∀ name, (Cause.repeatedName name).message = "duplicate template name '" ++ name ++ "'") ∧
      (∀ e, (Cause.template e).message = e.message) ∧
      Cause.empty.message = "no templates defined" ∧
      ∀ name, (Cause.undefinedEntry name).message =
        "entry template '" ++ name ++ "' is not defined" := by
  obtain ⟨blocks, h⟩ := exists_blocks fileId document.recipes
  refine ⟨blocks, h, ?_, ?_, ?_, fun onFailure => buildGuarded_eq onFailure fileId,
    fun _ => rfl, fun _ => rfl, rfl, fun _ => rfl⟩
  · intro before after hrecipes
    rw [hrecipes] at h
    exact h.of_append.progress.2
  · intro errors
    rw [parse_of_readDocument hread]
    rcases ofDocument_cases h with ⟨hnone, hbuilt⟩ | ⟨hsome, hfailed⟩
    · simp [hnone, hbuilt]
    · simp [hsome, hfailed, eq_comm]
  · rw [parse_of_readDocument hread]
    rcases ofDocument_cases h with ⟨hnone, hbuilt⟩ | ⟨hsome, hfailed⟩
    · simp [hnone, hbuilt]
    · simp [hsome, hfailed]

/-- A result of which something is shown is there. -/
theorem exists_of_toOption_map {ε α β : Type} {result : Except ε α} {outline : α → β} {shown : β}
    (h : result.toOption.map outline = some shown) :
    ∃ value, result = .ok value ∧ outline value = shown := by
  obtain ⟨value, hvalue, hshown⟩ := Option.map_eq_some_iff.1 h
  cases result with
  | error e => cases hvalue
  | ok other =>
      cases hvalue
      exact ⟨value, rfl, hshown⟩

/-- A document with two values that cannot be converted, and a name that is used once more after a
recipe of that name has failed and another has been built. -/
def muddle : String :=
  "template = [['a', [1, \x7b template = 'b' \x7d]], ['b', []], ['a', []], ['a', []]]"

/-- The first recipe leaves two errors behind and its name free, the third takes the name, and the
fourth repeats it. -/
theorem parse_errors_exact_muddle : ∃ document blocks,
    readDocument 0 muddle = .ok document ∧ Blocks 0 document.recipes blocks ∧
      parse muddle 0 = .error (report 0 document blocks) ∧
      (report 0 document blocks).map (·.message) = ["unsupported fragment kind: integer",
        "unknown template: b", "duplicate template name 'a'"] := by
  have hmessages : ((readDocument 0 muddle).toOption.map fun _ => ()) = some () ∧
      (match parse muddle 0 with
        | .ok _ => []
        | .error errors => errors.map (·.message)) = ["unsupported fragment kind: integer",
          "unknown template: b", "duplicate template name 'a'"] := by
    decide +kernel
  obtain ⟨hsome, hmessages⟩ := hmessages
  obtain ⟨document, hread, -⟩ := exists_of_toOption_map hsome
  obtain ⟨blocks, hblocks, -, hfails, -⟩ := parse_errors_exact hread
  cases hparse : parse muddle 0 with
  | ok definition => simp [hparse] at hmessages
  | error errors =>
      obtain ⟨rfl, -⟩ := (hfails errors).1 hparse
      rw [hparse] at hmessages
      exact ⟨document, blocks, hread, hblocks, rfl, hmessages⟩

end RegexTemplate.Definition
