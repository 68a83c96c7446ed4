import RegexTemplate.Proofs.Command.Writing
import RegexTemplate.Proofs.Definition.WellFormed

/-!
# References that are spliced

A reference to a template is spliced into the template of a recipe if it is one of the fragments, or
the value of a variable whose name is open when it is its turn (`Splices`).  The other references have
no effect.  So the templates nested in a template are those that its recipe splices
(`Built.exists_splices_of_mem_places`, `Built.exists_mem_places_of_splices`), those nested at any depth
are those that are reached through such references (`Built.nested_iff`), and rendering meets nothing
else (`Built.mem_met_iff`).  Whether a template compiles therefore shows in the open names that are
listed: its own and those of what it reaches.

Main statement: `compiles_exact`.
-/

namespace RegexTemplate

namespace Definition

/-- The template of a name splices another. -/
inductive Splices (recipes : List Recipe) : String → String → Prop
  /-- A fragment refers to it. -/
  | fragment {place : Nat} {recipe : Recipe} {value : Spanned Toml.Value} {target : String}
      (hrecipe : recipes[place]? = some recipe) (hvalue : value ∈ recipe.fragments)
      (hreference : reference? value.value = some target) :
      Splices recipes recipe.name.value target
  /-- The value of a variable refers to it, and the name of the variable is open in the template that
  the fragments and the variables before it yield. -/
  | var {place : Nat} {recipe : Recipe} {before after : List (String × Spanned Toml.Value)}
      {name : String} {value : Spanned Toml.Value} {target : String} {reached : Template}
      (hrecipe : recipes[place]? = some recipe)
      (hvars : recipe.vars = before ++ (name, value) :: after)
      (hreached : Recipe.Yields { recipe with vars := before }
        ((recipes.take place).map (·.name.value)) reached)
      (hopen : name ∈ reached.unassigned) (hreference : reference? value.value = some target) :
      Splices recipes recipe.name.value target

variable {known : List String} {recipes : List Recipe} {recipe : Recipe}
  {templates : List (String × Template)} {template : Template} {name target : String}
  {place nested : Nat}

/-- A template that is nested in the template of a recipe is spliced by it. -/
theorem Built.exists_splices_of_mem_places (h : Built recipes templates)
    (htemplate : templates[place]? = some (name, template)) (hnested : nested ∈ template.places) :
    ∃ target, (templates.map Prod.fst)[nested]? = some target ∧ Splices recipes name target := by
  obtain ⟨recipe, hrecipe, rfl, fragments, bindings, hfragments, hbindings, rfl⟩ :=
    h.exists_recipe htemplate
  rw [Template.mem_places_bindEach_iff (Template.sound_build _),
    Template.mem_places_build_iff] at hnested
  rcases hnested with hfragment | ⟨before, other, after, rfl, hopen⟩
  · obtain ⟨value, hvalue, hconverted⟩ := exists_related hfragments hfragment
    obtain ⟨target, hreference, hplace⟩ := fragmentOfValue_eq_template_iff.1 hconverted
    exact ⟨target, (h.findIdx?_known_iff.1 hplace).2, .fragment hrecipe hvalue hreference⟩
  · obtain ⟨front, ⟨var, value⟩, back, hvars, hfront, ⟨rfl, hconverted⟩, -⟩ :=
      forall₂_append_cons hbindings
    obtain ⟨target, hreference, hplace⟩ := fragmentOfValue_eq_template_iff.1 hconverted
    refine ⟨target, (h.findIdx?_known_iff.1 hplace).2, ?_⟩
    exact .var hrecipe hvars ⟨fragments, before, hfragments, hfront, rfl⟩ hopen hreference

theorem rightUnique_converts (known : List String) : Relator.RightUnique (Converts known) := by
  intro value fragment fragment' h h'
  exact Except.ok.inj (h.symm.trans h')

theorem rightUnique_binds (known : List String) : Relator.RightUnique (Binds known) := by
  intro var binding binding' h h'
  obtain ⟨hname, hvalue⟩ := h
  obtain ⟨hname', hvalue'⟩ := h'
  exact Prod.ext (hname.symm.trans hname') (rightUnique_converts known hvalue hvalue')

/-- A recipe yields one template. -/
theorem Recipe.Yields.unique {template' : Template} (h : recipe.Yields known template)
    (h' : recipe.Yields known template') : template = template' := by
  obtain ⟨fragments, bindings, hfragments, hbindings, rfl⟩ := h
  obtain ⟨fragments', bindings', hfragments', hbindings', rfl⟩ := h'
  rw [(rightUnique_converts known).forall₂ hfragments hfragments',
    (rightUnique_binds known).forall₂ hbindings hbindings']

/-- A template that a recipe splices is nested in the template of the recipe. -/
theorem Built.exists_mem_places_of_splices (h : Built recipes templates)
    (htemplate : templates[place]? = some (name, template)) (hsplices : Splices recipes name target) :
    ∃ nested, (templates.map Prod.fst)[nested]? = some target ∧ nested ∈ template.places := by
  obtain ⟨recipe, hrecipe, hname, fragments, bindings, hfragments, hbindings, rfl⟩ :=
    h.exists_recipe htemplate
  simp only [Template.mem_places_bindEach_iff (Template.sound_build _),
    Template.mem_places_build_iff]
  cases hsplices with
  | fragment hrecipe' hvalue hreference =>
      obtain ⟨rfl, rfl⟩ := h.recipe_unique hrecipe hrecipe' hname
      obtain ⟨fragment, hfragment, hconverted⟩ := exists_related hfragments.flip hvalue
      obtain ⟨nested, hplace, rfl⟩ := exists_place_of_reference hreference hconverted
      exact ⟨nested, (h.findIdx?_known_iff.1 hplace).2, Or.inl hfragment⟩
  | var hrecipe' hvars hreached hopen hreference =>
      obtain ⟨rfl, rfl⟩ := h.recipe_unique hrecipe hrecipe' hname
      rw [hvars] at hbindings
      obtain ⟨before, ⟨other, fragment⟩, after, rfl, hbefore, ⟨rfl, hconverted⟩, -⟩ :=
        forall₂_append_cons hbindings.flip
      obtain ⟨nested, hplace, rfl⟩ := exists_place_of_reference hreference hconverted
      -- the variables in front are filled in alike both times
      obtain rfl := hreached.unique ⟨fragments, before, hfragments, hbefore.flip, rfl⟩
      exact ⟨nested, (h.findIdx?_known_iff.1 hplace).2, Or.inr ⟨before, _, after, rfl, hopen⟩⟩

/-- **What is nested in a template at any depth is what its recipe reaches by splicing.** -/
theorem Built.nested_iff (h : Built recipes templates)
    (htemplate : templates[place]? = some (name, template)) :
    (∃ nested, (templates.map Prod.fst)[nested]? = some target ∧
      (shelfOf templates).Nested template.places nested) ↔
    Relation.TransGen (Splices recipes) name target := by
  constructor
  · intro hgiven
    obtain ⟨nested, htarget, hnested⟩ := hgiven
    induction hnested generalizing target with
    | here hnested =>
        obtain ⟨target', htarget', hsplices⟩ := h.exists_splices_of_mem_places htemplate hnested
        obtain rfl := Option.some.inj (htarget'.symm.trans htarget)
        exact .single hsplices
    | @deeper place nested _ hnested ih =>
        -- the template in between has a name, since it stands on the shelf
        obtain ⟨found, hfound, hnested⟩ := Shelf.mem_placesAt_iff.1 hnested
        rw [getElem?_shelfOf, Option.map_eq_some_iff] at hfound
        obtain ⟨⟨middle, _⟩, hmiddle, rfl⟩ := hfound
        obtain ⟨target', htarget', hsplices⟩ := h.exists_splices_of_mem_places hmiddle hnested
        obtain rfl := Option.some.inj (htarget'.symm.trans htarget)
        exact .tail (ih (by rw [List.getElem?_map, hmiddle]; rfl)) hsplices
  · intro hreaches
    induction hreaches with
    | single hsplices =>
        obtain ⟨nested, htarget, hnested⟩ := h.exists_mem_places_of_splices htemplate hsplices
        exact ⟨nested, htarget, .here hnested⟩
    | tail _ hsplices ih =>
        obtain ⟨place, hmiddle, hplace⟩ := ih
        obtain ⟨found, hfound, hshelf⟩ := exists_of_name hmiddle
        obtain ⟨nested, htarget, hnested⟩ := h.exists_mem_places_of_splices hfound hsplices
        exact ⟨nested, htarget, hplace.deeper (Shelf.mem_placesAt_iff.2 ⟨found, hshelf, hnested⟩)⟩

/-- What a template reaches by splicing is a template. -/
theorem Built.exists_of_reaches {definition : Definition} (h : Built recipes definition.templates)
    (htemplate : definition.get? name = some template)
    (hreaches : Relation.ReflTransGen (Splices recipes) name target) :
    ∃ found, definition.get? target = some found := by
  obtain ⟨place, hplace⟩ := (get?_eq_some_iff h.nodup).1 htemplate
  rcases Relation.reflTransGen_iff_eq_or_transGen.1 hreaches with rfl | hreaches
  · exact ⟨template, htemplate⟩
  · obtain ⟨nested, htarget, -⟩ := (h.nested_iff hplace).2 hreaches
    obtain ⟨found, hfound, -⟩ := exists_of_name htarget
    exact ⟨found, (get?_eq_some_iff h.nodup).2 ⟨nested, hfound⟩⟩

/-- **What rendering meets is what is reached by splicing.** -/
theorem Built.mem_met_iff {definition : Definition} (h : Built recipes definition.templates)
    (htemplate : definition.get? name = some template) {found : Template} :
    found ∈ definition.shelf.met template ↔
      ∃ target, Relation.ReflTransGen (Splices recipes) name target ∧
        definition.get? target = some found := by
  have hshelf : definition.shelf = shelfOf definition.templates := rfl
  obtain ⟨place, hplace⟩ := (get?_eq_some_iff h.nodup).1 htemplate
  rw [hshelf, Shelf.mem_met_iff h.stocked.ordered]
  simp only [Relation.reflTransGen_iff_eq_or_transGen]
  constructor
  · intro hmet
    rcases hmet with rfl | ⟨nested, hnested, honShelf⟩
    · exact ⟨name, Or.inl rfl, htemplate⟩
    · rw [getElem?_shelfOf, Option.map_eq_some_iff] at honShelf
      obtain ⟨⟨target, _⟩, hfound, rfl⟩ := honShelf
      have htarget : (definition.templates.map Prod.fst)[nested]? = some target := by
        rw [List.getElem?_map, hfound]
        rfl
      exact ⟨target, Or.inr ((h.nested_iff hplace).1 ⟨nested, htarget, hnested⟩),
        (get?_eq_some_iff h.nodup).2 ⟨nested, hfound⟩⟩
  · intro hgiven
    obtain ⟨target, hreaches, hfound⟩ := hgiven
    rcases hreaches with rfl | hreaches
    · exact Or.inl (Option.some.inj (hfound.symm.trans htemplate))
    · obtain ⟨nested, htarget, hnested⟩ := (h.nested_iff hplace).2 hreaches
      obtain ⟨found', hfound', honShelf⟩ := exists_of_name htarget
      obtain rfl : found' = found := by
        have hget := (get?_eq_some_iff h.nodup).2 ⟨nested, hfound'⟩
        exact Option.some.inj (hget.symm.trans hfound)
      exact Or.inr ⟨nested, hnested, honShelf⟩

/-- The template of a name compiles if all that rendering meets are complete. -/
theorem Built.exists_compileSource_iff {definition : Definition}
    (h : Built recipes definition.templates) (htemplate : definition.get? name = some template) :
    (∃ text, definition.shelf.compileSource template = .ok text) ↔
      ∀ found ∈ definition.shelf.met template, found.unassigned = [] := by
  have hstocked : definition.shelf.Stocked := h.stocked
  obtain ⟨place, hplace⟩ := (get?_eq_some_iff h.nodup).1 htemplate
  have honShelf : definition.shelf.templates[place]? = some template := by
    refine (getElem?_shelfOf definition.templates place).trans ?_
    rw [hplace]
    rfl
  exact Shelf.exists_compileSource_iff hstocked (hstocked.supplies honShelf)

end Definition

namespace Command

variable {options : BuildOptions} {shelf : Shelf} {name : String} {template : Template}

/-- The line of a template shows that it has open names. -/
theorem listLine_cases (name : String) (template : Template) :
    (template.unassigned = [] ∧ listLine name template = name) ∨
      ∃ shown, listLine name template = name ++ " (unbound: " ++ shown ++ ")" := by
  unfold listLine
  cases hnames : template.unassigned with
  | nil => exact Or.inl ⟨rfl, rfl⟩
  | cons first names => exact Or.inr ⟨_, rfl⟩

/-- A text that is not checked to be a regular expression is written as it is. -/
theorem code_compileTemplate {text : String} (hverify : options.verify = false)
    (htext : shelf.compileSource template = .ok text) :
    (compileTemplate options shelf name template).code = 0 := by
  unfold compileTemplate Shelf.compile
  rw [htext, hverify]
  rfl

/-- What a list shows: the lines of all templates of the text. -/
theorem runBuild_list_cases (hlist : options.list = true) {found : Except FileFault FileTree}
    (hcode : (runBuild options found).code = 0) :
    ∃ source definition, found.bind FileTree.readText = .ok source ∧
      Definition.parse source 0 = .ok definition ∧
      (runBuild options found).output =
        definition.templates.map fun (name, template) => listLine name template := by
  unfold runBuild at hcode ⊢
  cases hsource : found.bind FileTree.readText with
  | error fault =>
      rw [hsource] at hcode
      cases hcode
  | ok source =>
      rw [hsource] at hcode
      dsimp only at hcode ⊢
      unfold buildSource at hcode ⊢
      cases hparse : Definition.parse source 0 with
      | error errors =>
          rw [hparse] at hcode
          cases hcode
      | ok definition =>
          refine ⟨source, definition, rfl, hparse, ?_⟩
          dsimp only
          rw [if_pos hlist]
          rfl

end Command

namespace Definition

open Command (BuildOptions answer_buildWords buildWords listLine listLine_cases)

/-- If no line of a list shows open names, the lines are the names of the templates, and each of them
can be compiled. -/
theorem Built.compiles_of_listLines {recipes : List Recipe} {definition : Definition}
    (h : Built recipes definition.templates)
    (hlines : ∀ line ∈ definition.templates.map fun (name, template) => listLine name template,
      ∀ front shown, line ≠ front ++ " (unbound: " ++ shown ++ ")") :
    (definition.templates.map fun (name, template) => listLine name template) = definition.names ∧
      ∀ name template, definition.get? name = some template →
        ∃ text, definition.shelf.compileSource template = .ok text := by
  have hcomplete : ∀ entry ∈ definition.templates,
      entry.2.unassigned = [] ∧ listLine entry.1 entry.2 = entry.1 := by
    intro entry hentry
    rcases listLine_cases entry.1 entry.2 with hnone | ⟨shown, hshown⟩
    · exact hnone
    · exact absurd hshown (hlines _ (List.mem_map_of_mem hentry) _ _)
  refine ⟨List.map_congr_left fun entry hentry => (hcomplete entry hentry).2, ?_⟩
  intro name template htemplate
  refine (h.exists_compileSource_iff htemplate).2 fun found hfound => ?_
  obtain ⟨target, -, hget⟩ := (h.mem_met_iff htemplate).1 hfound
  obtain ⟨place, hplace⟩ := (get?_eq_some_iff h.nodup).1 hget
  exact (hcomplete _ (List.mem_of_getElem? hplace)).1

/-- If no line of a list shows open names, each name that is listed can be built. -/
theorem code_runBuild_of_listed {options : BuildOptions} {found : Except FileFault FileTree}
    (hcode : (Command.runBuild { options with list := true } found).code = 0)
    (hlines : ∀ line ∈ (Command.runBuild { options with list := true } found).output,
      ∀ front shown, line ≠ front ++ " (unbound: " ++ shown ++ ")") :
    ∀ name ∈ (Command.runBuild { options with list := true } found).output,
      (Command.runBuild { options with entry := some name, list := false, verify := false }
        found).code = 0 := by
  intro name hlisted
  obtain ⟨source, definition, hsource, hparse, houtput⟩ :=
    Command.runBuild_list_cases rfl hcode
  rw [houtput] at hlines hlisted
  obtain ⟨document, -, hdocument⟩ := parse_eq_ok_iff.1 hparse
  obtain ⟨h, -⟩ := ofDocument_eq_ok_iff.1 hdocument
  obtain ⟨hnames, hcompiles⟩ := h.compiles_of_listLines hlines
  rw [hnames] at hlisted
  unfold Command.runBuild
  rw [hsource]
  unfold Command.buildSource
  dsimp only
  rw [hparse]
  dsimp only
  rw [if_neg Bool.false_ne_true]
  rcases Command.buildTemplate_cases hparse
      { options with entry := some name, list := false, verify := false } with
    ⟨wanted, hwanted, hnone, -⟩ | ⟨wanted, template, -, htemplate, heq⟩
  · cases hwanted
    have hsome := isSome_get?_iff.2 hlisted
    rw [hnone] at hsome
    cases hsome
  · rw [heq]
    split
    · rfl
    · obtain ⟨text, htext⟩ := hcompiles wanted template htemplate
      exact Command.code_compileTemplate rfl htext

/-- **What is reported as open decides what compiles.**  Let a text be read as a document and accepted.
Then for each of its templates,

* it compiles if and only if it and all that it reaches through spliced references have no open names.

In particular, if the list of the templates of a file shows open names on none of its lines, then each
name that is listed can be built, and the command lines that ask for the list and for the template are
answered so. -/
theorem compiles_exact :
    (∀ source fileId document definition, readDocument fileId source = .ok document →
      parse source fileId = .ok definition →
      ∀ name ∈ definition.names, ∃ template, definition.get? name = some template ∧
        ((∃ text, definition.shelf.compileSource template = .ok text) ↔
          ∀ target, Relation.ReflTransGen (Splices document.recipes) name target →
            ∃ found, definition.get? target = some found ∧ found.unassigned = [])) ∧
    (∀ (options : BuildOptions) found,
      (Command.runBuild { options with list := true } found).code = 0 →
      (∀ line ∈ (Command.runBuild { options with list := true } found).output,
        ∀ front shown, line ≠ front ++ " (unbound: " ++ shown ++ ")") →
      ∀ name ∈ (Command.runBuild { options with list := true } found).output,
        (Command.runBuild { options with entry := some name, list := false, verify := false }
          found).code = 0) ∧
    ∀ (options : BuildOptions) find,
      (Command.answer (buildWords { options with list := true }) find).code = 0 →
      (∀ line ∈ (Command.answer (buildWords { options with list := true }) find).output,
        ∀ front shown, line ≠ front ++ " (unbound: " ++ shown ++ ")") →
      ∀ name ∈ (Command.answer (buildWords { options with list := true }) find).output,
        (Command.answer (buildWords
          { options with entry := some name, list := false, verify := false }) find).code = 0 := by
  refine ⟨?_, fun options found => code_runBuild_of_listed, ?_⟩
  · intro source fileId document definition hread hparse name hname
    rw [parse_of_readDocument hread] at hparse
    obtain ⟨h, -⟩ := ofDocument_eq_ok_iff.1 hparse
    obtain ⟨template, htemplate⟩ := Option.isSome_iff_exists.1 (isSome_get?_iff.2 hname)
    refine ⟨template, htemplate, ?_⟩
    rw [h.exists_compileSource_iff htemplate]
    constructor
    · intro hcomplete target hreaches
      obtain ⟨found, hfound⟩ := h.exists_of_reaches htemplate hreaches
      exact ⟨found, hfound, hcomplete found ((h.mem_met_iff htemplate).2 ⟨target, hreaches, hfound⟩)⟩
    · intro hcomplete found hmet
      obtain ⟨target, hreaches, hfound⟩ := (h.mem_met_iff htemplate).1 hmet
      obtain ⟨found', hfound', hnone⟩ := hcomplete target hreaches
      rw [hfound] at hfound'
      cases hfound'
      exact hnone
  · intro options find hcode hlines name hlisted
    rw [answer_buildWords] at hcode hlines hlisted ⊢
    exact code_runBuild_of_listed hcode hlines name hlisted

/-- A template that waits for a value, and one that nests it and has no open names itself. -/
def waiting : String :=
  "template = [['a', ['/\\VAR\x7bx\x7d/']], ['b', [\x7b template = 'a' \x7d]]]"

/-- A template whose name begins with a hyphen. -/
def hyphened : String := "template = [['-x', []]]"

/-- How the two templates are read. -/
theorem exists_read_waiting : ∃ document definition one two,
    readDocument 0 waiting = .ok document ∧ parse waiting 0 = .ok definition ∧
      definition.templates = [("a", one), ("b", two)] ∧ one.unassigned = ["x"] ∧
      two.unassigned = [] ∧ Splices document.recipes "b" "a" := by
  have hread : (readDocument 0 waiting).toOption.map (fun document =>
      document.recipes.map fun recipe =>
        (recipe.name.value, recipe.fragments.map fun value => reference? value.value)) =
      some [("a", [none]), ("b", [some "a"])] := by
    decide +kernel
  have hparse : (parse waiting 0).toOption.map (fun definition =>
      definition.templates.map fun (name, template) => (name, template.unassigned)) =
      some [("a", ["x"]), ("b", [])] := by
    decide +kernel
  obtain ⟨document, hdocument, hread⟩ := exists_of_toOption_map hread
  obtain ⟨definition, hdefinition, hparse⟩ := exists_of_toOption_map hparse
  simp only [List.map_eq_cons_iff, List.map_eq_nil_iff, Prod.mk.injEq] at hread hparse
  obtain ⟨first, _, hrecipes, -, second, _, rfl, ⟨hname, value, _, hvalue, hreference, -⟩, rfl⟩ :=
    hread
  obtain ⟨⟨_, one⟩, _, htemplates, ⟨rfl, hwaits⟩, ⟨_, two⟩, _, rfl, ⟨rfl, hcomplete⟩, rfl⟩ := hparse
  have hsecond : document.recipes[1]? = some second := by
    rw [hrecipes]
    rfl
  have hmem : value ∈ second.fragments := by
    rw [hvalue]
    exact List.mem_cons_self
  exact ⟨document, definition, one, two, hdocument, hdefinition, htemplates, hwaits, hcomplete,
    hname ▸ .fragment hsecond hmem hreference⟩

/-- A short line says of no template that a name is open. -/
theorem ne_unbound_of_length_le {line : String} (hline : line.length ≤ 2) (front shown : String) :
    line ≠ front ++ " (unbound: " ++ shown ++ ")" := by
  rintro rfl
  have hlong : " (unbound: ".length = 11 := rfl
  rw [String.length_append, String.length_append, String.length_append] at hline
  omega

/-- The second cannot be compiled, since it reaches the first.  The file with two complete templates
lists both, and the first can be built.  So can the one whose name begins with a hyphen. -/
theorem compiles_exact_waiting :
    (∃ document definition template, readDocument 0 waiting = .ok document ∧
      parse waiting 0 = .ok definition ∧ definition.get? "b" = some template ∧
      template.unassigned = [] ∧ Splices document.recipes "b" "a" ∧
      ¬ ∃ text, definition.shelf.compileSource template = .ok text) ∧
    (∃ found, Command.runBuild { file := "f", list := true } found = .success ["a", "b"] ∧
      (Command.runBuild { file := "f", entry := some "a" } found).code = 0) ∧
    ∃ find, Command.answer ["build", "--list", "--", "f"] find = .success ["-x"] ∧
      (Command.answer ["build", "--entry=-x", "--", "f"] find).code = 0 := by
  refine ⟨?_, ?_, ?_⟩
  · obtain ⟨document, definition, one, two, hdocument, hdefinition, htemplates, hwaits, hcomplete,
      hsplices⟩ := exists_read_waiting
    have hget : definition.get? "a" = some one ∧ definition.get? "b" = some two := by
      simp [get?, htemplates]
    obtain ⟨template, htemplate, hiff⟩ := compiles_exact.1 waiting 0 document definition
      hdocument hdefinition "b" (by simp [names, htemplates])
    obtain rfl := Option.some.inj (hget.2.symm.trans htemplate)
    refine ⟨document, definition, two, hdocument, hdefinition, hget.2, hcomplete, hsplices, ?_⟩
    intro htext
    obtain ⟨found, hfound, hnone⟩ := hiff.1 htext "a" (.single hsplices)
    obtain rfl := Option.some.inj (hget.1.symm.trans hfound)
    simp [hwaits] at hnone
  · have hlist : Command.runBuild { file := "f", list := true }
        (.ok (.file pairOfRecipes.toUTF8)) = .success ["a", "b"] := by
      decide +kernel
    have hshort : ∀ line ∈ ["a", "b"], line.length ≤ 2 := by decide
    refine ⟨_, hlist, compiles_exact.2.1 { file := "f" } _ ?_ ?_ "a" ?_⟩
    · rw [hlist]
      rfl
    · rw [hlist]
      exact fun line hline => ne_unbound_of_length_le (hshort line hline)
    · rw [hlist]
      exact List.mem_cons_self
  · have hlist : Command.answer ["build", "--list", "--", "f"]
        (fun _ => .ok (.file hyphened.toUTF8)) = .success ["-x"] := by
      decide +kernel
    have hwords : buildWords { file := "f", list := true } = ["build", "--list", "--", "f"] ∧
        buildWords { file := "f", entry := some "-x" } = ["build", "--entry=-x", "--", "f"] := by
      decide
    have hshort : ∀ line ∈ ["-x"], line.length ≤ 2 := by decide
    have hbuild := compiles_exact.2.2 { file := "f" } fun _ => .ok (.file hyphened.toUTF8)
    dsimp only at hbuild
    rw [hwords.1, hlist] at hbuild
    refine ⟨_, hlist, ?_⟩
    rw [← hwords.2]
    exact hbuild rfl (fun line hline => ne_unbound_of_length_le (hshort line hline)) "-x"
      List.mem_cons_self

end Definition

end RegexTemplate
