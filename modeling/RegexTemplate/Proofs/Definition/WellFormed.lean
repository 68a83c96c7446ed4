import RegexTemplate.Command.Build
import RegexTemplate.Proofs.Definition.Accepting
import RegexTemplate.TestCase.Basic

/-!
# Accepted definitions are well formed

The loop that builds a definition passes over recipes that fail, and an entry that is not defined is
reported only if nothing else is.  None of these states is left when a definition is accepted: its
names are those of all recipes, each stands for one template, and the entry is one of them
(`wellFormed`).  So those who ask for the entry always find it, and the answers for a missing one are
only given to those who have named one (`evaluateIn_of_blamesLookup`, `runBuild_of_blamesLookup`).

Main statement: `parse_wellFormed`.
-/

namespace RegexTemplate

/-- Texts of which neither beginning is a beginning of the other are different. -/
theorem append_ne_append {a b : String} (hab : ¬ a.toList <+: b.toList)
    (hba : ¬ b.toList <+: a.toList) (x y : String) : a ++ x ≠ b ++ y := by
  intro heq
  have hlists := congrArg String.toList heq
  rw [String.toList_append, String.toList_append] at hlists
  have ha : a.toList <+: b.toList ++ y.toList := hlists ▸ List.prefix_append _ _
  rcases List.prefix_or_prefix_of_prefix ha (List.prefix_append _ _) with h | h
  · exact hab h
  · exact hba h

namespace Definition

variable {definition : Definition} {name : String}

/-- A name stands for a template if it is one of the names. -/
theorem isSome_get?_iff : (definition.get? name).isSome ↔ name ∈ definition.names := by
  unfold get? names
  simp [List.find?_isSome]

/-- What holds of a definition that is accepted. -/
structure WellFormed (document : Document) (definition : Definition) : Prop where
  names_eq : definition.names = document.recipes.map (·.name.value)
  names_ne_nil : definition.names ≠ []
  nodup : definition.names.Nodup
  entryName_of_some : ∀ entry, document.entry = some entry →
    definition.entryName? = some entry.value
  entryName_of_none : document.entry = none → definition.entryName? = definition.names.getLast?
  exists_entry : ∃ name template,
    definition.entryName? = some name ∧ definition.get? name = some template

theorem wellFormed {fileId : Nat} {document : Document}
    (h : ofDocument fileId document = .ok definition) : WellFormed document definition := by
  obtain ⟨hbuilt, hsome, hentry, hdeclared⟩ := ofDocument_eq_ok_iff.1 h
  have hnames : definition.names = document.recipes.map (·.name.value) := hbuilt.names_eq
  have hne : definition.names ≠ [] := by
    rw [hnames]
    exact fun hnil => hsome (List.map_eq_nil_iff.1 hnil)
  have hgiven : ∀ entry, document.entry = some entry →
      definition.entryName? = some entry.value := by
    intro entry heq
    rw [entryName?, hdeclared, heq]
    rfl
  have hlast : document.entry = none → definition.entryName? = definition.names.getLast? := by
    intro heq
    rw [entryName?, hdeclared, heq]
    rfl
  refine ⟨hnames, hne, hbuilt.nodup, hgiven, hlast, ?_⟩
  have hmem : ∃ name ∈ definition.names, definition.entryName? = some name := by
    cases hdocument : document.entry with
    | some entry => exact ⟨entry.value, hentry entry hdocument, hgiven entry hdocument⟩
    | none =>
        refine ⟨definition.names.getLast hne, List.getLast_mem hne, ?_⟩
        rw [hlast hdocument, List.getLast?_eq_some_getLast hne]
  obtain ⟨name, hname, heq⟩ := hmem
  obtain ⟨template, htemplate⟩ := Option.isSome_iff_exists.1 (isSome_get?_iff.2 hname)
  exact ⟨name, template, heq, htemplate⟩

/-- Whoever asks an accepted definition for a template, or for its entry, finds one or has named one
that is not defined. -/
theorem exists_chosen {source : String} {fileId : Nat} (h : parse source fileId = .ok definition)
    (wanted : Option String) :
    (∃ name, wanted = some name ∧ definition.get? name = none) ∨
      ∃ name template, (wanted <|> definition.entryName?) = some name ∧
        definition.get? name = some template := by
  cases wanted with
  | none =>
      obtain ⟨document, -, hbuilt⟩ := parse_eq_ok_iff.1 h
      exact Or.inr (wellFormed hbuilt).exists_entry
  | some name =>
      cases htemplate : definition.get? name with
      | none => exact Or.inl ⟨name, rfl, htemplate⟩
      | some template => exact Or.inr ⟨name, template, rfl, htemplate⟩

end Definition

namespace TestCase

/-- That there is no template to judge, or that one is missing, is said only where a template is looked
up. -/
def Outcome.BlamesLookup (outcome : Outcome) : Prop :=
  outcome = .fail .noEntry ∨ ∃ name, outcome = .fail (.undefinedTemplate name)

theorem not_blamesLookup_judgeErrors (config : Config) (messages : List String) :
    ¬ (config.judgeErrors messages).BlamesLookup := by
  unfold Outcome.BlamesLookup Config.judgeErrors
  repeat' split
  all_goals simp

theorem not_blamesLookup_judgeCompiled (config : Config) (compiled : String) :
    ¬ (config.judgeCompiled compiled).BlamesLookup := by
  unfold Outcome.BlamesLookup Config.judgeCompiled Config.judgeInputs
  repeat' split
  all_goals simp

theorem not_blamesLookup_judgeTemplate (config : Config) (shelf : Shelf) (template : Template) :
    ¬ (config.judgeTemplate shelf template).BlamesLookup := by
  unfold Config.judgeTemplate
  repeat' split
  · simp [Outcome.BlamesLookup]
  · exact not_blamesLookup_judgeErrors config _
  · exact not_blamesLookup_judgeCompiled config _

/-- **A missing template is only ever one that the test case names.** -/
theorem evaluateIn_of_blamesLookup {words : Toml.Fault → String} {config : Config} {body : String}
    (h : (evaluateIn words config body).BlamesLookup) :
    ∃ name, config.entry = some name ∧
      evaluateIn words config body = .fail (.undefinedTemplate name) := by
  unfold evaluateIn at h ⊢
  split at h
  · exact absurd h (not_blamesLookup_judgeErrors config _)
  · next definition hparse =>
      unfold Config.judgeDefinition at h ⊢
      rcases Definition.exists_chosen hparse config.entry with
        ⟨name, hwanted, hnone⟩ | ⟨name, template, hname, htemplate⟩
      · refine ⟨name, hwanted, ?_⟩
        rw [hwanted]
        simp only [Option.orElse_eq_orElse, Option.orElse_some, hnone]
      · rw [hname] at h
        simp only [htemplate] at h
        exact absurd h (not_blamesLookup_judgeTemplate config _ _)

end TestCase

namespace Command

/-- The message for a file that defines no templates. -/
def noTemplatesLine (file : String) : String := "error: '" ++ file ++ "' defines no templates"

/-- The message for a template that is not defined. -/
def undefinedLine (name available : String) : String :=
  "error: template '" ++ name ++ "' is not defined (available: " ++ available ++ ")"

/-- That there is no template to build, or that one is missing. -/
def Response.BlamesLookup (response : Response) : Prop :=
  (∃ file, response = .failure [noTemplatesLine file]) ∨
    ∃ name available, response = .failure [undefinedLine name available]

theorem noTemplatesLine_eq (file : String) :
    noTemplatesLine file = "error: '" ++ (file ++ "' defines no templates") :=
  String.append_assoc

theorem undefinedLine_eq (name available : String) :
    undefinedLine name available =
      "error: template '" ++ (name ++ "' is not defined (available: " ++ available ++ ")") := by
  unfold undefinedLine
  simp only [String.append_assoc]

theorem failure_injective {messages messages' : List String}
    (h : Response.failure messages = .failure messages') : messages = messages' :=
  congrArg Response.messages h

/-- A single message with another beginning blames something else. -/
theorem not_blamesLookup_of_start {start : String} (rest : String)
    (hfile : ¬ start.toList <+: "error: '".toList ∧ ¬ "error: '".toList <+: start.toList)
    (hname : ¬ start.toList <+: "error: template '".toList ∧
      ¬ "error: template '".toList <+: start.toList) :
    ¬ (Response.failure [start ++ rest]).BlamesLookup := by
  intro h
  rcases h with ⟨file, heq⟩ | ⟨name, available, heq⟩
  · have hline := List.singleton_injective (failure_injective heq)
    rw [noTemplatesLine_eq] at hline
    exact append_ne_append hfile.1 hfile.2 _ _ hline
  · have hline := List.singleton_injective (failure_injective heq)
    rw [undefinedLine_eq] at hline
    exact append_ne_append hname.1 hname.2 _ _ hline

theorem not_blamesLookup_success (output : List String) :
    ¬ (Response.success output).BlamesLookup := by
  simp [Response.BlamesLookup, Response.success, Response.failure]

/-- The lines that show errors are never a single one, since each error has a line behind it. -/
theorem not_blamesLookup_diagnosticLines (file source : String) (errors : List Definition.Error) :
    ¬ (Response.failure (errors.flatMap (diagnosticLines file source))).BlamesLookup := by
  have hlines : ∀ line, errors.flatMap (diagnosticLines file source) ≠ [line] := by
    intro line heq
    have hlength := congrArg List.length heq
    cases errors with
    | nil => cases hlength
    | cons error errors =>
        simp only [List.flatMap_cons, diagnosticLines, List.length_append, List.length_cons,
          List.length_nil] at hlength
        omega
  intro h
  rcases h with ⟨file, heq⟩ | ⟨name, available, heq⟩
  · exact hlines _ (failure_injective heq)
  · exact hlines _ (failure_injective heq)

theorem not_blamesLookup_compileTemplate (options : BuildOptions) (shelf : Shelf) (name : String)
    (template : Template) : ¬ (compileTemplate options shelf name template).BlamesLookup := by
  unfold compileTemplate
  split
  · simp only [String.append_assoc]
    exact not_blamesLookup_of_start _ (by decide) (by decide)
  · next pattern _ =>
      split
      · next e hverify =>
          -- the only failure here is that of the regular expression
          have hfault : ∃ fault, e = .invalidRegex fault := by
            split at hverify
            · unfold Pattern.toRegex at hverify
              cases hcompile : Regex.compile pattern.source pattern.modes with
              | ok regex => simp [hcompile, Except.mapError, Except.map] at hverify
              | error fault =>
                  simp only [hcompile, Except.mapError, Except.map, Except.error.injEq] at hverify
                  exact ⟨fault, hverify.symm⟩
            · cases hverify
          obtain ⟨fault, rfl⟩ := hfault
          have hmessage : "error: " ++ (TemplateError.invalidRegex fault).message =
              "error: invalid regular expression: " ++ fault.message := by
            have hstart : "error: invalid regular expression: " =
                "error: " ++ "invalid regular expression: " := by decide
            rw [hstart, String.append_assoc]
            rfl
          rw [hmessage]
          exact not_blamesLookup_of_start _ (by decide) (by decide)
      · exact not_blamesLookup_success _

/-- What building from an accepted text comes to: a template that is named is missing, or else one is
found. -/
theorem buildTemplate_cases {source : String} {fileId : Nat} {definition : Definition}
    (hparse : Definition.parse source fileId = .ok definition) (options : BuildOptions) :
    (∃ name, options.entry = some name ∧ definition.get? name = none ∧
      buildTemplate options definition =
        .failure [undefinedLine name (", ".intercalate definition.names)]) ∨
    ∃ name template, (options.entry <|> definition.entryName?) = some name ∧
      definition.get? name = some template ∧
      buildTemplate options definition =
        if options.unassigned then .success template.unassigned
        else compileTemplate options definition.shelf name template := by
  unfold buildTemplate
  rcases Definition.exists_chosen hparse options.entry with
    ⟨name, hwanted, hnone⟩ | ⟨name, template, hname, htemplate⟩
  · refine Or.inl ⟨name, hwanted, hnone, ?_⟩
    rw [hwanted]
    simp only [Option.orElse_eq_orElse, Option.orElse_some, hnone]
    rfl
  · refine Or.inr ⟨name, template, hname, htemplate, ?_⟩
    rw [hname]
    simp only [htemplate]

/-- **A missing template is only ever one that the command line names.** -/
theorem runBuild_of_blamesLookup {options : BuildOptions} {found : Except FileFault FileTree}
    (h : (runBuild options found).BlamesLookup) :
    ∃ name available, options.entry = some name ∧
      runBuild options found = .failure [undefinedLine name available] := by
  unfold runBuild at h ⊢
  split at h
  · simp only [String.append_assoc] at h
    exact absurd h (not_blamesLookup_of_start _ (by decide) (by decide))
  · next source _ =>
      unfold buildSource at h ⊢
      split at h
      · exact absurd h (not_blamesLookup_diagnosticLines _ _ _)
      · next definition hparse =>
          split at h
          · exact absurd h (not_blamesLookup_success _)
          · next hlist =>
              rw [if_neg hlist]
              rcases buildTemplate_cases hparse options with
                ⟨name, hwanted, -, heq⟩ | ⟨name, template, -, -, heq⟩
              · exact ⟨name, _, hwanted, heq⟩
              · rw [heq] at h
                split at h
                · exact absurd h (not_blamesLookup_success _)
                · exact absurd h (not_blamesLookup_compileTemplate _ _ _ _)

end Command

namespace Definition

/-- **Every accepted definition is well formed.**  If a text is accepted, then

* the names of the definition are those of the recipes of its document, in order; there is at least
  one, and they are pairwise distinct;
* a name stands for a template if and only if it is one of them;
* the entry is the one that the document declares, or else the last of the names, and it stands for a
  template.

Hence neither a test case nor a build ever finds that there is no entry, and unless a template is named
to them, neither ever finds that one is missing. -/
theorem parse_wellFormed :
    (∀ source fileId definition, parse source fileId = .ok definition →
      (∃ document, readDocument fileId source = .ok document ∧
        definition.names = document.recipes.map (·.name.value) ∧
        (∀ entry, document.entry = some entry → definition.entryName? = some entry.value) ∧
        (document.entry = none → definition.entryName? = definition.names.getLast?)) ∧
      definition.names ≠ [] ∧ definition.names.Nodup ∧
      (∀ name, (definition.get? name).isSome ↔ name ∈ definition.names) ∧
      ∃ name template, definition.entryName? = some name ∧
        definition.get? name = some template) ∧
    (∀ words config body, TestCase.evaluateIn words config body ≠ .fail .noEntry ∧
      (config.entry = none → ∀ name,
        TestCase.evaluateIn words config body ≠ .fail (.undefinedTemplate name))) ∧
    ∀ options found,
      (∀ file, Command.runBuild options found ≠
        .failure ["error: '" ++ file ++ "' defines no templates"]) ∧
      (options.entry = none → ∀ name available, Command.runBuild options found ≠
        .failure ["error: template '" ++ name ++ "' is not defined (available: " ++ available ++
          ")"]) := by
  refine ⟨fun source fileId definition hparse => ?_, fun words config body => ?_,
    fun options found => ?_⟩
  · obtain ⟨document, hread, hbuilt⟩ := parse_eq_ok_iff.1 hparse
    have h := wellFormed hbuilt
    exact ⟨⟨document, hread, h.names_eq, h.entryName_of_some, h.entryName_of_none⟩,
      h.names_ne_nil, h.nodup, fun name => isSome_get?_iff, h.exists_entry⟩
  · constructor
    · intro heq
      obtain ⟨name, -, hother⟩ := TestCase.evaluateIn_of_blamesLookup (Or.inl heq)
      rw [heq] at hother
      cases hother
    · intro hnone name heq
      obtain ⟨wanted, hwanted, -⟩ := TestCase.evaluateIn_of_blamesLookup (Or.inr ⟨name, heq⟩)
      rw [hnone] at hwanted
      cases hwanted
  · constructor
    · intro file heq
      obtain ⟨name, available, -, hother⟩ :=
        Command.runBuild_of_blamesLookup (Or.inl ⟨file, heq⟩)
      rw [heq] at hother
      have hlines := List.singleton_injective (Command.failure_injective hother)
      rw [Command.undefinedLine_eq, String.append_assoc] at hlines
      exact append_ne_append (by decide) (by decide) _ _ hlines
    · intro hnone name available heq
      obtain ⟨wanted, -, hwanted, -⟩ :=
        Command.runBuild_of_blamesLookup (Or.inr ⟨name, available, heq⟩)
      rw [hnone] at hwanted
      cases hwanted

/-- A document that declares the first of two templates as its entry. -/
def pairOfRecipes : String := "entry = 'a'\ntemplate = [['a', []], ['b', []]]"

/-- It is accepted, with that entry. -/
theorem parse_wellFormed_pairOfRecipes : ∃ definition, parse pairOfRecipes 0 = .ok definition ∧
    definition.names = ["a", "b"] ∧ definition.names.Nodup ∧
      definition.entryName? = some "a" ∧ (definition.get? "a").isSome := by
  have hshown : (parse pairOfRecipes 0).toOption.map
      (fun definition => (definition.names, definition.entryName?)) =
        some (["a", "b"], some "a") := by
    decide +kernel
  obtain ⟨definition, hparse, hshown⟩ := exists_of_toOption_map hshown
  obtain ⟨hnames, hentry⟩ := Prod.mk.inj hshown
  obtain ⟨-, -, hnodup, hget, -⟩ := parse_wellFormed.1 pairOfRecipes 0 definition hparse
  refine ⟨definition, hparse, hnames, hnodup, hentry, (hget "a").2 ?_⟩
  rw [hnames]
  exact List.mem_cons_self

end Definition

end RegexTemplate
