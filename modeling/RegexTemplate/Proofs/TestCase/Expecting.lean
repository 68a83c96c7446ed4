import RegexTemplate.Proofs.Template.Substitution
import RegexTemplate.Proofs.TestCase.Passing

/-!
# What the expectations of a test case say together

The expectations are checked along a way on which two things can fail: the text of a definition can be
refused, and the template that is chosen can stay without a text.  Which of them are looked at depends
on how far this comes, and `Config.MetBy` has one case for each of the places where it can end.  From
the cases it is read off that a configuration which asks for less is met by whatever meets the other
(`Config.MetBy.of_eases`), and that a text which meets its configuration has a template with a text if
and only if no error is expected (`Config.MetBy.expectError_eq_none_iff`).

Main statement: `evaluate_eq_pass_exactly`.
-/

namespace RegexTemplate.TestCase

variable {words : Toml.Fault → String} {config eased : Config} {body : String}

/-- An error is expected, and what is expected of it occurs in a message. -/
def Config.Awaits (config : Config) (message : String) : Prop :=
  ∃ expected, config.expectError = some expected ∧ expected.toList <:+: message.toList

/-- If names are expected, they are the open names of a template, each once and in ascending order. -/
def Config.ListsOpen (config : Config) (template : Template) : Prop :=
  ∀ names, config.expectUnassigned = some names →
    names.Pairwise (· < ·) ∧ ∀ name, name ∈ names ↔ name ∈ template.unassigned

/-- The three ways in which a text meets a configuration, where the words for a text that is no document
are given. -/
inductive Config.MetBy (words : Toml.Fault → String) (config : Config) (body : String) : Prop where
  /-- The text is refused as a definition, with an error that is expected. -/
  | refused {errors : List Definition.Error} {error : Definition.Error}
      (parsed : Definition.parse body 0 = .error errors) (mem : error ∈ errors)
      (awaited : config.Awaits (error.messageIn words))
  /-- The chosen template has no text, and the reason is expected. -/
  | stopped {definition : Definition} {template : Template} {reason : TemplateError}
      (chosen : Chosen body config.entry definition template)
      (opened : config.ListsOpen template)
      (failed : definition.shelf.compileSource template = .error reason)
      (awaited : config.Awaits reason.message)
  /-- The chosen template has a text, which is the expected one and does with the inputs what is
  expected of it; no error is expected. -/
  | written {definition : Definition} {template : Template} {text : String}
      (chosen : Chosen body config.entry definition template)
      (opened : config.ListsOpen template)
      (compiled : definition.shelf.compileSource template = .ok text)
      (silent : config.expectError = none)
      (output : ∀ expected, config.expectOutput = some expected → expected = text)
      (inputs : config.Matches text)

/-- A configuration that asks for the same entry and the same error as another, and otherwise for some
of what the other asks for. -/
structure Config.Eases (config eased : Config) : Prop where
  entry : eased.entry = config.entry
  expectError : eased.expectError = config.expectError
  expectOutput : eased.expectOutput = none ∨ eased.expectOutput = config.expectOutput
  expectUnassigned : eased.expectUnassigned = none ∨
    eased.expectUnassigned = config.expectUnassigned
  matched : eased.matched ⊆ config.matched
  rejected : eased.rejected ⊆ config.rejected

theorem accepts_iff {messages : List String} :
    config.Accepts messages ↔ ∃ message ∈ messages, config.Awaits message := by
  simp only [Config.Accepts, Config.Awaits, Text.occursIn_iff]
  constructor
  · intro haccepts
    obtain ⟨expected, herror, message, hmessage, hoccurs⟩ := haccepts
    exact ⟨message, hmessage, expected, herror, hoccurs⟩
  · intro hawaited
    obtain ⟨message, hmessage, expected, herror, hoccurs⟩ := hawaited
    exact ⟨expected, herror, message, hmessage, hoccurs⟩

/-- The open names of a template are listed in ascending order, so that a list of names is theirs as
soon as it is in that order and has the same members. -/
theorem leaves_iff {template : Template} :
    config.Leaves template ↔ config.ListsOpen template := by
  refine forall₂_congr fun names _ => ?_
  have hsorted := Template.pairwise_unassigned template
  constructor
  · intro hnames
    subst hnames
    exact ⟨hsorted, fun _ => Iff.rfl⟩
  · intro hlisted
    obtain ⟨hascending, hmem⟩ := hlisted
    exact hsorted.eq_of_mem_iff hascending fun name => (hmem name).symm

/-- A test case passes if and only if its text meets its configuration. -/
theorem evaluateIn_eq_pass_iff_metBy :
    evaluateIn words config body = .pass ↔ config.MetBy words body := by
  rw [evaluateIn_eq_pass_iff]
  constructor
  · intro hpasses
    rcases hpasses with
      ⟨errors, hparsed, haccepts⟩ | ⟨definition, template, hchosen, hleaves, hrun⟩
    · obtain ⟨message, hmessage, hawaited⟩ := accepts_iff.1 haccepts
      obtain ⟨error, herror, rfl⟩ := List.mem_map.1 hmessage
      exact .refused hparsed herror hawaited
    · have hopened := leaves_iff.1 hleaves
      rcases hrun with ⟨reason, hfailed, haccepts⟩ | ⟨text, hcompiled, hmeets⟩
      · obtain ⟨message, hmessage, hawaited⟩ := accepts_iff.1 haccepts
        rw [List.mem_singleton.1 hmessage] at hawaited
        exact .stopped hchosen hopened hfailed hawaited
      · exact .written hchosen hopened hcompiled hmeets.expectError hmeets.output hmeets.inputs
  · intro hmet
    cases hmet with
    | @refused errors error hparsed herror hawaited =>
        have hmessage : error.messageIn words ∈ errors.map (·.messageIn words) :=
          List.mem_map_of_mem herror
        exact Or.inl ⟨errors, hparsed, accepts_iff.2 ⟨_, hmessage, hawaited⟩⟩
    | @stopped definition template reason hchosen hopened hfailed hawaited =>
        have haccepts : config.Accepts [reason.message] :=
          accepts_iff.2 ⟨reason.message, List.mem_singleton_self _, hawaited⟩
        exact Or.inr ⟨definition, template, hchosen, leaves_iff.2 hopened,
          Or.inl ⟨reason, hfailed, haccepts⟩⟩
    | @written definition template text hchosen hopened hcompiled hsilent houtput hinputs =>
        exact Or.inr ⟨definition, template, hchosen, leaves_iff.2 hopened,
          Or.inr ⟨text, hcompiled, hsilent, houtput, hinputs⟩⟩

namespace Config

theorem Eases.awaits {message : String} (h : config.Eases eased) (hawaited : config.Awaits message) :
    eased.Awaits message := by
  rw [Awaits, h.expectError]
  exact hawaited

theorem Eases.listsOpen {template : Template} (h : config.Eases eased)
    (hopened : config.ListsOpen template) : eased.ListsOpen template := by
  intro names hnames
  rcases h.expectUnassigned with hnone | hsame
  · rw [hnone] at hnames
    cases hnames
  · rw [hsame] at hnames
    exact hopened names hnames

theorem Eases.output {text : String} (h : config.Eases eased)
    (houtput : ∀ expected, config.expectOutput = some expected → expected = text) :
    ∀ expected, eased.expectOutput = some expected → expected = text := by
  intro expected hexpected
  rcases h.expectOutput with hnone | hsame
  · rw [hnone] at hexpected
    cases hexpected
  · rw [hsame] at hexpected
    exact houtput expected hexpected

/-- With fewer inputs the text need not even be accepted as a regular expression. -/
theorem Eases.inputs {text : String} (h : config.Eases eased) (hinputs : config.Matches text) :
    eased.Matches text := by
  rcases hinputs with ⟨hmatched, hrejected⟩ | ⟨regex, hregex, hmatched, hrejected⟩
  · refine Or.inl ⟨List.eq_nil_of_subset_nil ?_, List.eq_nil_of_subset_nil ?_⟩
    · rw [← hmatched]
      exact h.matched
    · rw [← hrejected]
      exact h.rejected
  · exact Or.inr ⟨regex, hregex, fun input hinput => hmatched input (h.matched hinput),
      fun input hinput => hrejected input (h.rejected hinput)⟩

/-- What meets a configuration meets one that asks for less. -/
theorem MetBy.of_eases (h : config.Eases eased) (hmet : config.MetBy words body) :
    eased.MetBy words body := by
  cases hmet with
  | refused hparsed herror hawaited => exact .refused hparsed herror (h.awaits hawaited)
  | stopped hchosen hopened hfailed hawaited =>
      rw [← h.entry] at hchosen
      exact .stopped hchosen (h.listsOpen hopened) hfailed (h.awaits hawaited)
  | written hchosen hopened hcompiled hsilent houtput hinputs =>
      rw [← h.entry] at hchosen
      rw [← h.expectError] at hsilent
      exact .written hchosen (h.listsOpen hopened) hcompiled hsilent (h.output houtput)
        (h.inputs hinputs)

theorem Awaits.expectError_ne_none {message : String} (h : config.Awaits message) :
    config.expectError ≠ none := by
  obtain ⟨expected, herror, -⟩ := h
  rw [herror]
  exact Option.some_ne_none expected

/-- No error is expected by what is met exactly if the template that is chosen has a text. -/
theorem MetBy.expectError_eq_none_iff (h : config.MetBy words body) :
    config.expectError = none ↔ ∃ definition template text,
      Chosen body config.entry definition template ∧
        definition.shelf.compileSource template = .ok text := by
  cases h with
  | refused hparsed herror hawaited =>
      refine iff_of_false hawaited.expectError_ne_none ?_
      intro hgiven
      obtain ⟨definition, template, text, hchosen, -⟩ := hgiven
      have hsame := hparsed.symm.trans hchosen.parsed
      cases hsame
  | stopped hchosen hopened hfailed hawaited =>
      refine iff_of_false hawaited.expectError_ne_none ?_
      intro hgiven
      obtain ⟨definition, template, text, hother, hcompiled⟩ := hgiven
      obtain ⟨rfl, rfl⟩ := hchosen.unique hother
      rw [hfailed] at hcompiled
      cases hcompiled
  | written hchosen hopened hcompiled hsilent houtput hinputs =>
      exact iff_of_true hsilent ⟨_, _, _, hchosen, hcompiled⟩

end Config

/-- **A test case passes exactly when its expectations are met**, whatever a text that is no document is
called.

* It passes if and only if its text meets its configuration in one of the three ways.
* If it passes, it still does when the expected text, the expected names or some of the inputs are
  dropped.
* No text passes both with and without an expected error, the rest of the configuration being the
  same. -/
theorem evaluate_eq_pass_exactly (words : Toml.Fault → String) :
    (∀ (config : Config) (body : String),
      evaluateIn words config body = .pass ↔ config.MetBy words body) ∧
    (∀ (config eased : Config) (body : String), config.Eases eased →
      evaluateIn words config body = .pass → evaluateIn words eased body = .pass) ∧
    ∀ (config : Config) (body expected : String),
      ¬ (evaluateIn words { config with expectError := none } body = .pass ∧
        evaluateIn words { config with expectError := some expected } body = .pass) := by
  refine ⟨fun config body => evaluateIn_eq_pass_iff_metBy, ?_, ?_⟩
  · intro config eased body heases hpass
    have hmet := evaluateIn_eq_pass_iff_metBy.1 hpass
    exact evaluateIn_eq_pass_iff_metBy.2 (hmet.of_eases heases)
  · intro config body expected hboth
    obtain ⟨hwithout, hwith⟩ := hboth
    have hcompiled := (evaluateIn_eq_pass_iff_metBy.1 hwithout).expectError_eq_none_iff.1 rfl
    have hnone := (evaluateIn_eq_pass_iff_metBy.1 hwith).expectError_eq_none_iff.2 hcompiled
    cases hnone

/-- A definition with a template that is filled in and one that is left open. -/
def openRecipe : String :=
  "template = [['a', ['/b\\VAR\x7bx\x7d/'], \x7b x = '/c+/' \x7d], ['d', ['/\\VAR\x7by\x7d/']]]"

/-- Everything that can be expected of the template that is filled in. -/
def strictConfig : Config where
  entry := some "a"
  expectOutput := some "bc+"
  expectUnassigned := some []
  matched := ["abcc"]
  rejected := ["ac", ""]

/-- The strict configuration is met, also when only some inputs of it are left, but not when an error
is expected.  The second template has no text, and this is what its configuration expects; a document
without templates is refused.  A text that is no document meets what expects the words for it. -/
theorem evaluate_eq_pass_exactly_openRecipe :
    strictConfig.Eases { entry := some "a", rejected := [""] } ∧
      evaluate strictConfig openRecipe = .pass ∧
      evaluate { entry := some "a", rejected := [""] } openRecipe = .pass ∧
      ¬ evaluate { strictConfig with expectError := some "" } openRecipe = .pass ∧
      Config.MetBy Toml.Fault.message
        { expectError := some "placeholder(s): y", expectUnassigned := some ["y"] } openRecipe ∧
      Config.MetBy Toml.Fault.message { expectError := some "no templates" } "" ∧
      Config.MetBy (fun _ => "TOML parse error") { expectError := some "parse" } "=" := by
  obtain ⟨hexactly, hkept, hnever⟩ := evaluate_eq_pass_exactly Toml.Fault.message
  have heases : strictConfig.Eases { entry := some "a", rejected := [""] } :=
    ⟨rfl, rfl, Or.inl rfl, Or.inl rfl, by decide, by decide⟩
  have hstrict : evaluate strictConfig openRecipe = .pass := by decide +kernel
  have hlenient := hkept strictConfig _ openRecipe heases hstrict
  have herror : ¬ evaluate { strictConfig with expectError := some "" } openRecipe = .pass :=
    fun hpass => hnever strictConfig openRecipe "" ⟨hstrict, hpass⟩
  refine ⟨heases, hstrict, hlenient, herror, (hexactly _ _).1 ?_, (hexactly _ _).1 ?_,
    ((evaluate_eq_pass_exactly _).1 _ _).1 ?_⟩
  · decide +kernel
  · decide +kernel
  · decide +kernel

end RegexTemplate.TestCase
