import Mathlib
import RegexTemplate.TestCase.Basic

/-!
# When a test case passes

The checks of a test case are made one after the other, and the first that fails ends it.  Here each of
them is turned into a condition on the configuration: which errors it accepts (`Config.Accepts`), and
what it asks of the template that is chosen (`Chosen`) and of its text (`Config.Meets`).

The words for a text that is no document are left open throughout.

Main statement: `evaluateIn_eq_pass_iff`.
-/

namespace RegexTemplate

/-- A text is accepted as a definition, and a template stands in it under the name that is wanted, or else
under that of its entry. -/
structure Chosen (body : String) (wanted : Option String) (definition : Definition)
    (template : Template) : Prop where
  parsed : Definition.parse body 0 = .ok definition
  named : ∃ name, (wanted <|> definition.entryName?) = some name ∧
    definition.get? name = some template

/-- At most one template is chosen. -/
theorem Chosen.unique {body : String} {wanted : Option String} {definition definition' : Definition}
    {template template' : Template} (h : Chosen body wanted definition template)
    (h' : Chosen body wanted definition' template') :
    definition = definition' ∧ template = template' := by
  have hdefinition : definition = definition' :=
    Except.ok.inj (h.parsed.symm.trans h'.parsed)
  subst hdefinition
  obtain ⟨name, hname, htemplate⟩ := h.named
  obtain ⟨name', hname', htemplate'⟩ := h'.named
  have hsame : name = name' := Option.some.inj (hname.symm.trans hname')
  subst hsame
  exact ⟨rfl, Option.some.inj (htemplate.symm.trans htemplate')⟩

namespace TestCase

variable {words : Toml.Fault → String} {config : Config}

/-- A failure with some messages is what is expected: a text is, and it occurs in one of them. -/
def Config.Accepts (config : Config) (messages : List String) : Prop :=
  ∃ expected, config.expectError = some expected ∧
    ∃ message ∈ messages, Text.occursIn expected message

/-- The inputs are matched and rejected as they should be.  The text is only read as a regular expression
if there are any. -/
def Config.Matches (config : Config) (text : String) : Prop :=
  config.matched = [] ∧ config.rejected = [] ∨
    ∃ regex, (Pattern.ofSource text).toRegex = .ok regex ∧
      (∀ input ∈ config.matched, regex.isMatch input) ∧
      ∀ input ∈ config.rejected, ¬ regex.isMatch input

/-- The names that are open are the expected ones, if any are. -/
def Config.Leaves (config : Config) (template : Template) : Prop :=
  ∀ names, config.expectUnassigned = some names → template.unassigned = names

/-- A text is what is expected. -/
structure Config.Meets (config : Config) (text : String) : Prop where
  expectError : config.expectError = none
  output : ∀ expected, config.expectOutput = some expected → expected = text
  inputs : config.Matches text

theorem judgeErrors_eq_pass_iff {messages : List String} :
    config.judgeErrors messages = .pass ↔ config.Accepts messages := by
  unfold Config.judgeErrors Config.Accepts
  cases config.expectError with
  | none => simp
  | some expected => simp

theorem judgeInputs_eq_pass_iff {regex : Regex} :
    config.judgeInputs regex = .pass ↔
      (∀ input ∈ config.matched, regex.isMatch input) ∧
        ∀ input ∈ config.rejected, ¬ regex.isMatch input := by
  unfold Config.judgeInputs
  cases hmatched : config.matched.find? fun input => !regex.isMatch input with
  | some input =>
      have hmissing : ¬ regex.isMatch input := by simpa using List.find?_some hmatched
      have hmem : input ∈ config.matched := List.mem_of_find?_eq_some hmatched
      constructor
      · intro h
        cases h
      · intro h
        exact absurd (h.1 input hmem) hmissing
  | none =>
      have hall : ∀ input ∈ config.matched, regex.isMatch input := by
        simpa using List.find?_eq_none.1 hmatched
      cases hrejected : config.rejected.find? regex.isMatch with
      | some input =>
          have hfound : regex.isMatch input := List.find?_some hrejected
          have hmem : input ∈ config.rejected := List.mem_of_find?_eq_some hrejected
          constructor
          · intro h
            cases h
          · intro h
            exact absurd hfound (h.2 input hmem)
      | none =>
          have hnone := List.find?_eq_none.1 hrejected
          exact ⟨fun _ => ⟨hall, hnone⟩, fun _ => rfl⟩

/-- An expectation that may be missing is met exactly if the check finds nothing that differs. -/
theorem filter_ne_eq_none_iff {α : Type} [DecidableEq α] {expected : Option α} {actual : α} :
    expected.filter (· ≠ actual) = none ↔ ∀ value, expected = some value → value = actual := by
  cases expected with
  | none => simp
  | some value => simp

theorem judgeCompiled_eq_pass_iff {text : String} :
    config.judgeCompiled text = .pass ↔ config.Meets text := by
  unfold Config.judgeCompiled
  cases herror : config.expectError with
  | some expected =>
      constructor
      · intro h
        cases h
      · intro h
        rw [h.expectError] at herror
        cases herror
  | none =>
      cases houtput : config.expectOutput.filter (· ≠ text) with
      | some expected =>
          constructor
          · intro h
            cases h
          · intro h
            rw [filter_ne_eq_none_iff.2 h.output] at houtput
            cases houtput
      | none =>
          have hexpected := filter_ne_eq_none_iff.1 houtput
          have hmeets : config.Meets text ↔ config.Matches text :=
            ⟨Config.Meets.inputs, fun h => ⟨herror, hexpected, h⟩⟩
          rw [hmeets, Config.Matches, ← List.isEmpty_iff, ← List.isEmpty_iff, ← Bool.and_eq_true]
          dsimp only
          split
          · next hempty => simp [hempty]
          · next hsome =>
              cases hregex : (Pattern.ofSource text).toRegex with
              | error e => simp [hsome]
              | ok regex => simp [hsome, judgeInputs_eq_pass_iff]

theorem judgeTemplate_eq_pass_iff {shelf : Shelf} {template : Template} :
    config.judgeTemplate shelf template = .pass ↔ config.Leaves template ∧
      ((∃ e, shelf.compileSource template = .error e ∧ config.Accepts [e.message]) ∨
        ∃ text, shelf.compileSource template = .ok text ∧ config.Meets text) := by
  unfold Config.judgeTemplate
  have hleaves : config.expectUnassigned.filter (· ≠ template.unassigned) = none ↔
      config.Leaves template := by
    rw [filter_ne_eq_none_iff, Config.Leaves]
    exact forall₂_congr fun names _ => eq_comm
  cases hnames : config.expectUnassigned.filter (· ≠ template.unassigned) with
  | some expected =>
      have hnot : ¬ config.Leaves template := by
        intro h
        rw [hleaves.2 h] at hnames
        cases hnames
      simp [hnot]
  | none =>
      have hmet := hleaves.1 hnames
      cases hrun : shelf.compileSource template with
      | error e => simp [hmet, judgeErrors_eq_pass_iff]
      | ok text => simp [hmet, judgeCompiled_eq_pass_iff]

/-- An accepted definition passes exactly if a template is chosen from it and this one passes. -/
theorem judgeDefinition_eq_pass_iff {body : String} {definition : Definition}
    (hparse : Definition.parse body 0 = .ok definition) :
    config.judgeDefinition definition = .pass ↔
      ∃ template, Chosen body config.entry definition template ∧
        config.judgeTemplate definition.shelf template = .pass := by
  unfold Config.judgeDefinition
  cases hname : config.entry <|> definition.entryName? with
  | none =>
      constructor
      · intro h
        cases h
      · intro hgiven
        obtain ⟨template, h, -⟩ := hgiven
        obtain ⟨name, hnamed, -⟩ := h.named
        rw [hname] at hnamed
        cases hnamed
  | some name =>
      cases htemplate : definition.get? name with
      | none =>
          simp only [htemplate]
          constructor
          · intro h
            cases h
          · intro hgiven
            obtain ⟨template, h, -⟩ := hgiven
            obtain ⟨name', hnamed, hfound⟩ := h.named
            rw [hname, Option.some.injEq] at hnamed
            rw [← hnamed, htemplate] at hfound
            cases hfound
      | some template =>
          simp only [htemplate]
          have hchosen : Chosen body config.entry definition template :=
            ⟨hparse, name, hname, htemplate⟩
          constructor
          · intro h
            exact ⟨template, hchosen, h⟩
          · intro hgiven
            obtain ⟨template', h, hpass⟩ := hgiven
            rwa [← (hchosen.unique h).2] at hpass

/-- **A test case passes exactly in one of three ways.**  The definition is refused with an error that is
expected; or a template is chosen, the names that it leaves open are the expected ones, and it has no
text, with an error that is expected; or it has a text, and this meets the expectations. -/
theorem evaluateIn_eq_pass_iff {body : String} :
    evaluateIn words config body = .pass ↔
      (∃ errors, Definition.parse body 0 = .error errors ∧
        config.Accepts (errors.map (·.messageIn words))) ∨
      ∃ definition template, Chosen body config.entry definition template ∧
        config.Leaves template ∧
        ((∃ e, definition.shelf.compileSource template = .error e ∧ config.Accepts [e.message]) ∨
          ∃ text, definition.shelf.compileSource template = .ok text ∧ config.Meets text) := by
  unfold evaluateIn
  cases hparse : Definition.parse body 0 with
  | error errors =>
      have hnone : ∀ definition template, ¬ Chosen body config.entry definition template := by
        intro definition template h
        rw [h.parsed] at hparse
        cases hparse
      simp [judgeErrors_eq_pass_iff, hnone]
  | ok definition =>
      dsimp only
      rw [judgeDefinition_eq_pass_iff hparse]
      constructor
      · intro hgiven
        obtain ⟨template, h, hpass⟩ := hgiven
        exact Or.inr ⟨definition, template, h, judgeTemplate_eq_pass_iff.1 hpass⟩
      · intro hgiven
        rcases hgiven with ⟨errors, herrors, -⟩ | ⟨definition', template, h, hpass⟩
        · cases herrors
        · have hsame : definition = definition' := Except.ok.inj (hparse.symm.trans h.parsed)
          subst hsame
          exact ⟨template, h, judgeTemplate_eq_pass_iff.2 hpass⟩

/-- If no error is expected, a template is chosen and its text meets the expectations. -/
theorem exists_chosen_of_pass {body : String} (herror : config.expectError = none)
    (h : evaluateIn words config body = .pass) :
    ∃ definition template text, Chosen body config.entry definition template ∧
      config.Leaves template ∧ definition.shelf.compileSource template = .ok text ∧
      config.Meets text := by
  have hrefuses : ∀ messages, ¬ config.Accepts messages := by
    intro messages haccepts
    obtain ⟨expected, hexpected, -⟩ := haccepts
    rw [herror] at hexpected
    cases hexpected
  rcases evaluateIn_eq_pass_iff.1 h with
    ⟨errors, -, haccepts⟩ | ⟨definition, template, hchosen, hleaves, hrun⟩
  · exact absurd haccepts (hrefuses _)
  · rcases hrun with ⟨e, -, haccepts⟩ | ⟨text, htext, hmeets⟩
    · exact absurd haccepts (hrefuses _)
    · exact ⟨definition, template, text, hchosen, hleaves, htext, hmeets⟩

end TestCase

end RegexTemplate
