import Mathlib
import RegexTemplate.Proofs.Command.Writing
import RegexTemplate.Proofs.Definition.WellFormed
import RegexTemplate.Proofs.TestCase.Passing

/-!
# When a template is built

Building looks up a template, puts it into a text, and may check that this is a regular expression.  If
all of it succeeds there is one line of output (`Builds`), and otherwise there is none
(`runBuild_cases`).  A test case makes the same steps by itself, in an order of its own, and both depend
on the same template and the same text.  What the words for a text that is no document are makes no
difference to this.

Main statement: `evaluate_agrees_with_build`.
-/

namespace RegexTemplate.Command

variable {words : Toml.Fault → String} {options : BuildOptions} {body text : String}

/-- A file with a text. -/
def fileOf (body : String) : Except FileFault FileTree := .ok (.file body.toUTF8)

theorem readText_fileOf (body : String) : (fileOf body).bind FileTree.readText = .ok body := by
  have hread : String.fromUTF8? body.toUTF8 = some body := by
    unfold String.fromUTF8?
    rw [String.toUTF8_eq_toByteArray, dif_pos body.isValidUTF8]
    rfl
  change FileTree.readText (.file body.toUTF8) = .ok body
  unfold FileTree.readText
  dsimp only
  rw [hread]

/-- What is asked of a text before it is written. -/
def BuildOptions.Admits (options : BuildOptions) (text : String) : Prop :=
  options.verify = true → ∃ regex, (Pattern.ofSource text).toRegex = .ok regex

/-- The line that is written for a text. -/
def BuildOptions.line (options : BuildOptions) (text : String) : String :=
  if options.delimited then (Pattern.ofSource text).delimited else text

/-- A template is chosen from a definition, and it has a text that may be written. -/
def Builds (options : BuildOptions) (body text : String) : Prop :=
  ∃ definition template, Chosen body options.entry definition template ∧
    definition.shelf.compileSource template = .ok text ∧ options.Admits text

/-- At most one text is built. -/
theorem Builds.unique {other : String} (h : Builds options body text)
    (h' : Builds options body other) : text = other := by
  obtain ⟨definition, template, hchosen, htext, -⟩ := h
  obtain ⟨definition', template', hchosen', hother, -⟩ := h'
  obtain ⟨hdefinition, htemplate⟩ := hchosen.unique hchosen'
  subst hdefinition htemplate
  exact Except.ok.inj (htext.symm.trans hother)

/-- A template that is put into its text gives one line, or else a message. -/
theorem compileTemplate_cases (options : BuildOptions) (shelf : Shelf) (name : String)
    (template : Template) :
    (∃ text, shelf.compileSource template = .ok text ∧ options.Admits text ∧
      compileTemplate options shelf name template = .success [options.line text]) ∨
    (∀ text, shelf.compileSource template = .ok text → ¬ options.Admits text) ∧
      ∃ message, compileTemplate options shelf name template = .failure [message] := by
  unfold compileTemplate Shelf.compile BuildOptions.Admits
  cases hrun : shelf.compileSource template with
  | error e =>
      refine Or.inr ⟨?_, _, rfl⟩
      intro text htext
      cases htext
  | ok text =>
      have honly : ∀ other, (Except.ok text : Except TemplateError String) = .ok other →
          other = text := by
        intro other hother
        exact (Except.ok.inj hother).symm
      cases hverify : options.verify with
      | false =>
          refine Or.inl ⟨text, rfl, ?_, rfl⟩
          intro h
          cases h
      | true =>
          have hpattern : Except.map Pattern.ofSource (Except.ok text) =
              (Except.ok (Pattern.ofSource text) : Except TemplateError Pattern) := rfl
          rw [hpattern]
          dsimp only
          rw [if_pos rfl]
          cases hregex : (Pattern.ofSource text).toRegex with
          | error e =>
              refine Or.inr ⟨?_, _, rfl⟩
              intro other hother hadmits
              rw [honly other hother, hregex] at hadmits
              obtain ⟨regex, h⟩ := hadmits rfl
              cases h
          | ok regex => exact Or.inl ⟨text, rfl, fun _ => ⟨regex, hregex⟩, rfl⟩

/-- A template of an accepted definition gives one line if it can be built, or else messages. -/
theorem buildTemplate_dichotomy {definition : Definition}
    (hparse : Definition.parse body 0 = .ok definition) (hunassigned : options.unassigned = false) :
    (∃ text, Builds options body text ∧
      buildTemplate options definition = .success [options.line text]) ∨
    (¬ ∃ text, Builds options body text) ∧
      ∃ messages, buildTemplate options definition = .failure messages := by
  rcases buildTemplate_cases hparse options with
    ⟨name, hwanted, hmissing, heq⟩ | ⟨name, template, hname, htemplate, heq⟩
  · refine Or.inr ⟨?_, _, heq⟩
    intro hgiven
    obtain ⟨text, definition', template, h, -⟩ := hgiven
    have hsame : definition = definition' := Except.ok.inj (hparse.symm.trans h.parsed)
    subst hsame
    obtain ⟨name', hnamed, hfound⟩ := h.named
    rw [hwanted, Option.orElse_eq_orElse, Option.orElse_some, Option.some.injEq] at hnamed
    rw [← hnamed, hmissing] at hfound
    cases hfound
  · have hchosen : Chosen body options.entry definition template :=
      ⟨hparse, name, hname, htemplate⟩
    rw [heq, hunassigned, if_neg Bool.false_ne_true]
    rcases compileTemplate_cases options definition.shelf name template with
      ⟨text, htext, hadmits, hrun⟩ | ⟨hnone, message, hrun⟩
    · exact Or.inl ⟨text, ⟨definition, template, hchosen, htext, hadmits⟩, hrun⟩
    · refine Or.inr ⟨?_, _, hrun⟩
      intro hgiven
      obtain ⟨text, definition', template', h, htext, hadmits⟩ := hgiven
      obtain ⟨hdefinition, hsame⟩ := hchosen.unique h
      subst hdefinition hsame
      exact hnone text htext hadmits

/-- **Building is all or nothing.**  A template that can be built gives one line of output.  Otherwise there
is no output and the exit code is that of a failure. -/
theorem runBuild_cases (options : BuildOptions) (hlist : options.list = false)
    (hunassigned : options.unassigned = false) (body : String) :
    (∃ text, Builds options body text ∧
      runBuild options (fileOf body) = .success [options.line text]) ∨
    (¬ ∃ text, Builds options body text) ∧
      ∃ messages, runBuild options (fileOf body) = .failure messages := by
  unfold runBuild
  rw [readText_fileOf]
  dsimp only
  unfold buildSource
  cases hparse : Definition.parse body 0 with
  | error errors =>
      refine Or.inr ⟨?_, _, rfl⟩
      intro hgiven
      obtain ⟨text, definition, template, h, -⟩ := hgiven
      rw [h.parsed] at hparse
      cases hparse
  | ok definition =>
      dsimp only
      rw [hlist, if_neg Bool.false_ne_true]
      exact buildTemplate_dichotomy hparse hunassigned

/-- The line of output is that of the text. -/
theorem runBuild_of_builds (hlist : options.list = false) (hunassigned : options.unassigned = false)
    (h : Builds options body text) :
    runBuild options (fileOf body) = .success [options.line text] := by
  rcases runBuild_cases options hlist hunassigned body with ⟨other, hother, hrun⟩ | ⟨hnone, -⟩
  · rw [hrun, hother.unique h]
  · exact absurd ⟨text, h⟩ hnone

/-- If a template can be built, the list that may be asked for in its place is written with success
too. -/
theorem code_runBuild_of_builds (h : Builds options body text) :
    (runBuild options (fileOf body)).code = 0 := by
  by_cases hplain : options.list = false ∧ options.unassigned = false
  · rw [runBuild_of_builds hplain.1 hplain.2 h]
    rfl
  · obtain ⟨definition, template, hchosen, -, -⟩ := h
    obtain ⟨name, hname, htemplate⟩ := hchosen.named
    unfold runBuild
    rw [readText_fileOf]
    dsimp only
    unfold buildSource
    rw [hchosen.parsed]
    dsimp only
    split
    · rfl
    · next hlist =>
        have hunassigned : options.unassigned = true := by
          simpa [hlist] using hplain
        unfold buildTemplate
        rw [hname]
        simp only [htemplate]
        rw [if_pos hunassigned]
        rfl

theorem textOfLines_singleton_inj {line other : String} :
    textOfLines [line] = other ++ "\n" ↔ line = other := by
  have hline : textOfLines [line] = line ++ "\n" := by simp [textOfLines]
  rw [hline]
  constructor
  · intro h
    have hchars := congrArg String.toList h
    rw [String.toList_append, String.toList_append] at hchars
    exact String.toList_injective (List.append_cancel_right hchars)
  · intro h
    rw [h]

/-- A test case that expects only an output passes if and only if this is what is built. -/
theorem evaluateIn_output_eq_pass_iff (file : String) {entry : Option String} :
    TestCase.evaluateIn words { entry, expectOutput := some text } body = .pass ↔
      Builds { file, entry } body text := by
  constructor
  · intro hpass
    obtain ⟨definition, template, compiled, h, -, hcompiled, hmeets⟩ :=
      TestCase.exists_chosen_of_pass rfl hpass
    have hsame : text = compiled := hmeets.output text rfl
    subst hsame
    exact ⟨definition, template, h, hcompiled, fun hverify => nomatch hverify⟩
  · intro hgiven
    obtain ⟨definition, template, h, hcompiled, -⟩ := hgiven
    have hmeets : TestCase.Config.Meets { entry, expectOutput := some text } text := by
      refine ⟨rfl, ?_, Or.inl ⟨rfl, rfl⟩⟩
      intro expected hexpected
      exact (Option.some.inj hexpected).symm
    refine TestCase.evaluateIn_eq_pass_iff.2 (Or.inr ⟨definition, template, h, ?_, Or.inr ?_⟩)
    · intro names hnames
      cases hnames
    · exact ⟨text, hcompiled, hmeets⟩

/-- **Test cases and builds agree.**  For every text of a definition, whatever a text that is no document
is called,

* a test case that names an entry, or none, and expects only an output passes if and only if building
  with the same entry succeeds and writes that output and a line feed;
* if a test case has inputs to match or to reject, expects no error and passes, then building with the
  same entry succeeds also when the result is verified;
* all these builds, whatever their entry is called, are asked for by command lines. -/
theorem evaluate_agrees_with_build (words : Toml.Fault → String) (body : String) :
    (∀ (file : String) (entry : Option String) (text : String),
      TestCase.evaluateIn words { entry, expectOutput := some text } body = .pass ↔
        (runBuild { file, entry } (fileOf body)).code = 0 ∧
          textOfLines (runBuild { file, entry } (fileOf body)).output = text ++ "\n") ∧
    (∀ (config : TestCase.Config) (options : BuildOptions),
      (config.matched ≠ [] ∨ config.rejected ≠ []) → config.expectError = none →
      TestCase.evaluateIn words config body = .pass →
      options.entry = config.entry → options.verify = true →
        (runBuild options (fileOf body)).code = 0) ∧
    ∀ (options : BuildOptions) (find : String → Except FileFault FileTree),
      find options.file = fileOf body →
        answer (buildWords options) find = runBuild options (fileOf body) := by
  refine ⟨fun file entry text => ?_, fun config options hinputs herror hpass hentry hverify => ?_,
    fun options find hfind => ?_⟩
  · rw [evaluateIn_output_eq_pass_iff file]
    constructor
    · intro h
      rw [runBuild_of_builds rfl rfl h]
      exact ⟨rfl, textOfLines_singleton_inj.2 rfl⟩
    · intro hgiven
      obtain ⟨hcode, houtput⟩ := hgiven
      rcases runBuild_cases { file, entry } rfl rfl body with
        ⟨other, hother, hrun⟩ | ⟨-, messages, hrun⟩
      · rw [hrun] at houtput
        have hsame : other = text := textOfLines_singleton_inj.1 houtput
        rwa [← hsame]
      · rw [hrun] at hcode
        cases hcode
  · obtain ⟨definition, template, text, h, -, htext, hmeets⟩ :=
      TestCase.exists_chosen_of_pass herror hpass
    have hadmits : options.Admits text := by
      intro _
      rcases hmeets.inputs with ⟨hmatched, hrejected⟩ | ⟨regex, hregex, -⟩
      · rcases hinputs with hsome | hsome
        · exact absurd hmatched hsome
        · exact absurd hrejected hsome
      · exact ⟨regex, hregex⟩
    rw [← hentry] at h
    exact code_runBuild_of_builds ⟨definition, template, h, htext, hadmits⟩
  · rw [answer_buildWords, hfind]

/-- A definition whose one template is filled in. -/
def filledRecipe : String := "template = [['a', ['/b\\VAR\x7bx\x7d/'], \x7b x = '/c+/' \x7d]]"

/-- Its test case passes with one input to match and one to reject, and so the build is verified, which a
command line asks for. -/
theorem evaluate_agrees_with_build_filledRecipe :
    TestCase.evaluate { entry := some "a", matched := ["abcc"], rejected := ["ac"] } filledRecipe =
        .pass ∧
      (runBuild { file := "f", entry := some "a", verify := true } (fileOf filledRecipe)).code = 0 ∧
      (answer ["build", "--entry=a", "--verify", "--", "f"] fun _ => fileOf filledRecipe).code = 0 := by
  have hpass : TestCase.evaluate { entry := some "a", matched := ["abcc"], rejected := ["ac"] }
      filledRecipe = .pass := by
    decide +kernel
  obtain ⟨-, hverified, hanswers⟩ := evaluate_agrees_with_build Toml.Fault.message filledRecipe
  have hcode := hverified { entry := some "a", matched := ["abcc"], rejected := ["ac"] }
    { file := "f", entry := some "a", verify := true } (Or.inl (List.cons_ne_nil _ _)) rfl hpass rfl rfl
  have hwords : ["build", "--entry=a", "--verify", "--", "f"] =
      buildWords { file := "f", entry := some "a", verify := true } := by
    decide
  refine ⟨hpass, hcode, ?_⟩
  rw [hwords, hanswers _ _ rfl]
  exact hcode

end RegexTemplate.Command
