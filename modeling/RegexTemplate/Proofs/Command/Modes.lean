import Mathlib
import RegexTemplate.Proofs.Command.Building
import RegexTemplate.Proofs.Pattern.Delimiting

/-!
# One file built in several modes

Whatever is asked of a file, the answer is whole: output without an error, or an error without output
(`whole_runBuild`).  A run that builds a template looks the template up before it does anything else,
and this depends on the file and the entry only (`runBuild_lookup`).  So runs in different modes end
alike, or all work on the same template: its open names are what a list of them shows and what stops it
from being put into a text, and its text is what is verified and what is written, between slashes or
not.

Main statement: `build_modes_agree`.
-/

namespace RegexTemplate

/-- A text that is no document is refused with one error. -/
theorem Definition.exists_singleton_of_readDocument_eq_error {source : String} {fileId : Nat}
    {errors : List Error} (h : readDocument fileId source = .error errors) :
    ∃ error, errors = [error] := by
  unfold readDocument at h
  split at h
  · exact ⟨_, (Except.error.inj h).symm⟩
  · next entries _ =>
      cases hdecode : Document.decode entries with
      | error mismatch =>
          rw [hdecode] at h
          exact ⟨_, (Except.error.inj h).symm⟩
      | ok document =>
          rw [hdecode] at h
          cases h

/-- A text that is refused is refused with an error. -/
theorem Definition.ne_nil_of_parse_eq_error {source : String} {fileId : Nat} {errors : List Error}
    (h : parse source fileId = .error errors) : errors ≠ [] := by
  cases hread : readDocument fileId source with
  | error found =>
      have hfound : found = errors := by
        rw [parse, hread] at h
        exact Except.error.inj h
      obtain ⟨error, hone⟩ := exists_singleton_of_readDocument_eq_error hread
      rw [← hfound, hone]
      exact List.cons_ne_nil _ _
  | ok document =>
      rw [parse_of_readDocument hread] at h
      obtain ⟨blocks, hblocks⟩ := exists_blocks fileId document.recipes
      rcases ofDocument_cases hblocks with ⟨-, hbuilt⟩ | ⟨hreport, hfailed⟩
      · rw [hbuilt] at h
        cases h
      · rw [hfailed, Except.error.injEq] at h
        rwa [← h]

/-- A template with open names has no text, and they are what the error says. -/
theorem Shelf.compileSource_of_not_isComplete (shelf : Shelf) {template : Template}
    (h : ¬ template.isComplete) :
    shelf.compileSource template = .error (.unboundPlaceholder template.unassigned) := by
  unfold compileSource rendering Template.render
  rw [if_neg h]
  rfl

namespace Command

variable {options : BuildOptions} {found : Except FileFault FileTree}

/-- Some message is an error. -/
def HasError (messages : List String) : Prop :=
  ∃ line ∈ messages, "error: ".toList <+: line.toList

/-- An answer is an error without output, or a success without any message. -/
def Response.Whole (response : Response) : Prop :=
  response.code = 1 ∧ response.output = [] ∧ HasError response.messages ∨
    response.code = 0 ∧ response.messages = []

/-- A message that begins with the front of an error is one. -/
theorem hasError_cons {front : String} (h : "error: ".toList <+: front.toList) (text : String)
    (messages : List String) : HasError ((front ++ text) :: messages) := by
  refine ⟨_, List.mem_cons_self, ?_⟩
  rw [String.toList_append]
  exact h.trans (List.prefix_append _ _)

theorem whole_success (output : List String) : (Response.success output).Whole :=
  Or.inr ⟨rfl, rfl⟩

theorem whole_failure {messages : List String} (h : HasError messages) :
    (Response.failure messages).Whole := Or.inl ⟨rfl, rfl, h⟩

/-- The lines that show some errors are an error. -/
theorem hasError_diagnosticLines {file source : String} {errors : List Definition.Error}
    (h : errors ≠ []) : HasError (errors.flatMap (diagnosticLines file source)) := by
  obtain ⟨error, rest, rfl⟩ := List.exists_cons_of_ne_nil h
  exact hasError_cons List.prefix_rfl error.message _

/-- What a template that is put into its text gives: one line, or an error. -/
theorem whole_compileTemplate (options : BuildOptions) (shelf : Shelf) (name : String)
    (template : Template) : (compileTemplate options shelf name template).Whole := by
  unfold compileTemplate
  split
  · rw [String.append_assoc, String.append_assoc]
    exact whole_failure (hasError_cons (by decide) _ _)
  · split
    · exact whole_failure (hasError_cons List.prefix_rfl _ _)
    · exact whole_success _

theorem whole_buildTemplate (options : BuildOptions) (definition : Definition) :
    (buildTemplate options definition).Whole := by
  unfold buildTemplate
  split
  · rw [String.append_assoc]
    exact whole_failure (hasError_cons (by decide) _ _)
  · split
    · simp only [String.append_assoc]
      exact whole_failure (hasError_cons (by decide) _ _)
    · split
      · exact whole_success _
      · exact whole_compileTemplate _ _ _ _

/-- **Building is all or nothing.**  Whatever is asked of a file, readable or not, the answer is whole. -/
theorem whole_runBuild (options : BuildOptions) (found : Except FileFault FileTree) :
    (runBuild options found).Whole := by
  unfold runBuild
  split
  · rw [String.append_assoc, String.append_assoc]
    exact whole_failure (hasError_cons (by decide) _ _)
  · unfold buildSource
    split
    · next hparse =>
        exact whole_failure (hasError_diagnosticLines (Definition.ne_nil_of_parse_eq_error hparse))
    · split
      · exact whole_success _
      · exact whole_buildTemplate _ _

/-- A run on a file that is accepted looks a template up, unless a list of them is asked for. -/
theorem runBuild_of_parse {source : String} {definition : Definition}
    (htext : found.bind FileTree.readText = .ok source)
    (hparse : Definition.parse source 0 = .ok definition) (hlist : options.list = false) :
    runBuild options found = buildTemplate options definition := by
  unfold runBuild
  rw [htext]
  dsimp only
  unfold buildSource
  rw [hparse]
  dsimp only
  rw [hlist, if_neg Bool.false_ne_true]

/-- A run that puts a template into its text, or lists its open names, looks the template up first, and
nothing but the file and the entry decides what it finds. -/
theorem runBuild_lookup (file : String) (entry : Option String) (found : Except FileFault FileTree) :
    (∃ messages, ∀ options : BuildOptions, options.file = file → options.entry = entry →
      options.list = false → runBuild options found = .failure messages) ∨
    ∃ shelf name template, ∀ options : BuildOptions, options.file = file → options.entry = entry →
      options.list = false → runBuild options found =
        if options.unassigned then .success template.unassigned
        else compileTemplate options shelf name template := by
  cases htext : found.bind FileTree.readText with
  | error fault =>
      refine Or.inl ⟨["error: cannot read '" ++ file ++ "': " ++ fault.message], ?_⟩
      intro options hfile _ _
      unfold runBuild
      rw [htext, hfile]
  | ok source =>
      cases hparse : Definition.parse source 0 with
      | error errors =>
          refine Or.inl ⟨errors.flatMap (diagnosticLines file source), ?_⟩
          intro options hfile _ _
          unfold runBuild
          rw [htext]
          dsimp only
          unfold buildSource
          rw [hparse, hfile]
      | ok definition =>
          cases hname : entry <|> definition.entryName? with
          | none =>
              refine Or.inl ⟨["error: '" ++ file ++ "' defines no templates"], ?_⟩
              intro options hfile hentry hlist
              rw [runBuild_of_parse htext hparse hlist, buildTemplate, hentry, hname, hfile]
          | some name =>
              cases htemplate : definition.get? name with
              | none =>
                  refine Or.inl ⟨["error: template '" ++ name ++ "' is not defined (available: " ++
                    ", ".intercalate definition.names ++ ")"], ?_⟩
                  intro options _ hentry hlist
                  rw [runBuild_of_parse htext hparse hlist, buildTemplate, hentry, hname]
                  dsimp only
                  rw [htemplate]
              | some template =>
                  refine Or.inr ⟨definition.shelf, name, template, ?_⟩
                  intro options _ hentry hlist
                  rw [runBuild_of_parse htext hparse hlist, buildTemplate, hentry, hname]
                  dsimp only
                  rw [htemplate]

/-- What is asked for is the text of a template, by the file and the entry that are given. -/
structure BuildOptions.Writes (options : BuildOptions) (file : String) (entry : Option String) :
    Prop where
  file_eq : options.file = file
  entry_eq : options.entry = entry
  list_eq : options.list = false
  unassigned_eq : options.unassigned = false

/-- A run that is to write the text of a template fails whatever else is asked, or there is a text, and it
is written unless it is checked and refused. -/
theorem runBuild_text (file : String) (entry : Option String) (found : Except FileFault FileTree) :
    (∀ options : BuildOptions, options.Writes file entry →
      (runBuild options found).code = 1 ∧ (runBuild options found).output = []) ∨
    ∃ text, ∀ options : BuildOptions, options.Writes file entry →
      options.Admits text ∧ runBuild options found = .success [options.line text] ∨
      ¬ options.Admits text ∧ (runBuild options found).code = 1 ∧
        (runBuild options found).output = [] := by
  rcases runBuild_lookup file entry found with ⟨messages, hrun⟩ | ⟨shelf, name, template, hrun⟩
  · refine Or.inl ?_
    intro options h
    rw [hrun options h.file_eq h.entry_eq h.list_eq]
    exact ⟨rfl, rfl⟩
  have hcompile : ∀ options : BuildOptions, options.Writes file entry →
      runBuild options found = compileTemplate options shelf name template := by
    intro options h
    rw [hrun options h.file_eq h.entry_eq h.list_eq, h.unassigned_eq, if_neg Bool.false_ne_true]
  cases htext : shelf.compileSource template with
  | error e =>
      refine Or.inl ?_
      intro options h
      rw [hcompile options h]
      rcases compileTemplate_cases options shelf name template with
        ⟨text, hok, -⟩ | ⟨-, message, hfailed⟩
      · rw [hok] at htext
        cases htext
      · rw [hfailed]
        exact ⟨rfl, rfl⟩
  | ok text =>
      refine Or.inr ⟨text, ?_⟩
      intro options h
      rw [hcompile options h]
      rcases compileTemplate_cases options shelf name template with
        ⟨text', hok, hadmits, hwritten⟩ | ⟨hnone, message, hfailed⟩
      · have hsame : text' = text := Except.ok.inj (hok.symm.trans htext)
        subst hsame
        exact Or.inl ⟨hadmits, hwritten⟩
      · rw [hfailed]
        exact Or.inr ⟨hnone text htext, rfl, rfl⟩

/-- A text that is verified stays what it is, or is not written at all. -/
theorem runBuild_verify (hlist : options.list = false) (hunassigned : options.unassigned = false)
    (hcode : (runBuild { options with verify := false } found).code = 0) :
    ∃ text, (runBuild { options with verify := false } found).output = [options.line text] ∧
      ((∃ regex, (Pattern.ofSource text).toRegex = .ok regex) ∧
          runBuild { options with verify := true } found =
            runBuild { options with verify := false } found ∨
        (¬ ∃ regex, (Pattern.ofSource text).toRegex = .ok regex) ∧
          (runBuild { options with verify := true } found).code = 1 ∧
          (runBuild { options with verify := true } found).output = []) := by
  have hwrites : ∀ verify, BuildOptions.Writes { options with verify } options.file options.entry :=
    fun _ => ⟨rfl, rfl, hlist, hunassigned⟩
  rcases runBuild_text options.file options.entry found with hnone | ⟨text, hrun⟩
  · rw [(hnone _ (hwrites false)).1] at hcode
    cases hcode
  · rcases hrun _ (hwrites false) with ⟨-, hplain⟩ | ⟨hrefused, -⟩
    · refine ⟨text, by rw [hplain]; rfl, ?_⟩
      rcases hrun _ (hwrites true) with ⟨hadmits, hchecked⟩ | ⟨hrefused, hcode', houtput⟩
      · exact Or.inl ⟨hadmits rfl, by rw [hchecked, hplain]; rfl⟩
      · exact Or.inr ⟨fun hregex => hrefused fun _ => hregex, hcode', houtput⟩
    · exact absurd (fun h => nomatch h) hrefused

/-- A text between slashes is written with the same success, and read back as what is written without
them. -/
theorem runBuild_delimited (hlist : options.list = false)
    (hunassigned : options.unassigned = false) :
    (runBuild { options with delimited := true } found).code =
        (runBuild { options with delimited := false } found).code ∧
      ((runBuild { options with delimited := false } found).code = 0 → ∃ source text,
        textOfLines (runBuild { options with delimited := false } found).output = source ++ "\n" ∧
        textOfLines (runBuild { options with delimited := true } found).output = text ++ "\n" ∧
        Pattern.ofDelimited text = .ok ⟨source, ""⟩) := by
  have hwrites : ∀ delimited,
      BuildOptions.Writes { options with delimited } options.file options.entry :=
    fun _ => ⟨rfl, rfl, hlist, hunassigned⟩
  rcases runBuild_text options.file options.entry found with hnone | ⟨text, hrun⟩
  · rw [(hnone _ (hwrites false)).1, (hnone _ (hwrites true)).1]
    exact ⟨rfl, fun h => nomatch h⟩
  · rcases hrun _ (hwrites false) with ⟨hadmits, hplain⟩ | ⟨hrefused, hplain, -⟩
    · rcases hrun _ (hwrites true) with ⟨-, hframed⟩ | ⟨hrefused, -⟩
      · rw [hplain, hframed]
        refine ⟨rfl, fun _ => ⟨text, (Pattern.ofSource text).delimited,
          textOfLines_singleton_inj.2 rfl, textOfLines_singleton_inj.2 rfl, ?_⟩⟩
        have hflags : Pattern.Lettered (Pattern.ofSource text).flags := fun c hc => nomatch hc
        exact Pattern.ofDelimited_eq_ok_iff.2 (Pattern.delimits_delimited hflags)
      · exact absurd hadmits hrefused
    · rcases hrun _ (hwrites true) with ⟨hadmits, -⟩ | ⟨-, hframed, -⟩
      · exact absurd hadmits hrefused
      · rw [hplain, hframed]
        exact ⟨rfl, fun h => nomatch h⟩

/-- If open names are listed, they are what stops the template from being put into a text. -/
theorem runBuild_unassigned (hlist : options.list = false)
    (hnames : (runBuild { options with unassigned := true } found).output ≠ []) :
    ∃ name, runBuild { options with unassigned := false } found =
      .failure ["error: cannot compile '" ++ name ++ "': unbound placeholder(s): " ++
        ", ".intercalate (runBuild { options with unassigned := true } found).output] := by
  rcases runBuild_lookup options.file options.entry found with
    ⟨messages, hrun⟩ | ⟨shelf, name, template, hrun⟩
  · rw [hrun { options with unassigned := true } rfl rfl hlist] at hnames
    exact absurd rfl hnames
  · have hlisted : (runBuild { options with unassigned := true } found).output =
        template.unassigned := by
      rw [hrun { options with unassigned := true } rfl rfl hlist]
      rfl
    rw [hlisted] at hnames ⊢
    have hopen : ¬ template.isComplete := fun h => hnames (Template.isComplete_iff_unassigned.1 h)
    refine ⟨name, ?_⟩
    rw [hrun { options with unassigned := false } rfl rfl hlist]
    unfold compileTemplate Shelf.compile
    rw [shelf.compileSource_of_not_isComplete hopen]
    have hmessage : "error: cannot compile '" ++ name ++ "': " ++
        ("unbound placeholder(s): " ++ ", ".intercalate template.unassigned) =
        "error: cannot compile '" ++ name ++ "': unbound placeholder(s): " ++
          ", ".intercalate template.unassigned := by
      simp only [← String.toList_inj, String.toList_append]
      simp
    exact congrArg (fun message => Response.failure [message]) hmessage

/-- **A file is built to all or to nothing, and its modes agree.**  For all options, and whatever the path
leads to:

* the exit code is 1, there is no output and some message is an error, or it is 0 and there is no message.

For runs on the same file and entry that do not list templates:

* where a text is written, it is also written as the same line if it is verified and is a regular
  expression; if it is none, the run fails without output;
* a text is written between slashes with the same exit code, and where this is 0, reading the output back
  without its last line feed gives what is written without slashes, and no flags;
* open names that are listed are named, in the same order, by the one message of the run that fails on
  them. -/
theorem build_modes_agree (options : BuildOptions) (found : Except FileFault FileTree) :
    (runBuild options found).Whole ∧
    (options.list = false → options.unassigned = false →
      (runBuild { options with verify := false } found).code = 0 →
      ∃ text, (runBuild { options with verify := false } found).output = [options.line text] ∧
        ((∃ regex, (Pattern.ofSource text).toRegex = .ok regex) ∧
            runBuild { options with verify := true } found =
              runBuild { options with verify := false } found ∨
          (¬ ∃ regex, (Pattern.ofSource text).toRegex = .ok regex) ∧
            (runBuild { options with verify := true } found).code = 1 ∧
            (runBuild { options with verify := true } found).output = [])) ∧
    (options.list = false → options.unassigned = false →
      (runBuild { options with delimited := true } found).code =
          (runBuild { options with delimited := false } found).code ∧
        ((runBuild { options with delimited := false } found).code = 0 → ∃ source text,
          textOfLines (runBuild { options with delimited := false } found).output =
            source ++ "\n" ∧
          textOfLines (runBuild { options with delimited := true } found).output = text ++ "\n" ∧
          Pattern.ofDelimited text = .ok ⟨source, ""⟩)) ∧
    (options.list = false → (runBuild { options with unassigned := true } found).output ≠ [] →
      ∃ name, runBuild { options with unassigned := false } found =
        .failure ["error: cannot compile '" ++ name ++ "': unbound placeholder(s): " ++
          ", ".intercalate (runBuild { options with unassigned := true } found).output]) :=
  ⟨whole_runBuild options found, runBuild_verify, runBuild_delimited, runBuild_unassigned⟩

/-- A definition with a template that has open names, and one whose text is no regular expression. -/
def unevenRecipes : String :=
  "template = [['open', ['/\\VAR\x7by\x7d\\VAR\x7bx\x7d/']], " ++
    "['shut', ['/(\\VAR\x7bx\x7d/'], \x7b x = '/a/' \x7d]]"

/-- The last template is written between slashes and refused if it is verified; the first one fails on the
names that are listed. -/
theorem build_modes_agree_unevenRecipes :
    (runBuild { file := "f" } (fileOf unevenRecipes)).code = 0 ∧
    (runBuild { file := "f", verify := true } (fileOf unevenRecipes)).code = 1 ∧
    (∃ source text,
      textOfLines (runBuild { file := "f" } (fileOf unevenRecipes)).output = source ++ "\n" ∧
      textOfLines (runBuild { file := "f", delimited := true } (fileOf unevenRecipes)).output =
        text ++ "\n" ∧
      Pattern.ofDelimited text = .ok ⟨source, ""⟩) ∧
    (runBuild { file := "f", entry := some "open", unassigned := true } (fileOf unevenRecipes)).output =
      ["x", "y"] ∧
    ∃ name, runBuild { file := "f", entry := some "open" } (fileOf unevenRecipes) =
      .failure ["error: cannot compile '" ++ name ++ "': unbound placeholder(s): " ++
        ", ".intercalate ["x", "y"]] := by
  have hcode : (runBuild { file := "f" } (fileOf unevenRecipes)).code = 0 := by decide +kernel
  have hrefused : runBuild { file := "f", verify := true } (fileOf unevenRecipes) ≠
      runBuild { file := "f" } (fileOf unevenRecipes) := by decide +kernel
  have hnames : (runBuild { file := "f", entry := some "open", unassigned := true }
      (fileOf unevenRecipes)).output = ["x", "y"] := by decide +kernel
  obtain ⟨-, hverify, hdelimited, -⟩ := build_modes_agree { file := "f" } (fileOf unevenRecipes)
  obtain ⟨-, -, -, hopen⟩ :=
    build_modes_agree { file := "f", entry := some "open" } (fileOf unevenRecipes)
  refine ⟨hcode, ?_, (hdelimited rfl rfl).2 hcode, hnames, ?_⟩
  · obtain ⟨text, -, ⟨-, hsame⟩ | ⟨-, hfailed, -⟩⟩ := hverify rfl rfl hcode
    · exact absurd hsame hrefused
    · exact hfailed
  · have hfailed := hopen rfl (by rw [hnames]; exact List.cons_ne_nil _ _)
    rwa [hnames] at hfailed

end Command

end RegexTemplate
