import Mathlib.Tactic.ByContra
import RegexTemplate.Command.Basic
import RegexTemplate.Proofs.Command.Modes
import RegexTemplate.Proofs.Command.Reading

/-!
# Leaving out the name of the command

A command line that names no command means the one that builds a template, and the name is put in front
of the first word without a hyphen.  So the words before this word are read as options of the program, and
not as options of the command.

If they all give flags of every command, nothing is lost.  The program takes them as the command does
(`OnlyFlags.takeWord`), and the command takes the rest of the line by itself as it takes the rest behind
them (`readBuild_of_append`).

Any other option of the command is unknown to the program, which refuses the line (`readProgram_refused`).
This is so too where the option has a value and the name is put between the two.

Main statement: `shorthand_iff_flagsInFront`.
-/

namespace RegexTemplate.Command

/-- The words that give a flag of every command, each with the name of the flag. -/
def flagWords : List (String × String) :=
  [("--no-color", "no-color"), ("--verbose", "verbose"), ("-v", "verbose")]

/-- A word gives a flag of every command. -/
def GivesFlag (word : String) : Prop := word ∈ flagWords.map Prod.fst

instance : DecidablePred GivesFlag := fun word =>
  inferInstanceAs (Decidable (word ∈ flagWords.map Prod.fst))

/-- The name of a flag of every command. -/
def NamesFlag (name : String) : Prop := name ∈ flagWords.map Prod.snd

instance : DecidablePred NamesFlag := fun name =>
  inferInstanceAs (Decidable (name ∈ flagWords.map Prod.snd))

/-- In front of the first word without a hyphen there are only flags of every command. -/
def FlagsInFront (words : List String) : Prop :=
  ∀ word ∈ words.takeWhile beginsWithHyphen, GivesFlag word

instance : DecidablePred FlagsInFront := fun words =>
  inferInstanceAs (Decidable (∀ word ∈ words.takeWhile beginsWithHyphen, GivesFlag word))

/-- The options that only the command that builds a template has. -/
def ownOptions : List Switch := buildOptions.drop commonOptions.length

variable {reading next final earlier : Reading} {word name : String} {words front rest : List String}
  {letter : Char} {long letters : List Char} {option : Switch} {known : List Switch}
  {options : BuildOptions}

theorem mem_buildOptions (h : option ∈ buildOptions) : option ∈ commonOptions ∨ option ∈ ownOptions :=
  List.mem_append.1 h

/-- The program does not know their names. -/
theorem find?_long_of_mem_ownOptions (h : option ∈ ownOptions) :
    programOptions.find? (·.long == option.long) = none := by
  have hunknown : ∀ option ∈ ownOptions, programOptions.find? (·.long == option.long) = none := by
    decide +kernel
  exact hunknown option h

/-- The program does not know their letters. -/
theorem find?_short_of_mem_ownOptions (h : option ∈ ownOptions) (hletter : option.short = some letter) :
    programOptions.find? (·.short == some letter) = none := by
  have hletters : ∀ option ∈ ownOptions, option.short = none ∨ option.short = some 'e' := by
    decide +kernel
  rcases hletters option h with hnone | hsome
  · rw [hnone] at hletter
    cases hletter
  · rw [hsome] at hletter
    cases hletter
    rfl

namespace Reading

/-- The letter of a flag of every command is read by the program as by the command. -/
theorem takeLetters_verbose {topic : Option String}
    (hknown : known = buildOptions ∨ known = programOptions) :
    reading.takeLetters topic known ('v' :: letters) = (do
      let reading ← reading.take topic ⟨"verbose", some 'v', .flag⟩ none
      reading.takeLetters topic known letters) := by
  rcases hknown with rfl | rfl <;> rfl

/-- A flag of every command is taken by the program as by the command that builds a template. -/
theorem takeWord_flag_eq_ok_iff {topic : Option String} (h : reading.Ready)
    (hword : (word, name) ∈ flagWords) (hknown : known = buildOptions ∨ known = programOptions) :
    reading.takeWord topic known word = .ok next ↔
      reading.has name = false ∧ next = reading.give name "" := by
  obtain ⟨given, operands, pending, escaped⟩ := reading
  obtain ⟨rfl, rfl⟩ := h
  simp only [flagWords, List.mem_cons, Prod.mk.injEq, List.not_mem_nil, or_false] at hword
  rcases hword with ⟨rfl, rfl⟩ | ⟨rfl, rfl⟩ | ⟨rfl, rfl⟩
  · rcases hknown with rfl | rfl <;> exact take_flag_eq_ok_iff topic
  · rcases hknown with rfl | rfl <;> exact take_flag_eq_ok_iff topic
  · have hword : "-v".toList = ['-', 'v'] := by decide
    rw [takeWord_letters ⟨rfl, rfl⟩ hword (by decide), takeLetters_verbose hknown, bind_eq_ok_iff]
    simp [take_flag_eq_ok_iff, takeLetters]

/-- A word behind two hyphens that the command takes gives a flag of every command, or the program refuses
it. -/
theorem refused_of_takeLong (h : reading.takeLong (some "build") buildOptions long = .ok next) :
    GivesFlag (String.ofList ('-' :: '-' :: long)) ∨
      ∃ e, reading.takeLong none programOptions long = .error (.refused e) := by
  obtain ⟨option, hfind, htake⟩ := takeLong_eq_ok_iff.1 h
  have hname : option.long = nameOf long := by simpa using List.find?_some hfind
  have hfits := (take_eq_ok_iff.1 htake).1
  rcases mem_buildOptions (List.mem_of_find?_eq_some hfind) with hcommon | hown
  · left
    simp only [commonOptions, List.mem_cons, List.not_mem_nil, or_false] at hcommon
    rcases hcommon with rfl | rfl | rfl
    · rw [← toList_nameOf hfits, ← hname]
      decide
    · rw [← toList_nameOf hfits, ← hname]
      decide
    · exact hfits.elim
  · have hunknown := find?_long_of_mem_ownOptions hown
    rw [hname] at hunknown
    exact Or.inr ⟨_, takeLong_of_unknown hunknown⟩

/-- Letters that the command takes are the one of a flag of every command, or the program refuses them. -/
theorem refused_of_takeLetters
    (h : reading.takeLetters (some "build") buildOptions letters = .ok next) :
    letters = [] ∨ letters = ['v'] ∨
      ∃ e, reading.takeLetters none programOptions letters = .error (.refused e) := by
  induction letters generalizing reading with
  | nil => exact Or.inl rfl
  | cons letter letters ih =>
      right
      obtain ⟨option, hfind, htake⟩ := takeLetters_cons_eq_ok_iff.1 h
      have hshort : option.short = some letter := by simpa using List.find?_some hfind
      rcases mem_buildOptions (List.mem_of_find?_eq_some hfind) with hcommon | hown
      · simp only [commonOptions, List.mem_cons, List.not_mem_nil, or_false] at hcommon
        rcases hcommon with rfl | rfl | rfl
        · cases hshort
        · cases hshort
          obtain ⟨between, hbetween, hrest⟩ := htake
          have htaken := (take_flag_eq_ok_iff (some "build")).1 hbetween
          rcases ih hrest with rfl | rfl | ⟨e, he⟩
          · exact Or.inl rfl
          · -- The letter cannot be there twice, since a flag is not taken twice.
            rw [takeLetters_verbose (Or.inl rfl), bind_eq_ok_iff] at hrest
            obtain ⟨again, hagain, -⟩ := hrest
            have hrepeated := ((take_flag_eq_ok_iff (some "build")).1 hagain).1
            rw [htaken.2] at hrepeated
            simp [has, give] at hrepeated
          · refine Or.inr ⟨e, ?_⟩
            rw [takeLetters_verbose (Or.inr rfl), (take_flag_eq_ok_iff none).2 htaken]
            exact he
        · obtain ⟨between, hbetween, -⟩ := htake
          exact (take_eq_ok_iff.1 hbetween).1.elim
      · exact Or.inr ⟨_, takeLetters_of_unknown (find?_short_of_mem_ownOptions hown hshort)⟩

/-- A word with a hyphen that the command takes gives a flag of every command, or the program refuses it,
unless there is nothing but hyphens in it. -/
theorem refused_of_takeWord (hready : reading.Ready) (hhyphen : beginsWithHyphen word)
    (h : reading.takeWord (some "build") buildOptions word = .ok next) :
    GivesFlag word ∨ word = "-" ∨ word = "--" ∨
      ∃ e, reading.takeWord none programOptions word = .error (.refused e) := by
  have hhead : word.toList.head? = some '-' := by simpa [beginsWithHyphen] using hhyphen
  obtain ⟨rest, hword⟩ := List.head?_eq_some_iff.1 hhead
  rcases rest with _ | ⟨first, rest⟩
  · exact Or.inr (Or.inl (String.toList_inj.1 hword))
  by_cases hfirst : first = '-'
  · subst hfirst
    rcases rest with _ | ⟨first, long⟩
    · exact Or.inr (Or.inr (Or.inl (String.toList_inj.1 hword)))
    rw [takeWord_long hready hword] at h ⊢
    rcases refused_of_takeLong h with hflag | hrefused
    · rw [← hword, String.ofList_toList] at hflag
      exact Or.inl hflag
    · exact Or.inr (Or.inr (Or.inr hrefused))
  · rw [takeWord_letters hready hword hfirst] at h ⊢
    rcases refused_of_takeLetters h with hnone | hletter | hrefused
    · cases hnone
    · rw [hletter] at hword
      have hsame : word = "-v" := String.toList_inj.1 hword
      rw [hsame]
      exact Or.inl (by decide)
    · exact Or.inr (Or.inr (Or.inr hrefused))

/-- What is asked of the command that builds a template, once its words have been read. -/
def buildOf (reading : Reading) : Except Halt Invocation :=
  match reading.operands with
  | [] => .error (.refused (.missingOperand "FILE"))
  | file :: _ =>
    return .build
      { file
        entry := (reading.values "entry").head?
        delimited := reading.has "delimited"
        verify := reading.has "verify"
        unassigned := reading.has "unassigned"
        list := reading.has "list" }

theorem readBuild_eq_ok_iff {invocation : Invocation} :
    readBuild words = .ok invocation ↔ ∃ reading : Reading,
      (words.foldlM (accept (some "build") buildOptions 1) {} = .ok reading ∧
        reading.pending = none) ∧ reading.buildOf = .ok invocation := by
  have hread : readBuild words = (do
      let reading ← readWords (some "build") buildOptions 1 words
      reading.buildOf) := rfl
  rw [hread, bind_eq_ok_iff]
  simp only [readWords_eq_ok_iff]

/-- Only flags of every command have been read. -/
structure OnlyFlags (reading : Reading) : Prop extends Ready reading where
  operands : reading.operands = []
  given : ∀ option ∈ reading.given, NamesFlag option.1

theorem onlyFlags_empty : OnlyFlags {} :=
  ⟨⟨rfl, rfl⟩, rfl, fun _ h => absurd h List.not_mem_nil⟩

theorem OnlyFlags.not_given (h : earlier.OnlyFlags) (hname : ¬ NamesFlag name) :
    ∀ option ∈ earlier.given, ¬ (option.1 == name) = true := by
  intro option hoption hsame
  have heq : option.1 = name := by simpa using hsame
  have hflag := h.given option hoption
  rw [heq] at hflag
  exact hname hflag

theorem OnlyFlags.has_behind (h : earlier.OnlyFlags) (reading : Reading) (hname : ¬ NamesFlag name) :
    (reading.behind earlier).has name = reading.has name := by
  rw [has, behind, List.any_append, List.any_eq_false.2 (h.not_given hname), Bool.false_or, has]

theorem OnlyFlags.values_behind (h : earlier.OnlyFlags) (reading : Reading) (hname : ¬ NamesFlag name) :
    (reading.behind earlier).values name = reading.values name := by
  rw [values, behind, List.filter_append, List.filter_eq_nil_iff.2 (h.not_given hname),
    List.nil_append, values]

/-- Flags of every command do not matter to what is asked of the command that builds a template. -/
theorem OnlyFlags.buildOf_behind (h : earlier.OnlyFlags) (reading : Reading) :
    (reading.behind earlier).buildOf = reading.buildOf := by
  have hoperands : (reading.behind earlier).operands = reading.operands := by
    rw [behind, h.operands]
    rfl
  have hentry : ¬ NamesFlag "entry" := by decide
  have hdelimited : ¬ NamesFlag "delimited" := by decide
  have hverify : ¬ NamesFlag "verify" := by decide
  have hunassigned : ¬ NamesFlag "unassigned" := by decide
  have hlist : ¬ NamesFlag "list" := by decide
  rw [buildOf, hoperands, h.values_behind reading hentry, h.has_behind reading hdelimited,
    h.has_behind reading hverify, h.has_behind reading hunassigned, h.has_behind reading hlist]
  rfl

/-- A flag of every command is read in front of a command as it is read behind it. -/
theorem OnlyFlags.takeWord (h : reading.OnlyFlags) (hflag : GivesFlag word)
    (hread : reading.takeWord (some "build") buildOptions word = .ok next) :
    next.OnlyFlags ∧ reading.takeWord none programOptions word = .ok next := by
  obtain ⟨⟨word, name⟩, hmem, rfl⟩ := List.mem_map.1 hflag
  have htaken := (takeWord_flag_eq_ok_iff h.toReady hmem (Or.inl rfl)).1 hread
  refine ⟨?_, (takeWord_flag_eq_ok_iff h.toReady hmem (Or.inr rfl)).2 htaken⟩
  rw [htaken.2]
  refine ⟨⟨rfl, h.escaped⟩, h.operands, fun option hoption => ?_⟩
  rcases List.mem_append.1 hoption with hold | hnew
  · exact h.given option hold
  · rw [List.mem_singleton.1 hnew]
    exact List.mem_map_of_mem hmem

end Reading

open Reading

theorem readProgram_cons_of_onlyFlags (hread : reading.takeWord none programOptions word = .ok next)
    (h : next.OnlyFlags) (words : List String) :
    readProgram reading (word :: words) = readProgram next words := by
  simp only [readProgram, hread, bind, Except.bind, h.operands]

theorem readProgram_cons_of_refused {e : UsageError}
    (hread : reading.takeWord none programOptions word = .error (.refused e)) (words : List String) :
    readProgram reading (word :: words) = .error (.refused e) := by
  simp only [readProgram, hread, bind, Except.bind]

/-- A word without a hyphen, or a hyphen that stands alone, is taken for the name of a command. -/
theorem readProgram_cons_of_operand (h : reading.OnlyFlags)
    (hword : beginsWithHyphen word = false ∨ word = "-") (words : List String) :
    readProgram reading (word :: words) = readCommand (!reading.has "no-color") word words := by
  obtain ⟨given, operands, pending, escaped⟩ := reading
  obtain ⟨⟨rfl, rfl⟩, rfl, -⟩ := h
  rcases hword with hword | rfl
  · rw [readProgram, takeWord_operand ⟨rfl, rfl⟩ hword]
    rfl
  · rfl

/-- Behind a word of two hyphens there are only operands, and the program finds no command. -/
theorem readProgram_cons_hyphens (h : reading.OnlyFlags) (words : List String) :
    ∃ e, readProgram reading ("--" :: words) = .error (.refused e) := by
  obtain ⟨given, operands, pending, escaped⟩ := reading
  obtain ⟨⟨rfl, rfl⟩, rfl, -⟩ := h
  cases words with
  | nil => exact ⟨_, rfl⟩
  | cons word words => exact ⟨_, rfl⟩

/-- The words in front of the first one without a hyphen stay as they are. -/
theorem withCommand_eq_append (words : List String) :
    withCommand words =
      words.takeWhile beginsWithHyphen ++ withCommand (words.dropWhile beginsWithHyphen) := by
  induction words with
  | nil => rfl
  | cons word words ih =>
      by_cases hhyphen : beginsWithHyphen word
      · rw [withCommand, if_pos hhyphen, ih, List.takeWhile_cons_of_pos hhyphen,
          List.dropWhile_cons_of_pos hhyphen, List.cons_append]
      · rw [List.takeWhile_cons_of_neg hhyphen, List.dropWhile_cons_of_neg hhyphen, List.nil_append]

/-- Flags of every command are read by the program as the command reads them. -/
theorem readProgram_append_of_givesFlag (h : reading.OnlyFlags)
    (hflags : ∀ word ∈ front, GivesFlag word)
    (hread : front.foldlM (accept (some "build") buildOptions 1) reading = .ok next) :
    next.OnlyFlags ∧ ∀ rest, readProgram reading (front ++ rest) = readProgram next rest := by
  induction front generalizing reading with
  | nil =>
      cases hread
      exact ⟨h, fun rest => rfl⟩
  | cons word front ih =>
      obtain ⟨hflag, hflags⟩ := List.forall_mem_cons.1 hflags
      rw [List.foldlM_cons, bind_eq_ok_iff] at hread
      obtain ⟨between, hword, hfront⟩ := hread
      obtain ⟨hbetween, hprogram⟩ := h.takeWord hflag (accept_eq_ok_iff.1 hword).1
      obtain ⟨hnext, hrest⟩ := ih hbetween hflags hfront
      refine ⟨hnext, fun rest => ?_⟩
      rw [List.cons_append, readProgram_cons_of_onlyFlags hprogram hbetween, hrest]

/-- The program refuses a line that the command takes, if anything but flags of every command stands in
front of its first word without a hyphen. -/
theorem readProgram_refused (h : reading.OnlyFlags)
    (hread : words.foldlM (accept (some "build") buildOptions 1) reading = .ok final)
    (hfront : ¬ FlagsInFront words) :
    ∃ e, readProgram reading (withCommand words) = .error (.refused e) := by
  induction words generalizing reading with
  | nil => exact absurd (fun word hword => absurd hword List.not_mem_nil) hfront
  | cons word words ih =>
      by_cases hhyphen : beginsWithHyphen word
      · rw [withCommand, if_pos hhyphen]
        rw [List.foldlM_cons, bind_eq_ok_iff] at hread
        obtain ⟨next, hnext, hrest⟩ := hread
        have htaken := (accept_eq_ok_iff.1 hnext).1
        by_cases hflag : GivesFlag word
        · obtain ⟨honly, hprogram⟩ := h.takeWord hflag htaken
          rw [readProgram_cons_of_onlyFlags hprogram honly]
          apply ih honly hrest
          intro hflags
          apply hfront
          rw [FlagsInFront, List.takeWhile_cons_of_pos hhyphen]
          exact List.forall_mem_cons.2 ⟨hflag, hflags⟩
        · rcases refused_of_takeWord h.toReady hhyphen htaken with hgives | rfl | rfl | ⟨e, he⟩
          · exact absurd hgives hflag
          · rw [readProgram_cons_of_operand h (Or.inr rfl)]
            exact ⟨_, rfl⟩
          · exact readProgram_cons_hyphens h _
          · exact ⟨e, readProgram_cons_of_refused he _⟩
      · apply absurd _ hfront
        rw [FlagsInFront, List.takeWhile_cons_of_neg hhyphen]
        exact fun word hword => absurd hword List.not_mem_nil

/-- A file that comes first is the one that is built. -/
theorem file_eq_of_readBuild (hword : beginsWithHyphen word = false)
    (h : readBuild (word :: words) = .ok (.build options)) : options.file = word := by
  obtain ⟨reading, ⟨hread, -⟩, hbuild⟩ := readBuild_eq_ok_iff.1 h
  rw [List.foldlM_cons, bind_eq_ok_iff] at hread
  obtain ⟨first, hfirst, hrest⟩ := hread
  have htaken := (accept_eq_ok_iff.1 hfirst).1
  rw [takeWord_operand ⟨rfl, rfl⟩ hword, Except.ok.injEq] at htaken
  have hready : first.Ready := by
    rw [← htaken]
    exact ⟨rfl, rfl⟩
  rw [hready.eq_behind] at hrest
  obtain ⟨own, -, rfl⟩ := exists_of_foldlM_behind hrest
  rw [← htaken] at hbuild
  cases hbuild
  rfl

/-- The command takes a line without the flags of every command in front of it as it takes the line. -/
theorem readBuild_of_append {invocation : Invocation} (hflags : ∀ word ∈ front, GivesFlag word)
    (h : readBuild (front ++ rest) = .ok invocation) :
    readBuild rest = .ok invocation ∧ ∃ next : Reading, next.OnlyFlags ∧
      ∀ words, readProgram {} (front ++ words) = readProgram next words := by
  obtain ⟨reading, ⟨hread, hpending⟩, hbuild⟩ := readBuild_eq_ok_iff.1 h
  rw [List.foldlM_append, bind_eq_ok_iff] at hread
  obtain ⟨next, hnext, hrest⟩ := hread
  obtain ⟨honly, hprogram⟩ := readProgram_append_of_givesFlag onlyFlags_empty hflags hnext
  rw [honly.toReady.eq_behind] at hrest
  obtain ⟨own, hown, rfl⟩ := exists_of_foldlM_behind hrest
  rw [honly.buildOf_behind] at hbuild
  exact ⟨readBuild_eq_ok_iff.2 ⟨own, ⟨hown, hpending⟩, hbuild⟩, next, honly, hprogram⟩

/-- With nothing but flags of every command in front, a line means the same without the name of the
command. -/
theorem parse_of_flagsInFront (hflags : FlagsInFront words)
    (h : readBuild words = .ok (.build options)) (hname : options.file ∉ commandNames) :
    Invocation.parse words = .ok (.build options) := by
  have hsplit := List.takeWhile_append_dropWhile (p := beginsWithHyphen) (l := words)
  rw [← hsplit] at h
  obtain ⟨hrest, next, honly, hprogram⟩ := readBuild_of_append hflags h
  cases hwords : words.dropWhile beginsWithHyphen with
  | nil =>
      rw [hwords] at hrest
      cases hrest
  | cons word rest =>
      rw [hwords] at hrest
      have hword : beginsWithHyphen word = false := by
        have hhead := List.head?_dropWhile_not beginsWithHyphen words
        rw [hwords] at hhead
        exact hhead
      have hfile := file_eq_of_readBuild hword hrest
      rw [hfile] at hname
      have hnamed : withCommand (word :: rest) = "build" :: word :: rest := by
        rw [withCommand, if_neg (ne_true_of_eq_false hword), if_neg (by rwa [List.contains_iff_mem])]
      rw [Invocation.parse, withCommand_eq_append, hwords, hnamed, hprogram,
        readProgram_cons_of_operand honly (Or.inl (by decide))]
      exact hrest

/-- With anything else in front, a line that the command takes is refused without its name. -/
theorem parse_of_not_flagsInFront (hfront : ¬ FlagsInFront words)
    (h : readBuild words = .ok (.build options)) :
    ∃ e, Invocation.parse words = .error (.refused e) := by
  obtain ⟨reading, ⟨hread, -⟩, -⟩ := readBuild_eq_ok_iff.1 h
  exact readProgram_refused onlyFlags_empty hread hfront

/-- **The name of the command that builds a template can be left out if and only if nothing but flags of
every command stands in front of the first word without a hyphen.**  Let a line be one that the command
takes, for a file that is not called like a command.

* Without the name of the command the answer is the same, for whatever the paths lead to, if and only if
  all words in front of the first one without a hyphen give flags of every command.
* In this case the same is asked of the program.
* Otherwise the program refuses the line: the exit code is 2 and there is no output, although there is a
  different exit code with the name. -/
theorem shorthand_iff_flagsInFront (words : List String) {options : BuildOptions}
    (haccepted : Invocation.parse ("build" :: words) = .ok (.build options))
    (hname : options.file ∉ commandNames) :
    (∀ find, answer words find = answer ("build" :: words) find ↔ FlagsInFront words) ∧
    (FlagsInFront words → Invocation.parse words = Invocation.parse ("build" :: words)) ∧
    (¬ FlagsInFront words → ∀ find, (answer words find).code = 2 ∧ (answer words find).output = [] ∧
      (answer ("build" :: words) find).code ≠ 2) := by
  have hsame : FlagsInFront words → Invocation.parse words = Invocation.parse ("build" :: words) := by
    intro hflags
    rw [haccepted]
    exact parse_of_flagsInFront hflags haccepted hname
  have hrefused : ¬ FlagsInFront words → ∀ find, (answer words find).code = 2 ∧
      (answer words find).output = [] ∧ (answer ("build" :: words) find).code ≠ 2 := by
    intro hfront find
    obtain ⟨e, he⟩ := parse_of_not_flagsInFront hfront haccepted
    rw [answer, answer, he, haccepted]
    refine ⟨rfl, rfl, ?_⟩
    rcases whole_runBuild options (find options.file) with ⟨hcode, -⟩ | ⟨hcode, -⟩
    · exact fun h => absurd (hcode.symm.trans h) (by decide)
    · exact fun h => absurd (hcode.symm.trans h) (by decide)
  refine ⟨fun find => ⟨fun heq => ?_, fun hflags => ?_⟩, hsame, hrefused⟩
  · by_contra hfront
    obtain ⟨hcode, -, hother⟩ := hrefused hfront find
    exact hother (heq ▸ hcode)
  · rw [answer, answer, hsame hflags]

/-- A definition of two templates. -/
def wordRecipes : String := "template = [['word', ['/[a-z]+/']], ['mark', ['/!/']]]"

/-- Flags of every command in front of the file and an option with its value behind it: the name of the
command can be left out.  With a list asked for in front of the file it cannot. -/
theorem shorthand_iff_flagsInFront_wordRecipes :
    answer ["--no-color", "-v", "d.toml", "-e", "word"] (fun _ => fileOf wordRecipes) =
      .success ["[a-z]+"] ∧
    (answer ["--list", "d.toml"] (fun _ => fileOf wordRecipes)).code = 2 ∧
    answer ["build", "--list", "d.toml"] (fun _ => fileOf wordRecipes) =
      .success ["word", "mark"] := by
  have hbehind : Invocation.parse ["build", "--no-color", "-v", "d.toml", "-e", "word"] =
      .ok (.build { file := "d.toml", entry := some "word" }) := by decide +kernel
  have hlist : Invocation.parse ["build", "--list", "d.toml"] =
      .ok (.build { file := "d.toml", list := true }) := by decide +kernel
  obtain ⟨hsame, -, -⟩ := shorthand_iff_flagsInFront _ hbehind (by decide)
  obtain ⟨-, -, hrefused⟩ := shorthand_iff_flagsInFront _ hlist (by decide)
  refine ⟨((hsame _).2 (by decide)).trans ?_, (hrefused (by decide) _).1, ?_⟩
  · decide +kernel
  · decide +kernel

/-- The command builds a template that is named in front of the file.  Without the name of the command, it
is put between the option and its value, and the line is refused. -/
theorem entry_in_front_refused :
    Invocation.parse ["build", "--entry", "word", "d.toml"] =
      .ok (.build { file := "d.toml", entry := some "word" }) ∧
    beginsWithHyphen "d.toml" = false ∧ "d.toml" ∉ commandNames ∧
    answer ["build", "--entry", "word", "d.toml"] (fun _ => fileOf wordRecipes) =
      .success ["[a-z]+"] ∧
    withCommand ["--entry", "word", "d.toml"] = ["--entry", "build", "word", "d.toml"] ∧
    answer ["--entry", "word", "d.toml"] (fun _ => fileOf wordRecipes) =
      ⟨2, [], ["error: unexpected argument '--entry' found", "",
        "For more information, try '--help'."]⟩ := by
  refine ⟨by decide +kernel, by decide, by decide, by decide +kernel, by decide, by decide +kernel⟩

end RegexTemplate.Command
