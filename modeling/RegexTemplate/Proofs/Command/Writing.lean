import RegexTemplate.Command.Basic
import RegexTemplate.Proofs.Command.Reading

/-!
# Command lines that are written for given options

For all options of the command that builds a template there is a command line that asks for them
(`buildWords`).  The entry stands in it behind an equals sign and the file behind a word of two hyphens, so
that neither is mistaken for an option when it begins with a hyphen.  The words are read one by one: a flag
that has not been given is recorded (`accept_flag`), so that flags with different names are recorded in
their order (`foldlM_flags`), and whatever stands behind the equals sign is the entry (`accept_entry`).

Main statement: `answer_buildWords`.
-/

namespace RegexTemplate.Command

/-- The names of the flags that are given. -/
def BuildOptions.flags (options : BuildOptions) : List String :=
  ([("delimited", options.delimited), ("verify", options.verify),
    ("unassigned", options.unassigned), ("list", options.list)].filter Prod.snd).map Prod.fst

/-- A command line that asks for some options. -/
def buildWords (options : BuildOptions) : List String :=
  "build" :: (options.entry.toList.map ("--entry=" ++ ·) ++ options.flags.map ("--" ++ ·) ++
    ["--", options.file])

namespace Reading

variable {reading : Reading} {names : List String} {name word : String}

/-- What the command that builds a template reads of one word. -/
def acceptBuild : Reading → String → Except Halt Reading := accept (some "build") buildOptions 1

theorem acceptBuild_eq_ok {next : Reading}
    (hword : reading.takeWord (some "build") buildOptions word = .ok next)
    (hcount : next.operands.length ≤ 1) : reading.acceptBuild word = .ok next :=
  accept_eq_ok_iff.2 ⟨hword, hcount⟩

/-- A flag that has not been given is recorded. -/
theorem accept_flag (h : reading.Ready) (hnone : reading.operands = [])
    (hname : name ∈ ["delimited", "verify", "unassigned", "list"]) (hnew : reading.has name = false) :
    reading.acceptBuild ("--" ++ name) = .ok (reading.give name "") := by
  refine acceptBuild_eq_ok ?_ (by simp [give, hnone])
  simp only [List.mem_cons, List.not_mem_nil, or_false] at hname
  rcases hname with rfl | rfl | rfl | rfl
  all_goals
    rw [takeWord_long h rfl]
    exact (take_flag_eq_ok_iff (some "build")).2 ⟨hnew, rfl⟩

/-- Flags with different names are recorded in their order. -/
theorem foldlM_flags (h : reading.Ready) (hnone : reading.operands = []) (hnodup : names.Nodup)
    (hnames : ∀ name ∈ names, name ∈ ["delimited", "verify", "unassigned", "list"])
    (hnew : ∀ name ∈ names, reading.has name = false) :
    (names.map ("--" ++ ·)).foldlM acceptBuild reading =
      .ok { reading with given := reading.given ++ names.map (·, "") } := by
  induction names generalizing reading with
  | nil => simp [pure, Except.pure]
  | cons name names ih =>
      obtain ⟨hname, hnames⟩ := List.forall_mem_cons.1 hnames
      obtain ⟨hfresh, hnew⟩ := List.forall_mem_cons.1 hnew
      obtain ⟨hother, hnodup⟩ := List.nodup_cons.1 hnodup
      have hready : (reading.give name "").Ready := ⟨rfl, h.escaped⟩
      have hstill : ∀ other ∈ names, (reading.give name "").has other = false := by
        intro other hmem
        have hne : name ≠ other := fun hsame => hother (hsame ▸ hmem)
        have hold := hnew other hmem
        simp only [has] at hold ⊢
        simp [give, hold, hne]
      rw [List.map_cons, List.foldlM_cons, accept_flag h hnone hname hfresh]
      have hrest := ih hready hnone hnodup hnames hstill
      simpa [give, h.pending, Bind.bind, Except.bind] using hrest

/-- What stands behind the equals sign is the entry, whatever it begins with. -/
theorem accept_entry (value : String) :
    ({} : Reading).acceptBuild ("--entry=" ++ value) = .ok (({} : Reading).give "entry" value) := by
  have hword : ("--entry=" ++ value).toList =
      '-' :: '-' :: 'e' :: ("ntry=".toList ++ value.toList) := by
    rw [String.toList_append]
    rfl
  have hname : nameOf ('e' :: ("ntry=".toList ++ value.toList)) = "entry" := rfl
  have hvalue : valueOf ('e' :: ("ntry=".toList ++ value.toList)) = some value := by
    change some (String.ofList value.toList) = some value
    rw [String.ofList_toList]
  refine acceptBuild_eq_ok ?_ (Nat.zero_le 1)
  rw [takeWord_long ⟨rfl, rfl⟩ hword, takeLong_eq_ok_iff, hname, hvalue]
  exact ⟨⟨"entry", some 'e', .value⟩, rfl, rfl⟩

/-- What is read of the entry, if there is one. -/
def ofEntry (entry : Option String) : Reading := { given := entry.toList.map ("entry", ·) }

/-- What is read of a command line that is written for some options. -/
def ofOptions (options : BuildOptions) : Reading where
  given := (ofEntry options.entry).given ++ options.flags.map (·, "")
  operands := [options.file]
  escaped := true

theorem foldlM_entry (entry : Option String) :
    (entry.toList.map ("--entry=" ++ ·)).foldlM acceptBuild {} = .ok (ofEntry entry) := by
  cases entry with
  | none => rfl
  | some value =>
      rw [Option.toList_some, List.map_singleton, List.foldlM_cons, accept_entry]
      rfl

/-- Behind two hyphens the file is an operand, whatever it begins with. -/
theorem foldlM_file (h : reading.Ready) (hnone : reading.operands = []) (file : String) :
    ["--", file].foldlM acceptBuild reading =
      .ok { reading with operands := [file], escaped := true } := by
  obtain ⟨given, operands, pending, escaped⟩ := reading
  obtain ⟨rfl, rfl⟩ := h
  obtain rfl : operands = [] := hnone
  rfl

theorem readWords_buildWords (options : BuildOptions) :
    readWords (some "build") buildOptions 1 (buildWords options).tail = .ok (ofOptions options) := by
  refine readWords_eq_ok_iff.2 ⟨?_, rfl⟩
  have hnodup : options.flags.Nodup := by
    refine List.Nodup.sublist ((List.filter_sublist).map _) ?_
    exact (by decide : ["delimited", "verify", "unassigned", "list"].Nodup)
  have hnames : ∀ name ∈ options.flags, name ∈ ["delimited", "verify", "unassigned", "list"] :=
    fun name hname => ((List.filter_sublist).map Prod.fst).subset hname
  have hnew : ∀ name ∈ options.flags, (ofEntry options.entry).has name = false := by
    intro name hname
    have hother : name ≠ "entry" := by
      rintro rfl
      exact absurd (hnames _ hname) (by decide)
    cases options.entry with
    | none => rfl
    | some value => simpa [ofEntry, has] using hother.symm
  have hready : (ofEntry options.entry).Ready := ⟨rfl, rfl⟩
  have hflags := foldlM_flags hready rfl hnodup hnames hnew
  change (options.entry.toList.map ("--entry=" ++ ·) ++ options.flags.map ("--" ++ ·) ++
    ["--", options.file]).foldlM acceptBuild {} = .ok (ofOptions options)
  rw [List.foldlM_append, List.foldlM_append, foldlM_entry]
  simp only [Bind.bind, Except.bind]
  rw [hflags]
  exact foldlM_file ⟨rfl, rfl⟩ rfl options.file

end Reading

/-- The options are those that the command line is written for. -/
theorem parse_buildWords (options : BuildOptions) :
    Invocation.parse (buildWords options) = .ok (.build options) := by
  have hparse : Invocation.parse (buildWords options) = readBuild (buildWords options).tail := rfl
  rw [hparse, readBuild, Reading.readWords_buildWords]
  obtain ⟨file, entry, delimited, verify, unassigned, list⟩ := options
  cases entry <;> cases delimited <;> cases verify <;> cases unassigned <;> cases list <;> rfl

/-- **Everything that can be asked of a build can be asked for by a command line**, also for templates and
files whose names begin with a hyphen: it is answered as the options are. -/
theorem answer_buildWords (options : BuildOptions)
    (find : String → Except FileFault FileTree) :
    answer (buildWords options) find = runBuild options (find options.file) := by
  rw [answer, parse_buildWords]
  rfl

/-- The words for names that begin with hyphens. -/
example : buildWords { file := "-f", entry := some "--help", verify := true } =
    ["build", "--entry=--help", "--verify", "--", "-f"] := by decide

end RegexTemplate.Command
