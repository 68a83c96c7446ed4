import RegexTemplate.Command.Words

/-!
# Arguments

The program has a command that builds a template and one that runs test files.  A command line that
names no command means the first one.
-/

namespace RegexTemplate.Command

/-- What is asked of the command that builds a template. -/
structure BuildOptions where
  file : String
  /-- The template that is built, if it is not the entry. -/
  entry : Option String := none
  /-- The result is written between slashes. -/
  delimited : Bool := false
  /-- The result is checked to be a regular expression. -/
  verify : Bool := false
  /-- Open names are listed instead. -/
  unassigned : Bool := false
  /-- Templates are listed instead. -/
  list : Bool := false
deriving DecidableEq, Repr

/-- What is asked of the command that runs test files. -/
structure TestOptions where
  path : String
  /-- The categories that are run, if not all of them. -/
  categories : List String := []
  /-- Categories are listed instead. -/
  listCategories : Bool := false
deriving DecidableEq, Repr

/-- What is asked of the program. -/
inductive Invocation where
  | build (options : BuildOptions)
  | test (colour : Bool) (options : TestOptions)
deriving DecidableEq, Repr

/-- The names of the commands. -/
def commandNames : List String := ["build", "test", "help"]

/-- The options of every command. -/
def commonOptions : List Switch :=
  [⟨"no-color", none, .flag⟩, ⟨"verbose", some 'v', .flag⟩, ⟨"help", some 'h', .help⟩]

/-- The options in front of a command. -/
def programOptions : List Switch := commonOptions ++ [⟨"version", some 'V', .version⟩]

/-- The options of the command that builds a template. -/
def buildOptions : List Switch :=
  commonOptions ++ [⟨"entry", some 'e', .value⟩, ⟨"delimited", none, .flag⟩,
    ⟨"verify", none, .flag⟩, ⟨"unassigned", none, .flag⟩, ⟨"list", none, .flag⟩]

/-- The options of the command that runs test files. -/
def testOptions : List Switch :=
  commonOptions ++ [⟨"category", some 'c', .values⟩, ⟨"list-categories", none, .flag⟩]

/-- Whether a word begins with a hyphen. -/
def beginsWithHyphen (word : String) : Bool := word.toList.head? == some '-'

/-- A command line with the command that is meant: if the first word without a hyphen in front names
no command, the one that builds a template is put before it. -/
def withCommand : List String → List String
  | [] => []
  | word :: words =>
    if beginsWithHyphen word then word :: withCommand words
    else if commandNames.contains word then word :: words
    else "build" :: word :: words

/-- The arguments of the command that builds a template. -/
def readBuild (words : List String) : Except Halt Invocation := do
  let reading ← readWords (some "build") buildOptions 1 words
  match reading.operands with
  | [] => .error (.refused (.missingOperand "FILE"))
  | file :: _ =>
    return .build
      { file
        entry := (reading.values "entry").head?
        delimited := reading.has "delimited"
        verify := reading.has "verify"
        unassigned := reading.has "unassigned"
        list := reading.has "list" }

/-- The arguments of the command that runs test files. -/
def readTest (colour : Bool) (words : List String) : Except Halt Invocation := do
  let reading ← readWords (some "test") testOptions 1 words
  match reading.operands with
  | [] => .error (.refused (.missingOperand "PATH"))
  | path :: _ =>
    return .test (colour && !reading.has "no-color")
      { path
        categories := reading.values "category"
        listCategories := reading.has "list-categories" }

/-- The topics behind the command that asks for help. -/
def readHelp : List String → Halt
  | [] => .help none
  | [topic] =>
    if commandNames.contains topic then .help (some topic) else .refused (.unknownCommand topic)
  | topic :: other :: _ =>
    .refused (.unknownCommand (if commandNames.contains topic then other else topic))

/-- The arguments of a command behind its name. -/
def readCommand (colour : Bool) (name : String) (words : List String) : Except Halt Invocation :=
  match name with
  | "build" => readBuild words
  | "test" => readTest colour words
  | "help" => .error (readHelp words)
  | _ => .error (.refused (.unknownCommand name))

/-- Reads options up to the name of a command, and then its arguments. -/
def readProgram (reading : Reading) : List String → Except Halt Invocation
  | [] => .error (.refused .missingCommand)
  | word :: words => do
    let reading ← reading.takeWord none programOptions word
    match reading.operands with
    | [] => readProgram reading words
    | name :: _ =>
      if reading.escaped then .error (.refused (.unexpectedOperand name))
      else readCommand (!reading.has "no-color") name words

/-- Reads a command line. -/
def Invocation.parse (words : List String) : Except Halt Invocation :=
  readProgram {} (withCommand words)

/-- The path of what is to be read. -/
def Invocation.path : Invocation → String
  | .build options => options.file
  | .test _ options => options.path

end RegexTemplate.Command
