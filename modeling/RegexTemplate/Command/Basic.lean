import RegexTemplate.Command.Build
import RegexTemplate.Command.Test

/-!
# The program

What the program answers to a command line, given what the path on it leads to.
-/

namespace RegexTemplate.Command

/-- The name and the version of the program. -/
def versionLine : String := "retemplate 0.1.0"

/-- How the program is used. -/
def usageLines : List String :=
  ["Compose regular expressions from templates",
    "",
    "Usage: retemplate [OPTIONS] <COMMAND>",
    "",
    "Commands:",
    "  build  Compile a template definition file",
    "  test   Run .retest files",
    "  help   Print this message or the help of the given subcommand(s)",
    "",
    "Options:",
    "      --no-color  Disable colored output",
    "  -v, --verbose   Log engine activity to stderr",
    "  -h, --help      Print help",
    "  -V, --version   Print version"]

/-- How the command that builds a template is used. -/
def buildUsageLines : List String :=
  ["Compile a template definition file",
    "",
    "Usage: retemplate build [OPTIONS] <FILE>",
    "",
    "Arguments:",
    "  <FILE>  TOML template definition file",
    "",
    "Options:",
    "      --no-color       Disable colored output",
    "  -e, --entry <ENTRY>  Template to compile (default: the file's entry, else the last template)",
    "      --delimited      Print in /pattern/flags form",
    "  -v, --verbose        Log engine activity to stderr",
    "      --verify         Also check that the result is accepted by the regex engine",
    "      --unassigned     List unbound placeholder names instead of compiling",
    "      --list           List all template names in the file",
    "  -h, --help           Print help"]

/-- How the command that runs test files is used. -/
def testUsageLines : List String :=
  ["Run .retest files",
    "",
    "Usage: retemplate test [OPTIONS] <PATH>",
    "",
    "Arguments:",
    "  <PATH>  Path to a .retest file or directory containing them",
    "",
    "Options:",
    "  -c, --category <CATEGORY>  Run only tests in these categories (subfolder names). Repeatable",
    "      --no-color             Disable colored output",
    "      --list-categories      List available categories and exit",
    "  -v, --verbose              Log engine activity to stderr",
    "  -h, --help                 Print help"]

/-- The help on a topic. -/
def helpLines : Option String → List String
  | some "build" => buildUsageLines
  | some "test" => testUsageLines
  | _ => usageLines

/-- The answer where reading a command line ends without a command to run. -/
def Halt.answer : Halt → Response
  | .help topic => .success (helpLines topic)
  | .version => .success [versionLine]
  | .refused error =>
    ⟨2, [], ["error: " ++ error.message, "", "For more information, try '--help'."]⟩

/-- The answer to an invocation, given what its path leads to. -/
def Invocation.answer (invocation : Invocation) (found : Except FileFault FileTree) : Response :=
  match invocation with
  | .build options => runBuild options found
  | .test colour options => runTest colour options found

/-- The answer to a command line, given what each path leads to. -/
def answer (words : List String) (find : String → Except FileFault FileTree) : Response :=
  match Invocation.parse words with
  | .error halt => halt.answer
  | .ok invocation => invocation.answer (find invocation.path)

end RegexTemplate.Command
