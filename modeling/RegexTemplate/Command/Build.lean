import RegexTemplate.Command.Arguments
import RegexTemplate.Command.Diagnostic
import RegexTemplate.Command.Response
import RegexTemplate.Definition.Basic
import RegexTemplate.Files.Tree

/-!
# Building a template

A definition is read from a file, and the text of one of its templates is written, or else the names
of its templates, or the names that are open in one of them.
-/

namespace RegexTemplate.Command

/-- The line of a template in a list. -/
def listLine (name : String) (template : Template) : String :=
  match template.unassigned with
  | [] => name
  | names => name ++ " (unbound: " ++ ", ".intercalate names ++ ")"

/-- Puts a template into its text. -/
def compileTemplate (options : BuildOptions) (shelf : Shelf) (name : String) (template : Template) :
    Response :=
  match shelf.compile template with
  | .error e => .failure ["error: cannot compile '" ++ name ++ "': " ++ e.message]
  | .ok pattern =>
    match if options.verify then pattern.toRegex.map some else .ok none with
    | .error e => .failure ["error: " ++ e.message]
    | .ok _ => .success [if options.delimited then pattern.delimited else pattern.source]

/-- Builds a template of a definition. -/
def buildTemplate (options : BuildOptions) (definition : Definition) : Response :=
  match options.entry <|> definition.entryName? with
  | none => .failure ["error: '" ++ options.file ++ "' defines no templates"]
  | some name =>
    match definition.get? name with
    | none =>
      .failure ["error: template '" ++ name ++ "' is not defined (available: " ++
        ", ".intercalate definition.names ++ ")"]
    | some template =>
      if options.unassigned then .success template.unassigned
      else compileTemplate options definition.shelf name template

/-- Does what is asked with the text of a file. -/
def buildSource (options : BuildOptions) (source : String) : Response :=
  match Definition.parse source 0 with
  | .error errors => .failure (errors.flatMap (diagnosticLines options.file source))
  | .ok definition =>
    if options.list then
      .success (definition.templates.map fun (name, template) => listLine name template)
    else buildTemplate options definition

/-- Does what is asked with a file. -/
def runBuild (options : BuildOptions) (found : Except FileFault FileTree) : Response :=
  match found.bind FileTree.readText with
  | .error fault => .failure ["error: cannot read '" ++ options.file ++ "': " ++ fault.message]
  | .ok source => buildSource options source

end RegexTemplate.Command
