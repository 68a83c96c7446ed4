import RegexTemplate.Command.Basic

/-!
# The executable

Reads what the path on the command line leads to, and writes the answer of the program.
-/

namespace RegexTemplate.Main

/-- The reason why the system has refused a path. -/
def fault : IO.Error → FileFault
  | .noFileOrDirectory _ _ _ => .notFound
  | .inappropriateType _ _ _ => .notDirectory
  | error => .other (toString error)

/-- The bytes of a file, if it is to be read. -/
def loadFile (entry : IO.FS.DirEntry) : IO FileTree := do
  if Suite.isTestName entry.fileName then return .file (← IO.FS.readBinFile entry.path)
  else return .file .empty

/-- The trees of the entries of a directory.  A directory that cannot be read has none. -/
partial def loadEntries (entries : Array IO.FS.DirEntry) : IO (List (String × FileTree)) :=
  entries.toList.mapM fun entry => do
    if ← entry.path.isDir then
      let inner ← try entry.path.readDir catch _ => pure #[]
      return (entry.fileName, .directory (← loadEntries inner))
    else return (entry.fileName, ← loadFile entry)

/-- What a path leads to. -/
def load (path : String) : IO (Except FileFault FileTree) := do
  try
    let place ← IO.FS.realPath path
    if ← place.isDir then return .ok (.directory (← loadEntries (← place.readDir)))
    else return .ok (.file (← IO.FS.readBinFile place))
  catch error => return .error (fault error)

/-- The answer to a command line. -/
def respond (words : List String) : IO Command.Response := do
  match Command.Invocation.parse words with
  | .error halt => return halt.answer
  | .ok invocation => return invocation.answer (← load invocation.path)

end RegexTemplate.Main

/-- Answers the command line. -/
def main (words : List String) : IO UInt32 := do
  let response ← RegexTemplate.Main.respond words
  (← IO.getStdout).putStr (RegexTemplate.Command.textOfLines response.output)
  (← IO.getStderr).putStr (RegexTemplate.Command.textOfLines response.messages)
  return response.code.toUInt32
