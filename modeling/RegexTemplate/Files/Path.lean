import RegexTemplate.Text.Pieces

/-!
# Paths

A path is a text in which slashes separate names.  Empty names and single dots stand for nothing,
and two dots for the directory above.
-/

namespace RegexTemplate.Files

/-- The names on a path, without those that stand for nothing. -/
def pathNames (path : String) : List String :=
  (Text.pieces '/' path).filter fun name => name ≠ "" && name ≠ "."

/-- The name of the file that a path leads to. -/
def fileName? (path : String) : Option String := (pathNames path).getLast?.filter (· ≠ "..")

/-- A path with one more name. -/
def joinPath (path name : String) : String :=
  if path.isEmpty || path.endsWith "/" then path ++ name else path ++ "/" ++ name

/-- A text without another at its end. -/
def dropSuffix? (ending text : String) : Option String :=
  if ending.toList.isSuffixOf text.toList then
    some (String.ofList (text.toList.take (text.toList.length - ending.toList.length)))
  else none

end RegexTemplate.Files
