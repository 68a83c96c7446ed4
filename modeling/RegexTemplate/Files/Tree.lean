import RegexTemplate.Files.Path

/-!
# Trees of files

A tree of files as it was found: files with their bytes, and directories with their entries in any
order.  A path is followed name by name from a directory; what lies outside the tree is taken to be
empty.
-/

namespace RegexTemplate

/-- A file or a directory. -/
inductive FileTree where
  | file (content : ByteArray)
  | directory (entries : List (String × FileTree))

/-- The reasons why a path leads to no text. -/
inductive FileFault where
  | notFound
  | notDirectory
  | isDirectory
  | nameTooLong
  /-- The bytes are no text. -/
  | notText
  /-- Any other reason, as the system gives it. -/
  | other (reason : String)
deriving DecidableEq, Repr

/-- What a reason is called in a message. -/
def FileFault.message : FileFault → String
  | .notFound => "No such file or directory (os error 2)"
  | .notDirectory => "Not a directory (os error 20)"
  | .isDirectory => "Is a directory (os error 21)"
  | .nameTooLong => "File name too long (os error 36)"
  | .notText => "stream did not contain valid UTF-8"
  | .other reason => reason

namespace FileTree

/-- The tree without entries. -/
def empty : FileTree := .directory []

/-- The entries of a directory. -/
def entries : FileTree → List (String × FileTree)
  | .file _ => []
  | .directory entries => entries

/-- Puts a tree in the place that some names lead to, and makes the directories on the way.  A
directory that is there already stays as it is if an empty one is put in its place. -/
def put (new : FileTree) : List String → FileTree → FileTree
  | [], .directory entries =>
    match new with
    | .directory [] => .directory entries
    | _ => new
  | [], .file _ => new
  | name :: names, tree =>
    let inner := new.put names ((tree.entries.lookup name).getD empty)
    .directory (tree.entries.filter (·.1 != name) ++ [(name, inner)])

/-- The longest name that a directory can hold, in bytes. -/
def nameLimit : Nat := 255

/-- Follows names from a tree, the directories above which are given from below. -/
def follow : List String → (above : List FileTree) → FileTree → Except FileFault FileTree
  | [], _, tree => .ok tree
  | _ :: _, _, .file _ => .error .notDirectory
  | name :: names, above, .directory entries =>
    if name = "" ∨ name = "." then follow names above (.directory entries)
    else if name = ".." then follow names above.tail (above.headD empty)
    else if nameLimit < name.utf8ByteSize then .error .nameTooLong
    else
      match entries.lookup name with
      | some inner => follow names (.directory entries :: above) inner
      | none => .error .notFound

/-- The bytes that a path is too long with. -/
def pathLimit : Nat := 4096

/-- What a path leads to from a directory. -/
def find (tree : FileTree) (path : String) : Except FileFault FileTree :=
  if pathLimit ≤ path.utf8ByteSize then .error .nameTooLong
  else
    match Text.pieces '/' path with
    | [""] => .error .notFound
    | "" :: names => follow names [] empty
    | names => follow names [] tree

/-- The text of a file. -/
def readText : FileTree → Except FileFault String
  | .directory _ => .error .isDirectory
  | .file content =>
    match String.fromUTF8? content with
    | some text => .ok text
    | none => .error .notText

end FileTree

end RegexTemplate
