import RegexTemplate.Definition.Error

/-!
# Diagnostics

An error is shown with the place in the file where it begins, by its line and its column, and with
what helps to mend it.
-/

namespace RegexTemplate.Command

/-- A line and a column, both counted from one.  Columns count characters. -/
structure Location where
  line : Nat
  column : Nat
deriving DecidableEq, Repr

/-- The location of a character that has some bytes before it. -/
def locate (offset : Nat) : List Char → Location → Location
  | [], location => location
  | c :: rest, location =>
    if offset < c.utf8Size then location
    else
      locate (offset - c.utf8Size) rest
        (if c = '\n' then ⟨location.line + 1, 1⟩ else ⟨location.line, location.column + 1⟩)

/-- The location of an offset in a text. -/
def Location.ofOffset (text : String) (offset : Nat) : Location :=
  locate offset text.toList ⟨1, 1⟩

/-- The lines that show an error of a file: its message, its place and its notes.  The line of the file
that stands between the place and the notes, and the carets under it, are left out. -/
def diagnosticLines (file source : String) (error : Definition.Error) : List String :=
  let place :=
    match error.span with
    | none => []
    | some span =>
      let location := Location.ofOffset source span.start
      ["  ┌─ " ++ file ++ ":" ++ toString location.line ++ ":" ++ toString location.column]
  ["error: " ++ error.message] ++ place ++ error.notes.map ("  = " ++ ·) ++ [""]

end RegexTemplate.Command
