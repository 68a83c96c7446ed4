/-!
# Responses

What the program answers: its exit code, and the lines of its output and of its messages.
-/

namespace RegexTemplate.Command

/-- The answer of the program. -/
structure Response where
  code : Nat
  output : List String := []
  messages : List String := []
deriving DecidableEq, Repr

/-- The answer after a success. -/
def Response.success (output : List String) : Response := ⟨0, output, []⟩

/-- The answer after a failure. -/
def Response.failure (messages : List String) : Response := ⟨1, [], messages⟩

/-- Lines as one text. -/
def textOfLines (lines : List String) : String := String.join (lines.map (· ++ "\n"))

end RegexTemplate.Command
