/-!
# Pieces of a text

A text is cut at a character.  What stands between the cuts are its pieces, one more than there are
cuts; some of them may be empty.
-/

namespace RegexTemplate.Text

/-- The pieces of a text between the places where a character stands. -/
def pieces (separator : Char) (text : String) : List String :=
  (text.toList.splitOn separator).map String.ofList

end RegexTemplate.Text
