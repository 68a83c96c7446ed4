import RegexTemplate.Text.Hex
import RegexTemplate.Text.Pieces

/-!
# Tables of code points

A table is a list of closed ranges of code points.  Tables are written as text: hexadecimal code
points, alone or as two ends joined by a hyphen, one blank apart.
-/

namespace RegexTemplate.Unicode

/-- Closed ranges of code points. -/
abbrev Ranges := List (Nat × Nat)

/-- The groups of a table's text: the numbers that hyphens join. -/
def numberGroups (text : String) : List (List Nat) :=
  (Text.pieces ' ' text).map fun group =>
    (Text.pieces '-' group).map fun digits => Text.Hex.value digits.toList

/-- The table that a text writes. -/
def Ranges.ofText (text : String) : Ranges :=
  (numberGroups text).filterMap fun
    | [point] => some (point, point)
    | [low, high] => some (low, high)
    | _ => none

/-- The groups of a table that goes over several lines. -/
def numberGroupsOfLines (lines : List String) : List (List Nat) := lines.flatMap numberGroups

/-- The table that several lines write. -/
def Ranges.ofLines (lines : List String) : Ranges := lines.flatMap Ranges.ofText

/-- Whether a code point lies in one of the ranges. -/
def Ranges.has (ranges : Ranges) (point : Nat) : Bool :=
  ranges.any fun range => range.1 ≤ point && point ≤ range.2

end RegexTemplate.Unicode
