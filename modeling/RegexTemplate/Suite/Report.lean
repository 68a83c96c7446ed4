import RegexTemplate.Suite.Run
import RegexTemplate.Text.Pieces

/-!
# Reports

What is written about a run: a line for each file under its category, the reasons of the failures,
and a summary.  Marks may be coloured by the control sequences of terminals.
-/

namespace RegexTemplate.Suite

/-- A text in a style of the terminal, if colours are wanted. -/
def paint (colour : Bool) (style text : String) : String :=
  if colour then "\x1b[" ++ style ++ "m" ++ text ++ "\x1b[0m" else text

/-- A line without the carriage return at its end. -/
def dropReturn (line : String) : String :=
  String.ofList (match line.toList.reverse with
    | '\r' :: rest => rest.reverse
    | _ => line.toList)

/-- The lines of a text.  A line break may be a line feed or a carriage return with a line feed, and
nothing behind the last one is no line. -/
def lines (text : String) : List String :=
  let pieces := Text.pieces '\n' text
  let last := pieces.getLast?.getD ""
  pieces.dropLast.map dropReturn ++ if last.isEmpty then [] else [last]

/-- The line of a result. -/
def resultLine (colour : Bool) (result : Result) : String :=
  let mark := if result.passes then paint colour "32" "PASS" else paint colour "31" "FAIL"
  "  " ++ mark ++ "  " ++ result.label

/-- The lines of a category. -/
def partLines (colour : Bool) (part : Part) : List String :=
  (match part.label with
    | some label => ["", paint colour "1" label]
    | none => []) ++ part.results.map (resultLine colour)

/-- The lines of a failure. -/
def failureLines (result : Result) : List String :=
  ["", "  --- " ++ result.path ++ " ---"] ++
    ((result.trouble.map fun trouble => lines trouble.message).getD []).map ("  " ++ ·)

/-- The summary of a run. -/
def summary (colour : Bool) (passed failed : Nat) : String :=
  if failed = 0 then
    "test result: " ++ paint colour "32" "ok" ++ ". " ++ toString passed ++ " passed, 0 failed"
  else
    "test result: " ++ paint colour "31" "FAILED" ++ ". " ++ toString passed ++ " passed, " ++
      toString failed ++ " failed (of " ++ toString (passed + failed) ++ ")"

/-- The lines of a report. -/
def report (colour : Bool) (parts : List Part) : List String :=
  let failed := failures parts
  parts.flatMap (partLines colour) ++
    (if failed.isEmpty then [] else ["", "failures:"] ++ failed.flatMap failureLines) ++
    ["", summary colour (passed parts) failed.length]

end RegexTemplate.Suite
