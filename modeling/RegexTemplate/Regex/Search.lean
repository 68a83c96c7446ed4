import RegexTemplate.Regex.NamedClass
import RegexTemplate.Regex.Program

/-!
# Searching

A program is run over a text by a list of threads in the order of preference.  At each place the
threads first follow the instructions that take no character; each instruction is visited by the
most preferred thread only.  Then the threads take the next character one after the other.  A thread
that accepts drops all those behind it, so the match that is left at the end is the leftmost one,
and among those the preferred one.  Offsets count the bytes of the text.
-/

namespace RegexTemplate.Regex

/-- A place between two characters of a text. -/
structure Place where
  offset : Nat
  before : Option Char
  after : Option Char

/-- Whether a neighbour of a place is a word character. -/
def isWordAt (ascii : Bool) : Option Char → Bool
  | some c => (if ascii then NamedClass.asciiWordChars else NamedClass.wordChars).has c
  | none => false

/-- Whether a condition holds at a place. -/
def Look.holds (place : Place) : Look → Bool
  | .textStart => place.before.isNone
  | .textEnd => place.after.isNone
  | .lineStart => place.before.isNone || place.before == some '\n'
  | .lineEnd => place.after.isNone || place.after == some '\n'
  | .lineStartCrlf =>
    place.before.isNone || place.before == some '\n' ||
      (place.before == some '\r' && place.after != some '\n')
  | .lineEndCrlf =>
    place.after.isNone || place.after == some '\r' ||
      (place.after == some '\n' && place.before != some '\r')
  | .boundary ascii => isWordAt ascii place.before != isWordAt ascii place.after
  | .noBoundary ascii => isWordAt ascii place.before == isWordAt ascii place.after
  | .wordStart ascii => !isWordAt ascii place.before && isWordAt ascii place.after
  | .wordEnd ascii => isWordAt ascii place.before && !isWordAt ascii place.after
  | .wordStartHalf ascii => !isWordAt ascii place.before
  | .wordEndHalf ascii => !isWordAt ascii place.after

/-- A thread: the instruction it is at, and the offset where its match starts. -/
structure Thread where
  position : Nat
  start : Nat

/-- What a program's threads come to at one place: which instructions have been visited, and the
threads that wait for a character or accept, the last one first. -/
structure Frontier where
  visited : Array Bool
  waiting : List Thread

/-- Follows the instructions that take no character from the positions on a stack. Every step either
drops a position that was visited before or visits one and pushes at most two. -/
def follow (program : Program) (place : Place) (start : Nat) :
    Nat → List Nat → Frontier → Frontier
  | 0, _, frontier => frontier
  | _ + 1, [], frontier => frontier
  | fuel + 1, position :: stack, frontier =>
    if frontier.visited.getD position true then follow program place start fuel stack frontier
    else
      let frontier := { frontier with visited := frontier.visited.set! position true }
      let wait := { frontier with waiting := ⟨position, start⟩ :: frontier.waiting }
      match program.instrs[position]? with
      | some (.chars _ _) => follow program place start fuel stack wait
      | some .accept => follow program place start fuel stack wait
      | some (.look condition next) =>
        follow program place start fuel
          (if condition.holds place then next :: stack else stack) frontier
      | some (.fork first second) =>
        follow program place start fuel (first :: second :: stack) frontier
      | none => follow program place start fuel stack frontier

/-- The threads that wait at a place, in the order of preference, for threads that arrive there. -/
def settle (program : Program) (place : Place) (arriving : List Thread) : List Thread :=
  let size := program.instrs.size
  let frontier := arriving.foldl
    (fun frontier thread =>
      follow program place thread.start (2 * size + 2) [thread.position] frontier)
    ⟨Array.replicate size false, []⟩
  frontier.waiting.reverse

/-- Lets threads take the next character in the order of preference, until one accepts.  Returns the
match of the one that accepts, and the threads that have moved on before it. -/
def advance (program : Program) (place : Place) : List Thread → Option (Nat × Nat) × List Thread
  | [] => (none, [])
  | thread :: threads =>
    match program.instrs[thread.position]? with
    | some .accept => (some (thread.start, place.offset), [])
    | some (.chars set next) =>
      let (found, moved) := advance program place threads
      if place.after.any set.has then (found, ⟨next, thread.start⟩ :: moved) else (found, moved)
    | _ => advance program place threads

/-- Runs a program from a place on.  New threads start as long as nothing has been found. -/
def run (program : Program) (offset : Nat) (before : Option Char) (arriving : List Thread)
    (best : Option (Nat × Nat)) (rest : List Char) : Option (Nat × Nat) :=
  let place : Place := ⟨offset, before, rest.head?⟩
  let arriving := if best.isNone then arriving ++ [⟨program.start, offset⟩] else arriving
  let (found, moved) := advance program place (settle program place arriving)
  let best := found <|> best
  match rest with
  | [] => best
  | c :: rest =>
    if best.isSome && moved.isEmpty then best
    else run program (offset + c.utf8Size) (some c) moved best rest

/-- The byte offsets of the leftmost match in a text. -/
def Program.find? (program : Program) (text : String) : Option (Nat × Nat) :=
  run program 0 none [] none text.toList

end RegexTemplate.Regex
