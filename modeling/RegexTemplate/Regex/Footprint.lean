import RegexTemplate.Regex.Composition
import RegexTemplate.Unicode.ByteSequence

/-!
# Footprints

An expression that is searched for byte by byte needs a machine with several states for one set of
characters, and a second machine that reads from the end of a match to its start.  The footprint of
an expression is the memory that the larger of the two takes up, where counted repetitions are
written out.  An expression is refused if its footprint is above a limit, so that no short text can
ask for a huge machine.  A choice between very many plain texts needs no machine, and is never refused.
-/

namespace RegexTemplate.Regex

open Unicode (ByteRange ByteSequence)

/-- The ways to read a text. -/
inductive Direction where
  | forward
  | backward
deriving DecidableEq, Repr

namespace Footprint

/-! ## States -/

/-- The bytes of a state. -/
def state : Nat := 32

/-- The bytes that a state takes for each range of bytes that it tells apart. -/
def transition : Nat := 8

/-- The bytes that a state takes for each state that it goes on to without reading. -/
def edge : Nat := 4

/-- A state that goes on to two others. -/
def fork : Nat := state + 2 * edge

/-- A state that tells a number of ranges of bytes apart. -/
def switch (count : Nat) : Nat := state + count * transition

/-! ## Sets of characters -/

/-- The states of a tree of rows: one for each beginning that rows share.  The rows ascend, so only
the row before has to be looked at. -/
def freshStates (before : ByteSequence) : List ByteSequence → Nat
  | [] => 0
  | row :: rows =>
    let shared := ((before.zip row).takeWhile fun (a, b) => a == b).length
    row.length - shared + freshStates row rows

/-- Rows in groups that begin with the same range of bytes. -/
def groupByHead (rows : List ByteSequence) : List (List ByteSequence) :=
  rows.splitBy fun a b => a.head? == b.head?

/-- What may follow after any beginning of the rows. -/
def continuations : (length : Nat) → List ByteSequence → List (List ByteSequence)
  | 0, _ => []
  | length + 1, rows =>
    if rows.all List.isEmpty then []
    else rows :: (groupByHead rows).flatMap fun group => continuations length (group.map List.tail)

/-- The longest encoding of a character, in bytes. -/
def longestEncoding : Nat := 4

/-- A machine for rows that reads their bytes in order.  Places that the same rows may follow are
one state. -/
def sharedEnds (rows : List ByteSequence) : Nat :=
  state + ((continuations longestEncoding rows).eraseDups.map fun rest =>
    switch (groupByHead rest).length).foldr (· + ·) 0

/-- A machine for rows that reads their bytes from the last to the first.  All rows come together in
the places of a tree. -/
def sharedStarts (rows : List ByteSequence) : Nat :=
  2 * state + state * freshStates [] rows + edge * rows.length

/-- The footprint of a set of characters. -/
def ofSet (direction : Direction) (set : CharSet) : Nat :=
  match (Expr.chars set).isChar, set.ranges with
  | true, (point, _) :: _ => state * (ByteSequence.ofPoint point).length
  | _, ranges =>
    if set.isAscii then state + switch ranges.length
    else
      match direction with
      | .forward => sharedEnds (ByteSequence.ofRanges ranges)
      | .backward => sharedStarts (ByteSequence.ofRanges ranges)

/-! ## Choices between texts -/

/-- The bytes of a text. -/
abbrev Word := List Nat

/-- The text that an expression is. -/
def word? : Expr → Option Word
  | .chars set =>
    match (Expr.chars set).isChar, set.ranges with
    | true, (point, _) :: _ => some (ByteSequence.ofPoint point)
    | _, _ => none
  | .seq first second => return (← word? first) ++ (← word? second)
  | _ => none

/-- The rows of words between those that end here.  There is one more row than words that end. -/
def rowsBetweenEnds : List Word → List (List Word)
  | [] => [[]]
  | [] :: words => [] :: rowsBetweenEnds words
  | word :: words =>
    match rowsBetweenEnds words with
    | row :: rows => (word :: row) :: rows
    | [] => [[word]]

/-- Rows of words, where several words that end before any other are the same as one. -/
def dropRepeatedEnds : List (List Word) → List (List Word)
  | [] :: [] :: rows => dropRepeatedEnds ([] :: rows)
  | rows => rows

/-- The states of a tree of words.  The order of the words says which are preferred, so words on
different sides of one that ends are kept apart. -/
def wordTree : (length : Nat) → List Word → Nat
  | 0, _ => 0
  | length + 1, words =>
    if words.all List.isEmpty then 0
    else
      let rows := dropRepeatedEnds (rowsBetweenEnds words)
      let ends := rows.length - 1
      let rows := rows.filter (!·.isEmpty)
      let choice := state + edge * (rows.length + ends)
      let inner := rows.map fun row =>
        let heads := (row.filterMap List.head?).eraseDups
        let own := if heads.length == 1 then state else switch heads.length
        own + (heads.map fun head =>
          wordTree length ((row.filter (·.head? == some head)).map List.tail)).sum
      choice + inner.sum

/-- The footprint of a choice between texts. -/
def ofWords (direction : Direction) (words : List Word) : Nat :=
  let words :=
    match direction with
    | .forward => words
    | .backward => words.map List.reverse
  state + wordTree ((words.map List.length).foldl max 0 + 1) words

/-! ## Expressions -/

/-- The footprint of a repetition, of whose body footprint and kind are given. -/
def ofLoop (count : Repetition) (takesSome : Bool) (body : Nat) : Nat :=
  match count.least, count.most with
  | 0, none => if takesSome then fork + body else 2 * fork + state + body
  | least, none => least * body + fork
  | 0, some 1 => fork + state + body
  | 0, some most => 2 * state + most * (fork + body)
  | least, some most =>
    if least = most then least * body
    else least * body + state + (most - least) * (fork + body)

/-- The footprint of an expression, which may be a branch of a choice. -/
def ofExpr (direction : Direction) : (inChoice : Bool) → Expr → Nat
  | inChoice, .choice first second =>
    let both := ofExpr direction true first + ofExpr direction true second
    if inChoice then both
    else
      match (Expr.choice first second).branches.mapM word? with
      | some words => ofWords direction words
      | none => 2 * state + both
  | inChoice, .empty => own inChoice state
  | inChoice, .chars set => own inChoice (ofSet direction set)
  | inChoice, .look _ => own inChoice state
  | inChoice, .group body =>
    let notes := if direction = .forward then 2 * state else 0
    own inChoice (notes + ofExpr direction false body)
  | inChoice, .seq first second =>
    own inChoice (ofExpr direction false first + ofExpr direction false second)
  | inChoice, .loop count body =>
    own inChoice (ofLoop count body.takesSome (ofExpr direction false body))
where
  /-- A branch takes an edge from where the choice starts. -/
  own (inChoice : Bool) (size : Nat) : Nat := if inChoice then edge + size else size

end Footprint

/-- Whether all matches of an expression start where the text does. -/
def Expr.startsText : Expr → Bool
  | .look condition => condition == .textStart
  | .group body => body.startsText
  | .seq first second => first.startsText || first.takesNothing && second.startsText
  | .choice first second => first.startsText && second.startsText
  | .loop count body => 0 < count.least && body.startsText
  | _ => false

/-- Whether all matches of an expression end where the text does. -/
def Expr.endsText : Expr → Bool
  | .look condition => condition == .textEnd
  | .group body => body.endsText
  | .seq first second => second.endsText || second.takesNothing && first.endsText
  | .choice first second => first.endsText && second.endsText
  | .loop count body => 0 < count.least && body.endsText
  | _ => false

/-- The footprint of the machine that reads in one direction.  It may begin anywhere, unless the
expression says where, notes the ends of the match when it reads forward, and accepts. -/
def Expr.footprint (e : Expr) (direction : Direction) : Nat :=
  let anchored := if direction = .forward then e.startsText else e.endsText
  let beginning :=
    if anchored then Footprint.state
    else Footprint.fork + Footprint.state + Footprint.switch 1
  let notes := if direction = .forward then 2 * Footprint.state else 0
  beginning + notes + Footprint.ofExpr direction false e + Footprint.state

/-- The largest footprint of an expression that is accepted: ten mebibytes. -/
def footprintLimit : Nat := 10 * 1024 * 1024

/-- The number of texts from which on a choice between texts is looked up in a table of its own. -/
def wordListLength : Nat := 3000

/-- Whether an expression is a choice between so many texts that no machine is built for it. -/
def Expr.isWordList (e : Expr) : Bool :=
  match e.branches.mapM Footprint.word? with
  | some words => wordListLength ≤ words.length
  | none => false

/-- Whether an expression is small enough to be accepted.  Long lists of texts always are. -/
def Expr.isSmall (e : Expr) : Bool :=
  e.isWordList || e.footprint .forward ≤ footprintLimit && e.footprint .backward ≤ footprintLimit

end RegexTemplate.Regex
