import RegexTemplate.Regex.Footprint

/-!
# Programs

A program is the automaton of a regular expression: each instruction takes one character, tests the
place it is at, forks into a preferred and another continuation, or accepts.  An expression is
compiled from its end to its start, so that the continuation is known when an instruction is
written.
-/

namespace RegexTemplate.Regex

/-- One instruction.  Continuations are positions in the program. -/
inductive Instr where
  /-- Takes a character of the set. -/
  | chars (set : CharSet) (next : Nat)
  /-- Goes on where the condition holds. -/
  | look (condition : Look) (next : Nat)
  /-- Goes on both ways and prefers the first. -/
  | fork (first second : Nat)
  /-- Accepts what was taken so far. -/
  | accept
deriving Repr, Inhabited

/-- Instructions, and the one to begin with. -/
structure Program where
  instrs : Array Instr
  start : Nat

/-- A growing row of instructions. -/
abbrev Draft := Array Instr

/-- Appends an instruction to a draft and returns its position. -/
def emit (draft : Draft) (instr : Instr) : Nat × Draft := (draft.size, draft.push instr)

/-- A fork between a run of a repetition and its end. -/
def Repetition.fork (count : Repetition) (run done : Nat) : Instr :=
  if count.greedy then .fork run done else .fork done run

/-- Compiles an expression to be followed by the instruction at `next`, and returns where it
starts. -/
def Expr.compile : Expr → Nat → Draft → Nat × Draft
  | .empty, next, draft => (next, draft)
  | .chars set, next, draft => emit draft (.chars set next)
  | .look condition, next, draft => emit draft (.look condition next)
  | .group body, next, draft => body.compile next draft
  | .seq first second, next, draft =>
    let (middle, draft) := second.compile next draft
    first.compile middle draft
  | .choice first second, next, draft =>
    let (start', draft) := second.compile next draft
    let (start, draft) := first.compile next draft
    emit draft (.fork start start')
  | .loop count body, next, draft =>
    let tail :=
      match count.most with
      | some most =>
        -- each further run is taken only if the one before was
        (List.range (most - count.least)).foldl
          (fun (rest, draft) _ =>
            let (run, draft) := body.compile rest draft
            emit draft (count.fork run next))
          (next, draft)
      | none =>
        -- the last run comes back to the fork behind it
        let (again, draft) := emit draft (count.fork next next)
        let (run, draft) := body.compile again draft
        let draft := draft.set! again (count.fork run next)
        if count.least == 0 then emit draft (count.fork run next) else (run, draft)
    let copies := if count.most.isNone then count.least - 1 else count.least
    (List.range copies).foldl (fun (rest, draft) _ => body.compile rest draft) tail

/-- The program of an expression, if it is not too large. -/
def Program.ofExpr (e : Expr) : Except Fault Program :=
  if !e.isSmall then .error .tooLarge
  else
    let (start, instrs) := e.compile 0 #[.accept]
    .ok ⟨instrs, start⟩

end RegexTemplate.Regex
