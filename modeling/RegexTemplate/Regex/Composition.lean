import RegexTemplate.Regex.Syntax

/-!
# Putting expressions together

Expressions are put together in a plain form.  Sequences and choices lean to the right, a sequence
has no empty parts, a choice between characters is a set, and what all branches of a choice begin
with stands in front of the choice.  Main statements: `parts_sequence`, nothing but the order of the
parts matters to a sequence, and `branches_ofBranches`, the same for choices.
-/

namespace RegexTemplate.Regex.Expr

/-! ## Sequences -/

/-- The parts of a sequence. -/
def parts : Expr → List Expr
  | .empty => []
  | .seq first second => first.parts ++ second.parts
  | e => [e]

/-- The sequence of some parts. -/
def ofParts : List Expr → Expr
  | [] => .empty
  | [e] => e
  | e :: es => .seq e (ofParts es)

/-- Expressions one behind the other. -/
def sequence (es : List Expr) : Expr := ofParts (es.flatMap parts)

/-- A part has no parts but itself. -/
theorem parts_of_mem {e part : Expr} (h : part ∈ e.parts) : part.parts = [part] := by
  induction e with
  | empty => simp [parts] at h
  | seq first second ihFirst ihSecond =>
    rcases List.mem_append.1 h with h | h
    · exact ihFirst h
    · exact ihSecond h
  | _ => simp_all [parts]

/-- Parts come back in their order. -/
theorem parts_ofParts {es : List Expr} (h : ∀ e ∈ es, e.parts = [e]) :
    (ofParts es).parts = es := by
  induction es with
  | nil => rfl
  | cons e es ih =>
    cases es with
    | nil => exact h e (by simp)
    | cons next es =>
      have rest := ih fun e' member => h e' (List.mem_cons_of_mem _ member)
      simp [ofParts, parts, h e (by simp), rest]

/-- A sequence has the parts of its members, one behind the other. -/
theorem parts_sequence (es : List Expr) : (sequence es).parts = es.flatMap parts := by
  refine parts_ofParts fun e member => ?_
  obtain ⟨whole, -, part⟩ := List.mem_flatMap.1 member
  exact parts_of_mem part

/-! ## Choices -/

/-- The branches of a choice. -/
def branches : Expr → List Expr
  | .choice first second => first.branches ++ second.branches
  | e => [e]

/-- The choice between some branches, earlier ones preferred. -/
def ofBranches : List Expr → Expr
  | [] => .empty
  | [e] => e
  | e :: es => .choice e (ofBranches es)

/-- Branches come back in their order. -/
theorem branches_ofBranches {e : Expr} {es : List Expr}
    (h : ∀ e' ∈ e :: es, e'.branches = [e']) : (ofBranches (e :: es)).branches = e :: es := by
  induction es generalizing e with
  | nil => exact h e (by simp)
  | cons next es ih =>
    have rest := ih fun e' member => h e' (List.mem_cons_of_mem _ member)
    simp [ofBranches, branches, h e (by simp), rest]

/-- Whether an expression is one character. -/
def isChar : Expr → Bool
  | .chars ⟨[(low, high)]⟩ => low == high
  | _ => false

/-- Whether an expression is a set of other than one character. -/
def isClass : Expr → Bool
  | .chars set => !isChar (.chars set)
  | _ => false

/-- The members of an expression that is a set. -/
def members : Expr → Unicode.Ranges
  | .chars set => set.ranges
  | _ => []

/-- The set that branches come to if all of them are characters, or all of them classes. -/
def joinSets? (es : List Expr) : Option CharSet :=
  if es.all isChar || es.all isClass then some (.ofRanges (es.flatMap members)) else none

/-- Branches without what they have in common. -/
def joinBranches (es : List Expr) : Expr :=
  let es := es.flatMap branches
  match joinSets? es with
  | some set => .chars set
  | none => ofBranches es

/-- A stretch of a sequence that is shared as a whole or not at all: a row of characters, or one
other part. -/
abbrev Stretch := List Expr

/-- The stretches of a sequence. -/
def stretches : List Expr → List Stretch
  | [] => []
  | e :: es =>
    match stretches es with
    | stretch :: rest =>
      if e.isChar && stretch.head?.any isChar then (e :: stretch) :: rest
      else [e] :: stretch :: rest
    | [] => [[e]]

/-- Whether an expression has a group, which is never the same as another one. -/
def hasGroup : Expr → Bool
  | .group _ => true
  | .seq first second => first.hasGroup || second.hasGroup
  | .choice first second => first.hasGroup || second.hasGroup
  | .loop _ body => body.hasGroup
  | _ => false

/-- The stretches that two rows begin with. -/
def sharedStretches : List Stretch → List Stretch → List Stretch
  | a :: as, b :: bs =>
    if a == b && !a.any hasGroup then a :: sharedStretches as bs else []
  | _, _ => []

/-- The stretches that all branches of a choice begin with, if each of them has more than one. -/
def commonStretches (rows : List (List Stretch)) : List Stretch :=
  match rows with
  | [] => []
  | row :: rest =>
    if rows.all fun row => 2 ≤ row.length then rest.foldl sharedStretches row else []

/-- Any of some expressions, earlier ones preferred. -/
def alternatives (es : List Expr) : Expr :=
  let es := es.flatMap branches
  match joinSets? es with
  | some set => .chars set
  | none =>
    let rows := es.map fun e => stretches e.parts
    let common := commonStretches rows
    if common.isEmpty then ofBranches es
    else
      let rests := rows.map fun row => ofParts (row.drop common.length).flatten
      sequence (common.flatten ++ [joinBranches rests])

/-! ## Repetitions -/

/-- An expression that matches the empty text only, because nothing in it takes a character. -/
def takesNothing : Expr → Bool
  | .empty => true
  | .chars _ => false
  | .look _ => true
  | .group body => body.takesNothing
  | .seq first second => first.takesNothing && second.takesNothing
  | .choice first second => first.takesNothing && second.takesNothing
  | .loop _ body => body.takesNothing

/-- Whether every match of an expression takes a character. -/
def takesSome : Expr → Bool
  | .empty => false
  | .chars set => !set.ranges.isEmpty
  | .look _ => false
  | .group body => body.takesSome
  | .seq first second => first.takesSome || second.takesSome
  | .choice first second => first.takesSome && second.takesSome
  | .loop count body => 0 < count.least && body.takesSome

/-- A repetition.  Of an expression that takes nothing, runs after the first change nothing. -/
def repeated (count : Repetition) (body : Expr) : Expr :=
  let count :=
    if body.takesNothing then
      { count with least := min count.least 1, most := some (min (count.most.getD 1) 1) }
    else count
  if count.most == some 0 then .empty
  else if count.least == 1 && count.most == some 1 then body
  else .loop count body

end RegexTemplate.Regex.Expr
