import RegexTemplate.Regex.Bracket
import RegexTemplate.Regex.Composition

/-!
# Reading a regular expression

The reader goes through the text once and applies the modes as it goes: a directive such as `(?i)`
holds from where it stands to the end of its group, later alternatives included.  What is read is an
expression with its height, since nesting deeper than `nestingLimit` is refused.
-/

namespace RegexTemplate.Regex

/-- How deeply groups, classes, repetitions, sequences and choices may be nested. -/
def nestingLimit : Nat := 250

/-- A part of a sequence that has been read. -/
inductive Piece where
  /-- An expression with its height. -/
  | expr (e : Expr) (height : Nat)
  /-- A directive that sets modes. -/
  | directive

/-- The expression of a piece. -/
def Piece.toExpr : Piece → Expr
  | .expr e _ => e
  | .directive => .empty

/-- The height of a piece. -/
def Piece.height : Piece → Nat
  | .expr _ height => height
  | .directive => 0

/-- A sequence of pieces, the last one first, as one piece. -/
def sequencePieces : List Piece → Piece
  | [] => .expr .empty 0
  | [piece] => piece
  | pieces =>
    .expr (.sequence (pieces.reverse.map Piece.toExpr))
      (1 + (pieces.map Piece.height).foldl max 0)

/-- The alternatives of a group, the last one first, as one piece. -/
def alternatePieces : List Piece → Piece
  | [] => .expr .empty 0
  | [piece] => piece
  | pieces =>
    .expr (.alternatives (pieces.reverse.map Piece.toExpr))
      (1 + (pieces.map Piece.height).foldl max 0)

/-- The modes with the one that a letter names switched on or off. -/
def Modes.set? (modes : Modes) (letter : Char) (on : Bool) : Option Modes :=
  match letter with
  | 'i' => some { modes with ignoreCase := on }
  | 'm' => some { modes with multiLine := on }
  | 's' => some { modes with dotAll := on }
  | 'x' => some { modes with spaced := on }
  | 'U' => some { modes with swapGreed := on }
  | 'R' => some { modes with crlf := on }
  | 'u' => some { modes with unicode := on }
  | _ => none

/-- Reads the letters of a mode group up to `:` or `)`.  No letter may occur twice, and neither may
the hyphen, which must not be last. -/
def readModes (modes : Modes) (seen : List Char) :
    List Char → Except Fault (Modes × List Char × List Char)
  | [] => .error .unclosedGroup
  | c :: cs =>
    if c == ':' || c == ')' then
      if seen.head? == some '-' then .error .danglingNegation else .ok (modes, seen, c :: cs)
    else if c == '-' then
      if seen.contains '-' then .error .repeatedMode else readModes modes ('-' :: seen) cs
    else
      match modes.set? c (!seen.contains '-') with
      | none => .error .unknownMode
      | some changed =>
        if seen.contains c then .error .repeatedMode else readModes changed (c :: seen) cs

/-- Reads the name of a group up to `>`.  Names are not empty and not used twice. -/
def readGroupName (names : List (List Char)) (cs : List Char) :
    Except Fault (List (List Char) × List Char) := do
  let name := cs.takeWhile (· != '>')
  let isName :=
    match name with
    | [] => false
    | first :: rest =>
      NamedClass.isGroupNameChar true first && rest.all (NamedClass.isGroupNameChar false)
  if !isName then throw .invalidGroupName
  match cs.dropWhile (· != '>') with
  | _ :: rest =>
    if names.contains name then throw .repeatedGroupName else return (name :: names, rest)
  | [] => throw .invalidGroupName

/-- How a group opens. -/
inductive Opening where
  /-- It only sets modes. -/
  | directive (modes : Modes)
  /-- It has a body, to be read in these modes; the place of its match may be noted. -/
  | body (modes : Modes) (names : List (List Char)) (noted : Bool)

/-- Reads how a group opens, behind its parenthesis. -/
def readOpening (modes : Modes) (names : List (List Char)) (cs : List Char) :
    Except Fault (Opening × List Char) := do
  match modes.skip cs with
  | '?' :: '=' :: _ => throw .lookAround
  | '?' :: '!' :: _ => throw .lookAround
  | '?' :: '<' :: '=' :: _ => throw .lookAround
  | '?' :: '<' :: '!' :: _ => throw .lookAround
  | '?' :: 'P' :: '<' :: cs =>
    let (names, cs) ← readGroupName names cs
    return (.body modes names true, cs)
  | '?' :: '<' :: cs =>
    let (names, cs) ← readGroupName names cs
    return (.body modes names true, cs)
  | '?' :: cs =>
    match ← readModes modes [] cs with
    | (_, [], ')' :: _) => throw .nothingToRepeat
    | (changed, _, ')' :: cs) => return (.directive changed, cs)
    | (changed, _, cs) => return (.body changed names false, cs.tail)
  | cs => return (.body modes names true, cs)

/-- Reads a number of a repetition count, with blanks around it. -/
def readCount (modes : Modes) (cs : List Char) : Except Fault (Nat × List Char) := do
  let (digits, cs) := digitsOf (cs.length + 1) (Text.skipBlanks cs)
  let number := digits.foldl (fun n c => 10 * n + (c.toNat - '0'.toNat)) 0
  if digits.isEmpty then throw .emptyNumber
  if 0xffffffff < number then throw .numberTooLarge
  return (number, modes.skip (Text.skipBlanks cs))
where
  /-- The row of digits at the head of a text, without its spacing. -/
  digitsOf : Nat → List Char → List Char × List Char
    | 0, cs => ([], cs)
    | fuel + 1, cs =>
      match cs with
      | c :: rest =>
        if c.isDigit then
          let (digits, rest) := digitsOf fuel (modes.skip rest)
          (c :: digits, rest)
        else ([], cs)
      | [] => ([], cs)

/-- The bounds of a counted repetition, read behind its opening brace up to its closing one. -/
def readBounds (modes : Modes) (cs : List Char) :
    Except Fault (Nat × Option Nat × List Char) := do
  let cs := modes.skip cs
  if cs.isEmpty then throw .unclosedCount
  let (least, cs) ← readCount modes cs
  match cs with
  | ',' :: cs =>
    match modes.skip cs with
    | [] => throw .unclosedCount
    | '\x7d' :: cs => return (least, none, cs)
    | cs =>
      let (most, cs) ← readCount modes cs
      match cs with
      | '\x7d' :: cs => if most < least then throw .invalidCount else return (least, some most, cs)
      | _ => throw .unclosedCount
  | '\x7d' :: cs => return (least, some least, cs)
  | _ => throw .unclosedCount

/-- Replaces the last piece by its repetition.  A directive cannot be repeated. -/
def repeatLast (modes : Modes) (pieces : List Piece) (least : Nat) (most : Option Nat)
    (lazy : Bool) : Except Fault (List Piece) :=
  match pieces with
  | .expr e height :: pieces =>
    .ok (.expr (.repeated ⟨least, most, lazy == modes.swapGreed⟩ e) (1 + height) :: pieces)
  | _ => .error .nothingToRepeat

/-- Takes the `?` that makes a repetition lazy. -/
def takeLazy : List Char → Bool × List Char
  | '?' :: cs => (true, cs)
  | cs => (false, cs)

/-- The expression of the period. -/
def Modes.anyChar (modes : Modes) : Except Fault Expr :=
  if !modes.unicode then .error .needsUnicode
  else if modes.dotAll then .ok (.chars .everything)
  else if modes.crlf then .ok (.chars (CharSet.ofRanges [(0xa, 0xa), (0xd, 0xd)]).complement)
  else .ok (.chars (CharSet.singleton '\n').complement)

/-- The condition of the circumflex. -/
def Modes.startLook (modes : Modes) : Look :=
  if !modes.multiLine then .textStart else if modes.crlf then .lineStartCrlf else .lineStart

/-- The condition of the dollar sign. -/
def Modes.endLook (modes : Modes) : Look :=
  if !modes.multiLine then .textEnd else if modes.crlf then .lineEndCrlf else .lineEnd

/-- Reads a group's alternatives up to its closing parenthesis or the end of the text.  `finished`
holds the alternatives that have been read and `pieces` the sequence being read, the last one
first in both. -/
def readBody : Nat → Modes → List (List Char) → List Piece → List Piece → List Char →
    Except Fault (Piece × List (List Char) × List Char)
  | 0, _, _, _, _, _ => .error .nestedTooDeeply
  | fuel + 1, modes, names, finished, pieces, cs => do
    match modes.skip cs with
    | [] => return (alternatePieces (sequencePieces pieces :: finished), names, [])
    | ')' :: rest =>
      return (alternatePieces (sequencePieces pieces :: finished), names, ')' :: rest)
    | '|' :: rest => readBody fuel modes names (sequencePieces pieces :: finished) [] rest
    | '(' :: rest =>
      match ← readOpening modes names rest with
      | (.directive changed, rest) =>
        readBody fuel changed names finished (.directive :: pieces) rest
      | (.body inner names noted, rest) =>
        let (body, names, rest) ← readBody fuel inner names [] [] rest
        let e := if noted then .group body.toExpr else body.toExpr
        match rest with
        | [] => throw .unclosedGroup
        | _ :: rest =>
          readBody fuel modes names finished (.expr e (1 + body.height) :: pieces) rest
    | '[' :: rest =>
      let (part, rest) ← readBracket modes (2 * rest.length + 2) rest
      readBody fuel modes names finished (.expr (.chars part.set) part.height :: pieces) rest
    | '?' :: rest =>
      let (lazy, rest) := takeLazy rest
      readBody fuel modes names finished (← repeatLast modes pieces 0 (some 1) lazy) rest
    | '*' :: rest =>
      let (lazy, rest) := takeLazy rest
      readBody fuel modes names finished (← repeatLast modes pieces 0 none lazy) rest
    | '+' :: rest =>
      let (lazy, rest) := takeLazy rest
      readBody fuel modes names finished (← repeatLast modes pieces 1 none lazy) rest
    | '\x7b' :: rest =>
      let (least, most, rest) ← readBounds modes rest
      let (lazy, rest) := takeLazy (modes.skip rest)
      readBody fuel modes names finished (← repeatLast modes pieces least most lazy) rest
    | '\\' :: rest =>
      let (atom, rest) ← readEscape modes rest
      readBody fuel modes names finished (.expr (← atom.toExpr modes) 0 :: pieces) rest
    | '.' :: rest => readBody fuel modes names finished (.expr (← modes.anyChar) 0 :: pieces) rest
    | '^' :: rest =>
      readBody fuel modes names finished (.expr (.look modes.startLook) 0 :: pieces) rest
    | '$' :: rest =>
      readBody fuel modes names finished (.expr (.look modes.endLook) 0 :: pieces) rest
    | c :: rest =>
      let set ← charMembers modes c false
      readBody fuel modes names finished (.expr (.chars set) 0 :: pieces) rest

/-- The regular expression that a text writes. -/
def Expr.parse (modes : Modes) (text : String) : Except Fault Expr := do
  let cs := text.toList
  let (body, _, rest) ← readBody (cs.length + 1) modes [] [] [] cs
  if !rest.isEmpty then throw .unopenedGroup
  if nestingLimit < body.height then throw .nestedTooDeeply
  return body.toExpr

end RegexTemplate.Regex
