import RegexTemplate.Literal
import RegexTemplate.Regex.NamedClass
import RegexTemplate.Regex.Syntax
import RegexTemplate.Text.Blank
import RegexTemplate.Unicode.CaseFold
import RegexTemplate.Unicode.PropertyName

/-!
# Atoms of a regular expression

An atom is one character, one class or one condition, written as itself or behind a backslash.
Every reader here takes the text behind what introduces the atom and returns the atom with the text
that follows it.  Where the text is spaced, blanks and comments may stand between any two characters
of a longer escape.
-/

namespace RegexTemplate.Regex

/-- A spaced text without the blanks and comments in front; a comment runs from `#` to the end of
its line. -/
def skipSpacing (inComment : Bool) : List Char → List Char
  | [] => []
  | c :: cs =>
    if inComment then skipSpacing (c != '\n') cs
    else if Text.isBlank c then skipSpacing false cs
    else if c == '#' then skipSpacing true cs
    else c :: cs

/-- A text without spacing in front, if it is spaced. -/
def Modes.skip (modes : Modes) (cs : List Char) : List Char :=
  if modes.spaced then skipSpacing false cs else cs

/-- What an atom stands for. -/
inductive Atom where
  /-- A character; `byte` if it was written by the two digits of a byte. -/
  | char (c : Char) (byte : Bool)
  /-- A class of characters. -/
  | class (set : CharSet)
  /-- A condition. -/
  | look (condition : Look)

/-- Reads `count` hexadecimal digits and returns their number. -/
def readHexDigits (modes : Modes) : Nat → Nat → List Char → Except Fault (Nat × List Char)
  | 0, number, cs => .ok (number, cs)
  | _ + 1, _, [] => .error .incompleteEscape
  | count + 1, number, c :: cs =>
    match Text.Hex.digit? c with
    | some digit => readHexDigits modes count (16 * number + digit) (modes.skip cs)
    | none => .error .invalidCodePoint

/-- Reads the text up to a closing brace, without its spacing. -/
def readBraced (modes : Modes) : Nat → List Char → Except Fault (List Char × List Char)
  | 0, _ => .error .incompleteEscape
  | fuel + 1, cs =>
    match modes.skip cs with
    | [] => .error .incompleteEscape
    | '\x7d' :: cs => .ok ([], cs)
    | c :: cs => do
      let (content, cs) ← readBraced modes fuel cs
      return (c :: content, cs)

/-- The character of a code point that an escape names. -/
def charOfNumber (number : Nat) : Except Fault Char :=
  match Text.Hex.char? number with
  | some c => .ok c
  | none => .error .invalidCodePoint

/-- Reads a code point behind `x`, `u` or `U`, in braces or as a fixed number of digits. -/
def readCodePoint (modes : Modes) (digits : Nat) (cs : List Char) :
    Except Fault (Atom × List Char) := do
  match modes.skip cs with
  | [] => throw .incompleteEscape
  | '\x7b' :: cs =>
    let (content, cs) ← readBraced modes (cs.length + 1) cs
    if content.isEmpty || !content.all Text.Hex.isDigit then throw .invalidCodePoint
    let c ← charOfNumber (Text.Hex.value content)
    return (.char c false, modes.skip cs)
  | cs =>
    let (number, cs) ← readHexDigits modes digits 0 cs
    let c ← charOfNumber number
    return (.char c (digits == 2), cs)

/-- The members of a class under the modes: both cases if case is ignored, then the negation. Only
Unicode has characters beyond ASCII in its classes. -/
def Modes.classOf (modes : Modes) (negated : Bool) (set : CharSet) : Except Fault CharSet :=
  let folded :=
    if !modes.ignoreCase then set
    else if modes.unicode then set.closeUnderCase else set.closeUnderAsciiCase
  let result := if negated then folded.complement else folded
  if modes.unicode || result.isAscii then .ok result else .error .needsUnicode

/-- Splits a property into its name and value at the first `=` or `:`. -/
def splitProperty (content : List Char) : List Char × Option (List Char) :=
  let isSeparator := fun c => c == '=' || c == ':'
  match content.dropWhile (!isSeparator ·) with
  | _ :: value => (content.takeWhile (!isSeparator ·), some value)
  | [] => (content, none)

/-- Splits a property into its name and value at the first `!=`. -/
def splitNegatedProperty? : List Char → Option (List Char × List Char)
  | '!' :: '=' :: value => some ([], value)
  | c :: cs => (splitNegatedProperty? cs).map fun (name, value) => (c :: name, value)
  | [] => none

/-- The class that the content of a property escape means. -/
def propertyClass (modes : Modes) (negated : Bool) (content : List Char) :
    Except Fault CharSet := do
  if !modes.unicode then throw .needsUnicode
  let (set?, negated) :=
    match splitNegatedProperty? content with
    | some (name, value) => (Unicode.PropertyName.ofNameAndValue? name value, !negated)
    | none =>
      match splitProperty content with
      | (name, some value) => (Unicode.PropertyName.ofNameAndValue? name value, negated)
      | (name, none) => (Unicode.PropertyName.ofName? name, negated)
  match set? with
  | some set => modes.classOf negated set
  | none => throw .unknownProperty

/-- Reads a property behind `p` or `P`: one letter, or a name in braces. -/
def readProperty (modes : Modes) (negated : Bool) (cs : List Char) :
    Except Fault (Atom × List Char) := do
  match modes.skip cs with
  | [] => throw .incompleteEscape
  | '\x7b' :: cs =>
    let (content, cs) ← readBraced modes (cs.length + 1) cs
    return (.class (← propertyClass modes negated content), cs)
  | '\\' :: _ => throw .unknownProperty
  | c :: cs => return (.class (← propertyClass modes negated [c]), modes.skip cs)

/-- The class that one letter names. -/
def shorthandClass (modes : Modes) (shorthand : NamedClass.Shorthand) (negated : Bool) :
    Except Fault Atom :=
  let set := shorthand.members modes.unicode
  let result := if negated then set.complement else set
  if modes.unicode || result.isAscii then .ok (.class result) else .error .needsUnicode

/-- Whether a character may stand in the name of a word boundary. -/
def isBoundaryChar (c : Char) : Bool := c.isAlpha || c == '-'

/-- The row of boundary characters at the head of a text, without its spacing. -/
def readBoundaryName (modes : Modes) : Nat → List Char → List Char × List Char
  | 0, cs => ([], cs)
  | fuel + 1, cs =>
    match cs with
    | c :: rest =>
      if isBoundaryChar c then
        let (name, rest) := readBoundaryName modes fuel (modes.skip rest)
        (c :: name, rest)
      else ([], cs)
    | [] => ([], cs)

/-- Reads what follows `\b`: a kind of boundary in braces, or nothing if the braces do not open with
a name. -/
def readBoundary (modes : Modes) (cs : List Char) : Except Fault (Atom × List Char) := do
  let ascii := !modes.unicode
  let plain := Atom.look (.boundary ascii)
  match cs with
  | '\x7b' :: inner =>
    match modes.skip inner with
    | [] => throw .unknownBoundary
    | first :: rest =>
      if !isBoundaryChar first then return (plain, cs)
      match readBoundaryName modes (rest.length + 1) (first :: rest) with
      | (name, '\x7d' :: cs) =>
        match String.ofList name with
        | "start" => return (.look (.wordStart ascii), cs)
        | "end" => return (.look (.wordEnd ascii), cs)
        | "start-half" => return (.look (.wordStartHalf ascii), cs)
        | "end-half" => return (.look (.wordEndHalf ascii), cs)
        | _ => throw .unknownBoundary
      | _ => throw .unknownBoundary
  | _ => return (plain, cs)

/-- Reads the atom behind a backslash. -/
def readEscape (modes : Modes) (cs : List Char) : Except Fault (Atom × List Char) := do
  match cs with
  | [] => throw .incompleteEscape
  | c :: cs =>
    if c.isDigit then throw .backReference
    match c with
    | 'x' => readCodePoint modes 2 cs
    | 'u' => readCodePoint modes 4 cs
    | 'U' => readCodePoint modes 8 cs
    | 'p' => readProperty modes false cs
    | 'P' => readProperty modes true cs
    | 'd' => return (← shorthandClass modes .digit false, cs)
    | 'D' => return (← shorthandClass modes .digit true, cs)
    | 's' => return (← shorthandClass modes .blank false, cs)
    | 'S' => return (← shorthandClass modes .blank true, cs)
    | 'w' => return (← shorthandClass modes .word false, cs)
    | 'W' => return (← shorthandClass modes .word true, cs)
    | 'a' => return (.char '\x07' false, cs)
    | 'f' => return (.char '\x0c' false, cs)
    | 't' => return (.char '\t' false, cs)
    | 'n' => return (.char '\n' false, cs)
    | 'r' => return (.char '\r' false, cs)
    | 'v' => return (.char '\x0b' false, cs)
    | 'A' => return (.look .textStart, cs)
    | 'z' => return (.look .textEnd, cs)
    | 'b' => readBoundary modes cs
    | 'B' => return (.look (.noBoundary !modes.unicode), cs)
    | '<' => return (.look (.wordStart !modes.unicode), cs)
    | '>' => return (.look (.wordEnd !modes.unicode), cs)
    | c =>
      if Literal.isMeta c || (c.toNat < 0x80 && !c.isAlpha) then return (.char c false, cs)
      else throw .unknownEscape

/-- The characters that match one that stands for itself. -/
def charMembers (modes : Modes) (c : Char) (byte : Bool) : Except Fault CharSet :=
  if byte && !modes.unicode && 0x80 ≤ c.toNat then .error .needsUnicode
  else if !modes.ignoreCase then .ok (.singleton c)
  else if modes.unicode then
    .ok (.ofRanges ((Unicode.CaseFold.orbit c.toNat).map fun point => (point, point)))
  else .ok (CharSet.singleton c).closeUnderAsciiCase

/-- The expression of an atom outside classes. -/
def Atom.toExpr (modes : Modes) : Atom → Except Fault Expr
  | .char c byte => (charMembers modes c byte).map .chars
  | .class set => .ok (.chars set)
  | .look condition => .ok (.look condition)

end RegexTemplate.Regex
