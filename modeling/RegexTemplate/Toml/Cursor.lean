/-!
# Reading from a text

A cursor stands at a place of a text: it knows how many bytes lie before it and what follows.  A
reader returns what it has read with the cursor behind it, or the cause of its failure with the
place.
-/

namespace RegexTemplate.Toml

/-- The causes for which a text is no document. -/
inductive Fault where
  | missingKey
  | missingEquals
  | missingValue
  | missingSeparator
  | unclosedHeader
  | textBehindLine
  | controlCharacter
  | unclosedString
  | unknownEscape
  | invalidCodePoint
  | invalidNumber
  | numberTooLarge
  | repeatedKey (name : String)
  | nestedTooDeeply
deriving DecidableEq, Repr

/-- What a cause is called in a message.  The words are this reader's own: nothing that is proved about
messages depends on them (`TestCase.evaluateIn` takes them as given). -/
def Fault.message : Fault → String
  | .missingKey => "a key is missing"
  | .missingEquals => "a key must be followed by an equals sign"
  | .missingValue => "a value is missing"
  | .missingSeparator => "a comma or a closing bracket is missing"
  | .unclosedHeader => "a header is not closed"
  | .textBehindLine => "unexpected text at the end of a line"
  | .controlCharacter => "a control character"
  | .unclosedString => "a string is not closed"
  | .unknownEscape => "unknown escape"
  | .invalidCodePoint => "no such code point"
  | .invalidNumber => "invalid number"
  | .numberTooLarge => "a number that is too large"
  | .repeatedKey name => "the key '" ++ name ++ "' cannot be defined again"
  | .nestedTooDeeply => "nested too deeply"

/-- A cause of failure with its place. -/
structure SyntaxError where
  fault : Fault
  offset : Nat
deriving DecidableEq, Repr

/-- A place in a text. -/
structure Cursor where
  /-- The bytes before it. -/
  offset : Nat
  /-- The characters behind it. -/
  rest : List Char

/-- The number that a row of decimal digits stands for. -/
def decimalValue (digits : List Char) : Nat :=
  digits.foldl (fun n c => 10 * n + (c.toNat - '0'.toNat)) 0

namespace Cursor

/-- The bytes that a row of characters takes. -/
def width (cs : List Char) : Nat := (cs.map Char.utf8Size).foldr (· + ·) 0

/-- Goes over a number of characters. -/
def drop (cursor : Cursor) (count : Nat) : Cursor :=
  ⟨cursor.offset + width (cursor.rest.take count), cursor.rest.drop count⟩

/-- Goes over the characters that fulfil a condition, and returns them. -/
def takeWhile (cursor : Cursor) (p : Char → Bool) : List Char × Cursor :=
  let taken := cursor.rest.takeWhile p
  (taken, ⟨cursor.offset + width taken, cursor.rest.dropWhile p⟩)

/-- Goes over one given character. -/
def take? (cursor : Cursor) (expected : Char) : Option Cursor :=
  match cursor.rest with
  | [] => none
  | c :: rest => if c = expected then some ⟨cursor.offset + c.utf8Size, rest⟩ else none

/-- Goes over one line feed, which may follow a carriage return. -/
def takeNewline? (cursor : Cursor) : Option Cursor :=
  match cursor.rest with
  | '\n' :: rest => some ⟨cursor.offset + 1, rest⟩
  | '\r' :: '\n' :: rest => some ⟨cursor.offset + 2, rest⟩
  | _ => none

/-- Fails at this place. -/
def fail {α : Type} (cursor : Cursor) (fault : Fault) : Except SyntaxError α :=
  .error ⟨fault, cursor.offset⟩

/-- What is read, or a failure at this place. -/
def orFail {α : Type} (cursor : Cursor) (fault : Fault) : Option α → Except SyntaxError α
  | some a => .ok a
  | none => cursor.fail fault

/-- Whether a character is a blank within a line. -/
def isBlank (c : Char) : Bool := c == ' ' || c == '\t'

/-- Goes over blanks. -/
def skipBlanks (cursor : Cursor) : Cursor := (cursor.takeWhile isBlank).2

/-- Whether a character may stand in a comment or a string: it is no control character but the
tabulator. -/
def isText (c : Char) : Bool := c == '\t' || (0x20 ≤ c.toNat && c.toNat ≠ 0x7f)

/-- Goes over a comment, if there is one. -/
def skipComment (cursor : Cursor) : Cursor :=
  match cursor.take? '#' with
  | some cursor => (cursor.takeWhile isText).2
  | none => cursor

/-- Goes over blanks, a comment and the end of the line or of the text. -/
def endLine (cursor : Cursor) : Except SyntaxError Cursor :=
  let cursor := cursor.skipBlanks.skipComment
  if cursor.rest.isEmpty then .ok cursor else cursor.orFail .textBehindLine cursor.takeNewline?

/-- Goes over blanks, comments and ends of lines. -/
def skipLines (cursor : Cursor) : (fuel : Nat) → Except SyntaxError Cursor
  | 0 => .ok cursor
  | fuel + 1 =>
    let cursor := cursor.skipBlanks
    match cursor.rest with
    | '#' :: _ =>
      let cursor := cursor.skipComment
      match cursor.takeNewline? with
      | some cursor => cursor.skipLines fuel
      | none => cursor.fail .textBehindLine
    | '\n' :: _ => (cursor.drop 1).skipLines fuel
    | '\r' :: '\n' :: _ => (cursor.drop 2).skipLines fuel
    | '\r' :: _ => cursor.fail .controlCharacter
    | _ => .ok cursor

/-- Goes over blanks, comments and ends of lines, however many there are. -/
def skipAllLines (cursor : Cursor) : Except SyntaxError Cursor :=
  cursor.skipLines (cursor.rest.length + 1)

end Cursor

end RegexTemplate.Toml
