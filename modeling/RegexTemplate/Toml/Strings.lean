import RegexTemplate.Text.Hex
import RegexTemplate.Toml.Cursor

/-!
# Strings

A string stands in double quotes, where a backslash begins an escape, or in single quotes, where
every character stands for itself.  Three quotes instead of one begin a string that may go over
several lines; a line break right behind them is dropped, and up to two quotes may stand right
before the closing ones.
-/

namespace RegexTemplate.Toml

/-- How a string is written. -/
structure StringStyle where
  quote : Char
  /-- Whether it may go over several lines. -/
  multiline : Bool
deriving DecidableEq, Repr

/-- Whether a backslash begins an escape. -/
def StringStyle.escapes (style : StringStyle) : Bool := style.quote == '"'

namespace Cursor

/-- Reads a code point of a fixed number of hexadecimal digits. -/
def readCodePoint (cursor : Cursor) (count : Nat) : Except SyntaxError (Char × Cursor) := do
  let digits := cursor.rest.take count
  if digits.length ≠ count || !digits.all Text.Hex.isDigit then
    cursor.fail .unknownEscape
  let c ← cursor.orFail .invalidCodePoint (Text.Hex.char? (Text.Hex.value digits))
  return (c, cursor.drop count)

/-- Reads an escape behind its backslash. -/
def readEscape (cursor : Cursor) : Except SyntaxError (Char × Cursor) :=
  match cursor.rest with
  | 'b' :: _ => .ok ('\x08', cursor.drop 1)
  | 't' :: _ => .ok ('\t', cursor.drop 1)
  | 'n' :: _ => .ok ('\n', cursor.drop 1)
  | 'f' :: _ => .ok ('\x0c', cursor.drop 1)
  | 'r' :: _ => .ok ('\r', cursor.drop 1)
  | '"' :: _ => .ok ('"', cursor.drop 1)
  | '\\' :: _ => .ok ('\\', cursor.drop 1)
  | 'u' :: _ => (cursor.drop 1).readCodePoint 4
  | 'U' :: _ => (cursor.drop 1).readCodePoint 8
  | _ => cursor.fail .unknownEscape

/-- Goes over blanks and ends of lines. -/
def skipBlankLines (cursor : Cursor) : (fuel : Nat) → Cursor
  | 0 => cursor
  | fuel + 1 =>
    let cursor := cursor.skipBlanks
    match cursor.takeNewline? with
    | some cursor => cursor.skipBlankLines fuel
    | none => cursor

/-- Goes over the end of a line behind a backslash, with the blanks around it and the blank lines
below it. -/
def skipContinuation? (cursor : Cursor) : Option Cursor :=
  cursor.skipBlanks.takeNewline?.map fun below => below.skipBlankLines (below.rest.length + 1)

/-- The closing quotes at the front, if they are there: the cursor behind them, and how many quotes
before them belong to the string. -/
def close? (cursor : Cursor) (style : StringStyle) : Option (Nat × Cursor) :=
  let quotes := (cursor.rest.takeWhile (· == style.quote)).length
  if style.multiline then
    if 3 ≤ quotes then some (min (quotes - 3) 2, cursor.drop (min quotes 5)) else none
  else if 1 ≤ quotes then some (0, cursor.drop 1)
  else none

/-- Reads the characters of a string up to its closing quotes.  `taken` are those read so far, the
last one first. -/
def readCharacters (cursor : Cursor) (style : StringStyle) (taken : List Char) :
    (fuel : Nat) → Except SyntaxError (String × Cursor)
  | 0 => cursor.fail .unclosedString
  | fuel + 1 =>
    match cursor.close? style with
    | some (quotes, behind) =>
      .ok (String.ofList (taken.reverse ++ List.replicate quotes style.quote), behind)
    | none =>
      match cursor.rest with
      | [] => cursor.fail .unclosedString
      | c :: _ =>
        if c = '\\' && style.escapes then
          match if style.multiline then (cursor.drop 1).skipContinuation? else none with
          | some below => below.readCharacters style taken fuel
          | none => do
            let (escaped, behind) ← (cursor.drop 1).readEscape
            behind.readCharacters style (escaped :: taken) fuel
        else if isText c then (cursor.drop 1).readCharacters style (c :: taken) fuel
        else
          match if style.multiline then cursor.takeNewline? else none with
          | some below => below.readCharacters style ('\n' :: taken) fuel
          | none => cursor.fail .controlCharacter

/-- Reads a string whose opening quotes have been read. -/
def readStringBody (cursor : Cursor) (style : StringStyle) : Except SyntaxError (String × Cursor) :=
  cursor.readCharacters style [] (cursor.rest.length + 1)

/-- Reads a string on one line. -/
def readLineString (cursor : Cursor) (quote : Char) : Except SyntaxError (String × Cursor) :=
  (cursor.drop 1).readStringBody ⟨quote, false⟩

/-- Reads a string, which may go over several lines. -/
def readString (cursor : Cursor) (quote : Char) : Except SyntaxError (String × Cursor) :=
  if cursor.rest.take 3 == [quote, quote, quote] then
    let body := cursor.drop 3
    (body.takeNewline?.getD body).readStringBody ⟨quote, true⟩
  else cursor.readLineString quote

end Cursor

end RegexTemplate.Toml
