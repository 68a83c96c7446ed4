import RegexTemplate.Toml.Number
import RegexTemplate.Toml.Strings
import RegexTemplate.Toml.Table

/-!
# Documents

A document is a row of lines.  A line holds a key with its value, or the header of a table to which
the keys below it belong.  Arrays may go over several lines, tables between braces may not.  Arrays
and tables are nested up to a fixed depth.
-/

namespace RegexTemplate.Toml

/-- How deeply values may be nested, and how many parts a dotted key may have. -/
def nestingLimit : Nat := 79

/-- Whether a character may stand in a key without quotes. -/
def isBareKeyChar (c : Char) : Bool := c.isAlphanum || c == '_' || c == '-'

namespace Cursor

/-- Reads one part of a key. -/
def readKeyPart (cursor : Cursor) : Except SyntaxError (Key × Cursor) := do
  let (name, behind) ←
    match cursor.rest with
    | '"' :: _ => cursor.readLineString '"'
    | '\'' :: _ => cursor.readLineString '\''
    | _ =>
      let (name, behind) := cursor.takeWhile isBareKeyChar
      if name.isEmpty then cursor.fail .missingKey else .ok (String.ofList name, behind)
  return (⟨name, cursor.offset, behind.offset⟩, behind)

/-- Reads the parts of a dotted key behind the first, and the blanks behind the key. -/
def readKeyParts (cursor : Cursor) : (fuel : Nat) → Except SyntaxError (List Key × Cursor)
  | 0 => cursor.fail .missingKey
  | fuel + 1 =>
    let cursor := cursor.skipBlanks
    match cursor.take? '.' with
    | none => .ok ([], cursor)
    | some cursor => do
      let (key, cursor) ← cursor.skipBlanks.readKeyPart
      let (keys, cursor) ← cursor.readKeyParts fuel
      return (key :: keys, cursor)

/-- Reads a dotted key with the blanks around it: the path of its table, and its last part. -/
def readKey (cursor : Cursor) : Except SyntaxError ((List Key × Key) × Cursor) := do
  let (first, behind) ← cursor.skipBlanks.readKeyPart
  let (others, behind) ← behind.readKeyParts (behind.rest.length + 1)
  if nestingLimit ≤ others.length then cursor.fail .nestedTooDeeply
  return (((first :: others).dropLast, others.getLast?.getD first), behind)

/-- Reads a value that holds no other values. -/
def readScalar (cursor : Cursor) : Except SyntaxError (Value × Cursor) :=
  match cursor.rest with
  | '"' :: _ => (cursor.readString '"').map fun (text, behind) => (.string text, behind)
  | '\'' :: _ => (cursor.readString '\'').map fun (text, behind) => (.string text, behind)
  | 't' :: 'r' :: 'u' :: 'e' :: _ => .ok (.boolean true, cursor.drop 4)
  | 'f' :: 'a' :: 'l' :: 's' :: 'e' :: _ => .ok (.boolean false, cursor.drop 5)
  | c :: _ =>
    if c.isDigit || c == '+' || c == '-' || c == 'i' || c == 'n' then
      match cursor.readMoment? with
      | some (moment, behind) => .ok (.datetime moment, behind)
      | none => cursor.readNumber
    else cursor.fail .missingValue
  | [] => cursor.fail .missingValue

/-- Reads the values of an array up to its closing bracket. -/
def readItems (readValue : Cursor → Except SyntaxError (Located Value × Cursor)) (cursor : Cursor) :
    (fuel : Nat) → Except SyntaxError (List (Located Value) × Cursor)
  | 0 => cursor.fail .missingSeparator
  | fuel + 1 => do
    let cursor ← cursor.skipAllLines
    match cursor.take? ']' with
    | some behind => return ([], behind)
    | none =>
      let (item, cursor) ← readValue cursor
      let cursor ← cursor.skipAllLines
      match cursor.take? ',', cursor.take? ']' with
      | some cursor, _ =>
        let (items, cursor) ← readItems readValue cursor fuel
        return (item :: items, cursor)
      | none, some behind => return ([item], behind)
      | none, none => cursor.fail .missingSeparator

/-- Reads a key with its value, and adds it to the entries of a table. -/
def readPair (readValue : Cursor → Except SyntaxError (Located Value × Cursor))
    (entries : Entries) (cursor : Cursor) :
    Except SyntaxError ((Option Span × Entries) × Cursor) := do
  let ((path, key), behind) ← cursor.readKey
  let behind ← behind.orFail .missingEquals (behind.take? '=')
  let (value, behind) ← readValue behind.skipBlanks
  match entries.insert path key value with
  | .ok entries => return ((value.span, entries), behind)
  | .error fault => cursor.fail fault

/-- Reads the keys and values of a table up to its closing brace. -/
def readPairs (readValue : Cursor → Except SyntaxError (Located Value × Cursor))
    (entries : Entries) (cursor : Cursor) : (fuel : Nat) → Except SyntaxError (Entries × Cursor)
  | 0 => cursor.fail .missingSeparator
  | fuel + 1 => do
    let ((_, entries), cursor) ← readPair readValue entries cursor
    let cursor := cursor.skipBlanks
    match cursor.take? ',', cursor.take? '\x7d' with
    | some cursor, _ => readPairs readValue entries cursor fuel
    | none, some behind => return (entries, behind)
    | none, none => cursor.fail .missingSeparator

/-- Reads a value, in which others may be nested a number of levels deep. -/
def readValue : (levels : Nat) → Cursor → Except SyntaxError (Located Value × Cursor)
  | levels, cursor => do
    let (value, behind) ←
      match cursor.rest, levels with
      | '[' :: _, levels + 1 =>
        let (items, behind) ←
          readItems (readValue levels) (cursor.drop 1) (cursor.rest.length + 1)
        .ok (.array items, behind)
      | '\x7b' :: _, levels + 1 =>
        let inside := (cursor.drop 1).skipBlanks
        match inside.take? '\x7d' with
        | some behind => .ok (.table .braces [], behind)
        | none =>
          let (entries, behind) ← readPairs (readValue levels) [] inside (inside.rest.length + 1)
          .ok (.table .braces entries, behind)
      | '[' :: _, 0 => cursor.fail .nestedTooDeeply
      | '\x7b' :: _, 0 => cursor.fail .nestedTooDeeply
      | _, _ => cursor.readScalar
    return (⟨value, some ⟨cursor.offset, behind.offset⟩⟩, behind)

end Cursor

/-- The table that the current lines belong to, and where it will stand. -/
structure Section where
  /-- The path of the table and its key; none for the document itself. -/
  place : Option (List Key × Key) := none
  /-- Whether it is one of an array of tables. -/
  isRow : Bool := false
  /-- From the header to the last value. -/
  span : Option Span := none
  entries : Entries := []

/-- Puts a table that is finished in its place in the document. -/
def Section.close (table : Section) (document : Entries) : Except Fault Entries :=
  let value : Located Value := ⟨.table .header table.entries, table.span⟩
  match table.place with
  | none => .ok table.entries
  | some (path, key) =>
    if table.isRow then document.putRow path key value else document.putTable path key value

namespace Cursor

/-- Reads a header, which finishes the table above it. -/
def readHeader (cursor : Cursor) (document : Entries) (table : Section) :
    Except SyntaxError ((Entries × Section) × Cursor) := do
  let isRow := cursor.rest.take 2 == ['[', '[']
  let count := if isRow then 2 else 1
  let ((path, key), behind) ← (cursor.drop count).readKey
  if behind.rest.take count ≠ List.replicate count ']' then behind.fail .unclosedHeader
  let behind := behind.drop count
  let span : Span := ⟨cursor.offset, behind.offset⟩
  let behind ← behind.endLine
  let begun := fun () => do
    let document ← table.close document
    let (entries, document) ← if isRow then .ok ([], document) else document.takeOver path key
    return (document, { place := some (path, key), isRow, span := some span, entries : Section })
  match begun () with
  | .ok state => return (state, behind)
  | .error fault => cursor.fail fault

/-- Reads a line with a key and its value. -/
def readKeyLine (cursor : Cursor) (table : Section) : Except SyntaxError (Section × Cursor) := do
  let ((span, entries), behind) ← readPair (readValue nestingLimit) table.entries cursor
  let behind ← behind.endLine
  return ({ table with entries, span := Span.upTo? table.span span }, behind)

/-- Reads lines up to the end of the text. -/
def readLines (cursor : Cursor) (document : Entries) (table : Section) :
    (fuel : Nat) → Except SyntaxError Entries
  | 0 => cursor.fail .textBehindLine
  | fuel + 1 => do
    let cursor := cursor.skipBlanks
    match cursor.rest with
    | [] =>
      match table.close document with
      | .ok document => return document
      | .error fault => cursor.fail fault
    | '[' :: _ =>
      let ((document, table), cursor) ← cursor.readHeader document table
      cursor.readLines document table fuel
    | c :: _ =>
      if c = '#' || c = '\n' || c = '\r' then
        let cursor ← cursor.endLine
        cursor.readLines document table fuel
      else
        let (table, cursor) ← cursor.readKeyLine table
        cursor.readLines document table fuel

end Cursor

/-- The entries of the document that a text writes.  A mark of the byte order in front is
skipped. -/
def parse (text : String) : Except SyntaxError Entries :=
  let start : Cursor := ⟨0, text.toList⟩
  let start := (start.take? '\ufeff').getD start
  start.readLines [] {} (start.rest.length + 1)

end RegexTemplate.Toml
