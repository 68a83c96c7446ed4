import RegexTemplate.Toml.Moment

/-!
# TOML values

A document is a table: keys with their values in the order in which they are written.  Every key and
every value that is written in one piece carries its place in the text, in bytes.  A table also says
how it came about, because that decides what may be added to it later.
-/

namespace RegexTemplate.Toml

/-- A stretch of a text: the offsets of its first byte and of the one behind its last. -/
structure Span where
  start : Nat
  stop : Nat
deriving DecidableEq, Repr

/-- Something with its place.  What is not written in one piece has none. -/
structure Located (α : Type) where
  value : α
  span : Option Span

/-- A key with its place. -/
structure Key where
  name : String
  span : Span
deriving DecidableEq, Repr

/-- A key with its value. -/
structure Entry (α : Type) where
  key : Key
  value : Located α

/-- How a table came about. -/
inductive Origin where
  /-- It is written between braces. -/
  | braces
  /-- A header names it. -/
  | header
  /-- A header names a table below it. -/
  | aboveHeader
  /-- A dotted key names something below it. -/
  | dotted
deriving DecidableEq, Repr

/-- A value. -/
inductive Value where
  | string (text : String)
  | integer (number : Int)
  | float (number : Float)
  | boolean (holds : Bool)
  | datetime (moment : Moment)
  /-- An array that is written between brackets. -/
  | array (items : List (Located Value))
  /-- An array of tables that headers name one by one. -/
  | rows (tables : List (Located Value))
  | table (origin : Origin) (entries : List (Entry Value))

/-- The place of an entry's value, or of its key if the value is not written in one piece. -/
def Entry.span {α : Type} (entry : Entry α) : Span := entry.value.span.getD entry.key.span

end RegexTemplate.Toml
