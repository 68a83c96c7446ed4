import RegexTemplate.Decimal.Shortest
import RegexTemplate.Text.Quoted
import RegexTemplate.Toml.Tree

/-!
# Decoding values

A value is decoded into what a program expects of it.  The first thing that does not fit, in the
order of the document, is reported with its place.
-/

namespace RegexTemplate.Toml

/-- What a value is, as far as a message tells. -/
inductive Kind where
  | string (text : String)
  | integer (number : Int)
  | float (number : Float)
  | boolean (holds : Bool)
  | sequence
  | map

/-- What a kind is called in a message. -/
def Kind.text : Kind → String
  | .string text => "string " ++ Text.quoted text
  | .integer number => "integer `" ++ toString number ++ "`"
  | .float number => "floating point `" ++ Decimal.ofFloat number ++ "`"
  | .boolean holds => "boolean `" ++ (if holds then "true" else "false") ++ "`"
  | .sequence => "sequence"
  | .map => "map"

/-- The kind of a value.  A moment counts as a map. -/
def Value.kind : Value → Kind
  | .string text => .string text
  | .integer number => .integer number
  | .float number => .float number
  | .boolean holds => .boolean holds
  | .datetime _ => .map
  | .array _ => .sequence
  | .rows _ => .sequence
  | .table _ _ => .map

/-- The reasons why a value is not what is expected. -/
inductive Misfit where
  | unknownField (name : String) (expected : List String)
  | missingField (name : String)
  | wrongType (found : Kind) (expected : String)
  | wrongLength (length : Nat) (expected : String)
  | malformedMoment

/-- The names that are expected, as a message gives them. -/
def expectedNames : List String → String
  | [] => "there are no fields"
  | [name] => "expected `" ++ name ++ "`"
  | [first, second] => "expected `" ++ first ++ "` or `" ++ second ++ "`"
  | names => "expected one of " ++ ", ".intercalate (names.map fun name => "`" ++ name ++ "`")

/-- What a reason is called in a message. -/
def Misfit.message : Misfit → String
  | .unknownField name expected => "unknown field `" ++ name ++ "`, " ++ expectedNames expected
  | .missingField name => "missing field `" ++ name ++ "`"
  | .wrongType found expected => "invalid type: " ++ found.text ++ ", expected " ++ expected
  | .wrongLength length expected =>
    "invalid length " ++ toString length ++ ", expected " ++ expected
  | .malformedMoment => "failed to parse datetime"

/-- A reason with its place. -/
structure Mismatch where
  misfit : Misfit
  span : Option Span

/-- What is decoded, or the first thing that does not fit. -/
abbrev Decoded := Except Mismatch

/-- A value of a wrong type. -/
def wrongType {α : Type} (value : Value) (expected : String) (span : Option Span) : Decoded α :=
  .error ⟨.wrongType value.kind expected, span⟩

/-- A key that is not expected. -/
def unknownField {α : Type} (key : Key) (expected : List String) : Decoded α :=
  .error ⟨.unknownField key.name expected, some key.span⟩

/-- A text. -/
def Value.decodeText (value : Value) (span : Option Span) : Decoded String :=
  match value with
  | .string text => .ok text
  | _ => wrongType value "a string" span

/-- The items of an array, or the tables of an array of tables. -/
def Value.decodeItems (value : Value) (span : Option Span) : Decoded (List (Located Value)) :=
  match value with
  | .array items => .ok items
  | .rows tables => .ok tables
  | _ => wrongType value "a sequence" span

/-- The place of a value where one is asked for.  A table without a place is taken for a value with
its place, and its first key does not fit. -/
def Located.decodeSpan (located : Located Value) : Decoded Span :=
  match located.span, located.value with
  | some span, _ => .ok span
  | none, .table _ (first :: _) =>
    .error ⟨.wrongType (.string first.key.name) "a borrowed string", some first.key.span⟩
  | none, value => wrongType value "a spanned value" none

/-- A text with its place. -/
def Located.decodeSpannedText (located : Located Value) : Decoded (String × Span) := do
  let span ← located.decodeSpan
  return (← located.value.decodeText (some span), span)

/-- The key under which a table may write a moment as a text. -/
def momentKey : String := "$__toml_private_datetime"

/-- The moment that an entry writes as a text. -/
def Entry.decodeMoment (entry : Entry Value) : Decoded Value :=
  match entry.value.value with
  | .string text =>
    match Moment.ofText? text with
    | some moment => .ok (.datetime moment)
    | none => .error ⟨.malformedMoment, some entry.span⟩
  | value => wrongType value "string containing a datetime" (some entry.span)

mutual

/-- A value with a moment in place of every table in it whose first key writes one. -/
def Value.withMoments : Value → Decoded Value
  | .array items => .array <$> itemsWithMoments items
  | .rows tables => .rows <$> itemsWithMoments tables
  | .table origin entries =>
    match entries.head? with
    | some first =>
      if first.key.name == momentKey then first.decodeMoment
      else .table origin <$> entriesWithMoments entries
    | none => .ok (.table origin entries)
  | value => .ok value

/-- The items of an array, their moments read. -/
def itemsWithMoments : List (Located Value) → Decoded (List (Located Value))
  | [] => .ok []
  | ⟨value, span⟩ :: items =>
    return ⟨← value.withMoments, span⟩ :: (← itemsWithMoments items)

/-- The entries of a table, their moments read. -/
def entriesWithMoments : List (Entry Value) → Decoded (List (Entry Value))
  | [] => .ok []
  | ⟨key, value, span⟩ :: entries =>
    return ⟨key, ← value.withMoments, span⟩ :: (← entriesWithMoments entries)

end

/-- A list of texts. -/
def Entry.decodeTexts (entry : Entry Value) : Decoded (List String) := do
  let items ← entry.value.value.decodeItems (some entry.span)
  items.mapM fun item => item.value.decodeText item.span

end RegexTemplate.Toml
