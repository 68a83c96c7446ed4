import RegexTemplate.Toml.Tree

/-!
# Putting tables together

Headers and dotted keys name tables by their paths and make those that do not exist yet.  What may
be added to a table depends on how it came about.  A table that is written between braces is
closed.  A dotted key adds only to tables that dotted keys or headers of tables below have made; and
what it adds its last part to must be the work of dotted keys alone.  A header may name a table
once; if headers of tables below have made it already, it takes it over.
-/

namespace RegexTemplate.Toml

/-- The entries of a table. -/
abbrev Entries := List (Entry Value)

/-- The value of a key. -/
def Entries.find? (entries : Entries) (name : String) : Option (Located Value) :=
  (List.find? (fun entry => entry.key.name == name) entries).map (·.value)

/-- Replaces the value of a key in its place. -/
def Entries.replace (entries : Entries) (name : String) (value : Located Value) : Entries :=
  List.map (fun entry => if entry.key.name == name then { entry with value } else entry) entries

/-- Adds an entry behind the others. -/
def Entries.push (entries : Entries) (key : Key) (value : Located Value) : Entries :=
  entries ++ [⟨key, value⟩]

/-- The entries without those of a key. -/
def Entries.erase (entries : Entries) (name : String) : Entries :=
  List.filter (fun entry => entry.key.name != name) entries

/-- Changes the entries of the table at the end of a path, and makes the tables on the way that do
not exist.  An array of tables stands for its last table. -/
def Entries.change {α : Type} (made : Origin)
    (change : Origin → Entries → Except Fault (α × Entries)) :
    List Key → Origin → Entries → Except Fault (α × Entries)
  | [], origin, entries => change origin entries
  | key :: path, _, entries =>
    match entries.find? key.name with
    | none => do
      let (a, inner) ← Entries.change made change path made []
      return (a, entries.push key ⟨.table made inner, none⟩)
    | some ⟨.table origin inner, span⟩ =>
      if origin = .braces ∨ (made = .dotted ∧ origin = .header) then
        .error (.repeatedKey key.name)
      else do
        let (a, inner) ← Entries.change made change path origin inner
        return (a, entries.replace key.name ⟨.table origin inner, span⟩)
    | some ⟨.rows tables, span⟩ =>
      match tables.getLast? with
      | some ⟨.table origin inner, last⟩ => do
        let (a, inner) ← Entries.change made change path origin inner
        let tables := tables.dropLast ++ [⟨.table origin inner, last⟩]
        return (a, entries.replace key.name ⟨.rows tables, span⟩)
      | _ => .error (.repeatedKey key.name)
    | some _ => .error (.repeatedKey key.name)

/-- Adds a value under a dotted key. -/
def Entries.insert (entries : Entries) (path : List Key) (key : Key) (value : Located Value) :
    Except Fault Entries := do
  let add := fun (origin : Origin) (entries : Entries) =>
    if (!path.isEmpty && origin ≠ .dotted) || (entries.find? key.name).isSome then
      .error (.repeatedKey key.name)
    else .ok ((), entries.push key value)
  return (← entries.change .dotted add path .header).2

/-- Takes a table that only headers of tables below have made out of its place, so that its own
header can go on with it.  Returns its entries, or none if the table does not exist. -/
def Entries.takeOver (entries : Entries) (path : List Key) (key : Key) :
    Except Fault (Entries × Entries) :=
  let take := fun (_ : Origin) (entries : Entries) =>
    match entries.find? key.name with
    | none => .ok ([], entries)
    | some ⟨.table .aboveHeader inner, _⟩ => .ok (inner, entries.erase key.name)
    | some _ => .error (.repeatedKey key.name)
  entries.change .aboveHeader take path .header

/-- Puts a table in its place. -/
def Entries.putTable (entries : Entries) (path : List Key) (key : Key) (table : Located Value) :
    Except Fault Entries := do
  let put := fun (_ : Origin) (entries : Entries) => .ok ((), entries.push key table)
  return (← entries.change .aboveHeader put path .header).2

/-- The stretch from the start of one to the end of another. -/
def Span.upTo? (first last : Option Span) : Option Span := do
  return ⟨(← first).start, (← last).stop⟩

/-- Adds a table to an array of tables, which it may begin. -/
def Entries.putRow (entries : Entries) (path : List Key) (key : Key) (table : Located Value) :
    Except Fault Entries := do
  let put := fun (_ : Origin) (entries : Entries) =>
    match entries.find? key.name with
    | none => .ok ((), entries.push key ⟨.rows [table], table.span⟩)
    | some ⟨.rows tables, _⟩ =>
      let span := Span.upTo? ((tables.head?.map (·.span)).getD none) table.span
      .ok ((), entries.replace key.name ⟨.rows (tables ++ [table]), span⟩)
    | some _ => .error (.repeatedKey key.name)
  return (← entries.change .aboveHeader put path .header).2

end RegexTemplate.Toml
