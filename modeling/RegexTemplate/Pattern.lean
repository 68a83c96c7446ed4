import RegexTemplate.Regex.Basic
import RegexTemplate.Template.Error

/-!
# Patterns

A pattern is the text of a regular expression with the flags it is to be read with.  It may be
written between slashes with the flags behind them; the source may hold slashes itself, because it
ends at the last one.  Main statement: `splitAtLast?_eq_some_iff`, which says what the parts around
the last slash are.
-/

namespace RegexTemplate

/-- The text of a regular expression, and the flags it is to be read with. -/
structure Pattern where
  source : String
  flags : String
deriving DecidableEq, Repr

namespace Pattern

/-- A pattern without flags. -/
def ofSource (source : String) : Pattern := ⟨source, ""⟩

/-- A compiled regular expression as a pattern. -/
def ofRegex (regex : Regex) : Pattern := ofSource regex.source

/-- The parts of a row before and behind the last occurrence of a separator. -/
def splitAtLast? (separator : Char) : List Char → Option (List Char × List Char)
  | [] => none
  | c :: rest =>
    match splitAtLast? separator rest with
    | some (front, back) => some (c :: front, back)
    | none => if c = separator then some ([], rest) else none

/-- No occurrence of the separator is found exactly where there is none. -/
theorem splitAtLast?_eq_none_iff {separator : Char} {cs : List Char} :
    splitAtLast? separator cs = none ↔ separator ∉ cs := by
  induction cs with
  | nil => simp [splitAtLast?]
  | cons c rest ih =>
    cases found : splitAtLast? separator rest with
    | some pair => simp_all [splitAtLast?]
    | none =>
      have absent := ih.1 found
      by_cases same : c = separator
      · simp [splitAtLast?, found, same]
      · simp [splitAtLast?, found, same, absent, Ne.symm same]

/-- The parts around the last separator put the row together, and the second holds no
separator. -/
theorem splitAtLast?_eq_some_iff {separator : Char} {cs front back : List Char} :
    splitAtLast? separator cs = some (front, back) ↔
      cs = front ++ separator :: back ∧ separator ∉ back := by
  induction cs generalizing front back with
  | nil => simp [splitAtLast?]
  | cons c rest ih =>
    cases found : splitAtLast? separator rest with
    | some pair =>
      obtain ⟨front', back'⟩ := pair
      have whole := ih.1 found
      constructor
      · intro h
        simp only [splitAtLast?, found, Option.some.injEq, Prod.mk.injEq] at h
        obtain ⟨rfl, rfl⟩ := h
        exact ⟨by rw [whole.1]; rfl, whole.2⟩
      · rintro ⟨equal, absent⟩
        cases front with
        | nil =>
          simp only [List.nil_append, List.cons.injEq] at equal
          exact absurd (equal.2 ▸ whole.1 ▸ by simp) absent
        | cons d front =>
          simp only [List.cons_append, List.cons.injEq] at equal
          have same := found.symm.trans (ih.2 ⟨equal.2, absent⟩)
          simp only [Option.some.injEq, Prod.mk.injEq] at same
          simp [splitAtLast?, found, equal.1, same.1, same.2]
    | none =>
      have absent := splitAtLast?_eq_none_iff.1 found
      by_cases same : c = separator
      · constructor
        · intro h
          simp only [splitAtLast?, found, same, if_true, Option.some.injEq, Prod.mk.injEq] at h
          obtain ⟨rfl, rfl⟩ := h
          exact ⟨by simp [same], absent⟩
        · rintro ⟨equal, -⟩
          cases front with
          | nil =>
            simp only [List.nil_append, List.cons.injEq] at equal
            simp [splitAtLast?, found, same, ← equal.2]
          | cons d front =>
            simp only [List.cons_append, List.cons.injEq] at equal
            exact absurd (equal.2 ▸ by simp) absent
      · constructor
        · intro h
          simp [splitAtLast?, found, same] at h
        · rintro ⟨equal, -⟩
          cases front with
          | nil =>
            simp only [List.nil_append, List.cons.injEq] at equal
            exact absurd equal.1 same
          | cons d front =>
            simp only [List.cons_append, List.cons.injEq] at equal
            exact absurd (equal.2 ▸ by simp) absent

/-- Reads the form `/source/flags`.  The source ends at the last slash, and flags are ASCII
letters. -/
def ofDelimited (text : String) : Except TemplateError Pattern :=
  match text.toList with
  | '/' :: inner =>
    match splitAtLast? '/' inner with
    | some (source, flags) =>
      if flags.all Char.isAlpha then .ok ⟨String.ofList source, String.ofList flags⟩
      else .error (.invalidDelimitedPattern text)
    | none => .error (.invalidDelimitedPattern text)
  | _ => .error (.invalidDelimitedPattern text)

/-- The form `/source/flags`. -/
def delimited (pattern : Pattern) : String := "/" ++ pattern.source ++ "/" ++ pattern.flags

/-- The modes that flags ask for.  Flags that name no mode ask for nothing. -/
def modes (pattern : Pattern) : Regex.Modes :=
  { ignoreCase := pattern.flags.toList.contains 'i'
    multiLine := pattern.flags.toList.contains 'm'
    dotAll := pattern.flags.toList.contains 's'
    spaced := pattern.flags.toList.contains 'x'
    swapGreed := pattern.flags.toList.contains 'U' }

/-- Compiles a pattern in the modes that its flags ask for. -/
def toRegex (pattern : Pattern) : Except TemplateError Regex :=
  (Regex.compile pattern.source pattern.modes).mapError .invalidRegex

end Pattern

end RegexTemplate
