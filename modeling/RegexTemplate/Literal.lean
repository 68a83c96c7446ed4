/-!
# Literal text in a regular expression

A raw text stands for itself inside a regular expression once each character that has a meaning
there is preceded by a backslash.  Main statements: `escape_append`, texts may be escaped piece by
piece, and `escape_injective`, the escaped form determines the text.
-/

namespace RegexTemplate.Literal

/-- The characters that have a meaning of their own in a regular expression. -/
def metaChars : List Char :=
  ['\\', '.', '+', '*', '?', '(', ')', '|', '[', ']', '\x7b', '\x7d', '^', '$', '#', '&', '-', '~']

/-- Whether a character has a meaning of its own in a regular expression. -/
def isMeta (c : Char) : Bool := metaChars.contains c

/-- A character as it is written to stand for itself. -/
def escapeChar (c : Char) : List Char := if isMeta c then ['\\', c] else [c]

/-- A text, as characters, with a backslash before each character that has a meaning. -/
def escapeChars (raw : List Char) : List Char := raw.flatMap escapeChar

/-- A text with a backslash before each character that has a meaning. -/
def escape (raw : String) : String := String.ofList (escapeChars raw.toList)

/-- Texts may be escaped piece by piece. -/
theorem escapeChars_append (a b : List Char) :
    escapeChars (a ++ b) = escapeChars a ++ escapeChars b := by
  simp [escapeChars]

/-- Texts may be escaped piece by piece. -/
theorem escape_append (a b : String) : escape (a ++ b) = escape a ++ escape b := by
  simp [escape, escapeChars_append]

/-- The escaped form of a row of characters determines it. -/
theorem escapeChars_injective {a b : List Char} (h : escapeChars a = escapeChars b) : a = b := by
  have backslash : isMeta '\\' := by decide
  induction a generalizing b with
  | nil =>
    cases b with
    | nil => rfl
    | cons d b => by_cases hd : isMeta d <;> simp [escapeChars, escapeChar, hd] at h
  | cons c a ih =>
    cases b with
    | nil => by_cases hc : isMeta c <;> simp [escapeChars, escapeChar, hc] at h
    | cons d b =>
      have tails : c = d → escapeChars a = escapeChars b → c :: a = d :: b :=
        fun same rest => by rw [same, ih rest]
      by_cases hc : isMeta c <;> by_cases hd : isMeta d <;>
        simp only [escapeChars, escapeChar, List.flatMap_cons, hc, hd, if_true, if_false,
          Bool.false_eq_true, List.cons_append, List.nil_append, List.cons.injEq] at h
      · exact tails h.2.1 h.2.2
      · exact absurd (h.1 ▸ backslash) hd
      · exact absurd (h.1 ▸ backslash) hc
      · exact tails h.1 h.2

/-- The escaped form of a text determines it. -/
theorem escape_injective {a b : String} (h : escape a = escape b) : a = b := by
  have := escapeChars_injective (String.ofList_injective h)
  exact String.toList_injective this

end RegexTemplate.Literal
