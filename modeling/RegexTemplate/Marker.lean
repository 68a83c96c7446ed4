import RegexTemplate.Text.Blank

/-!
# Placeholder markers

A marker stands for a text that is filled in later: a backslash, the keyword `VAR` in any case, and
a name in braces, with blanks allowed around the braces and the name.  A name is an ASCII letter
followed by ASCII letters, digits and underscores.  Splitting a text at its markers gives literals
and names in turn.  Main statements: `length_lt_of_takeMarker?`, a marker takes characters, and
`length_split`, a split has one literal more than it has names.
-/

namespace RegexTemplate.Marker

/-- Whether a character may begin a name. -/
def isNameStart (c : Char) : Bool := c.isAlpha

/-- Whether a character may continue a name. -/
def isNameChar (c : Char) : Bool := c.isAlphanum || c == '_'

/-- What follows a given character at the front of a text. -/
def takeChar? (expected : Char) : List Char → Option (List Char)
  | [] => none
  | c :: rest => if c = expected then some rest else none

/-- What follows the backslash and the keyword at the front of a text. -/
def takeKeyword? : List Char → Option (List Char)
  | '\\' :: v :: a :: r :: rest =>
    if v.toLower = 'v' ∧ a.toLower = 'a' ∧ r.toLower = 'r' then some rest else none
  | _ => none

/-- The name at the front of a text, as long as it can be, and what follows it. -/
def takeName? : List Char → Option (List Char × List Char)
  | [] => none
  | c :: rest =>
    if isNameStart c then some (c :: rest.takeWhile isNameChar, rest.dropWhile isNameChar)
    else none

/-- The name of the marker at the front of a text, and what follows the marker. -/
def takeMarker? (cs : List Char) : Option (List Char × List Char) := do
  let rest ← takeKeyword? cs
  let rest ← takeChar? '\x7b' (Text.skipBlanks rest)
  let (name, rest) ← takeName? (Text.skipBlanks rest)
  let rest ← takeChar? '\x7d' (Text.skipBlanks rest)
  return (name, rest)

/-- A character that is taken makes the text shorter by one. -/
theorem length_of_takeChar? {expected : Char} {cs rest : List Char}
    (h : takeChar? expected cs = some rest) : cs.length = rest.length + 1 := by
  cases cs with
  | nil => simp [takeChar?] at h
  | cons c cs =>
    by_cases same : c = expected <;> simp [takeChar?, same] at h
    simp [h]

/-- The keyword makes the text shorter by four. -/
theorem length_of_takeKeyword? {cs rest : List Char} (h : takeKeyword? cs = some rest) :
    cs.length = rest.length + 4 := by
  unfold takeKeyword? at h
  split at h
  · split at h
    · simp_all
    · simp at h
  · simp at h

/-- A name that is taken does not make the text longer. -/
theorem length_le_of_takeName? {cs name rest : List Char} (h : takeName? cs = some (name, rest)) :
    rest.length ≤ cs.length := by
  cases cs with
  | nil => simp [takeName?] at h
  | cons c cs =>
    by_cases start : isNameStart c <;> simp [takeName?, start] at h
    have : (cs.dropWhile isNameChar).length ≤ cs.length := (List.dropWhile_sublist _).length_le
    rw [← h.2]
    simp only [List.length_cons]
    omega

/-- A marker takes characters. -/
theorem length_lt_of_takeMarker? {cs name rest : List Char}
    (h : takeMarker? cs = some (name, rest)) : rest.length < cs.length := by
  simp only [takeMarker?, Option.bind_eq_bind, Option.bind_eq_some_iff] at h
  obtain ⟨a, keyword, b, brace, ⟨n, c⟩, named, d, close, result⟩ := h
  simp only [Option.pure_def, Option.some.injEq, Prod.mk.injEq] at result
  have := length_of_takeKeyword? keyword
  have := length_of_takeChar? brace
  have := length_le_of_takeName? named
  have : (Text.skipBlanks c).length = d.length + 1 := length_of_takeChar? close
  have := Text.length_skipBlanks_le a
  have := Text.length_skipBlanks_le b
  have := Text.length_skipBlanks_le c
  rw [← result.2]
  omega

/-- The literal before the first marker of a text, and then each marker's name with the literal
behind it. -/
def scan : List Char → List Char × List (List Char × List Char)
  | [] => ([], [])
  | c :: rest =>
    match found : takeMarker? (c :: rest) with
    | some (name, after) =>
      have : after.length < (c :: rest).length := length_lt_of_takeMarker? found
      let (literal, more) := scan after
      ([], (name, literal) :: more)
    | none =>
      let (literal, more) := scan rest
      (c :: literal, more)
termination_by cs => cs.length
decreasing_by
  · assumption
  · exact Nat.lt_succ_self _

/-- A text split at its markers: literals and names in turn, beginning and ending with a
literal. -/
def split (text : String) : List String :=
  let (literal, more) := scan text.toList
  String.ofList literal ::
    more.flatMap fun (name, literal) => [String.ofList name, String.ofList literal]

/-- A split has one literal more than it has names. -/
theorem length_split (text : String) :
    (split text).length = 2 * (scan text.toList).2.length + 1 := by
  have pairs : ∀ more : List (List Char × List Char),
      (more.flatMap fun (name, literal) => [String.ofList name, String.ofList literal]).length =
        2 * more.length := by
    intro more
    induction more with
    | nil => rfl
    | cons pair more ih =>
      simp only [List.flatMap_cons, List.length_append, ih, List.length_cons, List.length_nil]
      omega
  simp only [split, List.length_cons, pairs]

/-- A part of a text that has been split. -/
inductive Part where
  /-- Text that stands for itself. -/
  | literal (text : String)
  /-- The name of a marker. -/
  | placeholder (name : String)
deriving DecidableEq, Repr

/-- The parts of a split: texts at even places are literals, those at odd places are names. -/
def parts : List String → List Part
  | [] => []
  | [literal] => [.literal literal]
  | literal :: name :: rest => .literal literal :: .placeholder name :: parts rest

/-- Each text of a split is one part. -/
theorem length_parts (texts : List String) : (parts texts).length = texts.length := by
  fun_induction parts texts <;> simp_all

end RegexTemplate.Marker
