/-!
# Finding a text inside another

The first occurrence of a row of characters inside another.  Main statements:
`splitAtFirst?_eq_some`, the parts around the occurrence put the whole together, and
`splitAtFirst?_eq_none_iff`, nothing is found exactly where nothing occurs.
-/

namespace RegexTemplate.Text

/-- What follows a row of characters at the front of another. -/
def dropFront? : (front cs : List Char) → Option (List Char)
  | [], cs => some cs
  | _ :: _, [] => none
  | f :: front, c :: cs => if f = c then dropFront? front cs else none

/-- What follows is what the row is continued by. -/
theorem dropFront?_eq_some_iff {front cs rest : List Char} :
    dropFront? front cs = some rest ↔ cs = front ++ rest := by
  induction front generalizing cs with
  | nil => simp [dropFront?]
  | cons f front ih =>
    cases cs with
    | nil => simp [dropFront?]
    | cons c cs =>
      by_cases same : f = c
      · simp [dropFront?, same, ih]
      · simp [dropFront?, same, Ne.symm same]

/-- The parts of a row before and behind the first occurrence of another. -/
def splitAtFirst? (mark : List Char) : List Char → Option (List Char × List Char)
  | [] => (dropFront? mark []).map ([], ·)
  | c :: cs =>
    match dropFront? mark (c :: cs) with
    | some rest => some ([], rest)
    | none => (splitAtFirst? mark cs).map fun (front, back) => (c :: front, back)

/-- The parts around the occurrence put the whole together. -/
theorem splitAtFirst?_eq_some {mark cs front back : List Char}
    (h : splitAtFirst? mark cs = some (front, back)) : cs = front ++ mark ++ back := by
  induction cs generalizing front with
  | nil =>
    simp only [splitAtFirst?, Option.map_eq_some_iff, Prod.mk.injEq] at h
    obtain ⟨rest, found, rfl, rfl⟩ := h
    simpa using dropFront?_eq_some_iff.1 found
  | cons c cs ih =>
    simp only [splitAtFirst?] at h
    split at h
    · next rest found =>
      simp only [Option.some.injEq, Prod.mk.injEq] at h
      obtain ⟨rfl, rfl⟩ := h
      simpa using dropFront?_eq_some_iff.1 found
    · simp only [Option.map_eq_some_iff, Prod.mk.injEq, Prod.exists] at h
      obtain ⟨front', back', found, rfl, rfl⟩ := h
      simp [ih found]

/-- Nothing is found exactly where nothing occurs. -/
theorem splitAtFirst?_eq_none_iff {mark cs : List Char} :
    splitAtFirst? mark cs = none ↔ ¬ mark <:+: cs := by
  induction cs with
  | nil => cases mark <;> simp [splitAtFirst?, dropFront?]
  | cons c cs ih =>
    rw [List.infix_cons_iff]
    cases found : dropFront? mark (c :: cs) with
    | some rest =>
      have : mark <+: c :: cs := ⟨rest, (dropFront?_eq_some_iff.1 found).symm⟩
      simp [splitAtFirst?, found, this]
    | none =>
      have : ¬ mark <+: c :: cs := by
        rintro ⟨rest, whole⟩
        simp [dropFront?_eq_some_iff.2 whole.symm] at found
      simp [splitAtFirst?, found, this, ih]

/-- Whether a text occurs in another. -/
def occursIn (part whole : String) : Bool := (splitAtFirst? part.toList whole.toList).isSome

/-- A text occurs in another exactly if its characters are a stretch of the other's. -/
theorem occursIn_iff {part whole : String} :
    occursIn part whole ↔ part.toList <:+: whole.toList := by
  rw [occursIn, Option.isSome_iff_ne_none, ne_eq, splitAtFirst?_eq_none_iff, Classical.not_not]

end RegexTemplate.Text
