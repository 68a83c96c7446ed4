import Mathlib
import RegexTemplate.Pattern

/-!
# Patterns between slashes

A pattern is written between slashes with its flags behind them, and nothing in the source is escaped.
This is read back without loss because flags are letters: the last slash of the text is the one in
front of them, however many the source has (`delimits_iff`).  So each pattern has one written form and
each written form is that of one pattern, as long as its flags are letters.

Main statement: `ofDelimited_exact`.
-/

namespace RegexTemplate.Pattern

variable {source flags text : String}

/-- An ASCII letter, in either case. -/
def IsLetter (c : Char) : Prop := 'A' ≤ c ∧ c ≤ 'Z' ∨ 'a' ≤ c ∧ c ≤ 'z'

instance : DecidablePred IsLetter := fun c =>
  inferInstanceAs (Decidable ('A' ≤ c ∧ c ≤ 'Z' ∨ 'a' ≤ c ∧ c ≤ 'z'))

/-- Flags that can stand behind a pattern. -/
def Lettered (flags : String) : Prop := ∀ c ∈ flags.toList, IsLetter c

/-- A text is made of a slash, a source, another slash, and flags that are letters. -/
structure Delimits (source flags text : String) : Prop where
  text_eq : text = "/" ++ source ++ "/" ++ flags
  lettered : Lettered flags

theorem isAlpha_iff {c : Char} : c.isAlpha ↔ IsLetter c := by
  simp only [Char.isAlpha, Char.isUpper, Char.isLower, IsLetter, Bool.or_eq_true, Bool.and_eq_true,
    decide_eq_true_eq]
  rfl

theorem all_isAlpha_iff : flags.toList.all Char.isAlpha ↔ Lettered flags := by
  simp only [List.all_eq_true, isAlpha_iff, Lettered]

/-- No flag is a slash. -/
theorem Lettered.slash_not_mem (h : Lettered flags) : '/' ∉ flags.toList := by
  intro hslash
  have hletter : IsLetter '/' := h '/' hslash
  revert hletter
  decide

/-- A text that is made of a source and flags begins with a slash. -/
theorem Delimits.exists_inner (h : Delimits source flags text) :
    ∃ inner, text.toList = '/' :: inner := by
  refine ⟨source.toList ++ '/' :: flags.toList, ?_⟩
  rw [h.text_eq]
  simp

/-- Behind the first slash, the source stands in front of the last one and the flags behind it. -/
theorem delimits_iff {inner : List Char} (htext : text.toList = '/' :: inner) :
    Delimits source flags text ↔
      splitAtLast? '/' inner = some (source.toList, flags.toList) ∧ Lettered flags := by
  have hchars : text = "/" ++ source ++ "/" ++ flags ↔
      inner = source.toList ++ '/' :: flags.toList := by
    rw [← String.toList_inj, htext]
    simp
  constructor
  · intro h
    exact ⟨splitAtLast?_eq_some_iff.2 ⟨hchars.1 h.text_eq, h.lettered.slash_not_mem⟩, h.lettered⟩
  · intro hgiven
    obtain ⟨hsplit, hlettered⟩ := hgiven
    exact ⟨hchars.2 (splitAtLast?_eq_some_iff.1 hsplit).1, hlettered⟩

/-- A text is made of one source and flags only. -/
theorem Delimits.unique {source' flags' : String} (h : Delimits source flags text)
    (h' : Delimits source' flags' text) : source = source' ∧ flags = flags' := by
  obtain ⟨inner, htext⟩ := h.exists_inner
  have hsplit := ((delimits_iff htext).1 h).1
  have hsplit' := ((delimits_iff htext).1 h').1
  rw [hsplit, Option.some.injEq, Prod.mk.injEq] at hsplit'
  exact ⟨String.toList_injective hsplit'.1, String.toList_injective hsplit'.2⟩

/-- Reading a text gives the source and the flags that it is made of, or else a failure that carries the
text. -/
theorem ofDelimited_cases (text : String) :
    (∃ source flags, Delimits source flags text ∧ ofDelimited text = .ok ⟨source, flags⟩) ∨
      (¬ ∃ source flags, Delimits source flags text) ∧
        ofDelimited text = .error (.invalidDelimitedPattern text) := by
  unfold ofDelimited
  split
  · next inner htext =>
      split
      · next source flags hsplit =>
          split
          · next hflags =>
              refine Or.inl ⟨String.ofList source, String.ofList flags, ?_, rfl⟩
              rw [delimits_iff htext, ← all_isAlpha_iff, String.toList_ofList, String.toList_ofList]
              exact ⟨hsplit, hflags⟩
          · next hflags =>
              refine Or.inr ⟨?_, rfl⟩
              intro hgiven
              obtain ⟨source', flags', h⟩ := hgiven
              obtain ⟨hsplit', hlettered⟩ := (delimits_iff htext).1 h
              rw [hsplit, Option.some.injEq, Prod.mk.injEq] at hsplit'
              rw [hsplit'.2] at hflags
              exact hflags (all_isAlpha_iff.2 hlettered)
      · next hsplit =>
          refine Or.inr ⟨?_, rfl⟩
          intro hgiven
          obtain ⟨source', flags', h⟩ := hgiven
          rw [delimits_iff htext, hsplit] at h
          cases h.1
  · next hslash =>
      refine Or.inr ⟨?_, rfl⟩
      intro hgiven
      obtain ⟨source', flags', h⟩ := hgiven
      obtain ⟨inner, htext⟩ := h.exists_inner
      exact hslash inner htext

theorem ofDelimited_eq_ok_iff :
    ofDelimited text = .ok ⟨source, flags⟩ ↔ Delimits source flags text := by
  rcases ofDelimited_cases text with ⟨source', flags', h, heq⟩ | ⟨hnone, heq⟩
  · rw [heq, Except.ok.injEq, Pattern.mk.injEq]
    constructor
    · rintro ⟨rfl, rfl⟩
      exact h
    · intro h'
      exact h.unique h'
  · rw [heq]
    constructor
    · intro herror
      cases herror
    · intro h
      exact absurd ⟨source, flags, h⟩ hnone

theorem ofDelimited_eq_error_iff {e : TemplateError} :
    ofDelimited text = .error e ↔
      e = .invalidDelimitedPattern text ∧ ¬ ∃ source flags, Delimits source flags text := by
  rcases ofDelimited_cases text with ⟨source, flags, h, heq⟩ | ⟨hnone, heq⟩
  · rw [heq]
    constructor
    · intro hok
      cases hok
    · intro hgiven
      exact absurd ⟨source, flags, h⟩ hgiven.2
  · rw [heq, Except.error.injEq]
    constructor
    · intro hsame
      exact ⟨hsame.symm, hnone⟩
    · intro hgiven
      exact hgiven.1.symm

/-- The written form of a pattern is made of its source and flags. -/
theorem delimits_delimited {pattern : Pattern} (hflags : Lettered pattern.flags) :
    Delimits pattern.source pattern.flags pattern.delimited := ⟨rfl, hflags⟩

/-- **Writing a pattern between slashes loses nothing, and reading accepts just what is written so.**

* A text is read as a source and flags if and only if it is made of a slash, the source, a slash and the
  flags, and the flags are ASCII letters; it is made so in one way only.
* Every other text is refused, and the failure carries the text.
* Writing is a bijection from the patterns whose flags are letters to the texts that are made so.  Such
  a pattern is read back as it was written, whatever its source holds, and a pattern that has been read
  is written as the text was. -/
theorem ofDelimited_exact :
    (∀ text source flags, ofDelimited text = .ok ⟨source, flags⟩ ↔ Delimits source flags text) ∧
    (∀ text source flags source' flags', Delimits source flags text →
      Delimits source' flags' text → source = source' ∧ flags = flags') ∧
    (∀ text e, ofDelimited text = .error e ↔
      e = .invalidDelimitedPattern text ∧ ¬ ∃ source flags, Delimits source flags text) ∧
    Set.BijOn delimited {pattern | Lettered pattern.flags}
      {text | ∃ source flags, Delimits source flags text} ∧
    (∀ pattern : Pattern, Lettered pattern.flags → ofDelimited pattern.delimited = .ok pattern) ∧
    (∀ text pattern, ofDelimited text = .ok pattern → pattern.delimited = text) := by
  refine ⟨fun text source flags => ofDelimited_eq_ok_iff,
    fun text source flags source' flags' => Delimits.unique,
    fun text e => ofDelimited_eq_error_iff, ⟨?_, ?_, ?_⟩, ?_, ?_⟩
  · intro pattern hflags
    exact ⟨pattern.source, pattern.flags, delimits_delimited hflags⟩
  · intro pattern hflags other hothers hsame
    have h : Delimits other.source other.flags pattern.delimited :=
      ⟨hsame, hothers⟩
    obtain ⟨hsource, hflags⟩ := (delimits_delimited hflags).unique h
    cases pattern
    cases other
    rw [Pattern.mk.injEq]
    exact ⟨hsource, hflags⟩
  · intro text hgiven
    obtain ⟨source, flags, h⟩ := hgiven
    exact ⟨⟨source, flags⟩, h.lettered, h.text_eq.symm⟩
  · intro pattern hflags
    exact ofDelimited_eq_ok_iff.2 (delimits_delimited hflags)
  · intro text pattern hread
    have h : Delimits pattern.source pattern.flags text := ofDelimited_eq_ok_iff.1 hread
    exact h.text_eq.symm

/-- A pattern with slashes, a backslash and a line break in its source, and flags of both cases, is read
back. -/
theorem ofDelimited_exact_slashes :
    Lettered "gI" ∧ ofDelimited "/a/\\/\n//gI" = .ok ⟨"a/\\/\n/", "gI"⟩ ∧
      ∀ source flags, Delimits source flags "/a/\\/\n//gI" → source = "a/\\/\n/" ∧ flags = "gI" := by
  have hflags : Lettered "gI" := all_isAlpha_iff.1 (by decide)
  obtain ⟨-, hunique, -, -, hread, -⟩ := ofDelimited_exact
  refine ⟨hflags, hread ⟨"a/\\/\n/", "gI"⟩ hflags, ?_⟩
  intro source flags h
  exact hunique "/a/\\/\n//gI" source flags "a/\\/\n/" "gI" h ⟨rfl, hflags⟩

end RegexTemplate.Pattern
