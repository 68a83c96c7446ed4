import Mathlib
import RegexTemplate.Literal
import RegexTemplate.Proofs.Regex.Searching

/-!
# Reading an escaped text

Of the syntax of regular expressions, literal text needs two rules only: a character without a meaning
of its own stands for itself, and a backslash with one that has a meaning stands for the latter
(`Reads`).  Read by these rules, a text says which characters it stands for, and the escaped form of a
row is the one text that stands for it (`reads_iff`).  In particular no backslash is left over at the
end.

The reader of regular expressions follows the two rules (`readBody_of_reads`): what it reads is the row
of the characters, one expression for each.

Main statement: `parse_of_reads`.
-/

namespace RegexTemplate

namespace Literal

/-- A text stands for a row of characters: each of them is written as itself if it has no meaning of
its own, and behind a backslash if it has one. -/
inductive Reads : (text raw : List Char) → Prop
  | nil : Reads [] []
  | plain {c : Char} {text raw : List Char} (hplain : ¬ isMeta c) (hrest : Reads text raw) :
      Reads (c :: text) (c :: raw)
  | escaped {c : Char} {text raw : List Char} (hmeta : isMeta c) (hrest : Reads text raw) :
      Reads ('\\' :: c :: text) (c :: raw)

variable {text raw : List Char} {c : Char}

theorem reads_escapeChars (raw : List Char) : Reads (escapeChars raw) raw := by
  induction raw with
  | nil => exact .nil
  | cons c raw ih =>
      by_cases hmeta : isMeta c
      · have htext : escapeChars (c :: raw) = '\\' :: c :: escapeChars raw := by
          simp [escapeChars, escapeChar, hmeta]
        rw [htext]
        exact .escaped hmeta ih
      · have htext : escapeChars (c :: raw) = c :: escapeChars raw := by
          simp [escapeChars, escapeChar, hmeta]
        rw [htext]
        exact .plain hmeta ih

/-- The escaped form of a row is the only text that stands for it. -/
theorem reads_iff : Reads text raw ↔ text = escapeChars raw := by
  constructor
  · intro h
    induction h with
    | nil => rfl
    | plain hplain _ ih => simp [escapeChars, escapeChar, hplain, ih]
    | escaped hmeta _ ih => simp [escapeChars, escapeChar, hmeta, ih]
  · rintro rfl
    exact reads_escapeChars raw

/-- A text stands for one row only. -/
theorem Reads.unique {other : List Char} (h : Reads text raw) (h' : Reads text other) :
    raw = other := by
  rw [reads_iff] at h h'
  exact escapeChars_injective (h.symm.trans h')

end Literal

namespace Regex

open Literal (isMeta metaChars Reads)

/-- The piece that is read for one character. -/
def Piece.ofChar (c : Char) : Piece := .expr (.ofChar c) 0

variable {names : List (List Char)} {finished pieces : List Piece} {text raw rest : List Char}
  {c : Char} {fuel : Nat}

theorem readEscape_of_isMeta (hmeta : isMeta c) :
    readEscape {} (c :: rest) = .ok (.char c false, rest) := by
  have hmem : c ∈ metaChars := by simpa [isMeta] using hmeta
  fin_cases hmem <;> rfl

/-- Behind a backslash, a character with a meaning is read as itself. -/
theorem readBody_of_isMeta (hmeta : isMeta c) :
    readBody (fuel + 1) {} names finished pieces ('\\' :: c :: rest) =
      readBody fuel {} names finished (.ofChar c :: pieces) rest := by
  rw [readBody]
  change (readEscape {} (c :: rest) >>= _) = _
  rw [readEscape_of_isMeta hmeta]
  rfl

/-- A character without a meaning is read as itself. -/
theorem readBody_of_not_isMeta (hplain : ¬ isMeta c) :
    readBody (fuel + 1) {} names finished pieces (c :: rest) =
      readBody fuel {} names finished (.ofChar c :: pieces) rest := by
  have hmem : c ∉ metaChars := by simpa [isMeta] using hplain
  simp only [metaChars, List.mem_cons, List.not_mem_nil, or_false, not_or] at hmem
  have hskip : Modes.skip {} (c :: rest) = c :: rest := rfl
  rw [readBody, hskip]
  -- each arm but the last is for a character with a meaning
  split <;> simp_all
  rfl

/-- A text that stands for a row is read as the pieces for its characters, up to its end. -/
theorem readBody_of_reads (h : Reads text raw) (hfuel : text.length < fuel) :
    readBody fuel {} names finished pieces text =
      .ok (alternatePieces (sequencePieces ((raw.map .ofChar).reverse ++ pieces) :: finished),
        names, []) := by
  induction h generalizing fuel pieces with
  | nil =>
      obtain ⟨fuel, rfl⟩ := Nat.exists_eq_succ_of_ne_zero (Nat.ne_of_gt hfuel)
      rfl
  | @plain c text raw hplain _ ih =>
      rw [List.length_cons] at hfuel
      obtain ⟨fuel, rfl⟩ := Nat.exists_eq_succ_of_ne_zero (by omega : fuel ≠ 0)
      rw [Nat.succ_eq_add_one, readBody_of_not_isMeta hplain, ih (by omega), List.map_cons,
        List.reverse_cons, List.append_assoc, List.singleton_append]
  | @escaped c text raw hmeta _ ih =>
      rw [List.length_cons, List.length_cons] at hfuel
      obtain ⟨fuel, rfl⟩ := Nat.exists_eq_succ_of_ne_zero (by omega : fuel ≠ 0)
      rw [Nat.succ_eq_add_one, readBody_of_isMeta hmeta, ih (by omega), List.map_cons,
        List.reverse_cons, List.append_assoc, List.singleton_append]

/-- Pieces for characters make up the expression for the row, and it is not nested deeply. -/
theorem sequencePieces_ofChar (raw : List Char) :
    ∃ height, sequencePieces (raw.map .ofChar).reverse = .expr (.ofRow raw) height ∧ height ≤ 1 := by
  have hheights : ∀ raw : List Char,
      (raw.map fun c => (Piece.ofChar c).height).foldl max 0 = 0 := by
    intro raw
    induction raw with
    | nil => rfl
    | cons c raw ih => exact ih
  have hparts : (raw.map Expr.ofChar).flatMap Expr.parts = raw.map Expr.ofChar := by
    rw [List.flatMap_map, List.map_eq_flatMap]
    rfl
  have hlength : (raw.map Piece.ofChar).reverse.length = raw.length := by simp
  unfold sequencePieces
  split
  · next hnil =>
      have hraw : raw = [] := List.length_eq_zero_iff.1 (by rw [← hlength, hnil]; rfl)
      exact ⟨0, by rw [hraw]; rfl, by omega⟩
  · next piece hsingle =>
      rw [hsingle] at hlength
      obtain ⟨c, rfl⟩ := List.length_eq_one_iff.1 hlength.symm
      cases hsingle
      exact ⟨0, rfl, by omega⟩
  · refine ⟨1, ?_, Nat.le_refl 1⟩
    rw [Piece.expr.injEq]
    constructor
    · rw [List.reverse_reverse, List.map_map, Expr.sequence]
      exact congrArg Expr.ofParts hparts
    · rw [← List.map_reverse, List.map_map, Function.comp_def, hheights]

/-- **A text that stands for a row is read as the expression for the row.** -/
theorem parse_of_reads {source : String} (h : Reads source.toList raw) :
    Expr.parse {} source = .ok (.ofRow raw) := by
  obtain ⟨height, hpiece, hheight⟩ := sequencePieces_ofChar raw
  have hread : readBody (source.toList.length + 1) {} [] [] [] source.toList =
      .ok (.expr (.ofRow raw) height, [], []) := by
    rw [readBody_of_reads h (Nat.lt_succ_self _), List.append_nil, hpiece]
    rfl
  have hlow : ¬ nestingLimit < height := by
    rw [nestingLimit]
    omega
  rw [Expr.parse, hread]
  exact if_neg hlow

end Regex

end RegexTemplate
