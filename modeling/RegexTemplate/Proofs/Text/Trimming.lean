import Mathlib

/-!
# Taking a character off the ends of a row

What is left when a character is taken off one end of a row is the part that does not have it there, and
what was taken off are copies of it (`dropWhile_eq_iff`, `reverse_dropWhile_eq_iff`).
-/

namespace RegexTemplate.Text

variable {c : Char} {cs rest : List Char}

/-- Copies of a character in front of a row that does not begin with it are dropped. -/
theorem dropWhile_replicate_append (h : cs.head? ≠ some c) (n : Nat) :
    (List.replicate n c ++ cs).dropWhile (· == c) = cs := by
  have hcopies : ∀ d ∈ List.replicate n c, (d == c) = true := by
    intro d hd
    exact beq_iff_eq.2 (List.eq_of_mem_replicate hd)
  rw [List.dropWhile_append_of_pos hcopies]
  cases cs with
  | nil => rfl
  | cons d cs =>
      have hne : d ≠ c := by simpa using h
      simp [hne]

/-- What is dropped in front are copies. -/
theorem exists_eq_replicate_append (c : Char) (cs : List Char) :
    ∃ n, cs = List.replicate n c ++ cs.dropWhile (· == c) := by
  refine ⟨(cs.takeWhile (· == c)).length, ?_⟩
  have hcopies : ∀ d ∈ cs.takeWhile (· == c), d = c := by
    intro d hd
    have htaken := List.mem_takeWhile_imp hd
    exact beq_iff_eq.1 htaken
  rw [← List.eq_replicate_of_mem hcopies, List.takeWhile_append_dropWhile]

/-- No copy is left in front. -/
theorem head?_dropWhile_ne (c : Char) (cs : List Char) :
    (cs.dropWhile (· == c)).head? ≠ some c := by
  intro hcopy
  have hnot := List.head?_dropWhile_not (· == c) cs
  rw [hcopy] at hnot
  simp at hnot

theorem dropWhile_eq_iff : cs.dropWhile (· == c) = rest ↔
    ∃ n, cs = List.replicate n c ++ rest ∧ rest.head? ≠ some c := by
  constructor
  · intro h
    obtain ⟨n, hn⟩ := exists_eq_replicate_append c cs
    rw [h] at hn
    refine ⟨n, hn, ?_⟩
    rw [← h]
    exact head?_dropWhile_ne c cs
  · intro hgiven
    obtain ⟨n, rfl, hhead⟩ := hgiven
    exact dropWhile_replicate_append hhead n

theorem reverse_dropWhile_eq_iff : (cs.reverse.dropWhile (· == c)).reverse = rest ↔
    ∃ n, cs = rest ++ List.replicate n c ∧ rest.getLast? ≠ some c := by
  rw [List.reverse_eq_iff, dropWhile_eq_iff]
  refine exists_congr fun n => and_congr ?_ ?_
  · rw [← List.reverse_inj, List.reverse_reverse, List.reverse_append, List.reverse_replicate,
      List.reverse_reverse]
  · rw [List.head?_reverse]

end RegexTemplate.Text
