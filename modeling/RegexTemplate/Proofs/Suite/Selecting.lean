import Mathlib
import RegexTemplate.Suite.Selection

/-!
# Which categories are selected

Each request adds the categories that it covers to a set (`mem_chosen_add`), so that after all of them the
set holds what some request covers, however often and in whatever order (`mem_chosen_foldl`).  What is
selected is read off the list of all categories and keeps its order (`fst_select`).
-/

namespace RegexTemplate.Suite

variable {all : List Category} {requests : List String} {request name line : String}

/-- A request covers the category that it names and those below it; slashes at its ends do not count. -/
def Covers (request name : String) : Prop :=
  name = trimSlashes request ∨ (trimSlashes request ++ "/").toList <+: name.toList

instance : Decidable (Covers request name) :=
  inferInstanceAs (Decidable (name = trimSlashes request ∨
    (trimSlashes request ++ "/").toList <+: name.toList))

/-- A category is wanted if a request covers it, or if there are no requests. -/
def Wanted (requests : List String) (name : String) : Prop :=
  requests = [] ∨ ∃ request ∈ requests, Covers request name

instance : Decidable (Wanted requests name) :=
  inferInstanceAs (Decidable (requests = [] ∨ ∃ request ∈ requests, Covers request name))

theorem selects_iff : selects (trimSlashes request) name ↔ Covers request name := by
  rw [selects, Covers, Bool.or_eq_true, beq_iff_eq, List.isPrefixOf_iff_prefix]

theorem mem_foldl_insert_iff {categories : List Category} {chosen : Std.TreeSet String} :
    name ∈ categories.foldl (fun chosen category => chosen.insert category.name) chosen ↔
      name ∈ chosen ∨ ∃ category ∈ categories, category.name = name := by
  induction categories generalizing chosen with
  | nil => simp
  | cons category categories ih =>
      rw [List.foldl_cons, ih, Std.TreeSet.mem_insert, Std.LawfulEqOrd.compare_eq_iff_eq,
        List.exists_mem_cons_iff, or_assoc, or_left_comm]

/-- A request adds the categories that it covers. -/
theorem mem_chosen_add {selection : Selection} :
    name ∈ (selection.add all request).chosen ↔
      name ∈ selection.chosen ∨ Covers request name ∧ ∃ category ∈ all, category.name = name := by
  rw [Selection.add]
  dsimp only
  rw [mem_foldl_insert_iff]
  refine or_congr_right ?_
  constructor
  · intro hgiven
    obtain ⟨category, hcategory, rfl⟩ := hgiven
    obtain ⟨hmem, hselects⟩ := List.mem_filter.1 hcategory
    exact ⟨selects_iff.1 hselects, category, hmem, rfl⟩
  · intro hgiven
    obtain ⟨hcovers, category, hmem, rfl⟩ := hgiven
    exact ⟨category, List.mem_filter.2 ⟨hmem, selects_iff.2 hcovers⟩, rfl⟩

/-- After some requests, the categories that one of them covers have been added. -/
theorem mem_chosen_foldl {selection : Selection} :
    name ∈ (requests.foldl (Selection.add all) selection).chosen ↔ name ∈ selection.chosen ∨
      (∃ request ∈ requests, Covers request name) ∧ ∃ category ∈ all, category.name = name := by
  induction requests generalizing selection with
  | nil => simp
  | cons request requests ih =>
      rw [List.foldl_cons, ih, mem_chosen_add, List.exists_mem_cons_iff, or_and_right, or_assoc]

/-- Only requests are reported to have added nothing. -/
theorem exists_request_of_mem_vain {selection : Selection}
    (h : line ∈ (requests.foldl (Selection.add all) selection).vain) :
    line ∈ selection.vain ∨ ∃ request ∈ requests, line = trimSlashes request := by
  induction requests generalizing selection with
  | nil => exact Or.inl h
  | cons request requests ih =>
      rw [List.foldl_cons] at h
      rcases ih h with hadded | ⟨other, hother, hline⟩
      · rw [Selection.add] at hadded
        dsimp only at hadded
        split at hadded
        · rcases List.mem_append.1 hadded with hold | hnew
          · exact Or.inl hold
          · exact Or.inr ⟨request, List.mem_cons_self, List.mem_singleton.1 hnew⟩
        · exact Or.inl hadded
      · exact Or.inr ⟨other, List.mem_cons_of_mem _ hother, hline⟩

/-- The wanted categories are selected, in the order of all categories. -/
theorem fst_select (all : List Category) (requests : List String) :
    (select all requests).1 = all.filter fun category => Wanted requests category.name := by
  unfold select
  cases requests with
  | nil =>
      rw [List.isEmpty_nil, if_pos rfl]
      refine (List.filter_eq_self.2 fun category _ => ?_).symm
      exact decide_eq_true (Or.inl rfl)
  | cons request requests =>
      rw [List.isEmpty_cons, if_neg Bool.false_ne_true]
      refine List.filter_congr fun category hcategory => ?_
      rw [Bool.eq_iff_iff, decide_eq_true_eq, Std.TreeSet.contains_iff_mem, mem_chosen_foldl]
      constructor
      · intro hgiven
        rcases hgiven with hnone | ⟨hcovered, -⟩
        · exact absurd hnone Std.TreeSet.not_mem_emptyc
        · exact Or.inr hcovered
      · intro hwanted
        rcases hwanted with hnone | hcovered
        · cases hnone
        · exact Or.inr ⟨hcovered, category, hcategory, rfl⟩

/-- The requests that are reported have been made. -/
theorem exists_request_of_mem_snd_select (h : line ∈ (select all requests).2) :
    ∃ request ∈ requests, line = trimSlashes request := by
  unfold select at h
  split at h
  · cases h
  · rcases exists_request_of_mem_vain h with hnone | hmade
    · cases hnone
    · exact hmade

end RegexTemplate.Suite
