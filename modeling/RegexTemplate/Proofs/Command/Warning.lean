import RegexTemplate.Proofs.Command.Testing
import RegexTemplate.Proofs.Suite.Filtering

/-!
# Which requests are reported as not found

Whether a request has found something is told by the size of the selection, which stays as it is if and
only if all that the request covers is in it already (`size_foldl_insert_eq_iff`).  What is in it are the
categories that earlier requests have asked for.  So a request is reported if nothing lies within it, but
also if earlier requests have asked for all that does (`snd_select_append_singleton`): of requests that
overlap, the last one may be said to be missing although its category is there.  Where no category lies
within two requests, the warnings are truthful (`snd_select_of_apart`).

Main statement: `warned_iff_spent`.
-/

namespace RegexTemplate.Suite

variable {all categories : List Category} {requests before after : List String}
  {request bare name : String} {chosen : Std.TreeSet String} {selection : Selection}

/-- All that lies within a text has been asked for by earlier requests. -/
def Spent (all : List Category) (earlier : List String) (bare : String) : Prop :=
  ∀ category ∈ all, Within bare category.name → Asked earlier category.name

instance : Decidable (Spent all requests bare) :=
  inferInstanceAs (Decidable (∀ category ∈ all, Within bare category.name →
    Asked requests category.name))

/-- There is nothing within a text. -/
def Unknown (all : List Category) (bare : String) : Prop :=
  ∀ category ∈ all, ¬ Within bare category.name

instance : DecidablePred (Unknown all) := fun bare =>
  inferInstanceAs (Decidable (∀ category ∈ all, ¬ Within bare category.name))

/-- No category lies within two requests. -/
def Apart (all : List Category) (request other : String) : Prop :=
  ∀ category ∈ all, Covers request category.name → ¬ Covers other category.name

instance : DecidableRel (Apart all) := fun request other =>
  inferInstanceAs (Decidable (∀ category ∈ all, Covers request category.name →
    ¬ Covers other category.name))

theorem size_le_size_foldl_insert (categories : List Category) (chosen : Std.TreeSet String) :
    chosen.size ≤
      (categories.foldl (fun chosen category => chosen.insert category.name) chosen).size := by
  induction categories generalizing chosen with
  | nil => exact Nat.le_refl _
  | cons category categories ih =>
      exact Std.TreeSet.size_le_size_insert.trans (ih (chosen.insert category.name))

/-- A selection keeps its size if and only if nothing new is added to it. -/
theorem size_foldl_insert_eq_iff :
    (categories.foldl (fun chosen category => chosen.insert category.name) chosen).size =
      chosen.size ↔ ∀ category ∈ categories, category.name ∈ chosen := by
  induction categories generalizing chosen with
  | nil => simp
  | cons category categories ih =>
      rw [List.foldl_cons, List.forall_mem_cons]
      by_cases hmem : category.name ∈ chosen
      · have hsize : (chosen.insert category.name).size = chosen.size := by
          rw [Std.TreeSet.size_insert, if_pos (Std.TreeSet.contains_iff_mem.2 hmem)]
        have hsame : ∀ name, name ∈ chosen.insert category.name ↔ name ∈ chosen := by
          intro name
          rw [Std.TreeSet.mem_insert, Std.LawfulEqOrd.compare_eq_iff_eq]
          exact or_iff_right_of_imp fun heq => heq ▸ hmem
        rw [← hsize, ih, and_iff_right hmem]
        exact forall₂_congr fun other _ => hsame other.name
      · have hsize : (chosen.insert category.name).size = chosen.size + 1 := by
          rw [Std.TreeSet.size_insert, if_neg (Std.TreeSet.contains_iff_mem.not.2 hmem)]
        have hle := size_le_size_foldl_insert categories (chosen.insert category.name)
        constructor
        · intro heq
          omega
        · intro hall
          exact absurd hall.1 hmem

/-- A request is reported if all that it covers has been selected before. -/
theorem vain_add : (selection.add all request).vain = selection.vain ++
    if ∀ category ∈ all, Covers request category.name → category.name ∈ selection.chosen then
      [trimSlashes request] else [] := by
  have hsize : ((all.filter fun category => selects (trimSlashes request) category.name).foldl
      (fun chosen category => chosen.insert category.name) selection.chosen).size =
        selection.chosen.size ↔
          ∀ category ∈ all, Covers request category.name → category.name ∈ selection.chosen := by
    rw [size_foldl_insert_eq_iff]
    simp only [List.mem_filter, selects_iff, and_imp]
  rw [Selection.add]
  dsimp only
  split
  · next hsame => rw [if_pos (hsize.1 hsame)]
  · next hmore => rw [if_neg (hsize.not.1 hmore), List.append_nil]

theorem snd_select_eq_vain (all : List Category) (requests : List String) :
    (select all requests).2 = (requests.foldl (Selection.add all) {}).vain := by
  cases requests <;> rfl

/-- What earlier requests have selected is what they have asked for. -/
theorem mem_chosen_iff_asked {category : Category} (hcategory : category ∈ all) :
    category.name ∈ (requests.foldl (Selection.add all) {}).chosen ↔
      Asked requests category.name := by
  rw [mem_chosen_foldl, asked_iff]
  constructor
  · intro hgiven
    rcases hgiven with hnone | ⟨hcovered, -⟩
    · exact absurd hnone Std.TreeSet.not_mem_emptyc
    · exact hcovered
  · intro hcovered
    exact Or.inr ⟨hcovered, category, hcategory, rfl⟩

/-- One more request is reported if and only if earlier requests have asked for all that lies
within it. -/
theorem snd_select_append_singleton (all : List Category) (before : List String)
    (hstripped : Stripped request bare) :
    (select all (before ++ [request])).2 =
      (select all before).2 ++ if Spent all before bare then [bare] else [] := by
  have hspent : (∀ category ∈ all, Covers request category.name →
      category.name ∈ (before.foldl (Selection.add all) {}).chosen) ↔ Spent all before bare := by
    refine forall₂_congr fun category hcategory => ?_
    rw [covers_iff_within hstripped, mem_chosen_iff_asked hcategory]
  rw [snd_select_eq_vain, snd_select_eq_vain, List.foldl_append, List.foldl_cons, List.foldl_nil,
    vain_add, trimSlashes_eq_iff.2 hstripped]
  simp only [hspent]

/-- A warning stays whatever requests follow. -/
theorem snd_select_isPrefix (all : List Category) (before after : List String) :
    (select all before).2 <+: (select all (before ++ after)).2 := by
  induction after using List.reverseRecOn with
  | nil => rw [List.append_nil]
  | append_singleton after request ih =>
      rw [← List.append_assoc,
        snd_select_append_singleton all (before ++ after) (stripped_trimSlashes request)]
      exact ih.trans (List.prefix_append _ _)

/-- A request within which there is nothing is reported, wherever it stands. -/
theorem mem_snd_select_of_unknown (hstripped : Stripped request bare) (hunknown : Unknown all bare) :
    bare ∈ (select all (before ++ request :: after)).2 := by
  have hspent : Spent all before bare := by
    intro category hcategory hwithin
    exact absurd hwithin (hunknown category hcategory)
  have hkept := snd_select_isPrefix all (before ++ [request]) after
  rw [snd_select_append_singleton all before hstripped, if_pos hspent, List.append_assoc] at hkept
  exact hkept.subset (List.mem_append_right _ (List.mem_singleton_self bare))

/-- If no category lies within two requests, those are reported within which there is nothing. -/
theorem snd_select_of_apart (hapart : requests.Pairwise (Apart all)) :
    (select all requests).2 = (requests.map trimSlashes).filter (Unknown all ·) := by
  induction requests using List.reverseRecOn with
  | nil => rfl
  | append_singleton before request ih =>
      have hstripped := stripped_trimSlashes request
      obtain ⟨hbefore, -, hlast⟩ := List.pairwise_append.1 hapart
      have hspent : Spent all before (trimSlashes request) ↔ Unknown all (trimSlashes request) := by
        refine forall₂_congr fun category hcategory => imp_congr_right fun hwithin => ?_
        rw [asked_iff, iff_false]
        intro hasked
        obtain ⟨other, hother, hcovers⟩ := hasked
        exact hlast other hother request (List.mem_singleton_self request) category hcategory hcovers
          ((covers_iff_within hstripped).2 hwithin)
      rw [snd_select_append_singleton all before hstripped, ih hbefore, List.map_append,
        List.filter_append, List.map_singleton, List.filter_singleton, Bool.cond_decide]
      simp only [hspent]

end RegexTemplate.Suite

namespace RegexTemplate.Command

open Suite

/-- The warnings are what a run says first. -/
theorem warnings_isPrefix_messages (colour : Bool) (options : TestOptions) (all : List Category) :
    (select all options.categories).2.map (warning all) <+:
      (runCategories colour options all).messages := by
  rw [runCategories]
  dsimp only
  split
  · exact List.prefix_append _ _
  · exact List.prefix_append _ _

/-- **A request is reported as not found if and only if all that lies within it has been asked for
before.**

* Each request adds its warning to those of the requests before it if they have asked for all categories
  that lie within it, and otherwise none.
* So a request within which there is nothing is reported, wherever it stands.
* If no category lies within two of the requests, no others are reported.
* A warning stays whatever requests follow, and the warnings are what a run says first. -/
theorem warned_iff_spent (all : List Category) :
    (∀ before request bare, Stripped request bare →
      (select all (before ++ [request])).2 =
        (select all before).2 ++ if Spent all before bare then [bare] else []) ∧
    (select all []).2 = [] ∧
    (∀ before request after bare, Stripped request bare → Unknown all bare →
      bare ∈ (select all (before ++ request :: after)).2) ∧
    (∀ requests : List String, requests.Pairwise (Apart all) →
      (select all requests).2 = (requests.map trimSlashes).filter (Unknown all ·)) ∧
    (∀ before after, (select all before).2 <+: (select all (before ++ after)).2) ∧
    ∀ colour options, (select all options.categories).2.map (warning all) <+:
      (runCategories colour options all).messages := by
  refine ⟨fun before request bare hstripped => snd_select_append_singleton all before hstripped, rfl,
    ?_, fun requests => snd_select_of_apart, snd_select_isPrefix all, ?_⟩
  · intro before request after bare hstripped hunknown
    exact mem_snd_select_of_unknown hstripped hunknown
  · intro colour options
    exact warnings_isPrefix_messages colour options all

/-- A category below one that has been asked for is reported, and not behind a request for its neighbour;
what is not there is reported behind slashes and between others. -/
theorem warned_iff_spent_shelves :
    Spent shelves ["a"] "a/b" ∧ ¬ Spent shelves ["ab"] "a/b" ∧ Unknown shelves "c" ∧
      (select shelves ["a", "a/b"]).2 = ["a/b"] ∧ (select shelves ["ab", "a/b"]).2 = [] ∧
      "c" ∈ (select shelves ["ab", "/c/", "a/b"]).2 ∧
      (select shelves ["ab", "c", "a"]).2 = ["c"] := by
  obtain ⟨hnext, hnone, hunknown, hapart, -⟩ := warned_iff_spent shelves
  have hspent : Spent shelves ["a"] "a/b" := by decide +kernel
  have hfresh : ¬ Spent shelves ["ab"] "a/b" := by decide +kernel
  have hmissing : Unknown shelves "c" := by decide +kernel
  have hbelow : Stripped "a/b" "a/b" := ⟨⟨0, 0, by decide⟩, by decide, by decide⟩
  have hslashes : Stripped "/c/" "c" := ⟨⟨1, 1, by decide⟩, by decide, by decide⟩
  have hfirst : ∀ request, Stripped request request → ¬ Spent shelves [] request →
      (select shelves [request]).2 = [] := by
    intro request hstripped hfound
    have h := hnext [] request request hstripped
    rwa [hnone, if_neg hfound] at h
  have ha := hfirst "a" ⟨⟨0, 0, by decide⟩, by decide, by decide⟩ (by decide +kernel)
  have hab := hfirst "ab" ⟨⟨0, 0, by decide⟩, by decide, by decide⟩ (by decide +kernel)
  have hbehind := hnext ["a"] "a/b" "a/b" hbelow
  have hbeside := hnext ["ab"] "a/b" "a/b" hbelow
  rw [ha, if_pos hspent] at hbehind
  rw [hab, if_neg hfresh] at hbeside
  refine ⟨hspent, hfresh, hmissing, hbehind, hbeside, hunknown ["ab"] "/c/" ["a/b"] "c" hslashes hmissing,
    (hapart ["ab", "c", "a"] (by decide +kernel)).trans (by decide +kernel)⟩

/-- A category that has been found, and whose tests are run, is said not to be found, because it lies below
the one that was asked for before. -/
theorem found_category_reported :
    "a/b" ∈ (discover (.directory drawers)).map (·.name) ∧ Stripped "a/b" "a/b" ∧
      ¬ Unknown (discover (.directory drawers)) "a/b" ∧
      (runTests false { path := "t", categories := ["a", "a/b"] }
        (.ok (.directory drawers))).messages.head? =
          some "warning: category 'a/b' not found (available: a, a/b, ab)" := by
  refine ⟨by decide +kernel, ⟨⟨0, 0, by decide⟩, by decide, by decide⟩, by decide +kernel, ?_⟩
  decide +kernel

end RegexTemplate.Command
