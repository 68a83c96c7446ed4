import RegexTemplate.Proofs.Suite.Selecting
import RegexTemplate.Proofs.Text.Trimming

/-!
# A selection is a filter

What a request means is said without the function that trims it: `Stripped request bare` holds of the one
text that is left when slashes are taken off both ends until there are none (`trimSlashes_eq_iff`).  A
category is asked for if its name is such a text, or goes on with a slash behind it (`Asked`), and this
is all that a selection depends on.  So neither the order of the requests nor their repetition matters,
and more requests select more.

Main statement: `select_eq_filter_asked`.
-/

namespace RegexTemplate.Suite

variable {all : List Category} {requests more : List String} {request bare name suffix : String}

/-- A text that has no slashes at its ends is what is left of another, which has some around it. -/
structure Stripped (request bare : String) : Prop where
  around : ∃ before after : Nat, request.toList =
    List.replicate before '/' ++ (bare.toList ++ List.replicate after '/')
  head : bare.toList.head? ≠ some '/'
  last : bare.toList.getLast? ≠ some '/'

/-- A name is that of a category or of one below it. -/
def Within (bare name : String) : Prop := name = bare ∨ ∃ rest, name = bare ++ "/" ++ rest

/-- One of the requests names a category, or one above it. -/
def Asked (requests : List String) (name : String) : Prop :=
  ∃ request ∈ requests, ∃ bare, Stripped request bare ∧ Within bare name

theorem toList_trimSlashes (request : String) : (trimSlashes request).toList =
    ((request.toList.dropWhile (· == '/')).reverse.dropWhile (· == '/')).reverse :=
  String.toList_ofList

/-- Taking slashes off both ends has one result. -/
theorem trimSlashes_eq_iff : trimSlashes request = bare ↔ Stripped request bare := by
  rw [← String.toList_inj, toList_trimSlashes, Text.reverse_dropWhile_eq_iff]
  constructor
  · intro htrim
    obtain ⟨after, hfront, hlast⟩ := htrim
    obtain ⟨before, haround, hhead⟩ := Text.dropWhile_eq_iff.1 hfront
    refine ⟨⟨before, after, haround⟩, ?_, hlast⟩
    intro hslash
    rw [List.head?_append, hslash] at hhead
    exact hhead rfl
  · intro hstripped
    obtain ⟨⟨before, after, haround⟩, hhead, hlast⟩ := hstripped
    cases hbare : bare.toList with
    | nil =>
        -- there are only slashes, and those behind are dropped with those in front
        refine ⟨0, Text.dropWhile_eq_iff.2 ⟨before + after, ?_, by simp⟩, by simp⟩
        rw [haround, hbare, List.nil_append, List.replicate_append_replicate]
        simp
    | cons c cs =>
        rw [hbare] at haround hhead hlast
        exact ⟨after, Text.dropWhile_eq_iff.2 ⟨before, haround, hhead⟩, hlast⟩

theorem stripped_trimSlashes (request : String) : Stripped request (trimSlashes request) :=
  trimSlashes_eq_iff.1 rfl

theorem within_iff_isPrefix :
    Within bare name ↔ name = bare ∨ (bare ++ "/").toList <+: name.toList := by
  refine or_congr_right ?_
  constructor
  · intro hgiven
    obtain ⟨rest, rfl⟩ := hgiven
    exact ⟨rest.toList, String.toList_append.symm⟩
  · intro hprefix
    obtain ⟨rest, hrest⟩ := hprefix
    refine ⟨String.ofList rest, ?_⟩
    rw [← String.toList_inj, String.toList_append, String.toList_ofList, hrest]

instance : Decidable (Within bare name) := decidable_of_iff _ within_iff_isPrefix.symm

/-- A request covers what lies within the text that is left of it. -/
theorem covers_iff_within (hstripped : Stripped request bare) :
    Covers request name ↔ Within bare name := by
  rw [within_iff_isPrefix, ← trimSlashes_eq_iff.2 hstripped]
  exact Iff.rfl

/-- A request covers what lies within the text that it is stripped to. -/
theorem covers_iff : Covers request name ↔ ∃ bare, Stripped request bare ∧ Within bare name := by
  constructor
  · intro h
    exact ⟨trimSlashes request, stripped_trimSlashes request,
      (covers_iff_within (stripped_trimSlashes request)).1 h⟩
  · intro hgiven
    obtain ⟨bare, hstripped, h⟩ := hgiven
    exact (covers_iff_within hstripped).2 h

theorem asked_iff : Asked requests name ↔ ∃ request ∈ requests, Covers request name :=
  exists_congr fun _ => and_congr_right fun _ => covers_iff.symm

instance : Decidable (Asked requests name) := decidable_of_iff _ asked_iff.symm

theorem wanted_iff_asked (hrequests : requests ≠ []) :
    Wanted requests name ↔ Asked requests name := by
  rw [Wanted, asked_iff]
  exact or_iff_right hrequests

theorem asked_singleton_iff (hstripped : Stripped request bare) :
    Asked [request] name ↔ Within bare name := by
  constructor
  · intro hasked
    obtain ⟨request', hmem, bare', hstripped', hwithin⟩ := hasked
    rw [List.mem_singleton.1 hmem, ← trimSlashes_eq_iff] at hstripped'
    rwa [← trimSlashes_eq_iff.2 hstripped, hstripped']
  · intro hwithin
    exact ⟨request, List.mem_singleton_self request, bare, hstripped, hwithin⟩

/-- A name that begins with a text lies within it if it ends there or goes on with a slash. -/
theorem within_append_iff : Within bare (bare ++ suffix) ↔
    suffix = "" ∨ suffix.toList.head? = some '/' := by
  have hsame : bare ++ suffix = bare ↔ suffix = "" := String.append_eq_left_iff
  have hbelow : (∃ rest, bare ++ suffix = bare ++ "/" ++ rest) ↔
      suffix.toList.head? = some '/' := by
    constructor
    · intro hgiven
      obtain ⟨rest, hrest⟩ := hgiven
      have hsuffix : suffix.toList = '/' :: rest.toList := by
        simpa [← String.toList_inj] using hrest
      rw [hsuffix, List.head?_cons]
    · intro hslash
      obtain ⟨rest, hrest⟩ := List.head?_eq_some_iff.1 hslash
      refine ⟨String.ofList rest, ?_⟩
      simp [← String.toList_inj, hrest]
  exact or_congr hsame hbelow

/-- With the same requests in another order, or some of them repeated, the same is wanted. -/
theorem wanted_congr (h : ∀ request, request ∈ requests ↔ request ∈ more) :
    Wanted requests name ↔ Wanted more name := by
  have hnil : requests = [] ↔ more = [] := by
    simp only [List.eq_nil_iff_forall_not_mem, h]
  exact or_congr hnil (exists_congr fun request => and_congr_left' (h request))

theorem Asked.mono (h : requests ⊆ more) (hasked : Asked requests name) : Asked more name := by
  obtain ⟨request, hmem, hbare⟩ := hasked
  exact ⟨request, h hmem, hbare⟩

/-- The selection of some requests is a filter. -/
theorem fst_select_eq_filter (all : List Category) (hrequests : requests ≠ []) :
    (select all requests).1 = all.filter fun category => Asked requests category.name := by
  rw [fst_select]
  refine List.filter_congr fun category _ => ?_
  exact decide_eq_decide.2 (wanted_iff_asked hrequests)

/-- **The categories that are selected are those that are asked for.**

* Some requests select exactly the categories that lie within one of them, stripped of its slashes, each
  as often as it is there, with its files and in its place.  If the names of all categories are
  ascending, those that are selected are too, so that each is selected once.
* Requests in another order, or repeated, select the same.
* More requests select more.
* Of the categories whose names begin with the text of a request, it selects those that end there or go
  on with a slash.
* Without requests everything is selected. -/
theorem select_eq_filter_asked (all : List Category) :
    (∀ requests, requests ≠ [] →
      (select all requests).1 = all.filter (fun category => Asked requests category.name) ∧
        ((all.Pairwise fun a b => a.name < b.name) →
          (select all requests).1.Pairwise fun a b => a.name < b.name)) ∧
    (∀ requests more, (∀ request, request ∈ requests ↔ request ∈ more) →
      (select all requests).1 = (select all more).1) ∧
    (∀ requests more, requests ≠ [] → requests ⊆ more →
      (select all requests).1.Sublist (select all more).1) ∧
    (∀ request bare suffix, Stripped request bare →
      ∀ category ∈ all, category.name = bare ++ suffix →
        (category ∈ (select all [request]).1 ↔ suffix = "" ∨ suffix.toList.head? = some '/')) ∧
    (select all []).1 = all := by
  refine ⟨?_, ?_, ?_, ?_, rfl⟩
  · intro requests hrequests
    have hfilter := fst_select_eq_filter all hrequests
    refine ⟨hfilter, fun hascending => ?_⟩
    rw [hfilter]
    exact hascending.filter _
  · intro requests more hsame
    rw [fst_select, fst_select]
    refine List.filter_congr fun category _ => ?_
    exact decide_eq_decide.2 (wanted_congr hsame)
  · intro requests more hrequests hsubset
    have hmore : more ≠ [] := by
      intro hnil
      rw [hnil] at hsubset
      exact hrequests (List.eq_nil_of_subset_nil hsubset)
    rw [fst_select_eq_filter all hrequests, fst_select_eq_filter all hmore]
    refine List.monotone_filter_right all fun category hasked => ?_
    exact decide_eq_true ((of_decide_eq_true hasked).mono hsubset)
  · intro request bare suffix hstripped category hcategory hname
    rw [fst_select_eq_filter all (List.cons_ne_nil request []), List.mem_filter, decide_eq_true_iff,
      asked_singleton_iff hstripped, hname, within_append_iff]
    exact and_iff_right hcategory

/-- Four categories, one of them below another, and one that only begins like it. -/
def shelves : List Category :=
  [⟨"", []⟩, ⟨"a", [⟨["a"], "x.retest", ⟨#[]⟩⟩]⟩, ⟨"a/b", []⟩, ⟨"ab", []⟩]

/-- A request with slashes at its ends selects the category and the one below it, and still does when
it is repeated or another one is made. -/
theorem select_eq_filter_asked_shelves :
    (select shelves ["//a/", "c"]).1.map (·.name) = ["a", "a/b"] ∧
      (select shelves ["//a/", "c"]).1.Pairwise (fun a b => a.name < b.name) ∧
      (select shelves ["c", "//a/", "c"]).1 = (select shelves ["//a/", "c"]).1 ∧
      (select shelves ["c"]).1.Sublist (select shelves ["//a/", "c"]).1 ∧
      ⟨"a/b", []⟩ ∈ (select shelves ["//a/"]).1 ∧ ⟨"ab", []⟩ ∉ (select shelves ["//a/"]).1 := by
  obtain ⟨hfilter, hsame, hmore, hnext, -⟩ := select_eq_filter_asked shelves
  have hascending : shelves.Pairwise fun a b => a.name < b.name := by decide
  have hrequests : ["//a/", "c"] ≠ [] := List.cons_ne_nil _ _
  obtain ⟨hselected, hkept⟩ := hfilter ["//a/", "c"] hrequests
  have hstripped : Stripped "//a/" "a" := ⟨⟨2, 1, by decide⟩, by decide, by decide⟩
  have hbelow := hnext "//a/" "a" "/b" hstripped ⟨"a/b", []⟩ (by simp [shelves]) (by decide)
  have hbeside := hnext "//a/" "a" "b" hstripped ⟨"ab", []⟩ (by simp [shelves]) (by decide)
  refine ⟨?_, hkept hascending, hsame _ _ (by simp [or_comm]), hmore _ _ (by decide) (by decide),
    hbelow.2 (by decide), fun hmem => ?_⟩
  · rw [hselected]
    decide +kernel
  · exact absurd (hbeside.1 hmem) (by decide)

end RegexTemplate.Suite
