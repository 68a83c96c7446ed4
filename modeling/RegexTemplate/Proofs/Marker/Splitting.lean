import RegexTemplate.Proofs.Marker.Grammar

/-!
# Splitting a text at its markers

A text splits into literals and names in turn exactly if it is made of these literals with markers for
these names in between, and no marker stands in a literal (`split_exact`).  The literals in the result
hold no marker because reading has failed at each of their characters (`interleaved_scan`).  For the
other direction, a text put together in this way is read back piece by piece (`Interleaved.scan_eq`): a
marker that begins in a literal cannot reach into what follows it, because that begins with a
backslash (`scan_append`).
-/

namespace RegexTemplate.Marker

variable {cs rest name first front text : List Char} {more : List (List Char × List Char)} {c : Char}

/-- The texts that are made of a first literal and, for each pair of a name and a literal, a marker for
the name followed by the literal.  No marker stands in a literal. -/
inductive Interleaved :
    (first : List Char) → (more : List (List Char × List Char)) → (text : List Char) → Prop
  | last {first : List Char} (hfree : MarkerFree first) : Interleaved first [] first
  | marker {first name marker next text : List Char} {more : List (List Char × List Char)}
      (hfree : MarkerFree first) (hmarker : IsMarker name marker)
      (hrest : Interleaved next more text) :
      Interleaved first ((name, next) :: more) (first ++ (marker ++ text))

theorem markerFree_nil : MarkerFree [] := by
  intro name marker hmarker h
  obtain ⟨tail, rfl, -⟩ := hmarker.exists_tail
  cases List.infix_nil.1 h

/-- A literal is free of markers if none begins at its first character and none stands behind it. -/
theorem markerFree_cons_iff : MarkerFree (c :: cs) ↔ ¬ AtMarker (c :: cs) ∧ MarkerFree cs := by
  constructor
  · intro h
    refine ⟨?_, fun name marker hmarker hinfix => ?_⟩
    · intro hat
      obtain ⟨name, marker, hmarker, hprefix⟩ := hat
      exact h name marker hmarker hprefix.isInfix
    · exact h name marker hmarker (List.infix_cons_iff.2 (Or.inr hinfix))
  · intro hgiven name marker hmarker hinfix
    obtain ⟨hat, hfree⟩ := hgiven
    rcases List.infix_cons_iff.1 hinfix with hprefix | hinfix
    · exact hat ⟨name, marker, hmarker, hprefix⟩
    · exact hfree name marker hmarker hinfix

/-- That is, if none begins anywhere. -/
theorem markerFree_iff : MarkerFree cs ↔ ∀ rest ∈ cs.tails, ¬ AtMarker rest := by
  induction cs with
  | nil =>
      have hat : ¬ AtMarker [] := by rw [atMarker_iff]; decide
      simp [markerFree_nil, hat]
  | cons c cs ih => rw [markerFree_cons_iff, ih, List.tails_cons, List.forall_mem_cons]

instance : DecidablePred MarkerFree := fun _ => decidable_of_iff _ markerFree_iff.symm

theorem takeMarker?_eq_none_iff : takeMarker? cs = none ↔ ¬ AtMarker cs := by
  rw [atMarker_iff, Option.not_isSome_iff_eq_none]

/-- A text that begins with a marker is split behind it. -/
theorem scan_of_takeMarker? (h : takeMarker? cs = some (name, rest)) :
    scan cs = ([], (name, (scan rest).1) :: (scan rest).2) := by
  cases cs with
  | nil => cases h
  | cons c cs =>
      rw [scan]
      split
      · next other after hread =>
          rw [h, Option.some.injEq, Prod.mk.injEq] at hread
          obtain ⟨rfl, rfl⟩ := hread
          rfl
      · next hread =>
          rw [h] at hread
          cases hread

/-- Where no marker begins, the character goes to the first literal. -/
theorem scan_cons (h : ¬ AtMarker (c :: cs)) : scan (c :: cs) = (c :: (scan cs).1, (scan cs).2) := by
  rw [scan]
  split
  · next hread =>
      rw [takeMarker?_eq_none_iff.2 h] at hread
      cases hread
  · rfl

/-- A literal in front of the end or of a backslash goes to the first literal of the split. -/
theorem scan_append (hfree : MarkerFree front) (hrest : rest = [] ∨ ∃ tail, rest = '\\' :: tail) :
    scan (front ++ rest) = (front ++ (scan rest).1, (scan rest).2) := by
  induction front with
  | nil => rfl
  | cons c front ih =>
      obtain ⟨hat, hfree⟩ := markerFree_cons_iff.1 hfree
      have hnone : ¬ AtMarker (c :: front ++ rest) := by
        intro hgiven
        obtain ⟨name, marker, hmarker, hprefix⟩ := hgiven
        apply hat
        rcases hrest with rfl | ⟨tail, rfl⟩
        · rw [List.append_nil] at hprefix
          exact ⟨name, marker, hmarker, hprefix⟩
        · exact ⟨name, marker, hmarker,
            hmarker.isPrefix_of_isPrefix_append (List.cons_ne_nil _ _) hprefix⟩
      rw [List.cons_append] at hnone ⊢
      rw [scan_cons hnone, ih hfree, List.cons_append]

/-- A text begins with its first literal. -/
theorem Interleaved.isPrefix (h : Interleaved first more text) : first <+: text := by
  cases h with
  | last => exact List.prefix_rfl
  | marker => exact List.prefix_append _ _

theorem Interleaved.markerFree (h : Interleaved first more text) : MarkerFree first := by
  cases h with
  | last hfree => exact hfree
  | marker hfree => exact hfree

/-- A character goes to the first literal if no marker begins with it. -/
theorem Interleaved.cons (h : Interleaved first more text) (hat : ¬ AtMarker (c :: text)) :
    Interleaved (c :: first) more (c :: text) := by
  have hfree : MarkerFree (c :: first) := by
    refine markerFree_cons_iff.2 ⟨?_, h.markerFree⟩
    intro hgiven
    obtain ⟨name, marker, hmarker, hprefix⟩ := hgiven
    exact hat ⟨name, marker, hmarker, hprefix.trans (List.prefix_cons_inj c |>.2 h.isPrefix)⟩
  cases h with
  | last => exact .last hfree
  | marker _ hmarker hrest => exact .marker hfree hmarker hrest

/-- A text is made of the literals and names that it is split into. -/
theorem interleaved_scan (cs : List Char) : Interleaved (scan cs).1 (scan cs).2 cs := by
  fun_induction scan cs with
  | case1 => exact .last markerFree_nil
  | case2 c rest name after hread hlt literal more hscan ih =>
      rw [hscan] at ih
      obtain ⟨marker, hmarker, heq⟩ := takeMarker?_eq_some_iff.1 hread
      rw [heq]
      exact .marker markerFree_nil hmarker ih
  | case3 c rest hread literal more hscan ih =>
      rw [hscan] at ih
      exact ih.cons (takeMarker?_eq_none_iff.1 hread)

/-- A text that is made of literals and markers splits into these literals and the names. -/
theorem Interleaved.scan_eq (h : Interleaved first more text) : scan text = (first, more) := by
  induction h with
  | last hfree =>
      have hscan := scan_append hfree (Or.inl rfl)
      rw [List.append_nil] at hscan
      rw [hscan, scan, List.append_nil]
  | @marker first name marker next text more hfree hmarker hrest ih =>
      have hread : takeMarker? (marker ++ text) = some (name, text) :=
        takeMarker?_eq_some_iff.2 ⟨marker, hmarker, rfl⟩
      obtain ⟨tail, htail, -⟩ := hmarker.exists_tail
      rw [scan_append hfree (Or.inr ⟨tail ++ text, by rw [htail, List.cons_append]⟩),
        scan_of_takeMarker? hread, ih, List.append_nil]

theorem scan_eq_iff : scan text = (first, more) ↔ Interleaved first more text := by
  refine ⟨fun h => ?_, Interleaved.scan_eq⟩
  have hscan := interleaved_scan text
  rwa [h] at hscan

/-- No marker begins inside a text without a backslash. -/
theorem countP_tails_append (hfront : '\\' ∉ front) :
    (front ++ rest).tails.countP (AtMarker ·) = rest.tails.countP (AtMarker ·) := by
  induction front with
  | nil => rfl
  | cons c front ih =>
      rw [List.mem_cons, not_or] at hfront
      have hat : ¬ AtMarker (c :: (front ++ rest)) := by
        intro hgiven
        obtain ⟨name, marker, hmarker, hprefix⟩ := hgiven
        obtain ⟨tail, rfl, -⟩ := hmarker.exists_tail
        exact hfront.1 (List.cons_prefix_cons.1 hprefix).1
      rw [List.cons_append, List.tails_cons, List.countP_cons_of_neg (by simpa using hat),
        ih hfront.2]

/-- There is one name for each place where a marker begins. -/
theorem length_scan (cs : List Char) :
    (scan cs).2.length = cs.tails.countP (AtMarker ·) := by
  fun_induction scan cs with
  | case1 =>
      have hat : ¬ AtMarker [] := takeMarker?_eq_none_iff.1 rfl
      have htails : ([] : List Char).tails = [[]] := rfl
      rw [htails, List.countP_singleton, if_neg (by simpa using hat), List.length_nil]
  | case2 c rest name after hread hlt literal more hscan ih =>
      rw [hscan] at ih
      have hat : AtMarker (c :: rest) := by
        rw [atMarker_iff, hread]
        rfl
      obtain ⟨marker, hmarker, heq⟩ := takeMarker?_eq_some_iff.1 hread
      obtain ⟨tail, rfl, htail⟩ := hmarker.exists_tail
      rw [List.cons_append, List.cons.injEq] at heq
      rw [List.tails_cons, List.countP_cons_of_pos (by simpa using hat), heq.2,
        countP_tails_append htail, ← ih, List.length_cons]
  | case3 c rest hread literal more hscan ih =>
      rw [hscan] at ih
      have hat := takeMarker?_eq_none_iff.1 hread
      rw [List.tails_cons, List.countP_cons_of_neg (by simpa using hat), ← ih]

/-- A literal, and then names and literals in turn. -/
def alternate (first : String) (more : List (String × String)) : List String :=
  first :: more.flatMap fun (name, literal) => [name, literal]

theorem alternate_injective {first other : String} {more others : List (String × String)}
    (h : alternate first more = alternate other others) : first = other ∧ more = others := by
  rw [alternate, alternate, List.cons.injEq] at h
  refine ⟨h.1, ?_⟩
  replace h := h.2
  induction more generalizing others with
  | nil => cases others <;> simp_all
  | cons pair more ih =>
      cases others with
      | nil => simp at h
      | cons pair' others =>
          simp only [List.flatMap_cons, List.cons_append, List.nil_append, List.cons.injEq] at h
          rw [ih h.2.2, Prod.ext h.1 h.2.1]

/-- Names and literals as rows of characters. -/
def chars (more : List (String × String)) : List (List Char × List Char) :=
  more.map (Prod.map String.toList String.toList)

/-- A split is an alternation of literals and names, and it determines them. -/
theorem split_eq_alternate_iff {text first : String} {more : List (String × String)} :
    split text = alternate first more ↔ scan text.toList = (first.toList, chars more) := by
  have hsplit : split text = alternate (String.ofList (scan text.toList).1)
      ((scan text.toList).2.map (Prod.map String.ofList String.ofList)) := by
    rw [split, alternate, List.flatMap_map]
    rfl
  constructor
  · intro h
    obtain ⟨rfl, rfl⟩ := alternate_injective (hsplit.symm.trans h)
    simp [chars, Function.comp_def, Prod.map]
  · intro h
    rw [hsplit, h]
    simp [chars, Function.comp_def, Prod.map]

/-- The text of literals with markers for names in between, written without blanks. -/
def weave (first : String) : List (String × String) → String
  | [] => first
  | (name, literal) :: more => first ++ ("\\VAR\x7b" ++ name ++ "\x7d" ++ weave literal more)

/-- A name between braces behind the keyword is a marker for it. -/
theorem isMarker_of_isName {name : String} (hname : IsName name.toList) :
    IsMarker name.toList ("\\VAR\x7b" ++ name ++ "\x7d").toList := by
  have hblank : Blank [] := fun c hc => absurd hc List.not_mem_nil
  have hmarker := IsMarker.mk (Or.inl rfl) (Or.inl rfl) (Or.inl rfl) hblank hblank hname hblank
  rw [String.toList_append, String.toList_append]
  exact hmarker

/-- Literals without markers, with markers for names in between, make up a text. -/
theorem interleaved_weave {first : String} {more : List (String × String)}
    (hfree : ∀ literal ∈ first :: more.map Prod.snd, MarkerFree literal.toList)
    (hnames : ∀ name ∈ more.map Prod.fst, IsName name.toList) :
    Interleaved first.toList (chars more) (weave first more).toList := by
  induction more generalizing first with
  | nil => exact .last (hfree first List.mem_cons_self)
  | cons pair more ih =>
      rw [List.map_cons, List.forall_mem_cons] at hfree hnames
      have hrest := ih hfree.2 hnames.2
      have hwoven := Interleaved.marker hfree.1 (isMarker_of_isName hnames.1) hrest
      rw [← String.toList_append, ← String.toList_append] at hwoven
      exact hwoven

/-- **Splitting finds every marker and nothing else.**

* A text splits into a literal and then names and literals in turn if and only if it is made of these
  literals with markers for these names in between, where no marker stands in a literal.
* The number of names is the number of places in the text where a marker begins, and at each of them
  there is one marker only.
* Literals without markers, written with any names between them, are split into just these. -/
theorem split_exact :
    (∀ (text first : String) (more : List (String × String)),
      split text = alternate first more ↔
        Interleaved first.toList (chars more) text.toList) ∧
    (∀ text : String,
      (split text).length = 2 * text.toList.tails.countP (AtMarker ·) + 1 ∧
      ∀ rest ∈ text.toList.tails, ∀ name marker other found, IsMarker name marker →
        IsMarker other found → marker <+: rest → found <+: rest → name = other ∧ marker = found) ∧
    (∀ (first : String) (more : List (String × String)),
      (∀ literal ∈ first :: more.map Prod.snd, MarkerFree literal.toList) →
      (∀ name ∈ more.map Prod.fst, IsName name.toList) →
      split (weave first more) = alternate first more) := by
  refine ⟨fun text first more => ?_, fun text => ?_, fun first more hfree hnames => ?_⟩
  · rw [split_eq_alternate_iff, scan_eq_iff]
  · rw [length_split, length_scan]
    exact ⟨rfl, fun rest _ name marker other found => IsMarker.unique⟩
  · rw [split_eq_alternate_iff, scan_eq_iff]
    exact interleaved_weave hfree hnames

/-- A marker whose name is missing does not hide the one that begins inside it. -/
theorem split_exact_nested :
    Interleaved "\\VAR\x7b".toList [("x".toList, "\x7d".toList)]
        "\\VAR\x7b\\Var \x7b x\x7d\x7d".toList ∧
      split (weave "\\VAR\x7b" [("x", "\x7d")]) = ["\\VAR\x7b", "x", "\x7d"] := by
  obtain ⟨hiff, -, hweave⟩ := split_exact
  refine ⟨(hiff _ _ [("x", "\x7d")]).1 ?_, hweave _ _ ?_ ?_⟩
  · cbv
  · decide
  · simp [IsName]

end RegexTemplate.Marker
