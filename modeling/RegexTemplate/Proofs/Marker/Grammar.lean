import Mathlib
import RegexTemplate.Marker
import RegexTemplate.Unicode.Property.Basic

/-!
# The form of a marker

What a marker looks like is said here part by part, without a reader (`IsMarker`).  Reading the front
of a text gives a name and a rest exactly if the text is a marker for that name followed by that rest
(`takeMarker?_eq_some_iff`); since reading has one result only, no text begins with two markers
(`IsMarker.unique`).

The key local fact is `IsMarker.exists_tail`: a marker holds one backslash, and that is its first
character.  A marker that began in front of a backslash and ended behind it would hold a second one
(`IsMarker.isPrefix_of_isPrefix_append`).
-/

namespace RegexTemplate.Marker

open Text (isBlank skipBlanks)

/-- A row of characters with the property `White_Space`, which may be empty. -/
def Blank (cs : List Char) : Prop := ∀ c ∈ cs, Unicode.Property.whiteSpace.has c.toNat

/-- An ASCII letter followed by ASCII letters, digits and underscores. -/
def IsName : List Char → Prop
  | [] => False
  | c :: rest => c.isAlpha ∧ ∀ d ∈ rest, d.isAlphanum ∨ d = '_'

instance : DecidablePred IsName
  | [] => inferInstanceAs (Decidable False)
  | c :: rest => inferInstanceAs (Decidable (c.isAlpha ∧ ∀ d ∈ rest, d.isAlphanum ∨ d = '_'))

/-- The texts that are a marker for a name: a backslash, the letters of the keyword in either case, an
opening brace, the name and a closing brace, with blanks in front of each of the last three as they may
come. -/
inductive IsMarker : (name marker : List Char) → Prop
  | mk {v a r : Char} {before between behind name : List Char}
      (hv : v = 'V' ∨ v = 'v') (ha : a = 'A' ∨ a = 'a') (hr : r = 'R' ∨ r = 'r')
      (hbefore : Blank before) (hbetween : Blank between) (hname : IsName name)
      (hbehind : Blank behind) :
      IsMarker name ('\\' :: v :: a :: r ::
        (before ++ '\x7b' :: (between ++ (name ++ (behind ++ ['\x7d'])))))

/-- A text that begins with a marker. -/
def AtMarker (cs : List Char) : Prop := ∃ name marker, IsMarker name marker ∧ marker <+: cs

/-- A text in which no marker stands. -/
def MarkerFree (cs : List Char) : Prop := ∀ name marker, IsMarker name marker → ¬ marker <:+: cs

variable {cs rest name other marker found front : List Char} {c d : Char}

/-- A character and a capital letter have the same lower-case form only if the character is the letter
in either case. -/
theorem toLower_eq_toLower_iff (hd : d.isUpper) : c.toLower = d.toLower ↔ c = d ∨ c = d.toLower := by
  constructor
  · intro h
    by_cases hc : c.isUpper
    · have hfixed : ∀ e : Char, e.isUpper → e.toUpper = e := fun e he =>
        Char.toUpper_eq_of_not_isLower (Char.not_isLower_of_isUpper he)
      have hupper := congrArg Char.toUpper h
      rw [Char.toUpper_toLower_eq_toUpper, Char.toUpper_toLower_eq_toUpper, hfixed c hc,
        hfixed d hd] at hupper
      exact Or.inl hupper
    · rw [Char.toLower_eq_of_not_isUpper hc] at h
      exact Or.inr h
  · rintro (rfl | rfl)
    · rfl
    · exact Char.toLower_toLower_eq_toLower d

theorem takeChar?_eq_some_iff : takeChar? c cs = some rest ↔ cs = c :: rest := by
  cases cs with
  | nil => simp [takeChar?]
  | cons d cs => by_cases hd : d = c <;> simp [takeChar?, hd]

/-- Reading the keyword takes a backslash and its three letters, in either case. -/
theorem takeKeyword?_eq_some_iff :
    takeKeyword? cs = some rest ↔ ∃ v a r, (v = 'V' ∨ v = 'v') ∧ (a = 'A' ∨ a = 'a') ∧
      (r = 'R' ∨ r = 'r') ∧ cs = '\\' :: v :: a :: r :: rest := by
  have hv : ∀ c : Char, c.toLower = 'v' ↔ c = 'V' ∨ c = 'v' := fun c =>
    toLower_eq_toLower_iff (d := 'V') (by decide)
  have ha : ∀ c : Char, c.toLower = 'a' ↔ c = 'A' ∨ c = 'a' := fun c =>
    toLower_eq_toLower_iff (d := 'A') (by decide)
  have hr : ∀ c : Char, c.toLower = 'r' ↔ c = 'R' ∨ c = 'r' := fun c =>
    toLower_eq_toLower_iff (d := 'R') (by decide)
  constructor
  · intro h
    unfold takeKeyword? at h
    split at h
    · next v a r cs =>
        rw [Option.ite_none_right_eq_some, Option.some.injEq] at h
        obtain ⟨⟨hv', ha', hr'⟩, rfl⟩ := h
        exact ⟨v, a, r, (hv v).1 hv', (ha a).1 ha', (hr r).1 hr', rfl⟩
    · cases h
  · intro hgiven
    obtain ⟨v, a, r, hv', ha', hr', rfl⟩ := hgiven
    have hall := And.intro ((hv v).2 hv') (And.intro ((ha a).2 ha') ((hr r).2 hr'))
    simp only [takeKeyword?]
    exact if_pos hall

/-- The table of the property, read from its text. -/
theorem whiteSpace_eq : Unicode.Property.whiteSpace =
    [(0x9, 0xd), (0x20, 0x20), (0x85, 0x85), (0xa0, 0xa0), (0x1680, 0x1680), (0x2000, 0x200a),
      (0x2028, 0x2029), (0x202f, 0x202f), (0x205f, 0x205f), (0x3000, 0x3000)] := by
  decide +kernel

/-- The characters that the reader skips are those with the property. -/
theorem has_whiteSpace_iff : Unicode.Property.whiteSpace.has c.toNat ↔ isBlank c := by
  rw [whiteSpace_eq]
  simp only [Unicode.Ranges.has, isBlank, List.any_cons, List.any_nil, Bool.or_eq_true,
    Bool.and_eq_true, decide_eq_true_eq, beq_iff_eq, Bool.false_eq_true, or_false]
  omega

/-- What is left when the blanks in front of something that begins otherwise are skipped. -/
theorem skipBlanks_append (hfront : Blank front) (hc : ¬ isBlank c) :
    skipBlanks (front ++ c :: rest) = c :: rest := by
  have hskipped : ∀ d ∈ front, isBlank d := fun d hd => has_whiteSpace_iff.1 (hfront d hd)
  rw [skipBlanks, List.dropWhile_append_of_pos hskipped, List.dropWhile_cons_of_neg hc]

/-- Only blanks are skipped. -/
theorem exists_blank_append_skipBlanks (cs : List Char) :
    ∃ front, Blank front ∧ cs = front ++ skipBlanks cs :=
  ⟨cs.takeWhile isBlank, fun _ hc => has_whiteSpace_iff.2 (List.mem_takeWhile_imp hc),
    List.takeWhile_append_dropWhile.symm⟩

theorem isNameChar_iff : isNameChar c ↔ c.isAlphanum ∨ c = '_' := by
  simp [isNameChar]

/-- A name that is read is one. -/
theorem isName_of_takeName? (h : takeName? cs = some (name, rest)) :
    IsName name ∧ cs = name ++ rest := by
  cases cs with
  | nil => cases h
  | cons c cs =>
      rw [takeName?, Option.ite_none_right_eq_some, Option.some.injEq, Prod.mk.injEq] at h
      obtain ⟨hstart, rfl, rfl⟩ := h
      refine ⟨⟨hstart, fun d hd => ?_⟩, ?_⟩
      · exact isNameChar_iff.1 (List.mem_takeWhile_imp hd)
      · rw [List.cons_append, List.takeWhile_append_dropWhile]

/-- No blank belongs to a name, because those among the ASCII characters come before the digits. -/
theorem not_isBlank_of_isNameChar (hc : isNameChar c) : ¬ isBlank c := by
  intro hblank
  rw [isNameChar_iff] at hc
  have hval : c.val.toNat = c.toNat := rfl
  simp only [isBlank, Bool.or_eq_true, Bool.and_eq_true, decide_eq_true_eq, beq_iff_eq] at hblank
  rcases hc with hc | rfl
  · simp only [Char.isAlphanum, Char.isAlpha, Char.isUpper, Char.isLower, Char.isDigit,
      Bool.or_eq_true, Bool.and_eq_true, decide_eq_true_eq, UInt32.le_iff_toNat_le, ge_iff_le] at hc
    have hbounds : 'A'.val.toNat = 65 ∧ 'Z'.val.toNat = 90 ∧ 'a'.val.toNat = 97 ∧
        'z'.val.toNat = 122 ∧ '0'.val.toNat = 48 ∧ '9'.val.toNat = 57 := by decide
    omega
  · have hunderscore : '_'.toNat = 95 := rfl
    omega

/-- A name is read to its end, which is where a character follows that does not belong to it. -/
theorem takeName?_append (hname : IsName name) (hc : ¬ isNameChar c) :
    takeName? (name ++ c :: rest) = some (name, c :: rest) := by
  cases name with
  | nil => exact hname.elim
  | cons start more =>
      have hstart : isNameStart start := hname.1
      have hmore : ∀ d ∈ more, isNameChar d := fun d hd => isNameChar_iff.2 (hname.2 d hd)
      rw [List.cons_append, takeName?, if_pos hstart, List.takeWhile_append_of_pos hmore,
        List.dropWhile_append_of_pos hmore, List.takeWhile_cons_of_neg hc,
        List.dropWhile_cons_of_neg hc, List.append_nil]

/-- A name begins with a character that is no blank. -/
theorem IsName.exists_cons (hname : IsName name) :
    ∃ c more, name = c :: more ∧ ¬ isBlank c := by
  cases name with
  | nil => exact hname.elim
  | cons c more =>
      refine ⟨c, more, rfl, not_isBlank_of_isNameChar (isNameChar_iff.2 (Or.inl ?_))⟩
      rw [Char.isAlphanum, hname.1, Bool.true_or]

/-- **Reading the front of a text is reading a marker.**  A name is read and a rest left exactly if the
text is a marker for the name followed by the rest. -/
theorem takeMarker?_eq_some_iff :
    takeMarker? cs = some (name, rest) ↔ ∃ marker, IsMarker name marker ∧ cs = marker ++ rest := by
  have hopen : ¬ isBlank '\x7b' := by decide
  have hclose : ¬ isBlank '\x7d' := by decide
  constructor
  · intro h
    simp only [takeMarker?, Option.bind_eq_bind, Option.bind_eq_some_iff] at h
    obtain ⟨afterWord, hword, afterOpen, hbrace, ⟨found, afterName⟩, hfound, last, hlast, hresult⟩ := h
    simp only [Option.pure_def, Option.some.injEq, Prod.mk.injEq] at hresult
    obtain ⟨rfl, rfl⟩ := hresult
    obtain ⟨v, a, r, hv, ha, hr, rfl⟩ := takeKeyword?_eq_some_iff.1 hword
    obtain ⟨before, hbefore, heq⟩ := exists_blank_append_skipBlanks afterWord
    obtain ⟨between, hbetween, heq'⟩ := exists_blank_append_skipBlanks afterOpen
    obtain ⟨behind, hbehind, heq''⟩ := exists_blank_append_skipBlanks afterName
    obtain ⟨hname, hrest⟩ := isName_of_takeName? hfound
    rw [takeChar?_eq_some_iff.1 hbrace] at heq
    rw [hrest] at heq'
    rw [takeChar?_eq_some_iff.1 hlast] at heq''
    refine ⟨_, .mk hv ha hr hbefore hbetween hname hbehind, ?_⟩
    rw [heq, heq', heq'']
    simp
  · intro hgiven
    obtain ⟨marker, hmarker, rfl⟩ := hgiven
    obtain @⟨v, a, r, before, between, behind, name, hv, ha, hr, hbefore, hbetween, hname, hbehind⟩ :=
      hmarker
    -- what follows the name is a blank or the closing brace
    have hend : ∃ c more, behind ++ '\x7d' :: rest = c :: more ∧ ¬ isNameChar c := by
      cases behind with
      | nil => exact ⟨_, _, rfl, by decide⟩
      | cons c more =>
          refine ⟨c, _, rfl, fun hc => not_isBlank_of_isNameChar hc ?_⟩
          exact has_whiteSpace_iff.1 (hbehind c List.mem_cons_self)
    obtain ⟨c, more, hmore, hc⟩ := hend
    obtain ⟨d, letters, hletters, hd⟩ := hname.exists_cons
    have hword : takeKeyword? ('\\' :: v :: a :: r :: (before ++ '\x7b' ::
        (between ++ (name ++ (behind ++ '\x7d' :: rest))))) = some (before ++ '\x7b' ::
        (between ++ (name ++ (behind ++ '\x7d' :: rest)))) :=
      takeKeyword?_eq_some_iff.2 ⟨v, a, r, hv, ha, hr, rfl⟩
    have hstart : skipBlanks (between ++ (name ++ (behind ++ '\x7d' :: rest))) =
        name ++ (behind ++ '\x7d' :: rest) := by
      rw [hletters]
      exact skipBlanks_append hbetween hd
    have hread : takeName? (name ++ (behind ++ '\x7d' :: rest)) =
        some (name, behind ++ '\x7d' :: rest) := by
      rw [hmore]
      exact takeName?_append hname hc
    simp only [takeMarker?, List.cons_append, List.append_assoc, List.nil_append,
      Option.bind_eq_bind, Option.bind_eq_some_iff]
    refine ⟨_, hword, _, takeChar?_eq_some_iff.2 (skipBlanks_append hbefore hopen), (name, _), ?_,
      rest, takeChar?_eq_some_iff.2 (skipBlanks_append hbehind hclose), rfl⟩
    rw [hstart, hread]

/-- A text begins with at most one marker. -/
theorem IsMarker.unique (hmarker : IsMarker name marker) (hfound : IsMarker other found)
    (h : marker <+: cs) (h' : found <+: cs) : name = other ∧ marker = found := by
  obtain ⟨rest, rfl⟩ := h
  obtain ⟨rest', heq⟩ := h'
  have hread : takeMarker? (marker ++ rest) = some (name, rest) :=
    takeMarker?_eq_some_iff.2 ⟨marker, hmarker, rfl⟩
  have hread' : takeMarker? (marker ++ rest) = some (other, rest') :=
    takeMarker?_eq_some_iff.2 ⟨found, hfound, heq.symm⟩
  rw [hread, Option.some.injEq, Prod.mk.injEq] at hread'
  obtain ⟨hname, rfl⟩ := hread'
  exact ⟨hname, (List.append_cancel_right heq).symm⟩

/-- A text begins with a marker exactly if one can be read off its front. -/
theorem atMarker_iff : AtMarker cs ↔ (takeMarker? cs).isSome := by
  rw [Option.isSome_iff_exists]
  constructor
  · intro hgiven
    obtain ⟨name, marker, hmarker, rest, rfl⟩ := hgiven
    exact ⟨_, takeMarker?_eq_some_iff.2 ⟨marker, hmarker, rfl⟩⟩
  · intro hgiven
    obtain ⟨⟨name, rest⟩, hread⟩ := hgiven
    obtain ⟨marker, hmarker, rfl⟩ := takeMarker?_eq_some_iff.1 hread
    exact ⟨name, marker, hmarker, rest, rfl⟩

instance : DecidablePred AtMarker := fun _ => decidable_of_iff _ atMarker_iff.symm

/-- The only backslash of a marker is its first character. -/
theorem IsMarker.exists_tail (hmarker : IsMarker name marker) :
    ∃ tail, marker = '\\' :: tail ∧ '\\' ∉ tail := by
  have hblank : ∀ cs, Blank cs → '\\' ∉ cs := fun cs hcs h =>
    absurd (has_whiteSpace_iff.1 (hcs _ h)) (by decide)
  have hletters : ∀ name, IsName name → '\\' ∉ name := by
    intro name hname h
    cases name with
    | nil => exact hname.elim
    | cons c more =>
        rcases List.mem_cons.1 h with rfl | h
        · exact absurd hname.1 (by decide)
        · exact absurd (hname.2 _ h) (by decide)
  obtain @⟨v, a, r, before, between, behind, name, hv, ha, hr, hbefore, hbetween, hname, hbehind⟩ :=
    hmarker
  refine ⟨_, rfl, ?_⟩
  have hword : '\\' ≠ v ∧ '\\' ≠ a ∧ '\\' ≠ r := by
    refine ⟨?_, ?_, ?_⟩
    · rcases hv with rfl | rfl <;> decide
    · rcases ha with rfl | rfl <;> decide
    · rcases hr with rfl | rfl <;> decide
  simp [hword, hblank before hbefore, hblank between hbetween, hletters name hname,
    hblank behind hbehind]

/-- A marker that begins in front of a backslash ends in front of it. -/
theorem IsMarker.isPrefix_of_isPrefix_append (hmarker : IsMarker name marker) (hfront : front ≠ [])
    (h : marker <+: front ++ '\\' :: rest) : marker <+: front := by
  obtain ⟨tail, rfl, htail⟩ := hmarker.exists_tail
  obtain ⟨after, heq⟩ := h
  rcases List.append_eq_append_iff.1 heq with ⟨more, rfl, -⟩ | ⟨more, hmore, hrest⟩
  · exact List.prefix_append _ _
  · cases more with
    | nil =>
        rw [List.append_nil] at hmore
        rw [hmore]
    | cons c more =>
        -- the backslash would be inside the marker
        obtain ⟨d, front, rfl⟩ := List.exists_cons_of_ne_nil hfront
        rw [List.cons_append, List.cons.injEq] at hmore hrest
        refine absurd ?_ htail
        rw [hmore.2, hrest.1]
        simp

end RegexTemplate.Marker
