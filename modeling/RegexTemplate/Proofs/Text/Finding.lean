import RegexTemplate.Proofs.Text.Bytes
import RegexTemplate.Text.Infix

/-!
# Finding a text by its bytes

The first occurrence of a row of characters is the one with the fewest characters in front of it
(`length_le_of_splitAtFirst?`, `splitAtFirst?_of_first`); if the first character of the row does not come
again in it, nothing else has to be said than that the row does not occur in front
(`splitAtFirst?_eq_some_iff`).

A text may also be searched for among bytes.  The bytes of an ASCII text stand only where the text
stands: a byte below 128 is a whole character, and all bytes of other characters are greater
(`isPrefix_drop_encode_iff`).  So the first offset at which they are found lies between two characters, and
so does the offset behind them (`firstAt_of_splitAtFirst?`, `isValid_length_encode`).
-/

namespace RegexTemplate.Text

open String (utf8EncodeChar)

variable {c d : Char} {mark tail front back cs : List Char} {offset : Nat}

/-! ## Characters -/

/-- A row of characters is not found where its first one does not occur. -/
theorem splitAtFirst?_append_of_not_mem (h : c ∉ front) :
    splitAtFirst? (c :: mark) (front ++ cs) =
      (splitAtFirst? (c :: mark) cs).map fun parts => (front ++ parts.1, parts.2) := by
  induction front with
  | nil => simp
  | cons d front ih =>
      rw [List.mem_cons, not_or] at h
      have hhere : dropFront? (c :: mark) (d :: (front ++ cs)) = none := if_neg h.1
      rw [List.cons_append, splitAtFirst?, hhere, ih h.2, Option.map_map]
      rfl

/-- It is found where it stands. -/
theorem splitAtFirst?_append_self (mark cs : List Char) :
    splitAtFirst? mark (mark ++ cs) = some ([], cs) := by
  have hfound : dropFront? mark (mark ++ cs) = some cs := dropFront?_eq_some_iff.2 rfl
  cases hwhole : mark ++ cs with
  | nil =>
      rw [hwhole] at hfound
      rw [splitAtFirst?, hfound]
      rfl
  | cons d rest =>
      rw [hwhole] at hfound
      rw [splitAtFirst?, hfound]

/-- No occurrence has fewer characters in front of it than the first one. -/
theorem length_le_of_splitAtFirst? {before behind : List Char}
    (h : splitAtFirst? mark cs = some (front, back)) (hcs : cs = before ++ mark ++ behind) :
    front.length ≤ before.length := by
  induction before generalizing cs front back with
  | nil =>
      rw [hcs, List.nil_append, splitAtFirst?_append_self, Option.some.injEq, Prod.mk.injEq] at h
      rw [← h.1]
  | cons d before ih =>
      rw [hcs, List.cons_append, List.cons_append, splitAtFirst?] at h
      split at h
      · rw [Option.some.injEq, Prod.mk.injEq] at h
        rw [← h.1]
        exact Nat.zero_le _
      · obtain ⟨⟨front', back'⟩, hrest, heq⟩ := Option.map_eq_some_iff.1 h
        rw [Prod.mk.injEq] at heq
        rw [← heq.1]
        exact Nat.succ_le_succ (ih hrest rfl)

/-- An occurrence that begins no later than any other is the one that is found. -/
theorem splitAtFirst?_of_first (hwhole : cs = front ++ mark ++ back)
    (hfirst : ∀ front' back', cs = front' ++ mark ++ back' → front.length ≤ front'.length) :
    splitAtFirst? mark cs = some (front, back) := by
  cases hfound : splitAtFirst? mark cs with
  | none => exact absurd ⟨front, back, hwhole.symm⟩ (splitAtFirst?_eq_none_iff.1 hfound)
  | some found =>
      obtain ⟨front', back'⟩ := found
      have hwhole' := splitAtFirst?_eq_some hfound
      have hlength : front.length = front'.length :=
        Nat.le_antisymm (hfirst front' back' hwhole') (length_le_of_splitAtFirst? hfound hwhole)
      rw [hwhole, List.append_assoc, List.append_assoc] at hwhole'
      obtain ⟨hfront, hrest⟩ := List.append_inj hwhole' hlength
      rw [hfront, List.append_cancel_left hrest]

/-- The row does not occur in front of its first occurrence. -/
theorem not_isInfix_of_splitAtFirst? (hmark : mark ≠ [])
    (h : splitAtFirst? mark cs = some (front, back)) : ¬ mark <:+: front := by
  intro hinfix
  obtain ⟨before, behind, rfl⟩ := hinfix
  have hcs : cs = before ++ mark ++ (behind ++ mark ++ back) := by
    rw [splitAtFirst?_eq_some h]
    simp
  have hle := length_le_of_splitAtFirst? h hcs
  have hpos : 0 < mark.length := List.length_pos_iff.2 hmark
  rw [List.length_append, List.length_append] at hle
  omega

/-- A row whose first character does not come again in it cannot overlap with itself. -/
theorem eq_nil_or_isPrefix_of_append_eq {between behind : List Char} (htail : c ∉ tail)
    (h : c :: tail ++ behind = between ++ (c :: tail ++ back)) :
    between = [] ∨ c :: tail <+: between := by
  rcases List.prefix_or_prefix_of_prefix (List.prefix_append (c :: tail) behind)
    (h ▸ List.prefix_append between (c :: tail ++ back)) with hmark | hbetween
  · exact Or.inr hmark
  · obtain ⟨rest, hrest⟩ := hbetween
    cases between with
    | nil => exact Or.inl rfl
    | cons d between =>
        have hbehind : d :: between ++ (rest ++ behind) = d :: between ++ (c :: tail ++ back) := by
          rw [← List.append_assoc, hrest]
          exact h
        cases rest with
        | nil =>
            rw [← hrest, List.append_nil]
            exact Or.inr (List.prefix_refl _)
        | cons e rest =>
            -- what is left of the row begins with its first character
            have he : e = c := (List.cons.inj (List.append_cancel_left hbehind)).1
            have hmem : c ∈ tail := by
              rw [← (List.cons.inj hrest).2, ← he]
              exact List.mem_append_right _ List.mem_cons_self
            exact absurd hmem htail

/-- The first occurrence is the one in front of which the row does not occur. -/
theorem splitAtFirst?_eq_some_iff (htail : c ∉ tail) :
    splitAtFirst? (c :: tail) cs = some (front, back) ↔
      cs = front ++ (c :: tail) ++ back ∧ ¬ (c :: tail) <:+: front := by
  constructor
  · intro h
    exact ⟨splitAtFirst?_eq_some h, not_isInfix_of_splitAtFirst? (List.cons_ne_nil c tail) h⟩
  · intro hgiven
    obtain ⟨hcs, hfront⟩ := hgiven
    refine splitAtFirst?_of_first hcs fun before behind hother => ?_
    by_contra hearlier
    rw [hcs, List.append_assoc, List.append_assoc] at hother
    obtain ⟨between, rfl⟩ : before <+: front :=
      List.prefix_of_prefix_length_le (hother ▸ List.prefix_append before _)
        (List.prefix_append front _) (Nat.le_of_not_le hearlier)
    rw [List.append_assoc, List.append_cancel_left_eq] at hother
    rcases eq_nil_or_isPrefix_of_append_eq htail hother.symm with rfl | hbetween
    · rw [List.append_nil] at hearlier
      exact hearlier (Nat.le_refl _)
    · exact hfront (hbetween.isInfix.trans (List.suffix_append _ _).isInfix)

/-! ## Bytes -/

/-- The bytes of a row of characters. -/
def encode (cs : List Char) : List UInt8 := cs.flatMap utf8EncodeChar

/-- An ASCII text: each of its characters is one byte. -/
def IsAscii (cs : List Char) : Prop := ∀ c ∈ cs, c.val.toNat < 128

/-- Some bytes stand at an offset of others, and at none before it. -/
structure FirstAt (mark bytes : List UInt8) (offset : Nat) : Prop where
  here : mark <+: bytes.drop offset
  not_before : ∀ earlier < offset, ¬ mark <+: bytes.drop earlier

theorem FirstAt.offset_eq {bytes : List UInt8} {mark : List UInt8} {offset' : Nat}
    (h : FirstAt mark bytes offset) (h' : FirstAt mark bytes offset') : offset = offset' := by
  rcases Nat.lt_trichotomy offset offset' with hless | hsame | hmore
  · exact absurd h.here (h'.not_before offset hless)
  · exact hsame
  · exact absurd h'.here (h.not_before offset' hmore)

theorem encode_append (front back : List Char) : encode (front ++ back) = encode front ++ encode back :=
  List.flatMap_append

/-- A character is one byte below 128, or all of its bytes are greater. -/
theorem utf8EncodeChar_eq_or_forall_le (c : Char) :
    c.val.toNat < 128 ∧ utf8EncodeChar c = [UInt8.ofNat c.val.toNat] ∨
      128 ≤ c.val.toNat ∧ ∀ b ∈ utf8EncodeChar c, 128 ≤ b.toNat := by
  obtain ⟨k, hk, hleast, hmost, hbytes⟩ := exists_utf8EncodeChar_eq c
  have hfollowing : ∀ k code, ∀ b ∈ followingBytes k code, 128 ≤ b.toNat := by
    intro k code b hb
    induction k with
    | zero => cases hb
    | succ k ih =>
        rcases List.mem_cons.1 hb with rfl | hrest
        · rw [UInt8.toNat_ofNat']
          omega
        · exact ih hrest
  rw [hbytes]
  cases k with
  | zero =>
      refine Or.inl ⟨hmost, ?_⟩
      simp [leadMark, followingBytes]
  | succ k =>
      have hlead : 128 ≤ leadMark (k + 1) + c.val.toNat / 64 ^ (k + 1) ∧
          leadMark (k + 1) + c.val.toNat / 64 ^ (k + 1) < 256 ∧ 128 ≤ c.val.toNat := by
        generalize c.val.toNat = code at *
        have hk : k ≤ 2 := Nat.le_of_succ_le_succ hk
        interval_cases k <;> simp only [leadMark, leastCode] at * <;> omega
      refine Or.inr ⟨hlead.2.2, List.forall_mem_cons.2 ⟨?_, hfollowing _ _⟩⟩
      rw [UInt8.toNat_ofNat']
      omega

theorem utf8EncodeChar_of_lt (hc : c.val.toNat < 128) :
    utf8EncodeChar c = [UInt8.ofNat c.val.toNat] := by
  rcases utf8EncodeChar_eq_or_forall_le c with ⟨-, hone⟩ | ⟨hmany, -⟩
  · exact hone
  · omega

/-- The byte of an ASCII character is in no other character. -/
theorem eq_of_ofNat_mem_utf8EncodeChar (hc : c.val.toNat < 128)
    (h : UInt8.ofNat c.val.toNat ∈ utf8EncodeChar d) : d = c := by
  have hbyte : (UInt8.ofNat c.val.toNat).toNat = c.val.toNat := by
    rw [UInt8.toNat_ofNat']
    omega
  rcases utf8EncodeChar_eq_or_forall_le d with ⟨hd, hone⟩ | ⟨-, hmany⟩
  · rw [hone, List.mem_singleton] at h
    have hsame := congrArg UInt8.toNat h
    rw [hbyte, UInt8.toNat_ofNat'] at hsame
    exact Char.ext (UInt32.toNat_inj.1 (by omega))
  · have hle := hmany _ h
    omega

/-- The bytes of an ASCII text stand in front of the bytes of another if it stands in front of it. -/
theorem isPrefix_encode_iff (hmark : IsAscii mark) : encode mark <+: encode cs ↔ mark <+: cs := by
  unfold encode
  induction mark generalizing cs with
  | nil => simp
  | cons m mark ih =>
      obtain ⟨hm, hmark⟩ := List.forall_mem_cons.1 hmark
      cases cs with
      | nil => simp [utf8EncodeChar_of_lt hm]
      | cons d cs =>
          rw [List.cons_prefix_cons, ← ih hmark, List.flatMap_cons, List.flatMap_cons]
          by_cases hsame : d = m
          · rw [hsame, List.prefix_append_right_inj]
            exact (and_iff_right rfl).symm
          · refine iff_of_false (fun h => hsame ?_) fun h => hsame h.1.symm
            rw [utf8EncodeChar_of_lt hm] at h
            obtain ⟨k, -, -, -, hbytes⟩ := exists_utf8EncodeChar_eq d
            refine eq_of_ofNat_mem_utf8EncodeChar hm ?_
            rw [hbytes] at h ⊢
            rw [(List.cons_prefix_cons.1 h).1]
            exact List.mem_cons_self

/-- Among the bytes of a character there is none of an ASCII one, unless it is that one. -/
theorem eq_zero_of_isPrefix_drop {m : Char} {rest bytes : List UInt8} (hm : m.val.toNat < 128)
    (hoffset : offset < (utf8EncodeChar d).length)
    (h : UInt8.ofNat m.val.toNat :: rest <+: (utf8EncodeChar d ++ bytes).drop offset) :
    offset = 0 := by
  rw [List.drop_append_of_le_length hoffset.le, List.drop_eq_getElem_cons hoffset,
    List.cons_append, List.cons_prefix_cons] at h
  have hmem : UInt8.ofNat m.val.toNat ∈ utf8EncodeChar d := by
    rw [h.1]
    exact List.getElem_mem hoffset
  rw [eq_of_ofNat_mem_utf8EncodeChar hm hmem, utf8EncodeChar_of_lt hm, List.length_singleton]
    at hoffset
  exact Nat.lt_one_iff.1 hoffset

/-- The bytes of an ASCII text stand among the bytes of another only where it stands in it. -/
theorem isPrefix_drop_encode_iff (hmark : IsAscii mark) (hne : mark ≠ []) :
    encode mark <+: (encode cs).drop offset ↔
      ∃ front back, cs = front ++ mark ++ back ∧ (encode front).length = offset := by
  constructor
  · intro h
    obtain ⟨m, tail, hshape⟩ := List.exists_cons_of_ne_nil hne
    have hm : m.val.toNat < 128 := hmark m (hshape ▸ List.mem_cons_self)
    have hbytes : encode mark = UInt8.ofNat m.val.toNat :: encode tail := by
      rw [hshape, encode, List.flatMap_cons, utf8EncodeChar_of_lt hm]
      rfl
    induction cs generalizing offset with
    | nil =>
        have hempty : encode [] = [] := rfl
        rw [hbytes, hempty, List.drop_nil] at h
        exact absurd (List.prefix_nil.1 h) (List.cons_ne_nil _ _)
    | cons d cs ih =>
        have hwhole : encode (d :: cs) = utf8EncodeChar d ++ encode cs := rfl
        rcases Nat.lt_or_ge offset (utf8EncodeChar d).length with hwithin | hbehind
        · have hzero : offset = 0 := by
            rw [hwhole, hbytes] at h
            exact eq_zero_of_isPrefix_drop hm hwithin h
          rw [hzero, List.drop_zero, isPrefix_encode_iff hmark] at h
          obtain ⟨back, hback⟩ := h
          exact ⟨[], back, hback.symm, hzero.symm⟩
        · rw [hwhole, List.drop_append, List.drop_eq_nil_of_le hbehind, List.nil_append] at h
          obtain ⟨front, back, hcs, hlength⟩ := ih h
          refine ⟨d :: front, back, by rw [hcs]; rfl, ?_⟩
          rw [encode, List.flatMap_cons, List.length_append, ← encode, hlength]
          omega
  · intro hgiven
    obtain ⟨front, back, rfl, rfl⟩ := hgiven
    rw [List.append_assoc, encode_append, List.drop_left, encode_append]
    exact List.prefix_append _ _

/-- Where a text is found first, its bytes are found first. -/
theorem firstAt_of_splitAtFirst? (hmark : IsAscii mark) (hne : mark ≠ [])
    (h : splitAtFirst? mark cs = some (front, back)) :
    FirstAt (encode mark) (encode cs) (encode front).length := by
  refine ⟨(isPrefix_drop_encode_iff hmark hne).2 ⟨front, back, splitAtFirst?_eq_some h, rfl⟩, ?_⟩
  intro earlier hearlier hprefix
  obtain ⟨before, behind, hcs, hlength⟩ := (isPrefix_drop_encode_iff hmark hne).1 hprefix
  have hle := length_le_of_splitAtFirst? h hcs
  have hwhole := splitAtFirst?_eq_some h
  rw [List.append_assoc] at hwhole hcs
  obtain ⟨between, rfl⟩ : front <+: before :=
    List.prefix_of_prefix_length_le (hwhole ▸ List.prefix_append _ _)
      (hcs ▸ List.prefix_append _ _) hle
  rw [encode_append, List.length_append] at hlength
  omega

/-- What stands behind a row of characters begins at an offset between two of them. -/
theorem isValid_length_encode {text : String} (htext : text.toList = front ++ back) :
    String.Pos.Raw.IsValid text ⟨(encode front).length⟩ := by
  rw [String.Pos.Raw.isValid_iff_exists_append]
  refine ⟨String.ofList front, String.ofList back, ?_, ?_⟩
  · rw [← String.ofList_append, ← htext, String.ofList_toList]
  · rw [String.rawEndPos, ← String.size_toByteArray, String.toByteArray_ofList, List.utf8Encode,
      List.size_toByteArray]
    rfl

end RegexTemplate.Text
