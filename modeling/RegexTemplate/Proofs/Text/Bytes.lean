import Mathlib

/-!
# The order of texts and the order of their bytes

Texts are ordered by the code points of their characters, and bytes in UTF-8 by their values; both orders
go by the first place where two rows differ.  They agree (`bytes_lt_bytes_iff`), because they do so for
two characters in front of anything (`encode_append_lt`): of two characters that take the same number of
bytes, the bytes hold the digits of the codes, and else the first byte of the longer one is the greater.
-/

namespace RegexTemplate.Text

open String (utf8EncodeChar)

variable {m n k code code' : Nat} {rest rest' : List UInt8} {c d : Char}

/-- The bytes of a text in UTF-8. -/
def bytes (text : String) : List UInt8 := text.toList.flatMap utf8EncodeChar

/-- The last bytes of a character, with six bits of its code in each. -/
def followingBytes : Nat → Nat → List UInt8
  | 0, _ => []
  | k + 1, code => UInt8.ofNat (code / 64 ^ k % 64 + 128) :: followingBytes k code

/-- The least code of the characters that take some bytes behind their first one. -/
def leastCode : Nat → Nat
  | 0 => 0
  | 1 => 128
  | 2 => 2048
  | 3 => 65536
  | _ => 1114112

/-- What is added to the leading bits of the code in the first byte of such a character. -/
def leadMark : Nat → Nat
  | 0 => 0
  | 1 => 192
  | 2 => 224
  | _ => 240

/-- Two rows of bytes compare as their first bytes do, or else as what follows. -/
theorem ofNat_cons_lt (hn : n < 256) (hle : m ≤ n) (hrest : m = n → rest < rest') :
    UInt8.ofNat m :: rest < UInt8.ofNat n :: rest' := by
  rw [List.cons_lt_cons_iff]
  rcases Nat.lt_or_eq_of_le hle with hlt | heq
  · exact Or.inl ((UInt8.ofNat_lt_iff_lt (hlt.trans hn) hn).2 hlt)
  · exact Or.inr ⟨by rw [heq], hrest heq⟩

/-- The last bytes of two characters compare as the codes do, if these agree in the bits before. -/
theorem followingBytes_append_lt (hquotient : code / 64 ^ k = code' / 64 ^ k) (hlt : code < code') :
    followingBytes k code ++ rest < followingBytes k code' ++ rest' := by
  induction k with
  | zero =>
      rw [Nat.pow_zero, Nat.div_one, Nat.div_one] at hquotient
      omega
  | succ k ih =>
      rw [Nat.pow_succ, ← Nat.div_div_eq_div_mul, ← Nat.div_div_eq_div_mul] at hquotient
      have hle : code / 64 ^ k ≤ code' / 64 ^ k := Nat.div_le_div_right hlt.le
      exact ofNat_cons_lt (by omega) (by omega) fun heq => ih (by omega)

/-- The bytes of a character: the first one marks how many follow. -/
theorem exists_utf8EncodeChar_eq (c : Char) :
    ∃ k ≤ 3, leastCode k ≤ c.val.toNat ∧ c.val.toNat < leastCode (k + 1) ∧
      utf8EncodeChar c =
        UInt8.ofNat (leadMark k + c.val.toNat / 64 ^ k) :: followingBytes k c.val.toNat := by
  have hvalid : c.val.toNat < 1114112 := by
    rcases c.valid with h | h <;> omega
  unfold utf8EncodeChar
  dsimp only
  generalize c.val.toNat = code at *
  split
  · next h =>
      refine ⟨0, by decide, Nat.zero_le _, Nat.lt_succ_of_le h, ?_⟩
      simp [leadMark, followingBytes]
  · next h =>
      split
      · next h' =>
          have hlead : code / 64 % 32 + 192 = 192 + code / 64 := by omega
          refine ⟨1, by decide, Nat.lt_of_not_le h, Nat.lt_succ_of_le h', ?_⟩
          simp [leadMark, followingBytes, hlead]
      · next h' =>
          split
          · next h'' =>
              have hlead : code / 4096 % 16 + 224 = 224 + code / 4096 := by omega
              refine ⟨2, by decide, Nat.lt_of_not_le h', Nat.lt_succ_of_le h'', ?_⟩
              simp [leadMark, followingBytes, hlead]
          · next h'' =>
              have hlead : code / 262144 % 8 + 240 = 240 + code / 262144 := by omega
              refine ⟨3, by decide, Nat.lt_of_not_le h'', hvalid, ?_⟩
              simp [leadMark, followingBytes, hlead]

/-- The bytes of two characters compare as the characters do, whatever follows. -/
theorem encode_append_lt (h : c < d) :
    utf8EncodeChar c ++ rest < utf8EncodeChar d ++ rest' := by
  have hlt : c.val.toNat < d.val.toNat := h
  obtain ⟨k, hk, hleast, hmost, hc⟩ := exists_utf8EncodeChar_eq c
  obtain ⟨k', hk', hleast', hmost', hd⟩ := exists_utf8EncodeChar_eq d
  rw [hc, hd, List.cons_append, List.cons_append]
  generalize c.val.toNat = code, d.val.toNat = code' at *
  have hbyte : leadMark k' + code' / 64 ^ k' < 256 := by
    interval_cases k' <;> simp only [leadMark, leastCode] at * <;> omega
  rcases lt_trichotomy k k' with hfewer | rfl | hmore
  · have hmark : leadMark k + code / 64 ^ k < leadMark k' + code' / 64 ^ k' := by
      interval_cases k' <;> interval_cases k <;> simp only [leadMark, leastCode] at * <;> omega
    exact ofNat_cons_lt hbyte hmark.le fun heq => absurd heq hmark.ne
  · have hle : code / 64 ^ k ≤ code' / 64 ^ k := Nat.div_le_div_right hlt.le
    refine ofNat_cons_lt hbyte (Nat.add_le_add_left hle _) fun heq => ?_
    exact followingBytes_append_lt (Nat.add_left_cancel heq) hlt
  · exfalso
    interval_cases k <;> interval_cases k' <;> simp only [leastCode] at * <;> omega

/-- The bytes of two rows of characters compare as the rows do. -/
theorem flatMap_encode_lt {cs ds : List Char} (h : cs < ds) :
    cs.flatMap utf8EncodeChar < ds.flatMap utf8EncodeChar := by
  induction h with
  | @nil d ds =>
      obtain ⟨k, -, -, -, hd⟩ := exists_utf8EncodeChar_eq d
      rw [List.flatMap_cons, hd]
      exact List.nil_lt_cons _ _
  | rel h => exact encode_append_lt h
  | cons _ ih => exact List.append_left_lt ih

/-- **A text comes before another exactly if its bytes do.** -/
theorem bytes_lt_bytes_iff {text text' : String} : bytes text < bytes text' ↔ text < text' := by
  have hmono : ∀ {text text' : String}, text < text' → bytes text < bytes text' :=
    fun h => flatMap_encode_lt (String.lt_iff_toList_lt.1 h)
  constructor
  · intro h
    rcases Std.lt_trichotomy text text' with hlt | rfl | hgt
    · exact hlt
    · exact absurd h (List.lt_irrefl _)
    · exact absurd h (List.lt_asymm (hmono hgt))
  · exact hmono

theorem bytes_le_bytes_iff {text text' : String} : bytes text ≤ bytes text' ↔ text ≤ text' := by
  rw [← String.not_lt, ← bytes_lt_bytes_iff]
  exact List.not_lt.symm

end RegexTemplate.Text
