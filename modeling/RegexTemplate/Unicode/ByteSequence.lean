import RegexTemplate.Unicode.Ranges

/-!
# Ranges of characters as bytes

A range of code points is written in UTF-8 as several rows of byte ranges.  Each row stands for all
characters that take their bytes from its ranges, whichever they take; so a range is cut where the
length of the encoding changes, and where only a part of a block of 64 code points, or of a block of
such blocks, belongs to it.  Main statement: `exists_mem_wholeBlocks_iff`, cutting a range neither
loses nor adds code points.
-/

namespace RegexTemplate.Unicode

/-- A range of bytes. -/
abbrev ByteRange := Nat × Nat

/-- A row of byte ranges: one for each byte of a character. -/
abbrev ByteSequence := List ByteRange

namespace ByteSequence

/-- A block of code points on a level: those that differ in their last bytes only. -/
def blockSize (level : Nat) : Nat := Nat.pow 64 level

/-- Cuts a range into parts that have no partial block on any level up to the given one. -/
def wholeBlocks : (level : Nat) → (low high : Nat) → Ranges
  | 0, low, high => [(low, high)]
  | level + 1, low, high =>
    let size := blockSize (level + 1)
    if low / size = high / size then wholeBlocks level low high
    else
      let first := (low + size - 1) / size * size
      let stop := (high + 1) / size * size
      (if low < first then wholeBlocks level low (first - 1) else []) ++
        (if first < stop then [(first, stop - 1)] else []) ++
        if stop ≤ high then wholeBlocks level stop high else []

/-- Blocks are not empty. -/
theorem blockSize_pos (level : Nat) : 0 < blockSize level := Nat.pow_pos (by decide)

/-- Cutting a range neither loses nor adds code points. -/
theorem exists_mem_wholeBlocks_iff {level low high point : Nat} (h : low ≤ high) :
    (∃ part ∈ wholeBlocks level low high, part.1 ≤ point ∧ point ≤ part.2) ↔
      low ≤ point ∧ point ≤ high := by
  induction level generalizing low high with
  | zero => simp [wholeBlocks]
  | succ level ih =>
    simp only [wholeBlocks]
    split
    · exact ih h
    · next apart =>
      have positive := blockSize_pos (level + 1)
      generalize blockSize (level + 1) = size at apart positive ⊢
      have above : low ≤ (low + size - 1) / size * size := by
        have := Nat.lt_div_mul_add positive (a := low + size - 1)
        omega
      have below : (high + 1) / size * size ≤ high + 1 := Nat.div_mul_le_self _ _
      have ordered : (low + size - 1) / size * size ≤ (high + 1) / size * size := by
        refine Nat.mul_le_mul_right size ?_
        have first : (low + size - 1) / size ≤ low / size + 1 := by
          rw [← Nat.add_div_right low positive]
          exact Nat.div_le_div_right (by omega)
        have middle := Nat.div_le_div_right h (c := size)
        have last : high / size ≤ (high + 1) / size := Nat.div_le_div_right (by omega)
        omega
      generalize (low + size - 1) / size * size = first at above ordered ⊢
      generalize (high + 1) / size * size = stop at below ordered ⊢
      have front : (∃ part ∈ if low < first then wholeBlocks level low (first - 1) else [],
          part.1 ≤ point ∧ point ≤ part.2) ↔ low ≤ point ∧ point < first := by
        split
        · rw [ih (by omega)]
          omega
        · simp
          omega
      have middle : (∃ part ∈ if first < stop then [(first, stop - 1)] else [],
          part.1 ≤ point ∧ point ≤ part.2) ↔ first ≤ point ∧ point < stop := by
        split
        · simp
          omega
        · simp
          omega
      have back : (∃ part ∈ if stop ≤ high then wholeBlocks level stop high else [],
          part.1 ≤ point ∧ point ≤ part.2) ↔ stop ≤ point ∧ point ≤ high := by
        split
        · exact ih (by omega)
        · simp
          omega
      simp only [List.mem_append, or_and_right, exists_or, front, middle, back]
      omega

/-- What the first byte adds to the leading bits of a character with so many bytes behind it. -/
def leadMark : (tail : Nat) → Nat
  | 0 => 0
  | 1 => 0xc0
  | 2 => 0xe0
  | _ => 0xf0

/-- The bytes of a code point that takes `tail` bytes behind the first one. -/
def encode (tail point : Nat) : List Nat :=
  (leadMark tail + point / blockSize tail) ::
    ((List.range tail).reverse.map fun i => 0x80 + point / blockSize i % 64)

/-- The stretches of code points whose encodings have one length, with the number of bytes behind
the first one.  The surrogates belong to none. -/
def lengths : List (Nat × Nat × Nat) :=
  [(0, 0, 0x7f), (1, 0x80, 0x7ff), (2, 0x800, 0xd7ff), (2, 0xe000, 0xffff),
    (3, 0x10000, 0x10ffff)]

/-- The rows of a range that lie in one stretch. -/
def ofStretch (low high : Nat) : Nat × Nat × Nat → List ByteSequence
  | (tail, least, greatest) =>
    let low := max low least
    let high := min high greatest
    if low ≤ high then
      (wholeBlocks tail low high).map fun (low, high) => (encode tail low).zip (encode tail high)
    else []

/-- The rows of some ranges, in ascending order. -/
def ofRanges (ranges : Ranges) : List ByteSequence :=
  ranges.flatMap fun (low, high) => lengths.flatMap (ofStretch low high)

/-- The bytes of a code point. -/
def ofPoint (point : Nat) : List Nat := (ofRanges [(point, point)]).flatten.map (·.1)

end ByteSequence

end RegexTemplate.Unicode
