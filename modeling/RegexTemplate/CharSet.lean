import RegexTemplate.Unicode.Ranges

/-!
# Sets of characters

A set of code points is kept as closed ranges that ascend and leave a gap between neighbours, so
that a search may stop at the first range above the character.  All sets are built by `ofRanges`
and `complement`; the other operations reduce to these by De Morgan's laws.
-/

namespace RegexTemplate

open Unicode (Ranges)

/-- A set of code points. -/
structure CharSet where
  ranges : Ranges
deriving DecidableEq, Repr, Inhabited

namespace CharSet

/-- The largest code point. -/
def maxPoint : Nat := 0x10ffff

/-- Joins the range `(low, high)` with those of the ascending ranges behind it that it touches. -/
def joinFrom (low high : Nat) : Ranges → Ranges
  | [] => [(low, high)]
  | (low', high') :: rest =>
    if low' ≤ high + 1 then joinFrom low (max high high') rest
    else (low, high) :: joinFrom low' high' rest

/-- The code points that lie in one of the given ranges. -/
def ofRanges (ranges : Ranges) : CharSet :=
  match ranges.mergeSort (fun a b => a.1 ≤ b.1) with
  | [] => ⟨[]⟩
  | (low, high) :: rest => ⟨joinFrom low high rest⟩

/-- The set of one character. -/
def singleton (c : Char) : CharSet := ⟨[(c.toNat, c.toNat)]⟩

/-- The gaps that ascending ranges leave from `next` on. -/
def gapsFrom (next : Nat) : Ranges → Ranges
  | [] => if next ≤ maxPoint then [(next, maxPoint)] else []
  | (low, high) :: rest =>
    (if next < low then [(next, low - 1)] else []) ++ gapsFrom (high + 1) rest

/-- The code points outside a set. -/
def complement (s : CharSet) : CharSet := ⟨gapsFrom 0 s.ranges⟩

/-- The code points in one of two sets. -/
def union (s t : CharSet) : CharSet := ofRanges (s.ranges ++ t.ranges)

/-- The code points in both of two sets. -/
def inter (s t : CharSet) : CharSet := (s.complement.union t.complement).complement

/-- The code points in the first set only. -/
def diff (s t : CharSet) : CharSet := s.inter t.complement

/-- The code points in exactly one of two sets. -/
def symmDiff (s t : CharSet) : CharSet := (s.diff t).union (t.diff s)

/-- Whether a code point lies in ascending ranges. -/
def liesIn (point : Nat) : Ranges → Bool
  | [] => false
  | (low, high) :: rest =>
    if point < low then false else if point ≤ high then true else liesIn point rest

/-- Whether a character belongs to a set. -/
def has (s : CharSet) (c : Char) : Bool := liesIn c.toNat s.ranges

/-- The set of every character. -/
def everything : CharSet := complement ⟨[]⟩

/-- Whether a set has characters of ASCII only. -/
def isAscii (s : CharSet) : Bool := s.ranges.all fun range => range.2 < 0x80

end CharSet

end RegexTemplate
