import RegexTemplate.CharSet

/-!
# Simple case folding

Two characters are equal without regard to case if the simple case folding of the Unicode character
database (version 16) maps them to the same character.  The classes with more than one member are
the *orbits*; nearly all of them are pairs, and the pairs come in runs with a fixed step.  A set is
closed under case by the orbits of its members.
-/

namespace RegexTemplate.Unicode.CaseFold

/-- Runs of pairs: the smaller and the larger member of the first pair, the number of pairs, and
the step from one pair to the next. -/
def pairRuns : List (List Nat) :=
  numberGroupsOfLines
    ["41-61-a-1 4c-6c-8-2 4d-6d-3-2 55-75-3-2 c0-e0-10-2 c1-e1-2-2 c7-e7-8-2 d9-f9-3-2",
     "df-1e9e-1-1 ff-178-1-1 100-101-18-2 132-133-3-2 139-13a-8-2 14a-14b-17-2 179-17a-3-2",
     "180-243-1-1 181-253-1-1 182-183-2-2 186-254-1-1 187-188-1-1 189-256-2-1 18b-18c-1-1",
     "18e-1dd-1-1 18f-259-1-1 190-25b-1-1 191-192-1-1 193-260-1-1 194-263-1-1 195-1f6-1-1",
     "196-269-1-1 197-268-1-1 198-199-1-1 19a-23d-1-1 19b-a7dc-1-1 19c-26f-1-1 19d-272-1-1",
     "19e-220-1-1 19f-275-1-1 1a0-1a1-3-2 1a6-280-1-1 1a7-1a8-1-1 1a9-283-1-1 1ac-1ad-1-1",
     "1ae-288-1-1 1af-1b0-1-1 1b1-28a-2-1 1b3-1b4-2-2 1b7-292-1-1 1b8-1b9-1-1 1bc-1bd-1-1",
     "1bf-1f7-1-1 1cd-1ce-8-2 1de-1df-9-2 1f4-1f5-1-1 1f8-1f9-14-2 222-223-9-2 23a-2c65-1-1",
     "23b-23c-1-1 23e-2c66-1-1 23f-2c7e-2-1 241-242-1-1 244-289-1-1 245-28c-1-1 246-247-5-2",
     "250-2c6f-1-1 251-2c6d-1-1 252-2c70-1-1 25c-a7ab-1-1 261-a7ac-1-1 264-a7cb-1-1 265-a78d-1-1",
     "266-a7aa-1-1 26a-a7ae-1-1 26b-2c62-1-1 26c-a7ad-1-1 271-2c6e-1-1 27d-2c64-1-1 282-a7c5-1-1",
     "287-a7b1-1-1 29d-a7b2-1-1 29e-a7b0-1-1 370-371-2-2 376-377-1-1 37b-3fd-3-1 37f-3f3-1-1",
     "386-3ac-1-1 388-3ad-3-1 38c-3cc-1-1 38e-3cd-2-1 390-1fd3-1-1 391-3b1-2-2 394-3b4-2-2",
     "397-3b7-1-1 39b-3bb-3-2 39e-3be-1-1 3a4-3c4-2-1 3a7-3c7-2-1 3aa-3ca-2-1 3b0-1fe3-1-1",
     "3cf-3d7-1-1 3d8-3d9-c-2 3f2-3f9-1-1 3f7-3f8-1-1 3fa-3fb-1-1 400-450-10-1 410-430-2-1",
     "413-433-7-2 416-436-4-2 420-440-1-1 423-443-7-1 42b-44b-5-1 460-461-1-1 464-465-f-2",
     "48a-48b-1b-2 4c0-4cf-1-1 4c1-4c2-7-2 4d0-4d1-30-2 531-561-26-1 10a0-2d00-26-1",
     "10c7-2d27-1-1 10cd-2d2d-1-1 10d0-1c90-2b-1 10fd-1cbd-3-1 13a0-ab70-50-1 13f0-13f8-6-1",
     "1c89-1c8a-1-1 1d79-a77d-1-1 1d7d-2c63-1-1 1d8e-a7c6-1-1 1e00-1e01-30-2 1e62-1e63-1a-2",
     "1ea0-1ea1-30-2 1f00-1f08-8-1 1f10-1f18-6-1 1f20-1f28-8-1 1f30-1f38-8-1 1f40-1f48-6-1",
     "1f51-1f59-4-2 1f60-1f68-8-1 1f70-1fba-2-1 1f72-1fc8-4-1 1f76-1fda-2-1 1f78-1ff8-2-1",
     "1f7a-1fea-2-1 1f7c-1ffa-2-1 1f80-1f88-8-1 1f90-1f98-8-1 1fa0-1fa8-8-1 1fb0-1fb8-2-1",
     "1fb3-1fbc-1-1 1fc3-1fcc-1-1 1fd0-1fd8-2-1 1fe0-1fe8-2-1 1fe5-1fec-1-1 1ff3-1ffc-1-1",
     "2132-214e-1-1 2160-2170-10-1 2183-2184-1-1 24b6-24d0-1a-1 2c00-2c30-30-1 2c60-2c61-1-1",
     "2c67-2c68-3-2 2c72-2c73-1-1 2c75-2c76-1-1 2c80-2c81-32-2 2ceb-2cec-2-2 2cf2-2cf3-1-1",
     "a640-a641-5-2 a64c-a64d-11-2 a680-a681-e-2 a722-a723-7-2 a732-a733-1f-2 a779-a77a-2-2",
     "a77e-a77f-5-2 a78b-a78c-1-1 a790-a791-2-2 a794-a7c4-1-1 a796-a797-a-2 a7b3-ab53-1-1",
     "a7b4-a7b5-8-2 a7c7-a7c8-2-2 a7cc-a7cd-1-1 a7d0-a7d1-1-1 a7d6-a7d7-3-2 a7f5-a7f6-1-1",
     "fb05-fb06-1-1 ff21-ff41-1a-1 10400-10428-28-1 104b0-104d8-24-1 10570-10597-13-2",
     "10571-10598-5-2 1057d-105a4-7-2 1058d-105b4-3-2 10595-105bc-1-1 10c80-10cc0-33-1",
     "10d50-10d70-16-1 118a0-118c0-20-1 16e40-16e60-20-1 1e900-1e922-22-1"]

/-- The orbits of three or four members. -/
def largeOrbits : List (List Nat) :=
  numberGroupsOfLines
    ["4b-6b-212a 53-73-17f b5-39c-3bc c5-e5-212b 1c4-1c5-1c6 1c7-1c8-1c9 1ca-1cb-1cc 1f1-1f2-1f3",
     "345-399-3b9-1fbe 392-3b2-3d0 395-3b5-3f5 398-3b8-3d1-3f4 39a-3ba-3f0 3a0-3c0-3d6",
     "3a1-3c1-3f1 3a3-3c2-3c3 3a6-3c6-3d5 3a9-3c9-2126 412-432-1c80 414-434-1c81 41e-43e-1c82",
     "421-441-1c83 422-442-1c84-1c85 42a-44a-1c86 462-463-1c87 1c88-a64a-a64b 1e60-1e61-1e9b"]

/-- The pairs of one run. -/
def pairsOfRun : List Nat → List (List Nat)
  | [small, large, count, step] =>
    (List.range count).map fun i => [small + step * i, large + step * i]
  | _ => []

/-- All orbits of simple case folding. -/
def orbits : List (List Nat) := largeOrbits ++ pairRuns.flatMap pairsOfRun

/-- The characters that equal `c` without regard to case, `c` among them. -/
def orbit (c : Nat) : List Nat := (orbits.find? (·.contains c)).getD [c]

end RegexTemplate.Unicode.CaseFold

namespace RegexTemplate.CharSet

/-- The set with every character that equals a member without regard to case. -/
def closeUnderCase (s : CharSet) : CharSet :=
  let touched := Unicode.CaseFold.orbits.filter fun orbit => orbit.any (liesIn · s.ranges)
  s.union (ofRanges (touched.flatten.map fun point => (point, point)))

/-- The set with both cases of every letter of ASCII in it. -/
def closeUnderAsciiCase (s : CharSet) : CharSet :=
  let letters := (List.range 26).filter fun i =>
    liesIn (0x41 + i) s.ranges || liesIn (0x61 + i) s.ranges
  s.union (ofRanges (letters.flatMap fun i => [(0x41 + i, 0x41 + i), (0x61 + i, 0x61 + i)]))

end RegexTemplate.CharSet
