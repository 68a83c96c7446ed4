import RegexTemplate.Regex.Atom

/-!
# Classes in brackets

A bracketed class lists characters, ranges, named classes and further brackets.  Lists may be joined
by `&&` (both), `--` (the first only) and `~~` (exactly one), which bind more weakly than the list
itself and associate to the left.  A class is returned with its height, the number of brackets,
lists and joins on the longest way down, because nesting is limited.
-/

namespace RegexTemplate.Regex

/-- The ways to join two lists of a class. -/
inductive Joint where
  | both
  | firstOnly
  | exactlyOne

/-- The members that a joint leaves of two sets. -/
def Joint.apply : Joint → CharSet → CharSet → CharSet
  | .both, s, t => s.inter t
  | .firstOnly, s, t => s.diff t
  | .exactlyOne, s, t => s.symmDiff t

/-- A part of a class with its height. -/
structure Part where
  set : CharSet
  height : Nat

/-- A list of a class, its last item first. -/
abbrev PartList := List Part

/-- A list as one part. -/
def PartList.toPart : PartList → Part
  | [] => ⟨⟨[]⟩, 0⟩
  | [part] => part
  | parts =>
    ⟨.ofRanges (parts.flatMap (·.set.ranges)), 1 + (parts.map (·.height)).foldl max 0⟩

/-- What stands to the left of the list being read, if a joint does. -/
abbrev LeftSide := Option (Part × Joint)

/-- The characters of a part that stands beside a joint, with both cases if case is ignored. -/
def Modes.operand (modes : Modes) (part : Part) : CharSet :=
  if !modes.ignoreCase then part.set
  else if modes.unicode then part.set.closeUnderCase else part.set.closeUnderAsciiCase

/-- Joins the list that was read last to what stands on its left. -/
def joinLeft (modes : Modes) (left : LeftSide) (items : PartList) : Part :=
  let part := items.toPart
  match left with
  | none => part
  | some (first, joint) =>
    ⟨joint.apply (modes.operand first) (modes.operand part), 1 + max first.height part.height⟩

/-- Reads a class of POSIX behind its opening bracket, with the colons and the closing bracket. -/
def readPosix? (cs : List Char) : Option (String × Bool × List Char) :=
  match cs with
  | ':' :: cs =>
    let (negated, cs) :=
      match cs with
      | '^' :: cs => (true, cs)
      | _ => (false, cs)
    match cs.dropWhile (· != ':') with
    | ':' :: ']' :: rest => some (String.ofList (cs.takeWhile (· != ':')), negated, rest)
    | _ => none
  | _ => none

/-- Reads one atom of a class. -/
def readClassAtom (modes : Modes) : List Char → Except Fault (Atom × List Char)
  | [] => .error .unclosedClass
  | '\\' :: cs => readEscape modes cs
  | c :: cs => .ok (.char c false, cs)

/-- The end of a range must be a character. -/
def rangeEnd (modes : Modes) : Atom → Except Fault Nat
  | .char c _ => if modes.unicode || c.toNat < 0x80 then .ok c.toNat else .error .needsUnicode
  | _ => .error .rangeOfClasses

/-- The members of an atom that stands alone in a class. -/
def atomMembers (modes : Modes) : Atom → Except Fault CharSet
  | .char c _ =>
    if modes.unicode || c.toNat < 0x80 then .ok (.singleton c) else .error .needsUnicode
  | .class set => .ok set
  | .look _ => .error .invalidClassItem

/-- Whether a hyphen with this text behind it stands for itself, because the class ends there or
another hyphen follows.  In a spaced text the blanks are passed over, and so is one `#`, but not
what it comments out. -/
def isLoneHyphen (modes : Modes) (cs : List Char) : Bool :=
  let unmarked :=
    match Text.skipBlanks cs with
    | '#' :: rest => Text.skipBlanks rest
    | rest => rest
  match if modes.spaced then unmarked else cs with
  | ']' :: _ => true
  | '-' :: _ => true
  | _ => false

/-- Reads one character, class or range of a list. -/
def readClassItem (modes : Modes) (cs : List Char) : Except Fault (Part × List Char) := do
  let (first, cs) ← readClassAtom modes cs
  let alone := return (⟨← atomMembers modes first, 0⟩, modes.skip cs)
  match modes.skip cs with
  | [] => throw .unclosedClass
  | '-' :: rest =>
    if isLoneHyphen modes rest then alone
    else
      let (last, rest) ← readClassAtom modes (modes.skip rest)
      let low ← rangeEnd modes first
      let high ← rangeEnd modes last
      if high < low then throw .invalidRange
      return (⟨⟨[(low, high)]⟩, 0⟩, rest)
  | _ => alone

/-- The hyphens at the head of a class, which stand for themselves. -/
def readHyphens (modes : Modes) : Nat → List Char → PartList × List Char
  | 0, cs => ([], cs)
  | fuel + 1, cs =>
    match cs with
    | '-' :: rest =>
      let (items, rest) := readHyphens modes fuel (modes.skip rest)
      (⟨.singleton '-', 0⟩ :: items, rest)
    | _ => ([], cs)

mutual

/-- Reads a class behind its opening bracket. -/
def readBracket (modes : Modes) : Nat → List Char → Except Fault (Part × List Char)
  | 0, _ => .error .nestedTooDeeply
  | fuel + 1, cs => do
    let cs := modes.skip cs
    let (negated, cs) :=
      match cs with
      | '^' :: rest => (true, modes.skip rest)
      | _ => (false, cs)
    let (items, cs) := readHyphens modes cs.length cs
    let (items, cs) :=
      match items, cs with
      | [], ']' :: rest => ([⟨.singleton ']', 0⟩], modes.skip rest)
      | _, _ => (items, cs)
    let (part, cs) ← readItems modes fuel none items cs
    let set ← modes.classOf negated part.set
    return (⟨set, 1 + part.height⟩, cs)

/-- Reads the rest of a class up to its closing bracket. -/
def readItems (modes : Modes) :
    Nat → LeftSide → PartList → List Char → Except Fault (Part × List Char)
  | 0, _, _, _ => .error .nestedTooDeeply
  | fuel + 1, left, items, cs => do
    match modes.skip cs with
    | [] => throw .unclosedClass
    | ']' :: rest => return (joinLeft modes left items, rest)
    | '[' :: rest =>
      match readPosix? rest with
      | some (name, negated, after) =>
        match NamedClass.posix? name with
        | some set =>
          let set ← modes.classOf negated set
          readItems modes fuel left (⟨set, 0⟩ :: items) after
        | none =>
          let (part, rest) ← readBracket modes fuel rest
          readItems modes fuel left (part :: items) rest
      | none =>
        let (part, rest) ← readBracket modes fuel rest
        readItems modes fuel left (part :: items) rest
    | '&' :: '&' :: rest => readItems modes fuel (some (joinLeft modes left items, .both)) [] rest
    | '-' :: '-' :: rest =>
      readItems modes fuel (some (joinLeft modes left items, .firstOnly)) [] rest
    | '~' :: '~' :: rest =>
      readItems modes fuel (some (joinLeft modes left items, .exactlyOne)) [] rest
    | cs =>
      let (part, rest) ← readClassItem modes cs
      readItems modes fuel left (part :: items) rest

end

end RegexTemplate.Regex
