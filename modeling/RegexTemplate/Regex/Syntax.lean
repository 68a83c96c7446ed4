import RegexTemplate.CharSet

/-!
# Regular expressions

A regular expression, once its text has been read and its modes have been applied, is a tree of
character sets and of conditions on the place between two characters, put together by sequence,
choice and repetition.  The order of the two sides of a choice, and whether a repetition is greedy,
say which of several matches is preferred.
-/

namespace RegexTemplate.Regex

/-- The modes that a regular expression may be read in. -/
structure Modes where
  /-- Letters match without regard to case. -/
  ignoreCase : Bool := false
  /-- `^` and `$` hold at every line's ends. -/
  multiLine : Bool := false
  /-- `.` matches a line feed too. -/
  dotAll : Bool := false
  /-- Blanks and comments in the text are skipped. -/
  spaced : Bool := false
  /-- Repetitions are lazy unless they are followed by `?`. -/
  swapGreed : Bool := false
  /-- A carriage return ends a line as well. -/
  crlf : Bool := false
  /-- Classes and case are those of Unicode, not of ASCII. -/
  unicode : Bool := true
deriving DecidableEq, Repr

/-- Conditions on a place between two characters. -/
inductive Look where
  | textStart
  | textEnd
  | lineStart
  | lineEnd
  | lineStartCrlf
  | lineEndCrlf
  /-- Exactly one of the neighbours is a word character. -/
  | boundary (ascii : Bool)
  /-- Both or none of the neighbours are word characters. -/
  | noBoundary (ascii : Bool)
  /-- A word starts here. -/
  | wordStart (ascii : Bool)
  /-- A word ends here. -/
  | wordEnd (ascii : Bool)
  /-- The character before is no word character. -/
  | wordStartHalf (ascii : Bool)
  /-- The character behind is no word character. -/
  | wordEndHalf (ascii : Bool)
deriving DecidableEq, Repr

/-- How often a repetition may run, and whether it prefers many runs to few. -/
structure Repetition where
  least : Nat
  most : Option Nat
  greedy : Bool
deriving DecidableEq, Repr

/-- A regular expression. -/
inductive Expr where
  /-- Matches the empty text. -/
  | empty
  /-- Matches one character of the set. -/
  | chars (set : CharSet)
  /-- Matches the empty text where the condition holds. -/
  | look (condition : Look)
  /-- Matches the body, and notes where it begins and ends. -/
  | group (body : Expr)
  /-- Matches one expression, then the other. -/
  | seq (first second : Expr)
  /-- Matches one of two expressions, and prefers the first. -/
  | choice (first second : Expr)
  /-- Matches a number of runs of an expression. -/
  | loop (count : Repetition) (body : Expr)
deriving DecidableEq, Repr, Inhabited

/-- The reasons why a text is no regular expression. -/
inductive Fault where
  | unclosedGroup
  | unopenedGroup
  | unclosedClass
  | invalidRange
  | rangeOfClasses
  | invalidClassItem
  | nothingToRepeat
  | invalidCount
  | unclosedCount
  | emptyNumber
  | numberTooLarge
  | incompleteEscape
  | unknownEscape
  | invalidCodePoint
  | backReference
  | lookAround
  | unknownMode
  | repeatedMode
  | danglingNegation
  | invalidGroupName
  | repeatedGroupName
  | unknownBoundary
  | unknownProperty
  | needsUnicode
  | nestedTooDeeply
  | tooLarge
deriving DecidableEq, Repr

/-- What a fault is called in a message.  The words are this reader's own, and no expectation of a test
case is held against them. -/
def Fault.message : Fault → String
  | .unclosedGroup => "unclosed group"
  | .unopenedGroup => "unopened group"
  | .unclosedClass => "unclosed character class"
  | .invalidRange => "the start of a range lies above its end"
  | .rangeOfClasses => "a class cannot be the end of a range"
  | .invalidClassItem => "a condition cannot stand in a character class"
  | .nothingToRepeat => "nothing to repeat"
  | .invalidCount => "the least count lies above the greatest"
  | .unclosedCount => "unclosed repetition count"
  | .emptyNumber => "a repetition count without a number"
  | .numberTooLarge => "a number that is too large"
  | .incompleteEscape => "incomplete escape"
  | .unknownEscape => "unknown escape"
  | .invalidCodePoint => "no such code point"
  | .backReference => "back-references are not supported"
  | .lookAround => "look-around is not supported"
  | .unknownMode => "unknown mode"
  | .repeatedMode => "repeated mode"
  | .danglingNegation => "a mode must follow the negation"
  | .invalidGroupName => "invalid group name"
  | .repeatedGroupName => "repeated group name"
  | .unknownBoundary => "unknown word boundary"
  | .unknownProperty => "unknown property of characters"
  | .needsUnicode => "not possible without Unicode"
  | .nestedTooDeeply => "nested too deeply"
  | .tooLarge => "compiles to too large a program"

end RegexTemplate.Regex
