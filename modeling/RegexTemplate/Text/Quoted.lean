import RegexTemplate.Unicode.Newest

/-!
# Quoted text

A message shows a text in double quotes.  Quotes and backslashes inside are preceded by a backslash,
and so is a letter that stands for a line break, a tabulator or a null character.  Characters that
do not show, or that would be drawn onto the one before them, are shown by their code points.
-/

namespace RegexTemplate.Text

/-- The code points that do not show by themselves: controls, formats, surrogates, code points for
private use, separators, and whatever a font without it may leave out. -/
def hidden : CharSet :=
  .ofRanges (Unicode.Category.control ++ Unicode.Category.format ++ Unicode.Category.surrogate ++
    Unicode.Category.privateUse ++ Unicode.Category.separator ++
    Unicode.Property.defaultIgnorable.ranges)

/-- Whether a character shows by itself. -/
def isShown (c : Char) : Bool :=
  c == ' ' ||
    (Unicode.Newest.assigned.has c && !hidden.has c && !Unicode.Newest.graphemeExtend.has c)

/-- A character as it is shown between quotes. -/
def quotedChar (c : Char) : List Char :=
  match c with
  | '"' => ['\\', '"']
  | '\\' => ['\\', '\\']
  | '\n' => ['\\', 'n']
  | '\r' => ['\\', 'r']
  | '\t' => ['\\', 't']
  | '\x00' => ['\\', '0']
  | _ =>
    if isShown c then [c]
    else ['\\', 'u', '\x7b'] ++ Nat.toDigits 16 c.toNat ++ ['\x7d']

/-- A text in quotes. -/
def quoted (text : String) : String :=
  String.ofList (['"'] ++ text.toList.flatMap quotedChar ++ ['"'])

/-- A list of texts, each in quotes. -/
def quotedList (texts : List String) : String :=
  "[" ++ ", ".intercalate (texts.map quoted) ++ "]"

end RegexTemplate.Text
