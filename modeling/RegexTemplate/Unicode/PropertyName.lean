import RegexTemplate.Unicode.Age
import RegexTemplate.Unicode.ScriptExtension
import RegexTemplate.Unicode.Segmentation

/-!
# Properties by name

A regular expression names a property of characters by one name, or by the name of a property and
one of its values.  Names are compared without regard to case, spaces, hyphens and underscores, and
an `is` in front of a name does not count.
-/

namespace RegexTemplate.Unicode.PropertyName

/-- A name in lower case without spaces, hyphens, underscores and characters outside ASCII. -/
def plain (name : List Char) : String :=
  String.ofList ((name.filter fun c =>
    c.toNat < 0x80 && c != ' ' && c != '-' && c != '_').map Char.toLower)

/-- The form of a name that is compared.  The `is` in front goes first, and `isc` keeps it, since
`c` alone means another property. -/
def normalize (name : List Char) : String :=
  match name with
  | i :: s :: rest =>
    if i.toLower == 'i' && s.toLower == 's' then
      if plain rest == "c" then "isc" else plain rest
    else plain name
  | _ => plain name

/-- The general category with a given normalized name. -/
def category? (name : String) : Option CharSet :=
  let ranges? : Option Ranges :=
    match name with
    | "lu" | "uppercaseletter" => some Category.uppercaseLetter
    | "ll" | "lowercaseletter" => some Category.lowercaseLetter
    | "lt" | "titlecaseletter" => some Category.titlecaseLetter
    | "lm" | "modifierletter" => some Category.modifierLetter
    | "lo" | "otherletter" => some Category.otherLetter
    | "l" | "letter" => some Category.letter
    | "lc" | "casedletter" => some Category.casedLetter
    | "mn" | "nonspacingmark" => some Category.nonspacingMark
    | "mc" | "spacingmark" => some Category.spacingMark
    | "me" | "enclosingmark" => some Category.enclosingMark
    | "m" | "mark" | "combiningmark" => some Category.mark
    | "nd" | "decimalnumber" | "digit" => some Category.decimalNumber
    | "nl" | "letternumber" => some Category.letterNumber
    | "no" | "othernumber" => some Category.otherNumber
    | "n" | "number" => some Category.number
    | "pc" | "connectorpunctuation" => some Category.connectorPunctuation
    | "pd" | "dashpunctuation" => some Category.dashPunctuation
    | "ps" | "openpunctuation" => some Category.openPunctuation
    | "pe" | "closepunctuation" => some Category.closePunctuation
    | "pi" | "initialpunctuation" => some Category.initialPunctuation
    | "pf" | "finalpunctuation" => some Category.finalPunctuation
    | "po" | "otherpunctuation" => some Category.otherPunctuation
    | "p" | "punctuation" | "punct" => some Category.punctuation
    | "sm" | "mathsymbol" => some Category.mathSymbol
    | "sc" | "currencysymbol" => some Category.currencySymbol
    | "sk" | "modifiersymbol" => some Category.modifierSymbol
    | "so" | "othersymbol" => some Category.otherSymbol
    | "s" | "symbol" => some Category.symbol
    | "zs" | "spaceseparator" => some Category.spaceSeparator
    | "zl" | "lineseparator" => some Category.lineSeparator
    | "zp" | "paragraphseparator" => some Category.paragraphSeparator
    | "z" | "separator" => some Category.separator
    | "cc" | "control" | "cntrl" => some Category.control
    | "cf" | "format" => some Category.format
    | "co" | "privateuse" => some Category.privateUse
    | "assigned" => some Category.assigned
    | "any" => some [(0, CharSet.maxPoint)]
    | "ascii" => some [(0, 0x7f)]
    | _ => none
  match name with
  | "cn" | "unassigned" => some (CharSet.ofRanges Category.assigned).complement
  | "c" | "other" =>
    some ((CharSet.ofRanges (Category.control ++ Category.format ++
      Category.privateUse)).union (CharSet.ofRanges Category.assigned).complement)
  | _ => ranges?.map .ofRanges

/-- The property with a given normalized name. -/
def property? : String → Option CharSet
  | "asciihexdigit" | "ahex" => some (.ofRanges Property.asciiHexDigit)
  | "alphabetic" | "alpha" => some Property.alphabetic
  | "bidicontrol" | "bidic" => some (.ofRanges Property.bidiControl)
  | "bidimirrored" | "bidim" => some (.ofRanges Property.bidiMirrored)
  | "caseignorable" | "ci" => some Property.caseIgnorable
  | "cased" => some Property.cased
  | "changeswhencasefolded" | "cwcf" => some Property.changesWhenCasefolded
  | "changeswhencasemapped" | "cwcm" => some Property.changesWhenCasemapped
  | "changeswhenlowercased" | "cwl" => some Property.changesWhenLowercased
  | "changeswhentitlecased" | "cwt" => some Property.changesWhenTitlecased
  | "changeswhenuppercased" | "cwu" => some Property.changesWhenUppercased
  | "dash" => some (.ofRanges Property.dash)
  | "defaultignorablecodepoint" | "di" => some Property.defaultIgnorable
  | "deprecated" | "dep" => some (.ofRanges Property.deprecated)
  | "diacritic" | "dia" => some (.ofRanges Property.diacritic)
  | "emoji" => some (.ofRanges Property.emoji)
  | "emojicomponent" | "ecomp" => some (.ofRanges Property.emojiComponent)
  | "emojimodifier" | "emod" => some (.ofRanges Property.emojiModifier)
  | "emojimodifierbase" | "ebase" => some (.ofRanges Property.emojiModifierBase)
  | "emojipresentation" | "epres" => some (.ofRanges Property.emojiPresentation)
  | "extendedpictographic" | "extpict" => some (.ofRanges Property.extendedPictographic)
  | "extender" | "ext" => some (.ofRanges Property.extender)
  | "graphemebase" | "grbase" => some Property.graphemeBase
  | "graphemeextend" | "grext" => some Property.graphemeExtend
  | "graphemelink" | "grlink" => some (.ofRanges Property.graphemeLink)
  | "hexdigit" | "hex" => some (.ofRanges Property.hexDigit)
  | "hyphen" => some (.ofRanges Property.hyphen)
  | "idcompatmathcontinue" => some (.ofRanges Property.idCompatMathContinue)
  | "idcompatmathstart" => some (.ofRanges Property.idCompatMathStart)
  | "idcontinue" | "idc" => some Property.idContinue
  | "idsbinaryoperator" | "idsb" => some (.ofRanges Property.idsBinaryOperator)
  | "idstrinaryoperator" | "idst" => some (.ofRanges Property.idsTrinaryOperator)
  | "idsunaryoperator" | "idsu" => some (.ofRanges Property.idsUnaryOperator)
  | "idstart" | "ids" => some Property.idStart
  | "ideographic" | "ideo" => some (.ofRanges Property.ideographic)
  | "joincontrol" | "joinc" => some (.ofRanges Property.joinControl)
  | "logicalorderexception" | "loe" => some (.ofRanges Property.logicalOrderException)
  | "lowercase" | "lower" => some Property.lowercase
  | "math" => some Property.math
  | "modifiercombiningmark" | "mcm" => some (.ofRanges Property.modifierCombiningMark)
  | "noncharactercodepoint" | "nchar" => some (.ofRanges Property.noncharacter)
  | "otheralphabetic" | "oalpha" => some (.ofRanges Property.otherAlphabetic)
  | "otherdefaultignorablecodepoint" | "odi" => some (.ofRanges Property.otherDefaultIgnorable)
  | "othergraphemeextend" | "ogrext" => some (.ofRanges Property.otherGraphemeExtend)
  | "otheridcontinue" | "oidc" => some (.ofRanges Property.otherIdContinue)
  | "otheridstart" | "oids" => some (.ofRanges Property.otherIdStart)
  | "otherlowercase" | "olower" => some (.ofRanges Property.otherLowercase)
  | "othermath" | "omath" => some (.ofRanges Property.otherMath)
  | "otheruppercase" | "oupper" => some (.ofRanges Property.otherUppercase)
  | "patternsyntax" | "patsyn" => some (.ofRanges Property.patternSyntax)
  | "patternwhitespace" | "patws" => some (.ofRanges Property.patternWhiteSpace)
  | "prependedconcatenationmark" | "pcm" => some (.ofRanges Property.prependedConcatenationMark)
  | "quotationmark" | "qmark" => some (.ofRanges Property.quotationMark)
  | "radical" => some (.ofRanges Property.radical)
  | "regionalindicator" | "ri" => some (.ofRanges Property.regionalIndicator)
  | "sentenceterminal" | "sterm" => some (.ofRanges Property.sentenceTerminal)
  | "softdotted" | "sd" => some (.ofRanges Property.softDotted)
  | "terminalpunctuation" | "term" => some (.ofRanges Property.terminalPunctuation)
  | "unifiedideograph" | "uideo" => some (.ofRanges Property.unifiedIdeograph)
  | "uppercase" | "upper" => some Property.uppercase
  | "variationselector" | "vs" => some (.ofRanges Property.variationSelector)
  | "whitespace" | "wspace" | "space" => some (.ofRanges Property.whiteSpace)
  | "xidcontinue" | "xidc" => some Property.xidContinue
  | "xidstart" | "xids" => some Property.xidStart
  | _ => none

/-- The script with a given normalized name. -/
def script? (name : String) : Option CharSet :=
  (Script.find? name).map fun entry => .ofRanges entry.ranges

/-- The script with a given normalized name, extended by the characters that it shares. -/
def extendedScript? (name : String) : Option CharSet :=
  (Script.find? name).map fun entry =>
    (CharSet.diff (.ofRanges entry.ranges) (.ofRanges ScriptExtension.listed)).union
      (.ofRanges (ScriptExtension.listing entry.names))

/-- The class that a single name means: a property, a category or a script.  Three names of
categories are names of properties without a class, too. -/
def ofName? (name : List Char) : Option CharSet :=
  let name := normalize name
  if name == "cf" || name == "sc" || name == "lc" then category? name
  else (property? name <|> category? name) <|> script? name

/-- The class that a property's name and value mean together. -/
def ofNameAndValue? (name value : List Char) : Option CharSet :=
  let value := normalize value
  match normalize name with
  | "gc" | "generalcategory" => category? value
  | "sc" | "script" => script? value
  | "scx" | "scriptextensions" => extendedScript? value
  | "age" => (Age.find? value).map .ofRanges
  | "gcb" | "graphemeclusterbreak" => Segmentation.find? Segmentation.graphemeClasses value
  | "wb" | "wordbreak" => Segmentation.find? Segmentation.wordClasses value
  | "sb" | "sentencebreak" => Segmentation.find? Segmentation.sentenceClasses value
  | _ => none

end RegexTemplate.Unicode.PropertyName
