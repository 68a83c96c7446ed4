import RegexTemplate.Regex.Syntax

/-!
# Causes of failure in templates

What can go wrong while a template is built, filled in or put into one text, and what each cause is
called in a message.
-/

namespace RegexTemplate

/-- The causes of failure in templates. -/
inductive TemplateError where
  /-- A value is neither a pattern nor a literal nor a template. -/
  | unsupportedFragmentKind (kind : String)
  /-- Placeholders have not been filled in. -/
  | unboundPlaceholder (names : List String)
  /-- A reference names no template. -/
  | unknownTemplate (name : String)
  /-- A text is not of the form `/source/flags`. -/
  | invalidDelimitedPattern (text : String)
  /-- A text is no regular expression. -/
  | invalidRegex (fault : Regex.Fault)
deriving DecidableEq, Repr

/-- What a cause is called in a message. -/
def TemplateError.message : TemplateError → String
  | .unsupportedFragmentKind kind => "unsupported fragment kind: " ++ kind
  | .unboundPlaceholder names => "unbound placeholder(s): " ++ ", ".intercalate names
  | .unknownTemplate name => "unknown template: " ++ name
  | .invalidDelimitedPattern text => "invalid delimited pattern: " ++ text
  | .invalidRegex fault => "invalid regular expression: " ++ fault.message

end RegexTemplate
