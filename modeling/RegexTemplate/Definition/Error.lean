import RegexTemplate.Template.Error
import RegexTemplate.Toml.Cursor
import RegexTemplate.Toml.Decoding

/-!
# Errors in definitions

What can go wrong with a definition, with the place in its document and the file that the document
was read from.
-/

namespace RegexTemplate.Definition

/-- The causes for which a text is no definition. -/
inductive Cause where
  /-- The text is no document. -/
  | malformed (fault : Toml.Fault)
  /-- The document does not hold recipes. -/
  | misfit (reason : Toml.Misfit)
  /-- A value cannot be used in a template. -/
  | template (error : TemplateError)
  /-- A name stands for a template already. -/
  | repeatedName (name : String)
  /-- There are no recipes. -/
  | empty
  /-- The entry of the definition is none of its templates. -/
  | undefinedEntry (name : String)

/-- What a cause is called in a message, where the words for a text that is no document are given. -/
def Cause.messageIn (words : Toml.Fault → String) : Cause → String
  | .malformed fault => words fault
  | .misfit reason => reason.message
  | .template error => error.message
  | .repeatedName name => "duplicate template name '" ++ name ++ "'"
  | .empty => "no templates defined"
  | .undefinedEntry name => "entry template '" ++ name ++ "' is not defined"

/-- What a cause is called in a message. -/
def Cause.message : Cause → String := Cause.messageIn Toml.Fault.message

/-- What helps to mend a cause. -/
def Cause.notes : Cause → List String
  | .empty => ["add at least one [[template]] table"]
  | _ => []

/-- A cause with its place and its file. -/
structure Error where
  cause : Cause
  span : Option Toml.Span
  fileId : Nat

/-- What an error is called in a message, where the words for a text that is no document are given. -/
def Error.messageIn (words : Toml.Fault → String) (error : Error) : String :=
  error.cause.messageIn words

/-- What an error is called in a message. -/
def Error.message (error : Error) : String := error.messageIn Toml.Fault.message

/-- What helps to mend an error. -/
def Error.notes (error : Error) : List String := error.cause.notes

end RegexTemplate.Definition
