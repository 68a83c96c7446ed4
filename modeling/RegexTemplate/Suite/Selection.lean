import RegexTemplate.Suite.Discovery
import Std.Data.TreeSet

/-!
# Selection of categories

A request selects the category of its name and those below it; slashes at its ends are dropped.
Without requests every category is selected.  A request that adds nothing to the selection is
reported.
-/

namespace RegexTemplate.Suite

/-- A text without the slashes at its ends. -/
def trimSlashes (text : String) : String :=
  let front := text.toList.dropWhile (· == '/')
  String.ofList (front.reverse.dropWhile (· == '/')).reverse

/-- Whether a request, without slashes at its ends, selects a category. -/
def selects (request category : String) : Bool :=
  category == request || (request ++ "/").toList.isPrefixOf category.toList

/-- The names of the categories that have been selected, and the requests that have added
nothing. -/
structure Selection where
  chosen : Std.TreeSet String := ∅
  vain : List String := []

/-- Adds what a request selects. -/
def Selection.add (all : List Category) (selection : Selection) (request : String) : Selection :=
  let request := trimSlashes request
  let chosen := (all.filter fun category => selects request category.name).foldl
    (fun chosen category => chosen.insert category.name) selection.chosen
  { chosen
    vain := if chosen.size = selection.chosen.size then selection.vain ++ [request]
      else selection.vain }

/-- The categories that requests select, in order, and the requests that have added nothing. -/
def select (all : List Category) (requests : List String) : List Category × List String :=
  if requests.isEmpty then (all, [])
  else
    let selection := requests.foldl (Selection.add all) {}
    (all.filter fun category => selection.chosen.contains category.name, selection.vain)

/-- The warning for a request that has added nothing. -/
def warning (all : List Category) (request : String) : String :=
  "warning: category '" ++ request ++ "' not found (available: " ++ labels all ++ ")"

end RegexTemplate.Suite
