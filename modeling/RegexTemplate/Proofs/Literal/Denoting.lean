import Mathlib
import RegexTemplate.Proofs.Literal.Reading
import RegexTemplate.Proofs.Marker.Splitting
import RegexTemplate.Proofs.Rendering.Spelling

/-!
# Literals denote themselves

A template whose places are all taken by literals has the escaped form of one text, the literals one
behind the other: whether it was built from them, or they were filled in for the markers of a pattern
that holds nothing else, in whatever order.  Escaping goes character by character, and so what stands
at the end of one literal cannot change how the next one is read.

As a regular expression, the escaped form of a text is one character after the other, and a search with
it finds the text and nothing else (`denotes_escape`).

Main statement: `literals_exact`.
-/

namespace RegexTemplate

open Regex (Expr Program)

namespace Literal

/-- A source denotes one text, as a regular expression without flags. -/
structure Denotes (source raw : String) : Prop where
  /-- By the rules of the syntax, it stands for the characters of the text and for no others. -/
  reads : ∀ row, Reads source.toList row ↔ row = raw.toList
  /-- The reader takes it for a row, -/
  parses : Expr.parse {} source = .ok (.ofRow raw.toList)
  /-- which has the characters of the text as its parts, one after the other. -/
  atoms : (Expr.ofRow raw.toList).parts = raw.toList.map fun c => .chars (.singleton c)
  /-- The row is compiled to the program that takes its characters, -/
  compiles : (Expr.ofRow raw.toList).compile 0 #[.accept] =
    ((Program.ofRow raw.toList).start, (Program.ofRow raw.toList).instrs)
  /-- and with this program the source is accepted, unless it is too large. -/
  accepted : (Pattern.ofSource source).toRegex =
    if (Expr.ofRow raw.toList).isSmall then .ok ⟨source, .ofRow raw.toList⟩
    else .error (.invalidRegex .tooLarge)
  /-- The program finds something in the texts in which the text occurs. -/
  occurs : ∀ text,
    ((Program.ofRow raw.toList).find? text).isSome ↔ raw.toList <:+: text.toList
  /-- The only text that it finds from one end to the other is that text. -/
  whole : ∀ text, (Program.ofRow raw.toList).find? text = some (0, text.utf8ByteSize) ↔ text = raw

/-- The escaped form of a text denotes the text. -/
theorem denotes_escape (raw : String) : Denotes (escape raw) raw := by
  have hchars : (escape raw).toList = escapeChars raw.toList := String.toList_ofList
  have hreads : Reads (escape raw).toList raw.toList := by
    rw [hchars]
    exact reads_escapeChars raw.toList
  have hparse := Regex.parse_of_reads hreads
  refine ⟨fun row => ?_, hparse, Regex.Expr.parts_ofRow _, Regex.compile_ofRow _, ?_,
    fun text => Regex.isSome_find?_ofRow_iff, fun text => Regex.find?_ofRow_eq_whole_iff⟩
  · constructor
    · intro hrow
      exact hrow.unique hreads
    · rintro rfl
      exact hreads
  · have hcompile : Regex.compile (escape raw) {} =
        (Program.ofExpr (.ofRow raw.toList)).map (⟨escape raw, ·⟩) := by
      rw [Regex.compile, hparse]
      rfl
    have hmodes : (Pattern.ofSource (escape raw)).modes = {} := rfl
    rw [Pattern.toRegex, hmodes, Pattern.ofSource, hcompile, Regex.ofExpr_ofRow]
    split <;> rfl

/-- Texts may be put together before or after they are escaped, in however many pieces each of them is
then written. -/
theorem join_flatMap_escape {pieces : String → List String}
    (hpieces : ∀ raw, String.join (pieces raw) = escape raw) (raws : List String) :
    String.join (raws.flatMap pieces) = escape (String.join raws) := by
  induction raws with
  | nil => rfl
  | cons raw raws ih =>
      rw [List.flatMap_cons, String.join_append, hpieces, ih, String.join_cons, escape_append]

end Literal

namespace Token

/-- What comes in place of a token when literals are filled in, where the first one for a name
counts. -/
def resolve (values : List (String × String)) : Token → Token
  | .name other =>
    match values.lookup other with
    | some raw => .literal (Literal.escape raw)
    | none => .name other
  | token => token

/-- Filling in literals one after the other puts each of them in its places. -/
theorem substituteEach_literals (tokens : List Token) (values : List (String × String)) :
    substituteEach tokens (values.map fun value => (value.1, .literal value.2)) =
      tokens.map (resolve values) := by
  induction values generalizing tokens with
  | nil =>
      have hresolve : resolve [] = id := by
        funext token
        cases token <;> rfl
      rw [hresolve, List.map_id]
      rfl
  | cons value values ih =>
      obtain ⟨name, raw⟩ := value
      have hfill : ∀ token, (fill name [.literal (Literal.escape raw)] token).map (resolve values) =
          [resolve ((name, raw) :: values) token] := by
        intro token
        cases token with
        | literal text => rfl
        | nested place => rfl
        | name other =>
            by_cases heq : other = name
            · simp [fill, resolve, heq]
            · have hlookup : ((name, raw) :: values).lookup other = values.lookup other := by
                rw [List.lookup_cons, beq_false_of_ne heq]
              simp [fill, resolve, heq, hlookup]
      have hfirst : substituteEach tokens
          (((name, raw) :: values).map fun value => (value.1, .literal value.2)) =
          substituteEach (substitute name [.literal (Literal.escape raw)] tokens)
            (values.map fun value => (value.1, .literal value.2)) := rfl
      rw [hfirst, ih, substitute, List.map_flatMap, List.map_eq_flatMap]
      exact List.flatMap_congr fun token _ => hfill token

/-- If there is a literal for each of some names, it comes in place of the name. -/
theorem map_resolve_names {values : List (String × String)} {names raws : List String}
    (hraws : List.Forall₂ (fun name raw => values.lookup name = some raw) names raws) :
    (names.flatMap fun name => [Token.name name, .literal ""]).map (resolve values) =
      (raws.flatMap fun raw => [Literal.escape raw, ""]).map .literal := by
  induction hraws with
  | nil => rfl
  | cons hlookup _ ih =>
      rw [List.flatMap_cons, List.map_append, ih, List.flatMap_cons, List.map_append,
        List.map_cons, resolve, hlookup]
      rfl

/-- Literals are spelled out one behind the other. -/
theorem spell?_literals {nested : Nat → Option String} (texts : List String) :
    spell? nested (texts.map .literal) = some (String.join texts) := by
  induction texts with
  | nil => rfl
  | cons text texts ih => rw [List.map_cons, spell?, ih, String.join_cons]; rfl

end Token

namespace Marker

/-- The parts of an alternation are its literals and names in turn. -/
theorem parts_alternate (first : String) (more : List (String × String)) :
    parts (alternate first more) = .literal first ::
      more.flatMap fun pair => [.placeholder pair.1, .literal pair.2] := by
  induction more generalizing first with
  | nil => rfl
  | cons pair more ih =>
      have hrest := ih pair.2
      rw [alternate] at hrest
      rw [alternate, List.flatMap_cons, List.cons_append, List.cons_append, List.nil_append, parts,
        hrest, List.flatMap_cons]
      rfl

/-- A text made of markers only has no literals but empty ones. -/
theorem split_of_markers {names : List String} {markers : List (List Char)}
    (hmarkers : List.Forall₂ (fun name marker => IsMarker name.toList marker) names markers) :
    split (String.ofList markers.flatten) = alternate "" (names.map fun name => (name, "")) := by
  have hinterleaved : Interleaved [] (chars (names.map fun name => (name, ""))) markers.flatten := by
    induction hmarkers with
    | nil => exact .last markerFree_nil
    | cons hmarker _ ih => exact .marker markerFree_nil hmarker ih
  have hchars : (String.ofList markers.flatten).toList = markers.flatten := String.toList_ofList
  rw [split_eq_alternate_iff, scan_eq_iff, hchars]
  exact hinterleaved

end Marker

/-- The tokens of a pattern that is made of markers only are their names, and empty literals. -/
theorem Fragment.tokens_of_markers {names : List String} {markers : List (List Char)}
    {flags : String}
    (hmarkers : List.Forall₂ (fun name marker => Marker.IsMarker name.toList marker) names markers) :
    (Fragment.pattern ⟨String.ofList markers.flatten, flags⟩).tokens =
      .literal "" :: names.flatMap fun name => [.name name, .literal ""] := by
  rw [Fragment.tokens, Marker.split_of_markers hmarkers, Marker.parts_alternate, List.map_cons,
    List.flatMap_map, List.map_flatMap]
  rfl

namespace Template

open Literal (escape Denotes)
open Marker (IsMarker)

variable {shelf : Shelf} {raws : List String}

/-- A template has a text if its tokens are literals. -/
theorem Sound.compileSource_of_literals {template : Template} (hsound : Sound template)
    (hshelf : shelf.Ordered) {texts : List String}
    (htokens : template.expand root = texts.map .literal) :
    shelf.compileSource template = .ok (String.join texts) := by
  have hspell := hsound.toOption_compileSource hshelf
  rw [htokens, Token.spell?_literals] at hspell
  cases hrun : shelf.compileSource template with
  | error e =>
      rw [hrun] at hspell
      cases hspell
  | ok text =>
      rw [hrun] at hspell
      exact congrArg Except.ok (Option.some.inj hspell)

/-- A template that is built from literals has their escaped text. -/
theorem compileSource_build_literals (hshelf : shelf.Ordered) (raws : List String) :
    shelf.compileSource (build (raws.map .literal)) = .ok (escape (String.join raws)) := by
  have htokens : (build (raws.map .literal)).expand root =
      (raws.flatMap fun raw => [escape raw]).map .literal := by
    rw [expand_build, List.flatMap_map, List.map_flatMap]
    rfl
  have hpieces : ∀ raw, String.join [escape raw] = escape raw := by
    intro raw
    rw [String.join_cons, String.join_nil, String.append_empty]
  rw [(sound_build _).compileSource_of_literals hshelf htokens, Literal.join_flatMap_escape hpieces]

/-- A pattern that is made of markers only, with literals filled in for all of them, has the escaped
text of the literals in the order of the markers. -/
theorem compileSource_performAll_literals (hshelf : shelf.Ordered) {names : List String}
    {markers : List (List Char)} {flags : String} {calls : List Call}
    {values : List (String × String)}
    (hmarkers : List.Forall₂ (fun name marker => IsMarker name.toList marker) names markers)
    (hcalls : calls.flatMap Call.bindings =
      values.map fun value => (value.1, .ok (.literal value.2)))
    (hraws : List.Forall₂ (fun name raw => values.lookup name = some raw) names raws) :
    shelf.compileSource
        ((build [.pattern ⟨String.ofList markers.flatten, flags⟩]).performAll calls) =
      .ok (escape (String.join raws)) := by
  have hsound : Sound ((build [.pattern ⟨String.ofList markers.flatten, flags⟩]).performAll calls) :=
    ((reachable_build _).performAll calls).sound
  have heffective : calls.flatMap Call.effective =
      values.map fun value => (value.1, .literal value.2) := by
    apply effective_of_bindings
    rw [hcalls, List.map_map]
    rfl
  have htokens : ((build [.pattern ⟨String.ofList markers.flatten, flags⟩]).performAll calls).expand
      root = ("" :: raws.flatMap fun raw => [escape raw, ""]).map .literal := by
    rw [expand_performAll, heffective, Token.substituteEach_literals, List.flatMap_singleton,
      Fragment.tokens_of_markers hmarkers, List.map_cons, Token.map_resolve_names hraws]
    rfl
  have hpieces : ∀ raw, String.join [escape raw, ""] = escape raw := by
    intro raw
    rw [String.join_cons, String.join_cons, String.join_nil, String.append_empty,
      String.append_empty]
  rw [hsound.compileSource_of_literals hshelf htokens, String.join_cons,
    Literal.join_flatMap_escape hpieces, String.empty_append]

/-- **Literals denote exactly themselves, alone and put together.**

* A template that is built from literals has the escaped form of their texts, one behind the other.
* So has a pattern that is made of markers only, in the order of the markers, once there is a literal
  for each of their names.  The names may be filled in by any calls and in any order; the first literal
  for a name counts.
* The escaped form of a text, read as a regular expression, is one character after the other and denotes
  the text: it is found where the text occurs, and matches no other text as a whole.
* Different texts have different escaped forms. -/
theorem literals_exact :
    (∀ shelf : Shelf, shelf.Ordered → ∀ raws : List String,
      shelf.compileSource (build (raws.map .literal)) = .ok (escape (String.join raws))) ∧
    (∀ shelf : Shelf, shelf.Ordered →
      ∀ (names raws : List String) (markers : List (List Char)) (flags : String)
        (calls : List Call) (values : List (String × String)),
      List.Forall₂ (fun name marker => IsMarker name.toList marker) names markers →
      calls.flatMap Call.bindings = values.map (fun value => (value.1, .ok (.literal value.2))) →
      List.Forall₂ (fun name raw => values.lookup name = some raw) names raws →
      shelf.compileSource
          ((build [.pattern ⟨String.ofList markers.flatten, flags⟩]).performAll calls) =
        .ok (escape (String.join raws))) ∧
    (∀ raw, Denotes (escape raw) raw) ∧
    Function.Injective escape := by
  refine ⟨?_, ?_, Literal.denotes_escape, ?_⟩
  · intro shelf hshelf raws
    exact compileSource_build_literals hshelf raws
  · intro shelf hshelf names raws markers flags calls values hmarkers hcalls hraws
    exact compileSource_performAll_literals hshelf hmarkers hcalls hraws
  · intro raw other heq
    exact Literal.escape_injective heq

/-- Literals that end in a backslash, with a literal between them that begins with a character that has
a meaning.  The last one is filled in first, and a second value for a name comes too late. -/
theorem literals_exact_backslashes :
    Shelf.drawer.Ordered ∧
      Shelf.drawer.compileSource
        ((build [.pattern ⟨"\\VAR\x7bx\x7d\\var \x7b y\x7d\\VAR\x7bx\x7d", "i"⟩]).performAll
          [.bind "y" (.ok (.literal ".")),
            .bindAll [("x", .ok (.literal "n\\")), ("x", .ok (.literal "late"))]]) =
        .ok "n\\\\\\.n\\\\" ∧
      Denotes "n\\\\\\.n\\\\" "n\\.n\\" := by
  obtain ⟨-, hfill, hdenotes, -⟩ := literals_exact
  have hx : IsMarker "x".toList "\\VAR\x7bx\x7d".toList :=
    Marker.isMarker_of_isName (by simp [Marker.IsName])
  have hblank : Marker.Blank [' '] :=
    List.forall_mem_singleton.2 (Marker.has_whiteSpace_iff.2 (by decide))
  have hnone : Marker.Blank [] := fun c hc => absurd hc List.not_mem_nil
  have hname : Marker.IsName ['y'] := by simp [Marker.IsName]
  have hy : IsMarker "y".toList "\\var \x7b y\x7d".toList :=
    .mk (Or.inr rfl) (Or.inr rfl) (Or.inr rfl) hblank hblank hname hnone
  have hescape : escape "n\\.n\\" = "n\\\\\\.n\\\\" := by decide +kernel
  rw [← hescape]
  refine ⟨Shelf.ordered_drawer, ?_, hdenotes _⟩
  exact hfill Shelf.drawer Shelf.ordered_drawer ["x", "y", "x"] ["n\\", ".", "n\\"]
    ["\\VAR\x7bx\x7d".toList, "\\var \x7b y\x7d".toList, "\\VAR\x7bx\x7d".toList] "i" _
    [("y", "."), ("x", "n\\"), ("x", "late")]
    (.cons hx (.cons hy (.cons hx .nil))) rfl (.cons rfl (.cons rfl (.cons rfl .nil)))

end Template

end RegexTemplate
