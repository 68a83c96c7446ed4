import RegexTemplate.Proofs.Literal.Reading
import RegexTemplate.Proofs.Marker.Splitting
import RegexTemplate.Proofs.Runs.Reordering

/-!
# Literals written as patterns

A raw text may be given as a literal, or as the pattern of its escaped form.  Both become the same slot,
because no marker stands in an escaped text: the brace of a marker follows the keyword or a blank
(`IsMarker.exists_brace`), and in an escaped text it follows a backslash (`Reads.getLast?_eq`).  So a run
leaves the same nodes whichever of the two is given, in each of its places: this is shown for one
fragment (`place_of_respelled`), from there for each call, and by induction for whole runs
(`performAll_of_respelled`) and for the templates that they nest (`Shelf.Respelled.eq`).

Main statement: `literals_are_patterns`.
-/

namespace RegexTemplate

namespace Marker

/-- The opening brace of a marker does not follow a backslash. -/
theorem IsMarker.exists_brace {name marker : List Char} (hmarker : IsMarker name marker) :
    ∃ word c rest, marker = word ++ '\x7b' :: rest ∧ word.getLast? = some c ∧ c ≠ '\\' := by
  obtain ⟨tail, htail, hbackslash⟩ := hmarker.exists_tail
  obtain @⟨v, a, r, before, between, behind, name, -, -, -, -, -, -, -⟩ := hmarker
  rw [List.cons.injEq] at htail
  obtain ⟨c, hc⟩ : ∃ c, (v :: a :: r :: before).getLast? = some c :=
    ⟨_, List.getLast?_eq_some_getLast (List.cons_ne_nil v _)⟩
  have hmem : c ∈ tail := by
    have hword := List.mem_of_getLast? hc
    rw [← htail.2]
    simp only [List.mem_cons, List.mem_append] at hword ⊢
    tauto
  refine ⟨'\\' :: v :: a :: r :: before, c, _, rfl, ?_, ?_⟩
  · rwa [List.getLast?_cons_cons]
  · rintro rfl
    exact hbackslash hmem

end Marker

namespace Literal

open Marker (IsMarker MarkerFree)

variable {text raw front rest word : List Char} {c : Char}

/-- In an escaped text, a character with a meaning follows a backslash, unless it is a backslash
itself. -/
theorem Reads.getLast?_eq (h : Reads text raw) (hmeta : isMeta c) (hc : c ≠ '\\')
    (htext : text = front ++ c :: rest) : front.getLast? = some '\\' := by
  induction h generalizing front with
  | nil => simp at htext
  | @plain d text raw hplain _ ih =>
      cases front with
      | nil =>
          rw [List.nil_append, List.cons.injEq] at htext
          exact absurd (htext.1 ▸ hmeta) hplain
      | cons e front =>
          rw [List.cons_append, List.cons.injEq] at htext
          rw [List.getLast?_cons, ih htext.2, Option.getD_some]
  | @escaped d text raw _ _ ih =>
      cases front with
      | nil =>
          rw [List.nil_append, List.cons.injEq] at htext
          exact absurd htext.1.symm hc
      | cons e front =>
          rw [List.cons_append, List.cons.injEq] at htext
          cases front with
          | nil => rw [List.getLast?_singleton, htext.1]
          | cons e' front =>
              rw [List.cons_append, List.cons.injEq] at htext
              rw [List.getLast?_cons_cons, List.getLast?_cons, ih htext.2.2, Option.getD_some]

/-- **No marker stands in an escaped text.** -/
theorem markerFree_escapeChars (raw : List Char) : MarkerFree (escapeChars raw) := by
  intro name marker hmarker hinfix
  obtain ⟨word, c, rest, rfl, hlast, hc⟩ := hmarker.exists_brace
  obtain ⟨front, back, heq⟩ := hinfix
  have htext : escapeChars raw = (front ++ word) ++ '\x7b' :: (rest ++ back) := by
    rw [← heq]
    simp
  have hfollows := (reads_escapeChars raw).getLast?_eq (by decide) (by decide) htext
  rw [List.getLast?_append, hlast, Option.some_or, Option.some.injEq] at hfollows
  exact hc hfollows

/-- An escaped text is not split. -/
theorem split_escape (raw : String) : Marker.split (escape raw) = [escape raw] := by
  have hchars : (escape raw).toList = escapeChars raw.toList := String.toList_ofList
  have hsplit : Marker.split (escape raw) = Marker.alternate (escape raw) [] := by
    rw [Marker.split_eq_alternate_iff, Marker.scan_eq_iff, hchars]
    exact .last (markerFree_escapeChars raw.toList)
  exact hsplit

/-- Characters without a meaning are written as they are. -/
theorem escapeChars_of_plain (hword : ∀ c ∈ word, ¬ isMeta c) : escapeChars word = word := by
  have hreads : Reads word word := by
    induction word with
    | nil => exact .nil
    | cons c word ih =>
        rw [List.forall_mem_cons] at hword
        exact .plain hword.1 (ih hword.2)
  exact (reads_iff.1 hreads).symm

/-- A backslash in front of characters without a meaning is still in front of them when the text has
been escaped. -/
theorem backslash_infix_escapeChars (hword : ∀ c ∈ word, ¬ isMeta c) (h : '\\' :: word <:+: raw) :
    '\\' :: word <:+: escapeChars raw := by
  obtain ⟨front, back, rfl⟩ := h
  have hbackslash : escapeChars ('\\' :: word) = '\\' :: '\\' :: word := by
    have happend := escapeChars_append ['\\'] word
    rw [escapeChars_of_plain hword] at happend
    exact happend
  refine ⟨escapeChars front ++ ['\\'], escapeChars back, ?_⟩
  rw [escapeChars_append, escapeChars_append, hbackslash]
  simp

end Literal

open Literal (escape isMeta)

/-- A fragment and the one that is given in its place: it is the same, or one of them is a raw text and
the other the pattern of its escaped form. -/
inductive Fragment.Respelled : Fragment → Fragment → Prop
  | same (fragment : Fragment) : Respelled fragment fragment
  | escaped (raw flags : String) : Respelled (.literal raw) (.pattern ⟨escape raw, flags⟩)
  | raw (raw flags : String) : Respelled (.pattern ⟨escape raw, flags⟩) (.literal raw)

/-- Two inputs that have converted to such fragments, or have failed to convert alike. -/
inductive Fragment.GivenRespelled :
    Except TemplateError Fragment → Except TemplateError Fragment → Prop
  | ok {fragment fragment' : Fragment} (h : fragment.Respelled fragment') :
      GivenRespelled (.ok fragment) (.ok fragment')
  | error (e : TemplateError) : GivenRespelled (.error e) (.error e)

namespace Template

/-- Two values for the same name, one of which may be written as the other is not. -/
def BindingRespelled (binding binding' : String × Except TemplateError Fragment) : Prop :=
  binding.1 = binding'.1 ∧ Fragment.GivenRespelled binding.2 binding'.2

/-- Two calls of the same kind, with such values. -/
inductive Call.Respelled : Call → Call → Prop
  | bind (name : String) {value value' : Except TemplateError Fragment}
      (h : Fragment.GivenRespelled value value') : Respelled (.bind name value) (.bind name value')
  | bindAll {bindings bindings' : List (String × Except TemplateError Fragment)}
      (h : List.Forall₂ BindingRespelled bindings bindings') :
      Respelled (.bindAll bindings) (.bindAll bindings')
  | withBindings {bindings bindings' : List (String × Except TemplateError Fragment)}
      (h : List.Forall₂ BindingRespelled bindings bindings') :
      Respelled (.withBindings bindings) (.withBindings bindings')

variable {template : Template} {fragment fragment' : Fragment}
  {fragments fragments' : List (Except TemplateError Fragment)} {call call' : Call}
  {calls calls' : List Call}
  {bindings bindings' : List (String × Except TemplateError Fragment)}

/-- The pattern of an escaped text becomes the slot of the literal. -/
theorem place_escape (template : Template) (raw flags : String) :
    template.place (.pattern ⟨escape raw, flags⟩) = template.place (.literal raw) := by
  have hsplit : (Marker.split (Pattern.mk (escape raw) flags).source).length = 1 := by
    rw [Literal.split_escape, List.length_singleton]
  rw [place_of_unmarked template hsplit]
  rfl

/-- Whichever of the two is given, the slot and the nodes are the same. -/
theorem place_of_respelled (h : fragment.Respelled fragment') (template : Template) :
    template.place fragment = template.place fragment' := by
  cases h with
  | same => rfl
  | escaped raw flags => exact (place_escape template raw flags).symm
  | raw raw flags => exact place_escape template raw flags

theorem append_of_respelled (h : fragment.Respelled fragment') (template : Template) :
    template.append fragment = template.append fragment' := by
  rw [append, append, place_of_respelled h]

theorem bind_of_respelled (h : fragment.Respelled fragment') (template : Template) (name : String) :
    template.bind name fragment = template.bind name fragment' := by
  rw [bind, bind, place_of_respelled h]

/-- Rows of such inputs fail alike, or all of them have converted. -/
theorem mapM_of_respelled (h : List.Forall₂ Fragment.GivenRespelled fragments fragments') :
    (∃ e, fragments.mapM id = .error e ∧ fragments'.mapM id = .error e) ∨
      ∃ values values', fragments.mapM id = .ok values ∧ fragments'.mapM id = .ok values' ∧
        List.Forall₂ Fragment.Respelled values values' := by
  induction h with
  | nil => exact Or.inr ⟨[], [], rfl, rfl, .nil⟩
  | cons hgiven _ ih =>
      rw [List.mapM_cons, List.mapM_cons]
      cases hgiven with
      | error e => exact Or.inl ⟨e, rfl, rfl⟩
      | @ok fragment fragment' hfragment =>
          rcases ih with ⟨e, he, he'⟩ | ⟨values, values', hvalues, hvalues', hall⟩
          · rw [he, he']
            exact Or.inl ⟨e, rfl, rfl⟩
          · rw [hvalues, hvalues']
            exact Or.inr ⟨fragment :: values, fragment' :: values', rfl, rfl, .cons hfragment hall⟩

/-- Building from such inputs gives the same template, or fails alike. -/
theorem ofFragments_of_respelled
    (h : List.Forall₂ Fragment.GivenRespelled fragments fragments') :
    ofFragments fragments = ofFragments fragments' := by
  rw [ofFragments, ofFragments]
  rcases mapM_of_respelled h with ⟨e, he, he'⟩ | ⟨values, values', hvalues, hvalues', hall⟩
  · rw [he, he']
  · have hbuild : build values = build values' := by
      rw [build, build]
      exact List.rel_foldl (fun template template' heq _ _ hfragment => by
        rw [heq, append_of_respelled hfragment]) rfl hall
    rw [hvalues, hvalues']
    exact congrArg Except.ok hbuild

theorem bindAll_of_respelled (h : List.Forall₂ BindingRespelled bindings bindings')
    (template : Template) : template.bindAll bindings = template.bindAll bindings' := by
  induction h generalizing template with
  | nil => rfl
  | @cons binding binding' bindings bindings' hbinding _ ih =>
      obtain ⟨name, value⟩ := binding
      obtain ⟨name', value'⟩ := binding'
      obtain ⟨rfl, hvalue⟩ := hbinding
      cases hvalue with
      | error e => rfl
      | ok hfragment => rw [bindAll, bindAll, bind_of_respelled hfragment, ih]

/-- A call leaves the same template and fails alike. -/
theorem perform_of_respelled (h : call.Respelled call') (template : Template) :
    call.perform template = call'.perform template := by
  cases h with
  | bind name h =>
      cases h with
      | error e => rfl
      | ok hfragment => rw [Call.perform, Call.perform, bind_of_respelled hfragment]
  | bindAll h => exact bindAll_of_respelled h template
  | withBindings h =>
      rw [Call.perform, Call.perform, withBindings, withBindings, bindAll_of_respelled h]

/-- So do whole rows of calls. -/
theorem performAll_of_respelled (h : List.Forall₂ Call.Respelled calls calls')
    (template : Template) : template.performAll calls = template.performAll calls' := by
  induction h generalizing template with
  | nil => rfl
  | @cons call call' calls calls' hcall _ ih =>
      have hrest := ih (call'.perform template).1
      rw [performAll, performAll] at hrest ⊢
      rw [List.foldl_cons, List.foldl_cons, perform_of_respelled hcall]
      exact hrest

/-- Filling in a literal closes its name and opens none. -/
theorem Sound.unassigned_bind_literal (hsound : Sound template) (name raw : String) :
    (template.bind name (.literal raw)).unassigned = template.unassigned.filter (· ≠ name) := by
  refine (pairwise_unassigned _).eq_of_mem_iff ((pairwise_unassigned _).filter _) fun other => ?_
  rw [(hsound.bind name (.literal raw)).mem_unassigned_iff, expand_bind hsound,
    Token.name_mem_substitute_iff, List.mem_filter, hsound.mem_unassigned_iff]
  simp [Fragment.tokens, and_comm]

/-- A literal among the fragments opens no name. -/
theorem unassigned_build_literal (front back : List Fragment) (raw : String) :
    (build (front ++ .literal raw :: back)).unassigned = (build (front ++ back)).unassigned := by
  refine unassigned_congr fun name => ?_
  rw [(sound_build _).mem_unassigned_iff, (sound_build _).mem_unassigned_iff, expand_build,
    expand_build]
  simp [Fragment.tokens]

end Template

namespace Shelf

/-- Two shelves that are filled by two runs which differ only in that raw texts are given as literals in
the one and as patterns of their escaped forms in the other. -/
inductive Respelled : Shelf → Shelf → Prop
  | empty : Respelled {} {}
  | put {shelf other : Shelf} {fragments fragments' : List (Except TemplateError Fragment)}
      {start start' : Template} {calls calls' : List Template.Call}
      (hshelves : Respelled shelf other)
      (hfragments : List.Forall₂ Fragment.GivenRespelled fragments fragments')
      (hcalls : List.Forall₂ Template.Call.Respelled calls calls')
      (hstart : Template.ofFragments fragments = .ok start)
      (hstart' : Template.ofFragments fragments' = .ok start') :
      Respelled (shelf.put (start.performAll calls)).2 (other.put (start'.performAll calls')).2

/-- Such runs fill their shelves with the same templates. -/
theorem Respelled.eq {shelf other : Shelf} (h : shelf.Respelled other) : shelf = other := by
  induction h with
  | empty => rfl
  | put _ hfragments hcalls hstart hstart' ih =>
      rw [Template.ofFragments_of_respelled hfragments, hstart', Except.ok.injEq] at hstart
      rw [ih, ← hstart, Template.performAll_of_respelled hcalls]

end Shelf

namespace Template

/-- **A literal and the pattern of its escaped form are the same fragment.**

* An escaped text is its own only part when it is split.
* This is so although a backslash in front of a keyword is still in front of it when the text has been
  escaped.  In a reachable template a literal that is filled in opens no name, and among the fragments of
  a template it opens none either.
* Let two runs differ only in that raw texts are given as literals in the one and as patterns of their
  escaped forms in the other, at any of the places where something is given, also in templates that are
  nested.  Then the nested templates are the same, both runs start with the same template or fail alike,
  and they leave the same nodes.  Hence the open names and the number of nodes are the same, and the text
  or the cause why there is none. -/
theorem literals_are_patterns :
    (∀ raw, Marker.split (escape raw) = [escape raw]) ∧
    (∀ (raw : String) (word : List Char), (∀ c ∈ word, ¬ isMeta c) →
      '\\' :: word <:+: raw.toList → '\\' :: word <:+: (escape raw).toList) ∧
    (∀ template, Reachable template → ∀ name raw,
      (template.bind name (.literal raw)).unassigned = template.unassigned.filter (· ≠ name)) ∧
    (∀ (front back : List Fragment) raw,
      (build (front ++ .literal raw :: back)).unassigned = (build (front ++ back)).unassigned) ∧
    ∀ (shelf other : Shelf) (fragments fragments' : List (Except TemplateError Fragment))
      (calls calls' : List Call), shelf.Respelled other →
      List.Forall₂ Fragment.GivenRespelled fragments fragments' →
      List.Forall₂ Call.Respelled calls calls' →
      shelf = other ∧ ofFragments fragments = ofFragments fragments' ∧
      ∀ start, ofFragments fragments = .ok start →
        start.performAll calls = start.performAll calls' ∧
        (start.performAll calls).unassigned = (start.performAll calls').unassigned ∧
        (start.performAll calls).nodeCount = (start.performAll calls').nodeCount ∧
        shelf.compileSource (start.performAll calls) =
          other.compileSource (start.performAll calls') := by
  refine ⟨Literal.split_escape, ?_, ?_, unassigned_build_literal, ?_⟩
  · intro raw word hword hinfix
    have hchars : (escape raw).toList = Literal.escapeChars raw.toList := String.toList_ofList
    rw [hchars]
    exact Literal.backslash_infix_escapeChars hword hinfix
  · intro template h name raw
    exact h.sound.unassigned_bind_literal name raw
  · intro shelf other fragments fragments' calls calls' hshelves hfragments hcalls
    refine ⟨hshelves.eq, ofFragments_of_respelled hfragments, fun start _ => ?_⟩
    have hsame := performAll_of_respelled hcalls start
    rw [hshelves.eq, hsame]
    exact ⟨rfl, rfl, rfl, rfl⟩

/-- A shelf with a template that holds one fragment. -/
def shelfWith (fragment : Fragment) : Shelf := (({} : Shelf).put (build [fragment])).2

/-- A fragment, a nested template, and a name that is to be filled in. -/
def threeParts (fragment : Fragment) : List Fragment :=
  [fragment, .template 0, .pattern ⟨"-\\VAR\x7bx\x7d", ""⟩]

/-- A raw text that reads like a marker opens no name.  Given as a literal or escaped, like the text of
the nested template and the value that is filled in, it leads to the same text. -/
theorem literals_are_patterns_injected :
    '\\' :: ['V', 'A', 'R'] <:+: (escape "\\VAR\x7by\x7d").toList ∧
      ((build [.pattern ⟨"\\VAR\x7bx\x7d", ""⟩]).bind "x"
        (.literal "\\VAR\x7by\x7d")).unassigned = [] ∧
      (shelfWith (.literal "a.b")).compileSource
          ((build (threeParts (.literal "\\VAR\x7by\x7d"))).performAll
            [.bind "x" (.ok (.literal "?"))]) =
        (shelfWith (.pattern ⟨escape "a.b", "i"⟩)).compileSource
          ((build (threeParts (.literal "\\VAR\x7by\x7d"))).performAll
            [.bind "x" (.ok (.pattern ⟨escape "?", ""⟩))]) := by
  obtain ⟨-, hword, hbind, -, hruns⟩ := literals_are_patterns
  have hopen : (build [.pattern ⟨"\\VAR\x7bx\x7d", ""⟩]).unassigned = ["x"] := by cbv
  have hshelves : (shelfWith (.literal "a.b")).Respelled
      (shelfWith (.pattern ⟨escape "a.b", "i"⟩)) := by
    have hcalls : List.Forall₂ Call.Respelled [] [] := .nil
    exact .put .empty (.cons (.ok (.escaped "a.b" "i")) .nil) hcalls rfl rfl
  have hplain : ∀ c ∈ ['V', 'A', 'R'], ¬ isMeta c := by simp [isMeta, Literal.metaChars]
  refine ⟨hword _ _ hplain ⟨[], "\x7by\x7d".toList, by simp⟩, ?_, ?_⟩
  · rw [hbind _ (reachable_build _), hopen]
    rfl
  · obtain ⟨-, -, hrun⟩ := hruns _ _ ((threeParts (.literal "\\VAR\x7by\x7d")).map .ok)
      ((threeParts (.pattern ⟨escape "\\VAR\x7by\x7d", ""⟩)).map .ok)
      [.bind "x" (.ok (.literal "?"))] [.bind "x" (.ok (.pattern ⟨escape "?", ""⟩))] hshelves
      (.cons (.ok (.escaped _ "")) (.cons (.ok (.same _)) (.cons (.ok (.same _)) .nil)))
      (.cons (.bind "x" (.ok (.escaped "?" ""))) .nil)
    obtain ⟨-, -, -, htext⟩ := hrun (build (threeParts (.literal "\\VAR\x7by\x7d"))) rfl
    exact htext

end Template

end RegexTemplate
