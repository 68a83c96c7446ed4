import RegexTemplate.Proofs.Rendering.Spelling

/-!
# The order in which names are filled in

Filling in two names in one order or the other builds different nodes, but it does not show if neither
value opens the name of the other.  What shows of a template is its outline, that is its flat text and
the number of its nodes: open names and text can be read off the former.  Filling in a name acts on the
outline (`Sound.outline_bind`), and there two independent values trade places (`Outline.bind_comm`).

Main statement: `bindAll_perm`, for a whole row of values in any two orders.
-/

namespace RegexTemplate

variable {name other : String} {tokens value value' : List Token}

namespace Token

/-- After a name has been filled in, the open names are those of the value, if it was used, and the
others. -/
theorem name_mem_substitute_iff : .name other ∈ substitute name value tokens ↔
    other ≠ name ∧ .name other ∈ tokens ∨ .name name ∈ tokens ∧ .name other ∈ value := by
  rw [substitute, List.mem_flatMap]
  constructor
  · intro hgiven
    obtain ⟨token, htoken, hother⟩ := hgiven
    cases token with
    | literal text => simp [fill] at hother
    | nested place => simp [fill] at hother
    | name found =>
        by_cases hfound : found = name
        · subst hfound
          rw [fill, if_pos rfl] at hother
          exact Or.inr ⟨htoken, hother⟩
        · rw [fill, if_neg hfound, List.mem_singleton, Token.name.injEq] at hother
          subst hother
          exact Or.inl ⟨hfound, htoken⟩
  · intro hgiven
    rcases hgiven with ⟨hne, htoken⟩ | ⟨htoken, hother⟩
    · exact ⟨_, htoken, by rw [fill, if_neg hne]; exact List.mem_singleton_self _⟩
    · exact ⟨_, htoken, by rw [fill, if_pos rfl]; exact hother⟩

/-- A value that does not open a name leaves it as open as it was. -/
theorem name_mem_substitute_iff_of_not_mem (hne : other ≠ name) (hvalue : .name other ∉ value) :
    .name other ∈ substitute name value tokens ↔ .name other ∈ tokens := by
  rw [name_mem_substitute_iff]
  simp [hne, hvalue]

/-- Two names are filled in alike in either order, if neither value opens the name of the other. -/
theorem substitute_comm (hne : name ≠ other) (hvalue : .name other ∉ value)
    (hvalue' : .name name ∉ value') :
    substitute other value' (substitute name value tokens) =
      substitute name value (substitute other value' tokens) := by
  have hfill : ∀ token, substitute other value' (fill name value token) =
      substitute name value (fill other value' token) := by
    intro token
    cases token with
    | literal text => rfl
    | nested place => rfl
    | name found =>
        by_cases hname : found = name
        · subst hname
          rw [fill, fill, if_pos rfl, if_neg hne, substitute_of_not_mem hvalue, substitute,
            List.flatMap_singleton, fill, if_pos rfl]
        · by_cases hother : found = other
          · subst hother
            rw [fill, fill, if_neg hname, if_pos rfl, substitute_of_not_mem hvalue', substitute,
              List.flatMap_singleton, fill, if_pos rfl]
          · simp [fill, substitute, hname, hother]
  rw [substitute, substitute, substitute, substitute, List.flatMap_assoc, List.flatMap_assoc]
  exact List.flatMap_congr fun token _ => hfill token

end Token

/-- A fragment opens the names whose markers stand in the text of its pattern. -/
def Fragment.Exposes (fragment : Fragment) (name : String) : Prop :=
  ∃ pattern, fragment = .pattern pattern ∧
    .placeholder name ∈ Marker.parts (Marker.split pattern.source)

theorem Fragment.exposes_iff {fragment : Fragment} :
    fragment.Exposes name ↔ .name name ∈ fragment.tokens := by
  have hpart : ∀ part, Token.ofPart part = .name name ↔ part = .placeholder name := by
    intro part
    cases part <;> simp [Token.ofPart]
  cases fragment with
  | literal raw => simp [Exposes, Fragment.tokens]
  | template place => simp [Exposes, Fragment.tokens]
  | pattern pattern => simp [Exposes, Fragment.tokens, hpart]

/-- No value opens the name that another value is for. -/
def Independent (bindings : List (String × Fragment)) : Prop :=
  ∀ first ∈ bindings, ∀ second ∈ bindings, first.1 ≠ second.1 → ¬ first.2.Exposes second.1

/-- How many nodes are made for a fragment. -/
def Fragment.nodeCount : Fragment → Nat
  | .pattern marked => if (Marker.split marked.source).length = 1 then 0 else 1
  | .literal _ => 0
  | .template _ => 0

/-- What shows of a template. -/
structure Outline where
  /-- The flat text. -/
  tokens : List Token
  /-- The number of nodes. -/
  nodeCount : Nat
deriving DecidableEq, Repr

/-- Fills in a name.  A node is made for the value only if the name is open. -/
def Outline.bind (outline : Outline) (binding : String × Fragment) : Outline where
  tokens := Token.substitute binding.1 binding.2.tokens outline.tokens
  nodeCount :=
    outline.nodeCount + if .name binding.1 ∈ outline.tokens then binding.2.nodeCount else 0

/-- Two values trade places if neither opens the name of the other. -/
theorem Outline.bind_comm (outline : Outline) {first second : String × Fragment}
    (hne : first.1 ≠ second.1) (hfirst : ¬ first.2.Exposes second.1)
    (hsecond : ¬ second.2.Exposes first.1) :
    (outline.bind first).bind second = (outline.bind second).bind first := by
  rw [Fragment.exposes_iff] at hfirst hsecond
  have hkept : .name second.1 ∈ Token.substitute first.1 first.2.tokens outline.tokens ↔
      .name second.1 ∈ outline.tokens :=
    Token.name_mem_substitute_iff_of_not_mem hne.symm hfirst
  have hkept' : .name first.1 ∈ Token.substitute second.1 second.2.tokens outline.tokens ↔
      .name first.1 ∈ outline.tokens :=
    Token.name_mem_substitute_iff_of_not_mem hne hsecond
  simp only [bind, hkept, hkept', Token.substitute_comm hne hfirst hsecond, Nat.add_right_comm]

namespace Template

variable {template : Template}

/-- The outline of a template. -/
def outline (template : Template) : Outline := ⟨template.expand root, template.nodeCount⟩

theorem nodeCount_place (template : Template) (fragment : Fragment) :
    (template.place fragment).2.nodeCount = template.nodeCount + fragment.nodeCount := by
  cases fragment with
  | literal raw => rfl
  | template place => rfl
  | pattern pattern =>
      by_cases hsplit : (Marker.split pattern.source).length = 1
      · rw [place_of_unmarked template hsplit, Fragment.nodeCount, if_pos hsplit, Nat.add_zero]
      · rw [place_of_marked template hsplit, nodeCount_push, Fragment.nodeCount, if_neg hsplit]

/-- Filling in a name acts on the outline. -/
theorem Sound.outline_bind (hsound : Sound template) (name : String) (value : Fragment) :
    (template.bind name value).outline = template.outline.bind (name, value) := by
  have hcount : (template.bind name value).nodeCount = template.nodeCount +
      if .name name ∈ template.expand root then value.nodeCount else 0 := by
    split
    · next hname =>
        rw [hsound.name_mem_expand_iff] at hname
        rw [nodeCount_bind hsound value hname, nodeCount_place]
    · next hname =>
        rw [hsound.name_mem_expand_iff] at hname
        rw [bind_of_not_mem value hname, Nat.add_zero]
  rw [outline, expand_bind hsound, hcount]
  rfl

theorem Sound.outline_bindEach (hsound : Sound template) (bindings : List (String × Fragment)) :
    (template.bindEach bindings).outline = bindings.foldl Outline.bind template.outline := by
  induction bindings generalizing template with
  | nil => rfl
  | cons binding bindings ih =>
      rw [List.foldl_cons, ← hsound.outline_bind]
      exact ih (hsound.bind binding.1 binding.2)

/-- What shows of a template can be read off its outline. -/
theorem Sound.shows_alike {other : Template} (hsound : Sound template) (hother : Sound other)
    (h : template.outline = other.outline) :
    template.unassigned = other.unassigned ∧ template.isComplete = other.isComplete ∧
      template.nodeCount = other.nodeCount ∧ ∀ shelf : Shelf, shelf.Ordered →
        (shelf.compileSource template).toOption = (shelf.compileSource other).toOption := by
  have htokens : template.expand root = other.expand root := congrArg Outline.tokens h
  have hnames : template.unassigned = other.unassigned := by
    refine unassigned_congr fun name => ?_
    rw [hsound.mem_unassigned_iff, hother.mem_unassigned_iff, htokens]
  refine ⟨hnames, isComplete_congr hnames, congrArg Outline.nodeCount h, fun shelf hshelf => ?_⟩
  rw [hsound.toOption_compileSource hshelf, hother.toOption_compileSource hshelf, htokens]

/-- **Independent values may come in any order.**  Let names be filled in one after the other, all of
them different, where no value opens the name of another one; it may open its own name or any name that
is not filled in.  In whatever order they come, the call succeeds, the open names and the number of
nodes are the same, and so is the text if there is one. -/
theorem bindAll_perm (h : Reachable template) {bindings others : List (String × Fragment)}
    (hperm : bindings.Perm others) (hdistinct : (bindings.map Prod.fst).Nodup)
    (hindependent : Independent bindings) :
    let (bound, failure) :=
      template.bindAll (bindings.map fun binding => (binding.1, .ok binding.2))
    let (bound', failure') :=
      template.bindAll (others.map fun binding => (binding.1, .ok binding.2))
    failure = none ∧ failure' = none ∧
      bound.unassigned = bound'.unassigned ∧ bound.isComplete = bound'.isComplete ∧
      bound.nodeCount = bound'.nodeCount ∧ ∀ shelf : Shelf, shelf.Ordered →
        (shelf.compileSource bound).toOption = (shelf.compileSource bound').toOption := by
  have hsound := h.sound
  have hcomm : ∀ first ∈ bindings, ∀ second ∈ bindings, ∀ outline : Outline,
      (outline.bind first).bind second = (outline.bind second).bind first := by
    intro first hfirst second hsecond outline
    by_cases hname : first.1 = second.1
    · rw [List.inj_on_of_nodup_map hdistinct hfirst hsecond hname]
    · exact outline.bind_comm hname (hindependent first hfirst second hsecond hname)
        (hindependent second hsecond first hfirst (Ne.symm hname))
  have houtline : (template.bindEach bindings).outline = (template.bindEach others).outline := by
    rw [hsound.outline_bindEach, hsound.outline_bindEach]
    exact hperm.foldl_eq' hcomm template.outline
  rw [bindAll_map_ok, bindAll_map_ok]
  exact ⟨rfl, rfl, (hsound.bindEach bindings).shows_alike (hsound.bindEach others) houtline⟩

/-- Two values, the first of which opens its own name again and a new one. -/
def bracketed : List (String × Fragment) :=
  [("a", .pattern ⟨"(\\VAR\x7ba\x7d|\\VAR\x7bc\x7d)", ""⟩), ("b", .literal "+")]

theorem independent_bracketed : Independent bracketed := by
  have hopened : (Fragment.pattern ⟨"(\\VAR\x7ba\x7d|\\VAR\x7bc\x7d)", ""⟩).tokens =
      [.literal "(", .name "a", .literal "|", .name "c", .literal ")"] := by cbv
  have hraw : (Fragment.literal "+").tokens = [.literal "\\+"] := by cbv
  intro first hfirst second hsecond hne
  rw [Fragment.exposes_iff]
  simp only [bracketed, List.mem_cons, List.not_mem_nil, or_false] at hfirst hsecond
  rcases hfirst with rfl | rfl
  · rcases hsecond with rfl | rfl
    · exact absurd rfl hne
    · simp [hopened]
  · simp [hraw]

/-- In either order they leave the same names open. -/
theorem bindAll_perm_bracketed :
    Reachable (build [.pattern ⟨"\\VAR\x7ba\x7d\\VAR\x7bb\x7d", ""⟩]) ∧
      bracketed.Perm bracketed.reverse ∧ (bracketed.map Prod.fst).Nodup ∧ Independent bracketed ∧
      ((build [.pattern ⟨"\\VAR\x7ba\x7d\\VAR\x7bb\x7d", ""⟩]).bindAll
        (bracketed.reverse.map fun binding => (binding.1, .ok binding.2))).1.unassigned =
          ["a", "c"] := by
  have hreachable := reachable_build [.pattern ⟨"\\VAR\x7ba\x7d\\VAR\x7bb\x7d", ""⟩]
  have hperm : bracketed.Perm bracketed.reverse := (List.reverse_perm _).symm
  have hdistinct : (bracketed.map Prod.fst).Nodup := by decide
  obtain ⟨-, -, hnames, -⟩ := bindAll_perm hreachable hperm hdistinct independent_bracketed
  refine ⟨hreachable, hperm, hdistinct, independent_bracketed, hnames.symm.trans ?_⟩
  cbv

end Template

end RegexTemplate
