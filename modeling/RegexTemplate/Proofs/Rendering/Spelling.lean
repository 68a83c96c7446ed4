import RegexTemplate.Proofs.Rendering.Remembering
import RegexTemplate.Proofs.Template.Substitution

/-!
# The text of a template

Rendering spells out the tokens of the root, although it puts together the texts of the nodes and of
the nested templates, each of which is rendered once.  The last node is rendered first, so that the
texts of its children are there when a node needs them (`renderNodes_spec`).  Every node is reached
from the root, and so rendering fails only if some token among those of the root has no text.

Main statement: `run_refines_substitution`, which says of whole runs that a template is the flat text
that plain substitution gives, that it knows the names in it, and when it has a text and which.
-/

namespace RegexTemplate

namespace Token

/-- The text of a token, where those of the nested templates are given.  An open name has none. -/
def text? (nested : Nat → Option String) : Token → Option String
  | .literal text => some text
  | .name _ => none
  | .nested place => nested place

/-- The texts of a row of tokens put together, if each of them has one. -/
def spell? (nested : Nat → Option String) : List Token → Option String
  | [] => some ""
  | token :: tokens => do
    let text ← token.text? nested
    return text ++ (← spell? nested tokens)

variable {nested : Nat → Option String}

theorem spell?_append (first rest : List Token) :
    spell? nested (first ++ rest) =
      (spell? nested first).bind fun text => (spell? nested rest).map (text ++ ·) := by
  induction first with
  | nil => simp [spell?]
  | cons token first ih =>
      rw [List.cons_append, spell?, spell?, ih]
      cases token.text? nested with
      | none => rfl
      | some text =>
          cases spell? nested first with
          | none => rfl
          | some front => cases spell? nested rest <;> simp [String.append_assoc]

theorem spell?_singleton (token : Token) : spell? nested [token] = token.text? nested := by
  rw [spell?, spell?]
  cases token.text? nested <;> simp

/-- A row is spelled out if and only if each of its tokens has a text. -/
theorem isSome_spell?_iff {tokens : List Token} :
    (spell? nested tokens).isSome ↔ ∀ token ∈ tokens, (token.text? nested).isSome := by
  induction tokens with
  | nil => simp [spell?]
  | cons token tokens ih =>
      rw [spell?, List.forall_mem_cons, ← ih]
      cases token.text? nested <;> cases spell? nested tokens <;> simp

/-- That is, if and only if no name is open and each nested template has a text. -/
theorem isSome_spell?_iff_nested {tokens : List Token} :
    (spell? nested tokens).isSome ↔ (∀ name, .name name ∉ tokens) ∧
      ∀ place, .nested place ∈ tokens → (nested place).isSome := by
  rw [isSome_spell?_iff]
  constructor
  · refine fun h => ⟨fun name hname => ?_, fun place hplace => h _ hplace⟩
    have hsome := h _ hname
    rw [text?] at hsome
    cases hsome
  · intro hgiven token htoken
    obtain ⟨hclosed, hnested⟩ := hgiven
    cases token with
    | literal text => rfl
    | name name => exact absurd htoken (hclosed name)
    | nested place => exact hnested place htoken

theorem spell?_eq_none_of_subset {tokens others : List Token} (hsubset : tokens ⊆ others)
    (hnone : spell? nested tokens = none) : spell? nested others = none := by
  rw [← Option.not_isSome_iff_eq_none, isSome_spell?_iff] at hnone ⊢
  exact fun hall => hnone fun token htoken => hall token (hsubset htoken)

end Token

namespace Template

variable {template : Template} {nested : Nat → Except TemplateError String} {p q : Nat}

/-- The text of a nested template, if asking for it succeeds. -/
def textAt? (nested : Nat → Except TemplateError String) (place : Nat) : Option String :=
  (nested place).toOption

theorem toOption_bind {α β : Type} (x : Except TemplateError α)
    (f : α → Except TemplateError β) :
    (x >>= f).toOption = x.toOption.bind fun a => (f a).toOption := by
  cases x <;> rfl

/-- The tokens of a node are among those of each node from which it is reached. -/
theorem Sound.expand_subset (hsound : Sound template)
    (hreached : Relation.ReflTransGen template.Refers p q) :
    template.expand q ⊆ template.expand p := by
  induction hreached using Relation.ReflTransGen.head_induction_on with
  | refl => exact fun _ => id
  | head hrefers _ ih =>
      intro token htoken
      obtain ⟨j, hj⟩ := hrefers
      rw [hsound.expand_eq, List.mem_flatMap]
      exact ⟨_, Array.mem_toList_iff.2 (Array.mem_of_getElem? hj), ih htoken⟩

/-- A row of slots is rendered as its tokens are spelled out, if the texts of the children are. -/
theorem toOption_renderSlots {child : Nat → String} {tokens : Nat → List Token} {slots : List Slot}
    (hchild : ∀ c, .node c ∈ slots →
      Token.spell? (textAt? nested) (tokens c) = some (child c)) :
    (renderSlots nested child slots).toOption =
      Token.spell? (textAt? nested) (slots.flatMap (Slot.tokens tokens)) := by
  induction slots with
  | nil => rfl
  | cons slot slots ih =>
      have hrest := ih fun c hc => hchild c (List.mem_cons_of_mem _ hc)
      have hslot : (renderSlot nested child slot).toOption =
          Token.spell? (textAt? nested) (slot.tokens tokens) := by
        cases slot with
        | literal text => rw [Slot.tokens, Token.spell?_singleton]; rfl
        | placeholder name => rw [Slot.tokens, Token.spell?_singleton]; rfl
        | node c => exact (hchild c List.mem_cons_self).symm
        | template place => rw [Slot.tokens, Token.spell?_singleton]; rfl
      rw [renderSlots, toOption_bind, hslot, List.flatMap_cons, Token.spell?_append, ← hrest]
      refine congrArg _ (funext fun text => ?_)
      rw [toOption_bind]
      cases (renderSlots nested child slots).toOption <;> rfl

/-- The nodes from some place on begin with the node there. -/
theorem node_of_drop_eq_cons {node : Node} {nodes : List Node}
    (hnodes : template.nodes.toList.drop p = node :: nodes) :
    template.node p = node ∧ p + nodes.length + 1 = template.nodeCount ∧
      template.nodes.toList.drop (p + 1) = nodes := by
  have hp : p < template.nodes.toList.length := by
    refine Nat.lt_of_not_le fun hle => ?_
    rw [List.drop_eq_nil_of_le hle] at hnodes
    cases hnodes
  have hlength := congrArg List.length hnodes
  rw [List.length_drop, List.length_cons, Array.length_toList] at hlength
  rw [Array.length_toList] at hp
  rw [List.drop_eq_getElem_cons hp, List.cons.injEq, Array.getElem_toList] at hnodes
  refine ⟨?_, by rw [nodeCount]; omega, hnodes.2⟩
  rw [Template.node, Array.getD_eq_getD_getElem?, Array.getElem?_eq_getElem hp, Option.getD_some]
  exact hnodes.1

/-- If the nodes behind some place have been rendered, the texts of the children of the node there are
among theirs, because the children stand behind it. -/
theorem spell?_child (hsound : Sound template) {texts : List String}
    (hcount : p + texts.length + 1 = template.nodeCount)
    (htexts : ∀ (q : Nat) text, texts[q]? = some text →
      Token.spell? (textAt? nested) (template.expand (p + 1 + q)) = some text)
    {c : Nat} (hrefers : template.Refers p c) :
    Token.spell? (textAt? nested) (template.expand c) =
      some (if p < c then texts.getD (c - (p + 1)) "" else "") := by
  have hlt := hsound.forward p c hrefers
  have hvalid := hsound.valid p c hrefers
  have hindex : c - (p + 1) < texts.length := by omega
  have htext := htexts _ _ (List.getElem?_eq_getElem hindex)
  rw [Nat.add_sub_of_le hlt] at htext
  rw [htext, if_pos hlt, List.getD_eq_getElem?_getD, List.getElem?_eq_getElem hindex,
    Option.getD_some]

/-- Rendering the nodes from some place on spells out the tokens of each of them, or it fails because
those of one of them cannot be spelled out. -/
theorem renderNodes_spec (hsound : Sound template) {nodes : List Node}
    (hnodes : template.nodes.toList.drop p = nodes) :
    (∀ texts, renderNodes nested p nodes = .ok texts → texts.length = nodes.length ∧
      ∀ (q : Nat) text, texts[q]? = some text →
        Token.spell? (textAt? nested) (template.expand (p + q)) = some text) ∧
    (∀ e, renderNodes nested p nodes = .error e → ∃ q, q < template.nodeCount ∧
      Token.spell? (textAt? nested) (template.expand q) = none) := by
  induction nodes generalizing p with
  | nil => exact ⟨fun texts heq => by cases heq; simp, fun e heq => nomatch heq⟩
  | cons node nodes ih =>
      obtain ⟨hnode, hcount, hnodes⟩ := node_of_drop_eq_cons hnodes
      obtain ⟨hlater, hfails⟩ := ih hnodes
      have hrun : renderNodes nested p (node :: nodes) =
          renderNodes nested (p + 1) nodes >>= fun texts =>
            (renderSlots nested (fun c => if p < c then texts.getD (c - (p + 1)) "" else "")
              node.content.toList).map (· :: texts) := rfl
      rw [hrun]
      cases hrest : renderNodes nested (p + 1) nodes with
      | error e => exact ⟨fun texts heq => (nomatch heq), fun _ _ => hfails e hrest⟩
      | ok texts =>
          obtain ⟨hlength, htexts⟩ := hlater texts hrest
          have hslots := toOption_renderSlots fun c (hc : .node c ∈ node.content.toList) =>
            spell?_child hsound (by omega) htexts (refers_of_mem (hnode ▸ hc))
          rw [← hnode, ← hsound.expand_eq, hnode] at hslots
          change (∀ texts', Except.map _ (renderSlots _ _ _) = _ → _) ∧
            ∀ e, Except.map _ (renderSlots _ _ _) = _ → _
          cases htext : renderSlots nested
              (fun c => if p < c then texts.getD (c - (p + 1)) "" else "") node.content.toList with
          | error e =>
              rw [htext] at hslots
              exact ⟨fun texts heq => (nomatch heq), fun _ _ => ⟨p, by omega, hslots.symm⟩⟩
          | ok text =>
              rw [htext] at hslots
              refine ⟨fun texts' heq => ?_, fun e heq => nomatch heq⟩
              cases heq
              refine ⟨by rw [List.length_cons, List.length_cons, hlength], fun q other hq => ?_⟩
              cases q with
              | zero =>
                  cases hq
                  exact hslots.symm
              | succ q =>
                  have hlast := htexts q other hq
                  rwa [Nat.add_right_comm, Nat.add_assoc] at hlast

/-- **Rendering spells out the tokens of the root.** -/
theorem Sound.toOption_render (hsound : Sound template) :
    (template.render nested).toOption =
      Token.spell? (textAt? nested) (template.expand root) := by
  rw [render]
  split
  · obtain ⟨hok, hfails⟩ := renderNodes_spec (p := root) hsound rfl
    cases hrun : renderNodes nested root template.nodes.toList with
    | error e =>
        obtain ⟨q, hq, hnone⟩ := hfails e hrun
        exact (Token.spell?_eq_none_of_subset (hsound.expand_subset (hsound.reaches hq)) hnone).symm
    | ok texts =>
        obtain ⟨hlength, htexts⟩ := hok texts hrun
        have hpos := hsound.nodeCount_pos
        rw [Array.length_toList] at hlength
        cases texts with
        | nil => exact absurd hlength (Nat.ne_of_lt hpos)
        | cons text texts => exact (htexts 0 text rfl).symm
  · next hcomplete =>
      simp only [hsound.isComplete_iff, not_forall, not_not] at hcomplete
      obtain ⟨name, hname⟩ := hcomplete
      have hsubset : [.name name] ⊆ template.expand root :=
        fun token htoken => List.mem_singleton.1 htoken ▸ hname
      refine (Token.spell?_eq_none_of_subset hsubset ?_).symm
      rw [Token.spell?_singleton, Token.text?]

end Template

/-- The text of the template at a place, if there is one and it has a text. -/
def Shelf.text? (shelf : Shelf) (place : Nat) : Option String :=
  shelf.templates[place]?.bind fun template => (shelf.compileSource template).toOption

theorem Shelf.isSome_text?_iff {shelf : Shelf} {place : Nat} :
    (shelf.text? place).isSome ↔ ∃ template text,
      shelf.templates[place]? = some template ∧ shelf.compileSource template = .ok text := by
  rw [Shelf.text?]
  cases shelf.templates[place]? with
  | none => simp
  | some template => cases hrun : shelf.compileSource template <;> simp [Except.toOption, hrun]

namespace Template

variable {shelf : Shelf}

/-- Asking afresh for a nested template gives the text of the template at the place. -/
theorem textAt?_afresh (hshelf : shelf.Ordered) :
    textAt? (Shelf.afresh (shelf.renderAt Shelf.afresh)) = shelf.text? := by
  funext place
  rw [textAt?, Shelf.afresh, Shelf.text?]
  cases htemplate : shelf.templates[place]? with
  | none => rw [Shelf.renderAt, htemplate]; rfl
  | some template =>
      rw [Shelf.renderAt_afresh hshelf htemplate, ← Shelf.compileSource_eq_plain hshelf]
      rfl

/-- Compiling spells out the tokens of the root. -/
theorem Sound.toOption_compileSource (hsound : Sound template) (hshelf : shelf.Ordered) :
    (shelf.compileSource template).toOption =
      Token.spell? shelf.text? (template.expand root) := by
  rw [Shelf.compileSource_eq_plain hshelf, Shelf.plain, hsound.toOption_render,
    textAt?_afresh hshelf]

/-- **A run refines substitution of plain text.**  Let a template be built from fragments and filled
in by calls, and let `tokens` be the tokens of the fragments in which the tokens of the values have
been substituted for the names, one after the other.  Then

* putting the nodes of the template in place of each other gives `tokens`;
* the open names are the names among them, in ascending order and each of them once;
* the template is complete if and only if there is none;
* it has a text if and only if there is none and every nested template has a text;
* and this text is that of the tokens, put together. -/
theorem run_refines_substitution (fragments : List Fragment) (calls : List Call) :
    let template := (build fragments).performAll calls
    let tokens :=
      Token.substituteEach (fragments.flatMap Fragment.tokens) (calls.flatMap Call.effective)
    (∀ p, template.expand p =
      (template.node p).content.toList.flatMap (Slot.tokens template.expand)) ∧
    template.expand root = tokens ∧
    template.unassigned.Pairwise (· < ·) ∧
    (∀ name, name ∈ template.unassigned ↔ .name name ∈ tokens) ∧
    (template.isComplete ↔ ∀ name, .name name ∉ tokens) ∧
    ∀ shelf : Shelf, shelf.Ordered →
      ((∃ text, shelf.compileSource template = .ok text) ↔ (∀ name, .name name ∉ tokens) ∧
        ∀ place, .nested place ∈ tokens → ∃ nested text,
          shelf.templates[place]? = some nested ∧ shelf.compileSource nested = .ok text) ∧
      (shelf.compileSource template).toOption = Token.spell? shelf.text? tokens := by
  intro template tokens
  have hsound : Sound template := ((reachable_build fragments).performAll calls).sound
  have htokens : template.expand root = tokens := expand_performAll fragments calls
  refine ⟨hsound.expand_eq, htokens, pairwise_unassigned template, fun name => ?_, ?_,
    fun shelf hshelf => ⟨?_, ?_⟩⟩
  · rw [hsound.mem_unassigned_iff, htokens]
  · rw [hsound.isComplete_iff, htokens]
  · have hspell := hsound.toOption_compileSource hshelf
    rw [htokens] at hspell
    simp only [← Shelf.isSome_text?_iff, ← Token.isSome_spell?_iff_nested, ← hspell]
    cases shelf.compileSource template <;> simp [Except.toOption]
  · rw [hsound.toOption_compileSource hshelf, htokens]

/-- Fragments that wait for a value which waits for the same name in turn. -/
theorem run_refines_substitution_drawer :
    Shelf.drawer.Ordered ∧
      (Shelf.drawer.compileSource ((build fork).performAll
        [.bind "s" (.ok (.pattern ⟨"<\\VAR\x7bs\x7d>", ""⟩)),
          .bindAll [("s", .ok (.template 0))]])).toOption = some "<\\d>-<\\d>" := by
  obtain ⟨-, -, -, -, -, hcompile⟩ := run_refines_substitution fork
    [.bind "s" (.ok (.pattern ⟨"<\\VAR\x7bs\x7d>", ""⟩)), .bindAll [("s", .ok (.template 0))]]
  refine ⟨Shelf.ordered_drawer, (hcompile _ Shelf.ordered_drawer).2.trans ?_⟩
  cbv

end Template

end RegexTemplate
