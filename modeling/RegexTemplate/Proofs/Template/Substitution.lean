import RegexTemplate.Proofs.Template.OpenNames

/-!
# Templates as flat texts

Put in place of each other, the nodes of a template make up one row of tokens: literals, names and
nested templates.  In this view a template is plain text.  Building puts the tokens of the fragments
one behind the other (`expand_append`), and filling in a name puts the tokens of the value wherever
the name stands, all at once (`expand_bind`), however the nodes are shared.

Main statement: `expand_performAll`, for whole runs; `name_mem_expand_iff` says that the names on
record are those among the tokens.
-/

namespace RegexTemplate

/-- A split into a single part leaves the text as it is. -/
theorem Marker.split_eq_singleton {source : String}
    (hsplit : (Marker.split source).length = 1) : Marker.split source = [source] := by
  have hnone : ∀ cs, (Marker.scan cs).2 = [] → (Marker.scan cs).1 = cs := by
    intro cs
    fun_induction Marker.scan cs with
    | case1 => exact fun _ => rfl
    | case2 => simp
    | case3 c rest hfound literal more hscan ih =>
        rw [hscan] at ih
        exact fun hmore => congrArg (c :: ·) (ih hmore)
  have hmore : (Marker.scan source.toList).2 = [] := by
    have hlength := Marker.length_split source
    exact List.length_eq_zero_iff.1 (by omega)
  have hwhole : Marker.scan source.toList = (source.toList, []) := Prod.ext (hnone _ hmore) hmore
  rw [Marker.split, hwhole]
  simp

/-- A piece of a flat text. -/
inductive Token where
  /-- Text that stands for itself. -/
  | literal (text : String)
  /-- A name that is still open. -/
  | name (name : String)
  /-- The finished template at a place of the shelf. -/
  | nested (place : Nat)
deriving DecidableEq, Repr

namespace Token

/-- The token of a part of a text that has been split. -/
def ofPart : Marker.Part → Token
  | .literal text => .literal text
  | .placeholder other => .name other

/-- What comes in place of a token when a name is filled in. -/
def fill (name : String) (value : List Token) : Token → List Token
  | .name other => if other = name then value else [.name other]
  | token => [token]

/-- Fills in a name everywhere, in one pass.  Tokens that come from the value are left alone. -/
def substitute (name : String) (value tokens : List Token) : List Token :=
  tokens.flatMap (fill name value)

theorem substitute_of_not_mem {name : String} {value tokens : List Token}
    (hname : .name name ∉ tokens) : substitute name value tokens = tokens := by
  induction tokens with
  | nil => rfl
  | cons token tokens ih =>
      rw [List.mem_cons, not_or] at hname
      have hfill : fill name value token = [token] := by
        cases token with
        | name other => exact if_neg fun heq => hname.1 (by rw [heq])
        | literal text => rfl
        | nested place => rfl
      rw [substitute, List.flatMap_cons, hfill, ← substitute, ih hname.2, List.singleton_append]

end Token

/-- The tokens of a fragment. -/
def Fragment.tokens : Fragment → List Token
  | .pattern marked => (Marker.parts (Marker.split marked.source)).map .ofPart
  | .literal raw => [.literal (Literal.escape raw)]
  | .template place => [.nested place]

/-- The tokens after names have been filled in one after the other. -/
def Token.substituteEach (tokens : List Token) (bindings : List (String × Fragment)) : List Token :=
  bindings.foldl (fun filled binding => substitute binding.1 binding.2.tokens filled) tokens

/-- The tokens of a slot, where those of the children are given. -/
def Slot.tokens (child : Nat → List Token) : Slot → List Token
  | .literal text => [.literal text]
  | .placeholder name => [.name name]
  | .node id => child id
  | .template place => [.nested place]

theorem Slot.tokens_ofPart (child : Nat → List Token) (part : Marker.Part) :
    (Slot.ofPart part).tokens child = [.ofPart part] := by
  cases part <;> rfl

namespace Template

/-- The tokens of a node, where each child is put in place of the slots that refer to it.  In a sound
template a child always stands behind its parents (`Sound.expand_eq`). -/
def expand (template : Template) (id : Nat) : List Token :=
  (template.node id).content.toList.flatMap <| Slot.tokens fun child =>
    if id < child ∧ child < template.nodeCount then template.expand child else []
termination_by template.nodeCount - id

variable {template : Template} {p q j : Nat} {name : String}

/-- The tokens of a row of slots that refer only to certain children. -/
theorem flatMap_tokens_congr {slots : List Slot} {child child' : Nat → List Token}
    (h : ∀ c, .node c ∈ slots → child c = child' c) :
    slots.flatMap (Slot.tokens child) = slots.flatMap (Slot.tokens child') := by
  refine List.flatMap_congr fun slot hslot => ?_
  cases slot with
  | node c => exact h c hslot
  | literal text => rfl
  | placeholder other => rfl
  | template place => rfl

theorem refers_of_mem {c : Nat} (h : .node c ∈ (template.node p).content.toList) :
    template.Refers p c :=
  Array.mem_iff_getElem?.1 (Array.mem_toList_iff.1 h)

/-- The tokens of a node are those of its slots, with each child put in place. -/
theorem Sound.expand_eq (hsound : Sound template) (p : Nat) :
    template.expand p = (template.node p).content.toList.flatMap (Slot.tokens template.expand) := by
  rw [expand]
  refine flatMap_tokens_congr fun c hc => if_pos ?_
  have hrefers := refers_of_mem hc
  exact ⟨hsound.forward p c hrefers, hsound.valid p c hrefers⟩

/-- What holds of a node if it holds of its children holds of every node. -/
theorem Sound.downward_induction (hsound : Sound template) {motive : Nat → Prop}
    (h : ∀ p, (∀ c, template.Refers p c → motive c) → motive p) (p : Nat) : motive p := by
  induction hdepth : template.nodeCount - p using Nat.strongRecOn generalizing p with
  | ind depth ih =>
      refine h p fun c hc => ih _ ?_ c rfl
      have hlt := hsound.forward p c hc
      have hvalid := hsound.valid p c hc
      omega

/-- **The names on record are those among the tokens.** -/
theorem Sound.name_mem_expand_iff (hsound : Sound template) :
    .name name ∈ template.expand p ↔ name ∈ (template.node p).placeholders := by
  refine hsound.downward_induction (motive := fun p =>
    .name name ∈ template.expand p ↔ name ∈ (template.node p).placeholders) (fun p ih => ?_) p
  rw [hsound.expand_eq, List.mem_flatMap]
  constructor
  · intro hgiven
    obtain ⟨slot, hslot, hname⟩ := hgiven
    obtain ⟨j, hj⟩ := Array.mem_iff_getElem?.1 (Array.mem_toList_iff.1 hslot)
    refine Node.mem_placeholders_of_mem_through ((hsound.toVisible.mem_through_iff (j := j)).2 ?_)
    cases slot with
    | placeholder other =>
        cases List.mem_singleton.1 hname
        exact Or.inl hj
    | node c => exact Or.inr ⟨c, hj, (ih c ⟨j, hj⟩).1 hname⟩
    | literal text => simp [Slot.tokens] at hname
    | template place => simp [Slot.tokens] at hname
  · intro hname
    obtain ⟨j, hj⟩ := hsound.reached p name hname
    rcases hsound.support p name j hj with hhere | ⟨c, hc, hbelow⟩
    · exact ⟨_, Array.mem_toList_iff.2 (Array.mem_of_getElem? hhere), List.mem_singleton_self _⟩
    · exact ⟨_, Array.mem_toList_iff.2 (Array.mem_of_getElem? hc), (ih c ⟨j, hc⟩).2 hbelow⟩

/-- The slot that is made for a fragment stands for the tokens of the fragment, in every sound template
that takes over the node made for it. -/
theorem tokens_place {other : Template} (hother : Sound other) {fragment : Fragment}
    (hnew : ∀ p, template.nodeCount ≤ p →
      (other.node p).content = ((template.place fragment).2.node p).content) :
    (template.place fragment).1.tokens other.expand = fragment.tokens := by
  cases fragment with
  | literal raw => rfl
  | template place => rfl
  | pattern pattern =>
      by_cases hsplit : (Marker.split pattern.source).length = 1
      · rw [place_of_unmarked template hsplit, Fragment.tokens, Marker.split_eq_singleton hsplit]
        rfl
      · have hcontent := hnew template.nodeCount (Nat.le_refl _)
        rw [place_of_marked template hsplit] at hcontent ⊢
        rw [node_push, if_pos rfl, Node.content_ofParts] at hcontent
        rw [Slot.tokens, hother.expand_eq, hcontent, Fragment.tokens, List.toList_toArray,
          List.flatMap_map, List.map_eq_flatMap]
        exact List.flatMap_congr fun part _ => Slot.tokens_ofPart _ part

/-- Adding a fragment puts its tokens behind the others. -/
theorem expand_append (hsound : Sound template) (fragment : Fragment) :
    (template.append fragment).expand root = template.expand root ++ fragment.tokens := by
  have hsound' := hsound.append fragment
  have hold : ∀ p, root < p → p < template.nodeCount →
      (template.append fragment).expand p = template.expand p := by
    intro p
    refine hsound.downward_induction (motive := fun p => root < p → p < template.nodeCount →
      (template.append fragment).expand p = template.expand p) (fun p ih hroot hp => ?_) p
    have hcontent := content_append hsound fragment hp
    rw [if_neg (Nat.ne_of_gt hroot)] at hcontent
    rw [hsound'.expand_eq, hsound.expand_eq, hcontent]
    refine flatMap_tokens_congr fun c hc => ?_
    have hrefers := refers_of_mem hc
    exact ih c hrefers (hroot.trans (hsound.forward p c hrefers)) (hsound.valid p c hrefers)
  have hcontent := content_append (p := root) hsound fragment hsound.nodeCount_pos
  rw [if_pos rfl] at hcontent
  rw [hsound'.expand_eq, hsound.expand_eq, hcontent, Array.toList_push, List.flatMap_append,
    List.flatMap_singleton, tokens_place hsound' fun p => new_content_append hsound fragment]
  congr 1
  refine flatMap_tokens_congr fun c hc => ?_
  have hrefers := refers_of_mem hc
  exact hold c (hsound.forward root c hrefers) (hsound.valid root c hrefers)

/-- Filling in a name substitutes the tokens of the value for it. -/
theorem expand_bind (hsound : Sound template) (name : String) (value : Fragment) :
    (template.bind name value).expand root =
      Token.substitute name value.tokens (template.expand root) := by
  by_cases hname : name ∈ (template.node root).placeholders
  · have hsound' := hsound.bind name value
    refine hsound.downward_induction (motive := fun p => p < template.nodeCount →
      (template.bind name value).expand p = Token.substitute name value.tokens (template.expand p))
      (fun p ih hp => ?_) root hsound.nodeCount_pos
    rw [hsound'.expand_eq, hsound.expand_eq, content_bind hsound value hname hp, Token.substitute,
      Array.toList_map, List.flatMap_map, List.flatMap_assoc]
    refine List.flatMap_congr fun slot hslot => ?_
    cases slot with
    | literal text => rfl
    | template place => rfl
    | placeholder other =>
        by_cases hother : other = name
        · subst hother
          simp only [if_true, Slot.tokens, List.flatMap_singleton, Token.fill]
          exact tokens_place hsound' fun p => new_content_bind hsound value hname
        · simp [hother, Slot.tokens, Token.fill]
    | node c =>
        have hrefers := refers_of_mem hslot
        exact ih c hrefers (hsound.valid p c hrefers)
  · rw [bind_of_not_mem value hname, Token.substitute_of_not_mem]
    rwa [hsound.name_mem_expand_iff]

theorem expand_build (fragments : List Fragment) :
    (build fragments).expand root = fragments.flatMap Fragment.tokens := by
  have hrest : ∀ (fragments : List Fragment) {template}, Sound template →
      (fragments.foldl append template).expand root =
        template.expand root ++ fragments.flatMap Fragment.tokens := by
    intro fragments
    induction fragments with
    | nil => simp
    | cons fragment fragments ih =>
        intro template hsound
        rw [List.foldl_cons, ih (hsound.append fragment), expand_append hsound, List.flatMap_cons,
          List.append_assoc]
  have hempty : empty.expand root = [] := by
    rw [sound_empty.expand_eq]
    rfl
  rw [build, hrest fragments sound_empty, hempty, List.nil_append]

theorem expand_bindEach (hsound : Sound template) (bindings : List (String × Fragment)) :
    (template.bindEach bindings).expand root =
      Token.substituteEach (template.expand root) bindings := by
  induction bindings generalizing template with
  | nil => rfl
  | cons binding bindings ih =>
      have hrest := ih (hsound.bind binding.1 binding.2)
      rw [expand_bind hsound] at hrest
      exact hrest

/-- **A run is plain substitution.** -/
theorem expand_performAll (fragments : List Fragment) (calls : List Call) :
    ((build fragments).performAll calls).expand root =
      Token.substituteEach (fragments.flatMap Fragment.tokens) (calls.flatMap Call.effective) := by
  rw [performAll_eq_bindEach, expand_bindEach (sound_build fragments), expand_build]

/-- The open names come in ascending order, each of them once.  The order is that of the code points,
which for texts in UTF-8 is that of the bytes. -/
theorem pairwise_unassigned (template : Template) : template.unassigned.Pairwise (· < ·) := by
  refine Std.TreeMap.ordered_keys.imp fun {a b} hlt => ?_
  exact compareOfLessAndEq_eq_lt.1 hlt

/-- Two templates with the same open names list them alike. -/
theorem unassigned_congr {other : Template}
    (h : ∀ name, name ∈ template.unassigned ↔ name ∈ other.unassigned) :
    template.unassigned = other.unassigned :=
  (pairwise_unassigned template).eq_of_mem_iff (pairwise_unassigned other) h

theorem isComplete_iff_unassigned : template.isComplete ↔ template.unassigned = [] := by
  rw [isComplete, unassigned, Node.names, ← List.isEmpty_iff, Std.TreeMap.isEmpty_keys]

/-- Whether a template is complete shows in its open names. -/
theorem isComplete_congr {other : Template} (h : template.unassigned = other.unassigned) :
    template.isComplete = other.isComplete := by
  rw [Bool.eq_iff_iff, isComplete_iff_unassigned, isComplete_iff_unassigned, h]

theorem Sound.mem_unassigned_iff (hsound : Sound template) :
    name ∈ template.unassigned ↔ .name name ∈ template.expand root := by
  rw [unassigned, Node.mem_names, hsound.name_mem_expand_iff]

theorem Sound.isComplete_iff (hsound : Sound template) :
    template.isComplete ↔ ∀ name, .name name ∉ template.expand root := by
  rw [isComplete, Std.TreeMap.isEmpty_iff_forall_not_mem]
  simp only [hsound.name_mem_expand_iff]

end Template

end RegexTemplate
