import Mathlib
import RegexTemplate.Proofs.Template.Runs

/-!
# Which names are on record

The main statement is `placeholders_exact`: in every reachable template the slots on record for a name
are exactly those that hold it or a child where it is on record, no name is on record without a slot,
and so a name is on record at a node if and only if it stands somewhere below.  For the root this says
that the open names are those that stand in the template, with none left over and none missing.
-/

namespace RegexTemplate.Template

variable {template : Template}

theorem mem_through_iff {node : Node} {name : String} {j : Nat} :
    j ∈ node.through name ↔ ∃ positions, node.placeholders[name]? = some positions ∧ j ∈ positions := by
  constructor
  · intro hj
    exact ⟨_, getElem?_placeholders (Node.mem_placeholders_of_mem_through hj), hj⟩
  · intro hgiven
    obtain ⟨positions, hpositions, hj⟩ := hgiven
    rw [Node.through, Std.TreeMap.getD_eq_getD_getElem?, hpositions]
    exact hj

/-- Where names are visible, the slots on record are exactly those that hold the name or a child where
it is on record. -/
theorem Visible.mem_through_iff (hvisible : Visible template) {p j : Nat} {name : String} :
    j ∈ (template.node p).through name ↔
      (template.node p).content[j]? = some (.placeholder name) ∨
        ∃ c, (template.node p).content[j]? = some (.node c) ∧
          name ∈ (template.node c).placeholders := by
  refine ⟨hvisible.support p name j, ?_⟩
  intro hgiven
  rcases hgiven with hhere | ⟨c, hc, hbelow⟩
  · exact hvisible.direct p name j hhere
  · exact hvisible.inherited p c name j hc hbelow

/-- No name is on record without a slot. -/
theorem Supported.positions_nonempty (hsupported : Supported template) {p : Nat} {name : String}
    {positions : Positions} (h : (template.node p).placeholders[name]? = some positions) :
    ¬ positions.isEmpty := by
  have hname : name ∈ (template.node p).placeholders := by
    rw [Std.TreeMap.mem_iff_isSome_getElem?, h]
    rfl
  obtain ⟨j, hj⟩ := hsupported.reached p name hname
  rw [getElem?_placeholders hname, Option.some.injEq] at h
  rw [h] at hj
  intro hempty
  rw [Std.TreeSet.isEmpty_iff_forall_not_mem] at hempty
  exact hempty j hj

/-- **Open names are exact.**  In every reachable template, the slots on record for a name at a node
are those that hold the name and those that hold a child where the name is on record, and there is
always one.  Hence a name is on record at a node if and only if it stands in a slot that is reached
from there, and the open names of the template are those that stand in a slot reached from the
root. -/
theorem placeholders_exact (h : Reachable template) :
    (∀ p name (j : Nat),
      (∃ positions, (template.node p).placeholders[name]? = some positions ∧ j ∈ positions) ↔
        (template.node p).content[j]? = some (.placeholder name) ∨
          ∃ c, (template.node p).content[j]? = some (.node c) ∧
            name ∈ (template.node c).placeholders) ∧
    (∀ p (name : String) positions, (template.node p).placeholders[name]? = some positions →
      ¬ positions.isEmpty) ∧
    (∀ p name, name ∈ (template.node p).placeholders ↔
      ∃ q, Relation.ReflTransGen template.Refers p q ∧
        ∃ j : Nat, (template.node q).content[j]? = some (.placeholder name)) ∧
    (∀ name, name ∈ template.unassigned ↔
      ∃ q, Relation.ReflTransGen template.Refers root q ∧
        ∃ j : Nat, (template.node q).content[j]? = some (.placeholder name)) := by
  have hsound := h.sound
  refine ⟨fun p name j => ?_, fun p name positions => hsound.positions_nonempty,
    fun p name => hsound.mem_placeholders_iff, fun name => ?_⟩
  · rw [← mem_through_iff]
    exact hsound.toVisible.mem_through_iff
  · rw [unassigned, Node.mem_names]
    exact hsound.mem_placeholders_iff

/-- Fragments two of which wait for the same name. -/
def fork : List Fragment :=
  [.pattern ⟨"\\VAR\x7bs\x7d", ""⟩, .pattern ⟨"-", ""⟩, .pattern ⟨"\\VAR\x7bs\x7d", ""⟩]

/-- A value for that name, which waits for another. -/
def forkedValue : Fragment := .pattern ⟨"<\\VAR\x7bt\x7d>", ""⟩

/-- Both places filled in by one call. -/
def forked : Template := (Call.perform (build fork) (.bind "s" (.ok forkedValue))).1

/-- In `forked` the value is shared, and its name is open because it stands below the root. -/
theorem placeholders_exact_forked : Reachable forked ∧ "t" ∈ forked.unassigned ∧
    ∃ q, Relation.ReflTransGen forked.Refers root q ∧
      ∃ j : Nat, (forked.node q).content[j]? = some (.placeholder "t") := by
  have hreachable : Reachable forked := (reachable_build _).called _
  have hopen : "t" ∈ forked.unassigned := by
    have hnames : forked.unassigned = ["t"] := by cbv
    rw [hnames]
    exact List.mem_singleton_self _
  exact ⟨hreachable, hopen, ((placeholders_exact hreachable).2.2.2 "t").1 hopen⟩

end RegexTemplate.Template
