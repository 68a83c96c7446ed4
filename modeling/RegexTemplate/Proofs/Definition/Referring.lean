import Mathlib.Data.List.Forall2
import RegexTemplate.Definition.FragmentValue
import RegexTemplate.Definition.Recipe

/-!
# Values that refer to templates

A value refers to a template if it is a table that holds its name under the key `template` and nothing
else (`reference?`).  Only such a value converts to a nested template, namely to the first one of this
name (`fragmentOfValue_eq_template_iff`), and what any other value converts to does not depend on the
templates that are known (`fragmentOfValue_independent`).  It does not depend on the places of the
value in the document either (`fragmentOfValue_congr`).
-/

namespace RegexTemplate

/-- Two values that say the same.  They may stand in different places, and their tables may be written
in different forms. -/
inductive Toml.Value.Agrees : Value → Value → Prop
  | refl (value : Value) : Agrees value value
  | array {items items' : List (Located Value)}
      (h : List.Forall₂ (fun item item' => Agrees item.value item'.value) items items') :
      Agrees (.array items) (.array items')
  | rows {tables tables' : List (Located Value)}
      (h : List.Forall₂ (fun item item' => Agrees item.value item'.value) tables tables') :
      Agrees (.rows tables) (.rows tables')
  | table {origin origin' : Origin} {entries entries' : List (Entry Value)}
      (hkeys : entries.map (·.key.name) = entries'.map (·.key.name))
      (h : List.Forall₂ (fun entry entry' => Agrees entry.value.value entry'.value.value)
        entries entries') :
      Agrees (.table origin entries) (.table origin' entries')

namespace Definition

open Toml (Value)

/-- The name of the template that a value refers to. -/
def reference? : Value → Option String
  | .table _ [entry] =>
    if entry.key.name = "template" then textAt? [entry] "template" else none
  | _ => none

/-- The names of the templates that the values of a recipe refer to. -/
def Recipe.references (recipe : Recipe) : List String :=
  (recipe.fragments ++ recipe.vars.map Prod.snd).filterMap fun value => reference? value.value

variable {value : Value} {known : List String} {name key : String} {place : Nat}
  {entries entries' : List (Toml.Entry Value)}

theorem sortedKeys_eq_singleton_iff :
    sortedKeys entries = [key] ↔ ∃ entry, entries = [entry] ∧ entry.key.name = key := by
  unfold sortedKeys
  constructor
  · intro hkeys
    have hperm := List.mergeSort_perm (entries.map (·.key.name)) fun a b => a ≤ b
    rw [hkeys] at hperm
    have hmap := List.perm_singleton.1 hperm.symm
    exact List.map_eq_singleton_iff.1 hmap
  · intro hgiven
    obtain ⟨entry, rfl, rfl⟩ := hgiven
    simp

theorem textAt?_singleton_eq_some_iff {entry : Toml.Entry Value} (hkey : entry.key.name = key) :
    textAt? [entry] key = some name ↔ entry.value.value = .string name := by
  obtain ⟨entryKey, ⟨value, span⟩⟩ := entry
  unfold textAt?
  rw [List.find?_singleton, hkey, beq_self_eq_true, if_pos rfl]
  cases value <;> simp

/-- The values that refer to a template. -/
theorem reference?_eq_some_iff : reference? value = some name ↔ ∃ origin entry,
    value = .table origin [entry] ∧ entry.key.name = "template" ∧
      entry.value.value = .string name := by
  constructor
  · intro h
    unfold reference? at h
    split at h
    · next origin entry =>
        split at h
        · next hkey => exact ⟨origin, entry, rfl, hkey, (textAt?_singleton_eq_some_iff hkey).1 h⟩
        · cases h
    · cases h
  · intro h
    obtain ⟨origin, entry, rfl, hkey, htext⟩ := h
    rw [reference?, if_pos hkey, textAt?_singleton_eq_some_iff hkey]
    exact htext

/-- Values that refer to the same template say the same. -/
theorem agrees_of_reference {value' : Value} (h : reference? value = some name)
    (h' : reference? value' = some name) : value.Agrees value' := by
  obtain ⟨origin, entry, rfl, hkey, htext⟩ := reference?_eq_some_iff.1 h
  obtain ⟨origin', entry', rfl, hkey', htext'⟩ := reference?_eq_some_iff.1 h'
  refine .table ?_ (.cons ?_ .nil)
  · rw [List.map_singleton, List.map_singleton, hkey, hkey']
  · rw [htext, htext']
    exact .refl _

/-- A value that refers to a template converts to the first template of this name. -/
theorem fragmentOfValue_of_reference (h : reference? value = some name) :
    fragmentOfValue known value =
      match known.findIdx? (· == name) with
      | some place => .ok (.template place)
      | none => .error (.unknownTemplate name) := by
  obtain ⟨origin, entry, rfl, hkey, htext⟩ := reference?_eq_some_iff.1 h
  have hkeys : sortedKeys [entry] = ["template"] :=
    sortedKeys_eq_singleton_iff.2 ⟨entry, rfl, hkey⟩
  have hname := (textAt?_singleton_eq_some_iff hkey).2 htext
  rw [fragmentOfValue, fragmentOfTable, hkeys]
  cases hplace : known.findIdx? (· == name) <;> simp [hname, hplace]

/-- In a table that refers to no template, no text stands alone under the key of references. -/
theorem textAt?_of_no_reference {origin : Toml.Origin}
    (h : reference? (.table origin entries) = none) (hkeys : sortedKeys entries = ["template"]) :
    textAt? entries "template" = none := by
  obtain ⟨entry, rfl, hkey⟩ := sortedKeys_eq_singleton_iff.1 hkeys
  rwa [reference?, if_pos hkey] at h

/-- What a value that refers to no template converts to does not depend on the templates. -/
theorem fragmentOfValue_independent (h : reference? value = none) (known known' : List String) :
    fragmentOfValue known value = fragmentOfValue known' value := by
  cases value with
  | table origin entries =>
      have htext := textAt?_of_no_reference h
      unfold fragmentOfValue fragmentOfTable
      dsimp only
      split
      case h_4 hkeys => rw [htext hkeys]
      all_goals rfl
  | _ => rfl

/-- A value that refers to no template does not convert to one. -/
theorem fragmentOfValue_ne_template (h : reference? value = none) :
    fragmentOfValue known value ≠ .ok (.template place) := by
  cases value with
  | table origin entries =>
      have htext := textAt?_of_no_reference h
      unfold fragmentOfValue fragmentOfTable
      dsimp only
      split
      case h_4 hkeys => simp [htext hkeys]
      all_goals try split
      all_goals simp
  | string text =>
      rw [fragmentOfValue]
      cases Pattern.ofDelimited text <;> simp [Except.map]
  | _ => simp [fragmentOfValue]

/-- **Which values convert to templates.** -/
theorem fragmentOfValue_eq_template_iff :
    fragmentOfValue known value = .ok (.template place) ↔
      ∃ name, reference? value = some name ∧ known.findIdx? (· == name) = some place := by
  cases hreference : reference? value with
  | none => simp [fragmentOfValue_ne_template hreference]
  | some name =>
      rw [fragmentOfValue_of_reference hreference]
      cases hplace : known.findIdx? (· == name) <;> simp [hplace]

/-- What a value that refers to a template converts to, if it does. -/
theorem exists_place_of_reference {fragment : Fragment} (hreference : reference? value = some name)
    (h : fragmentOfValue known value = .ok fragment) :
    ∃ place, known.findIdx? (· == name) = some place ∧ fragment = .template place := by
  rw [fragmentOfValue_of_reference hreference] at h
  cases hplace : known.findIdx? (· == name) with
  | none =>
      rw [hplace] at h
      cases h
  | some place =>
      rw [hplace] at h
      cases h
      exact ⟨place, rfl, rfl⟩

theorem textAt?_congr (hkeys : entries.map (·.key.name) = entries'.map (·.key.name))
    (h : List.Forall₂ (fun entry entry' : Toml.Entry Value =>
      entry.value.value.Agrees entry'.value.value) entries entries') :
    textAt? entries = textAt? entries' := by
  funext key
  induction h with
  | nil => rfl
  | @cons entry entry' entries entries' hvalue _ ih =>
      obtain ⟨⟨name, span⟩, ⟨value, place⟩⟩ := entry
      obtain ⟨⟨name', span'⟩, ⟨value', place'⟩⟩ := entry'
      rw [List.map_cons, List.map_cons, List.cons.injEq] at hkeys
      obtain ⟨rfl, hkeys⟩ := hkeys
      have hrest := ih hkeys
      unfold textAt? at hrest ⊢
      by_cases hkey : name = key
      · simp only [List.find?_cons, hkey, beq_self_eq_true]
        cases hvalue with
        | refl => cases value <;> rfl
        | array => rfl
        | rows => rfl
        | table => rfl
      · simpa only [List.find?_cons, beq_false_of_ne hkey] using hrest

/-- Values that say the same convert alike. -/
theorem fragmentOfValue_congr {value' : Value} (h : value.Agrees value') :
    fragmentOfValue known value = fragmentOfValue known value' := by
  cases h with
  | refl => rfl
  | array => rfl
  | rows => rfl
  | table hkeys hentries =>
      rw [fragmentOfValue, fragmentOfValue, fragmentOfTable, fragmentOfTable,
        textAt?_congr hkeys hentries, sortedKeys, sortedKeys, hkeys]

end Definition

end RegexTemplate
