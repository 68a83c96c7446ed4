import RegexTemplate.Proofs.Definition.Referring
import RegexTemplate.Proofs.Pattern.Delimiting
import RegexTemplate.Proofs.Text.Bytes

/-!
# Which values are fragments

What a value writes is said here without reading it (`Writes`): a text between slashes, or a table that
holds texts under certain keys and nothing else, in any order.  A value that writes something converts
to it, once the template that it refers to has been looked up (`fragmentOfValue_of_writes`), and every
other value is refused with its text, or with what its kind is called (`fragmentOfValue_of_refused`).
The keys of a table tell which texts are needed, and the table holds just these exactly if each of them
is found (`holds_iff`).

Main statement: `fragmentOfValue_exact`.
-/

namespace RegexTemplate.Definition

open Pattern (Delimits)
open Toml (Value)

/-- The entries of a table are texts under certain keys, in some order. -/
def Holds (entries : List (Toml.Entry Value)) (texts : List (String × String)) : Prop :=
  (entries.map fun entry => (entry.key.name, entry.value.value)).Perm
    (texts.map fun pair => (pair.1, .string pair.2))

/-- What can be written: a pattern, a raw text, or the name of a template. -/
inductive Form where
  | pattern (pattern : Pattern)
  | literal (raw : String)
  | reference (name : String)

/-- What a value writes. -/
inductive Writes : Value → Form → Prop
  | delimited {source flags text : String} (h : Delimits source flags text) :
      Writes (.string text) (.pattern ⟨source, flags⟩)
  | plain {origin : Toml.Origin} {entries : List (Toml.Entry Value)} {source : String}
      (h : Holds entries [("pattern", source)]) :
      Writes (.table origin entries) (.pattern ⟨source, ""⟩)
  | flagged {origin : Toml.Origin} {entries : List (Toml.Entry Value)} {source flags : String}
      (h : Holds entries [("flags", flags), ("pattern", source)]) :
      Writes (.table origin entries) (.pattern ⟨source, flags⟩)
  | literal {origin : Toml.Origin} {entries : List (Toml.Entry Value)} {raw : String}
      (h : Holds entries [("literal", raw)]) : Writes (.table origin entries) (.literal raw)
  | reference {origin : Toml.Origin} {entries : List (Toml.Entry Value)} {name : String}
      (h : Holds entries [("template", name)]) : Writes (.table origin entries) (.reference name)

/-- The place of the first template of a name. -/
def FirstOf (known : List String) (name : String) (place : Nat) : Prop :=
  known[place]? = some name ∧ ∀ earlier < place, known[earlier]? ≠ some name

/-- The fragment for what is written, where the names of the templates are given. -/
inductive Form.Gives (known : List String) : Form → Fragment → Prop
  | pattern (pattern : Pattern) : Gives known (.pattern pattern) (.pattern pattern)
  | literal (raw : String) : Gives known (.literal raw) (.literal raw)
  | template {name : String} {place : Nat} (h : FirstOf known name place) :
      Gives known (.reference name) (.template place)

/-- What the kind of a value is called that is no text.  For a table these are its keys, in the order of
their bytes. -/
inductive Called : Value → String → Prop
  | integer (number : Int) : Called (.integer number) "integer"
  | float (number : Float) : Called (.float number) "float"
  | boolean (holds : Bool) : Called (.boolean holds) "boolean"
  | datetime (moment : Toml.Moment) : Called (.datetime moment) "datetime"
  | array (items : List (Toml.Located Value)) : Called (.array items) "array"
  | rows (tables : List (Toml.Located Value)) : Called (.rows tables) "array"
  | table {origin : Toml.Origin} {entries : List (Toml.Entry Value)} {keys : List String}
      (hkeys : keys.Perm (entries.map (·.key.name)))
      (hsorted : (keys.map Text.bytes).Pairwise (· ≤ ·)) :
      Called (.table origin entries) ("table with keys [" ++ ", ".intercalate keys ++ "]")

/-- Why a value is no fragment. -/
inductive Refused (known : List String) : Value → TemplateError → Prop
  | text {text : String} (hnone : ∀ form, ¬ Writes (.string text) form) :
      Refused known (.string text) (.invalidDelimitedPattern text)
  | unknown {value : Value} {name : String} (h : Writes value (.reference name))
      (hname : name ∉ known) : Refused known value (.unknownTemplate name)
  | kind {value : Value} {kind : String} (hnone : ∀ form, ¬ Writes value form)
      (hcalled : Called value kind) : Refused known value (.unsupportedFragmentKind kind)

variable {known : List String} {value : Value} {form : Form} {origin origin' : Toml.Origin}
  {entries entries' : List (Toml.Entry Value)} {texts : List (String × String)}
  {keys : List String} {key text name kind : String} {place : Nat}

theorem pairwise_sortedKeys (entries : List (Toml.Entry Value)) :
    (sortedKeys entries).Pairwise (· ≤ ·) := by
  refine (List.pairwise_mergeSort ?_ ?_ _).imp fun h => decide_eq_true_iff.1 h
  · intro a b c hab hbc
    rw [decide_eq_true_iff] at *
    exact String.le_trans hab hbc
  · intro a b
    rw [Bool.or_eq_true, decide_eq_true_iff, decide_eq_true_iff]
    exact String.le_total a b

/-- The keys in ascending order are the only such list that holds them. -/
theorem sortedKeys_eq_iff (hsorted : keys.Pairwise (· ≤ ·)) :
    sortedKeys entries = keys ↔ keys.Perm (entries.map (·.key.name)) := by
  have hperm : (sortedKeys entries).Perm (entries.map (·.key.name)) := List.mergeSort_perm _ _
  constructor
  · rintro rfl
    exact hperm
  · intro h
    exact (hperm.trans h.symm).eq_of_pairwise (fun _ _ _ _ => String.le_antisymm)
      (pairwise_sortedKeys entries) hsorted

/-- If no key is written twice, the text under a key is that of the entry with this key. -/
theorem textAt?_eq_some_iff (hnodup : (entries.map (·.key.name)).Nodup) :
    textAt? entries key = some text ↔ (key, .string text) ∈
      entries.map fun entry => (entry.key.name, entry.value.value) := by
  induction entries with
  | nil => simp [textAt?]
  | cons entry entries ih =>
      rw [List.map_cons, List.nodup_cons] at hnodup
      obtain ⟨hfirst, hrest⟩ := hnodup
      rw [List.map_cons, List.mem_cons, ← ih hrest]
      obtain ⟨⟨other, span⟩, ⟨value, place⟩⟩ := entry
      by_cases hkey : other = key
      · subst hkey
        have hnone : textAt? entries other ≠ some text := by
          rw [Ne, ih hrest, List.mem_map]
          intro hgiven
          obtain ⟨entry, hentry, heq⟩ := hgiven
          exact hfirst (List.mem_map.2 ⟨entry, hentry, (Prod.ext_iff.1 heq).1⟩)
        rw [or_iff_left hnone, textAt?]
        cases value <;> simp [eq_comm]
      · have hne : (key, Value.string text) ≠ (other, value) :=
          fun heq => hkey (Prod.ext_iff.1 heq).1.symm
        rw [or_iff_right hne, textAt?, textAt?, List.find?_cons_of_neg (by simpa using hkey)]

/-- A table holds certain texts exactly if it has their keys, and each of the texts is found under its
key. -/
theorem holds_iff (hsorted : (texts.map Prod.fst).Pairwise (· < ·)) :
    Holds entries texts ↔ sortedKeys entries = texts.map Prod.fst ∧
      ∀ pair ∈ texts, textAt? entries pair.1 = some pair.2 := by
  have hle : (texts.map Prod.fst).Pairwise (· ≤ ·) := hsorted.imp fun h => le_of_lt h
  have hnodup : (texts.map Prod.fst).Nodup := hsorted.imp fun h => ne_of_lt h
  rw [sortedKeys_eq_iff hle]
  constructor
  · intro h
    have hkeys : (texts.map Prod.fst).Perm (entries.map (·.key.name)) := by
      have hmap := (h.map Prod.fst).symm
      rwa [List.map_map, List.map_map] at hmap
    refine ⟨hkeys, fun pair hpair => ?_⟩
    rw [textAt?_eq_some_iff (hkeys.nodup_iff.1 hnodup), h.mem_iff]
    exact List.mem_map_of_mem hpair
  · intro hgiven
    obtain ⟨hkeys, htexts⟩ := hgiven
    have hentries : (entries.map (·.key.name)).Nodup := hkeys.nodup_iff.1 hnodup
    have hsubset : (texts.map fun pair => (pair.1, Value.string pair.2)) ⊆
        entries.map fun entry => (entry.key.name, entry.value.value) := by
      intro found hfound
      obtain ⟨pair, hpair, rfl⟩ := List.mem_map.1 hfound
      exact (textAt?_eq_some_iff hentries).1 (htexts pair hpair)
    -- the keys differ, so nothing is left over in the table
    have hdistinct : (texts.map fun pair => (pair.1, Value.string pair.2)).Nodup := by
      refine List.Nodup.of_map Prod.fst ?_
      rwa [List.map_map]
    have hlength : (entries.map fun entry => (entry.key.name, entry.value.value)).length ≤
        (texts.map fun pair => (pair.1, Value.string pair.2)).length := by
      have hsame := hkeys.length_eq
      simp only [List.length_map] at hsame ⊢
      exact hsame.ge
    exact ((List.subperm_of_subset hdistinct hsubset).perm_of_length_le hlength).symm

theorem holds_singleton_iff : Holds entries [(key, text)] ↔
    sortedKeys entries = [key] ∧ textAt? entries key = some text := by
  rw [holds_iff (List.pairwise_singleton _ _)]
  simp

theorem holds_flagged_iff {source flags : String} :
    Holds entries [("flags", flags), ("pattern", source)] ↔
      sortedKeys entries = ["flags", "pattern"] ∧
        textAt? entries "pattern" = some source ∧ textAt? entries "flags" = some flags := by
  have hlt : "flags" < "pattern" := by
    rw [String.lt_iff_toList_lt]
    decide
  have hsorted : ([("flags", flags), ("pattern", source)].map Prod.fst).Pairwise (· < ·) :=
    List.pairwise_pair.2 hlt
  rw [holds_iff hsorted]
  simp [and_comm]

theorem firstOf_iff : FirstOf known name place ↔ known.findIdx? (· == name) = some place := by
  rw [List.findIdx?_eq_some_iff_getElem, FirstOf]
  constructor
  · intro hgiven
    obtain ⟨hplace, hbefore⟩ := hgiven
    obtain ⟨hlt, hname⟩ := List.getElem?_eq_some_iff.1 hplace
    refine ⟨hlt, beq_iff_eq.2 hname, fun earlier hearlier heq => hbefore earlier hearlier ?_⟩
    rw [List.getElem?_eq_getElem (hearlier.trans hlt), beq_iff_eq.1 heq]
  · intro hgiven
    obtain ⟨hlt, hname, hbefore⟩ := hgiven
    refine ⟨List.getElem?_eq_some_iff.2 ⟨hlt, beq_iff_eq.1 hname⟩, fun earlier hearlier heq => ?_⟩
    obtain ⟨hlt', hname'⟩ := List.getElem?_eq_some_iff.1 heq
    exact hbefore earlier hearlier (beq_iff_eq.2 hname')

theorem findIdx?_eq_none_iff_not_mem : known.findIdx? (· == name) = none ↔ name ∉ known := by
  rw [List.findIdx?_eq_none_iff]
  constructor
  · intro h hname
    simpa using h name hname
  · intro hname other hother
    exact beq_false_of_ne fun heq => hname (heq ▸ hother)

/-- A table that holds a name alone is what refers to a template. -/
theorem writes_reference_iff : Writes value (.reference name) ↔ reference? value = some name := by
  rw [reference?_eq_some_iff]
  constructor
  · intro h
    cases h with
    | @reference origin entries _ h =>
        obtain ⟨entry, rfl, heq⟩ := List.map_eq_singleton_iff.1 (List.perm_singleton.1 h)
        exact ⟨origin, entry, rfl, (Prod.ext_iff.1 heq).1, (Prod.ext_iff.1 heq).2⟩
  · intro hgiven
    obtain ⟨origin, entry, rfl, hkey, htext⟩ := hgiven
    have hholds : Holds [entry] [("template", name)] := by
      rw [Holds, List.map_singleton, List.map_singleton, hkey, htext]
    exact .reference hholds

/-- A value that writes something converts to what is given for it. -/
theorem fragmentOfValue_of_writes {fragment : Fragment} (h : Writes value form)
    (hgives : form.Gives known fragment) : fragmentOfValue known value = .ok fragment := by
  cases hgives with
  | pattern pattern =>
      cases h with
      | delimited h =>
          rw [fragmentOfValue, Pattern.ofDelimited_eq_ok_iff.2 h]
          rfl
      | plain h =>
          obtain ⟨hkeys, hsource⟩ := holds_singleton_iff.1 h
          simp only [fragmentOfValue, fragmentOfTable, hkeys, hsource]
      | flagged h =>
          obtain ⟨hkeys, hsource, hflags⟩ := holds_flagged_iff.1 h
          simp only [fragmentOfValue, fragmentOfTable, hkeys, hsource, hflags]
  | literal raw =>
      cases h with
      | literal h =>
          obtain ⟨hkeys, hraw⟩ := holds_singleton_iff.1 h
          simp only [fragmentOfValue, fragmentOfTable, hkeys, hraw]
  | template hplace =>
      rw [fragmentOfValue_of_reference (writes_reference_iff.1 h), firstOf_iff.1 hplace]

/-- A table that writes nothing is refused with its keys. -/
theorem fragmentOfTable_of_not_writes (h : ∀ form, ¬ Writes (.table origin entries) form) :
    fragmentOfTable known entries = .error (unsupportedTable (sortedKeys entries)) := by
  unfold fragmentOfTable
  dsimp only
  split
  · next hkeys =>
      cases hsource : textAt? entries "pattern" with
      | none => rfl
      | some source => exact absurd (.plain (holds_singleton_iff.2 ⟨hkeys, hsource⟩)) (h _)
  · next hkeys =>
      cases hsource : textAt? entries "pattern" with
      | none => rfl
      | some source =>
          cases hflags : textAt? entries "flags" with
          | none => rfl
          | some flags =>
              exact absurd (.flagged (holds_flagged_iff.2 ⟨hkeys, hsource, hflags⟩)) (h _)
  · next hkeys =>
      cases hraw : textAt? entries "literal" with
      | none => rfl
      | some raw => exact absurd (.literal (holds_singleton_iff.2 ⟨hkeys, hraw⟩)) (h _)
  · next hkeys =>
      cases hname : textAt? entries "template" with
      | none => rfl
      | some name => exact absurd (.reference (holds_singleton_iff.2 ⟨hkeys, hname⟩)) (h _)
  · rfl

/-- What a table is called are its keys in ascending order. -/
theorem called_table_iff : Called (.table origin entries) kind ↔
    kind = "table with keys [" ++ ", ".intercalate (sortedKeys entries) ++ "]" := by
  have hbytes : ∀ keys : List String, (keys.map Text.bytes).Pairwise (· ≤ ·) ↔
      keys.Pairwise (· ≤ ·) := by
    intro keys
    simp only [List.pairwise_map, Text.bytes_le_bytes_iff]
  constructor
  · intro h
    cases h with
    | table hkeys hsorted => rw [(sortedKeys_eq_iff ((hbytes _).1 hsorted)).2 hkeys]
  · rintro rfl
    exact .table (List.mergeSort_perm _ _) ((hbytes _).2 (pairwise_sortedKeys entries))

/-- A value that is refused does not convert. -/
theorem fragmentOfValue_of_refused {e : TemplateError} (h : Refused known value e) :
    fragmentOfValue known value = .error e := by
  cases h with
  | @text text hnone =>
      have hbad : ¬ ∃ source flags, Delimits source flags text := by
        intro hgiven
        obtain ⟨source, flags, h⟩ := hgiven
        exact hnone _ (.delimited h)
      rw [fragmentOfValue, Pattern.ofDelimited_eq_error_iff.2 ⟨rfl, hbad⟩]
      rfl
  | unknown hwrites hname =>
      rw [fragmentOfValue_of_reference (writes_reference_iff.1 hwrites),
        findIdx?_eq_none_iff_not_mem.2 hname]
  | kind hnone hcalled =>
      cases value with
      | string text => cases hcalled
      | table origin entries =>
          rw [fragmentOfValue, fragmentOfTable_of_not_writes hnone, called_table_iff.1 hcalled]
          rfl
      | _ =>
          cases hcalled
          rfl

/-- Every value is a fragment or is refused. -/
theorem gives_or_refused (known : List String) (value : Value) :
    (∃ form fragment, Writes value form ∧ form.Gives known fragment) ∨
      ∃ e, Refused known value e := by
  by_cases hwrites : ∃ form, Writes value form
  · obtain ⟨form, h⟩ := hwrites
    cases form with
    | pattern pattern => exact Or.inl ⟨_, _, h, .pattern pattern⟩
    | literal raw => exact Or.inl ⟨_, _, h, .literal raw⟩
    | reference name =>
        cases hplace : known.findIdx? (· == name) with
        | none => exact Or.inr ⟨_, .unknown h (findIdx?_eq_none_iff_not_mem.1 hplace)⟩
        | some place => exact Or.inl ⟨_, _, h, .template (firstOf_iff.2 hplace)⟩
  · have hnone : ∀ form, ¬ Writes value form := fun form h => hwrites ⟨form, h⟩
    right
    cases value with
    | string text => exact ⟨_, .text hnone⟩
    | integer number => exact ⟨_, .kind hnone (.integer number)⟩
    | float number => exact ⟨_, .kind hnone (.float number)⟩
    | boolean holds => exact ⟨_, .kind hnone (.boolean holds)⟩
    | datetime moment => exact ⟨_, .kind hnone (.datetime moment)⟩
    | array items => exact ⟨_, .kind hnone (.array items)⟩
    | rows tables => exact ⟨_, .kind hnone (.rows tables)⟩
    | table origin entries => exact ⟨_, .kind hnone (called_table_iff.2 rfl)⟩

theorem fragmentOfValue_eq_ok_iff {fragment : Fragment} :
    fragmentOfValue known value = .ok fragment ↔
      ∃ form, Writes value form ∧ form.Gives known fragment := by
  constructor
  · intro h
    rcases gives_or_refused known value with ⟨form, fragment', hwrites, hgives⟩ | ⟨e, hrefused⟩
    · rw [fragmentOfValue_of_writes hwrites hgives, Except.ok.injEq] at h
      exact ⟨form, hwrites, h ▸ hgives⟩
    · rw [fragmentOfValue_of_refused hrefused] at h
      cases h
  · intro hgiven
    obtain ⟨form, hwrites, hgives⟩ := hgiven
    exact fragmentOfValue_of_writes hwrites hgives

theorem fragmentOfValue_eq_error_iff {e : TemplateError} :
    fragmentOfValue known value = .error e ↔ Refused known value e := by
  constructor
  · intro h
    rcases gives_or_refused known value with ⟨form, fragment, hwrites, hgives⟩ | ⟨e', hrefused⟩
    · rw [fragmentOfValue_of_writes hwrites hgives] at h
      cases h
    · rw [fragmentOfValue_of_refused hrefused, Except.error.injEq] at h
      exact h ▸ hrefused
  · exact fragmentOfValue_of_refused

/-- A table writes the same, and is called the same, in whatever order its entries are written. -/
theorem writes_of_perm (hperm : entries.Perm entries') (h : Writes (.table origin entries) form) :
    Writes (.table origin' entries') form := by
  have hholds : ∀ texts, Holds entries texts → Holds entries' texts :=
    fun texts h => ((hperm.map _).symm).trans h
  cases h with
  | plain h => exact .plain (hholds _ h)
  | flagged h => exact .flagged (hholds _ h)
  | literal h => exact .literal (hholds _ h)
  | reference h => exact .reference (hholds _ h)

theorem fragmentOfValue_of_perm (hperm : entries.Perm entries') :
    fragmentOfValue known (.table origin entries) =
      fragmentOfValue known (.table origin' entries') := by
  rcases gives_or_refused known (.table origin entries) with
    ⟨form, fragment, hwrites, hgives⟩ | ⟨e, hrefused⟩
  · rw [fragmentOfValue_of_writes hwrites hgives,
      fragmentOfValue_of_writes (writes_of_perm hperm hwrites) hgives]
  · have hrefused' : Refused known (.table origin' entries') e := by
      cases hrefused with
      | unknown hwrites hname => exact .unknown (writes_of_perm hperm hwrites) hname
      | kind hnone hcalled =>
          refine .kind (fun form h => hnone form (writes_of_perm hperm.symm h)) ?_
          cases hcalled with
          | table hkeys hsorted => exact .table (hkeys.trans (hperm.map _)) hsorted
    rw [fragmentOfValue_of_refused hrefused, fragmentOfValue_of_refused hrefused']

/-- **Values are accepted exactly if they are of one of the forms.**

* A value converts to a fragment exactly if it is a text between slashes, or a table that holds a
  pattern, with flags or without, or a raw text, or the name of a template that is known, each as a text
  and with nothing else beside them.  The fragment is that pattern or raw text, or the first template of
  the name.
* Otherwise the cause is the text if the value is one; the name if the value is a table that holds the
  name of an unknown template; and else what the kind of the value is called, or the keys of the table
  in the order of their bytes.
* It makes no difference in which order the entries of a table are written. -/
theorem fragmentOfValue_exact (known : List String) :
    (∀ value fragment, fragmentOfValue known value = .ok fragment ↔
      ∃ form, Writes value form ∧ form.Gives known fragment) ∧
    (∀ value e, fragmentOfValue known value = .error e ↔ Refused known value e) ∧
    ∀ (origin origin' : Toml.Origin) (entries entries' : List (Toml.Entry Value)),
      entries.Perm entries' → fragmentOfValue known (.table origin entries) =
        fragmentOfValue known (.table origin' entries') :=
  ⟨fun _ _ => fragmentOfValue_eq_ok_iff, fun _ _ => fragmentOfValue_eq_error_iff,
    fun _ _ _ _ => fragmentOfValue_of_perm⟩

/-- An entry of a table, without its place in the document. -/
def entryOf (key : String) (value : Value) : Toml.Entry Value := ⟨⟨key, ⟨0, 0⟩⟩, ⟨value, none⟩⟩

/-- Flags in front of the pattern or behind it, a name that two templates have and one that none has, and
a table that is no fragment, in which a key that is not ASCII stands first. -/
theorem fragmentOfValue_exact_tables :
    fragmentOfValue [] (.table .braces
        [entryOf "flags" (.string "i"), entryOf "pattern" (.string "x")]) =
        .ok (.pattern ⟨"x", "i"⟩) ∧
      fragmentOfValue [] (.table .header
        [entryOf "pattern" (.string "x"), entryOf "flags" (.string "i")]) =
        .ok (.pattern ⟨"x", "i"⟩) ∧
      fragmentOfValue ["b", "a", "a"] (.table .braces [entryOf "template" (.string "a")]) =
        .ok (.template 1) ∧
      fragmentOfValue ["b"] (.table .braces [entryOf "template" (.string "a")]) =
        .error (.unknownTemplate "a") ∧
      fragmentOfValue [] (.table .braces
        [entryOf "é" (.boolean true), entryOf "z" (.string "x")]) =
        .error (.unsupportedFragmentKind "table with keys [z, é]") := by
  have hflagged : fragmentOfValue [] (.table .braces
      [entryOf "flags" (.string "i"), entryOf "pattern" (.string "x")]) =
      .ok (.pattern ⟨"x", "i"⟩) :=
    ((fragmentOfValue_exact []).1 _ _).2 ⟨_, .flagged (.refl _), .pattern _⟩
  have hreference : Writes (.table .braces [entryOf "template" (.string "a")]) (.reference "a") :=
    .reference (.refl _)
  have hfirst : FirstOf ["b", "a", "a"] "a" 1 := by
    refine ⟨rfl, fun earlier hearlier => ?_⟩
    obtain rfl : earlier = 0 := by omega
    simp
  refine ⟨hflagged, ?_, ?_, ?_, ?_⟩
  · rw [← (fragmentOfValue_exact []).2.2 .braces .header _ _ (.swap _ _ [])]
    exact hflagged
  · exact ((fragmentOfValue_exact _).1 _ _).2 ⟨_, hreference, .template hfirst⟩
  · exact ((fragmentOfValue_exact _).2.1 _ _).2 (.unknown hreference (by simp))
  · refine ((fragmentOfValue_exact _).2.1 _ _).2 (.kind (fun form h => ?_) ?_)
    · have hone : ∀ key text, ¬ Holds [entryOf "é" (.boolean true), entryOf "z" (.string "x")]
          [(key, text)] := fun key text h => by simpa using h.length_eq
      cases h with
      | plain h => exact hone _ _ h
      | literal h => exact hone _ _ h
      | reference h => exact hone _ _ h
      | flagged h => simpa [entryOf] using h.subset List.mem_cons_self
    · have hle : "z" ≤ "é" := by
        rw [String.le_iff_toList_le]
        decide
      have hsorted : (["z", "é"].map Text.bytes).Pairwise (· ≤ ·) :=
        List.pairwise_pair.2 (Text.bytes_le_bytes_iff.2 hle)
      exact .table (.swap _ _ _) hsorted

end RegexTemplate.Definition
