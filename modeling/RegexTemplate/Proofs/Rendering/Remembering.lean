import Mathlib
import RegexTemplate.Proofs.Rendering.Simulation

/-!
# Remembering texts changes no result

A template may be rendered afresh, where every nested template is rendered wherever it stands, or with
texts that are remembered.  The two agree for every cache that holds only texts that rendering afresh
would give (`Shelf.Valid`), whatever siblings have left in it.  To say what is rendered in between,
each rendering of a nested template is noted in a journal.  The invariant of a run is `Shelf.Fills`:
the cache has grown by the places in the journal, these are the nested places that are asked for and
were not known (`Shelf.Asked`), and none of them is noted twice.

Main statement: `rendering_agrees_with_plain`.
-/

namespace RegexTemplate

namespace Shelf

open Template (Cache Rendering remembered)

/-- Asks for a nested template by rendering it again. -/
def afresh (render : Nat → Except TemplateError String) (place : Nat) :
    Except TemplateError String := render place

/-- The text of a template where nothing is remembered: each nested template is rendered again at each
place where it stands, and the first failure counts. -/
def plain (shelf : Shelf) (template : Template) : Except TemplateError String :=
  template.render (afresh (shelf.renderAt afresh))

/-- A step of rendering that also notes the nested templates that are rendered. -/
abbrev Journaled := StateT (List Nat) Rendering

/-- Notes a nested template, and renders it. -/
def noted (render : Nat → Journaled String) (place : Nat) : Journaled String := do
  modifyThe (List Nat) (· ++ [place])
  render place

/-- Asks for a nested template as rendering does, and notes it if it is rendered. -/
def recorded (render : Nat → Journaled String) : Nat → Journaled String := remembered (noted render)

/-- Rendering, with each nested template noted when it is rendered. -/
def journaled (shelf : Shelf) (template : Template) : Journaled String :=
  template.render (recorded (shelf.renderAt recorded))

/-- Each text in the cache is the one that rendering afresh gives. -/
def Valid (shelf : Shelf) (cache : Cache) : Prop :=
  ∀ (place : Nat) text, cache[place]? = some text → shelf.renderAt afresh place = .ok text

/-- With each template, the cache holds those that are nested in it. -/
def Closed (shelf : Shelf) (cache : Cache) : Prop :=
  ∀ place ∈ cache, ∀ nested ∈ shelf.placesAt place, nested ∈ cache

/-- The places that are nested in some others, at any depth. -/
inductive Nested (shelf : Shelf) (places : List Nat) : Nat → Prop
  | here {place : Nat} (hplace : place ∈ places) : Nested shelf places place
  | deeper {place nested : Nat} (hplace : Nested shelf places place)
      (hnested : nested ∈ shelf.placesAt place) : Nested shelf places nested

/-- The places that are nested at any depth, where nothing below a known place is looked at. -/
inductive Asked (shelf : Shelf) (cache : Cache) (places : List Nat) : Nat → Prop
  | here {place : Nat} (hplace : place ∈ places) (hnew : place ∉ cache) :
      Asked shelf cache places place
  | deeper {place nested : Nat} (hplace : Asked shelf cache places place)
      (hnested : nested ∈ shelf.placesAt place) (hnew : nested ∉ cache) :
      Asked shelf cache places nested

/-- The caches that come up in a run with nothing remembered at first: one for each nested template
that has been asked for so far. -/
inductive Met (shelf : Shelf) : Cache → Prop
  | start : Met shelf ∅
  | asked {cache later : Cache} {place : Nat} {text : String} (hcache : Met shelf cache)
      (hrun : (remembered (shelf.renderAt remembered) place : Rendering String) cache =
        .ok (text, later)) : Met shelf later

variable {shelf : Shelf} {cache later : Cache} {places more : List Nat} {place : Nat}

theorem Asked.not_mem (h : Asked shelf cache places place) : place ∉ cache := by
  cases h with
  | here _ hnew => exact hnew
  | deeper _ _ hnew => exact hnew

theorem not_asked_nil : ¬ Asked shelf cache [] place := by
  intro h
  induction h with
  | here hplace _ => cases hplace
  | deeper _ _ _ ih => exact ih

/-- Nothing is asked for below known places. -/
theorem not_asked_of_mem (hknown : place ∈ cache) {other : Nat} :
    ¬ Asked shelf cache [place] other := by
  intro h
  induction h with
  | here hplace hnew => exact hnew (List.mem_singleton.1 hplace ▸ hknown)
  | deeper _ _ _ ih => exact ih

/-- For a new place, the place itself and what it nests is asked for. -/
theorem asked_singleton_iff (hnew : place ∉ cache) {other : Nat} :
    Asked shelf cache [place] other ↔
      other = place ∨ Asked shelf cache (shelf.placesAt place) other := by
  constructor
  · intro h
    induction h with
    | here hplace _ => exact Or.inl (List.mem_singleton.1 hplace)
    | deeper _ hnested hother ih =>
        right
        rcases ih with rfl | hasked
        · exact .here hnested hother
        · exact .deeper hasked hnested hother
  · intro hgiven
    rcases hgiven with rfl | h
    · exact .here (List.mem_singleton_self _) hnew
    · induction h with
      | here hplace hother => exact .deeper (.here (List.mem_singleton_self _) hnew) hplace hother
      | deeper _ hnested hother ih => exact .deeper ih hnested hother

/-- Asking for two rows of places is asking for the first, and then for the second with what the first
has made known. -/
theorem asked_append_iff {rest : List Nat}
    (hlater : ∀ place, place ∈ later ↔ place ∈ cache ∨ Asked shelf cache places place) :
    Asked shelf cache (places ++ rest) place ↔
      Asked shelf cache places place ∨ Asked shelf later rest place := by
  have hold : ∀ place, place ∉ later → place ∉ cache :=
    fun place hplace hknown => hplace ((hlater place).2 (Or.inl hknown))
  constructor
  · -- a place that is new for the cache is known later only if the first row asks for it
    have hsplit : ∀ place, place ∉ cache → (place ∉ later → Asked shelf later rest place) →
        Asked shelf cache places place ∨ Asked shelf later rest place := by
      intro place hnew hrest
      by_cases hknown : place ∈ later
      · exact Or.inl (((hlater place).1 hknown).resolve_left hnew)
      · exact Or.inr (hrest hknown)
    intro h
    induction h with
    | here hplace hnew =>
        rcases List.mem_append.1 hplace with hfirst | hsecond
        · exact Or.inl (.here hfirst hnew)
        · exact hsplit _ hnew (.here hsecond)
    | deeper _ hnested hnew ih =>
        rcases ih with hfirst | hsecond
        · exact Or.inl (.deeper hfirst hnested hnew)
        · exact hsplit _ hnew (.deeper hsecond hnested)
  · intro hgiven
    rcases hgiven with h | h
    · induction h with
      | here hplace hnew => exact .here (List.mem_append_left _ hplace) hnew
      | deeper _ hnested hnew ih => exact .deeper ih hnested hnew
    · induction h with
      | here hplace hnew => exact .here (List.mem_append_right _ hplace) (hold _ hnew)
      | deeper _ hnested hnew ih => exact .deeper ih hnested (hold _ hnew)

/-- On an ordered shelf, whatever is asked for below a place stands before it. -/
theorem Asked.lt (hshelf : shelf.Ordered) {bound : Nat} (hplaces : ∀ place ∈ places, place < bound)
    (h : Asked shelf cache places place) : place < bound := by
  induction h with
  | here hplace _ => exact hplaces _ hplace
  | deeper _ hnested _ ih => exact Nat.lt_trans (hshelf _ _ hnested) ih

/-- A cache that holds with each template those nested in it hides nothing: what is new is asked for. -/
theorem Closed.mem_or_asked_iff (hclosed : shelf.Closed cache) :
    place ∈ cache ∨ Asked shelf cache places place ↔
      place ∈ cache ∨ Nested shelf places place := by
  constructor
  · refine Or.imp_right fun h => ?_
    induction h with
    | here hplace _ => exact .here hplace
    | deeper _ hnested _ ih => exact .deeper ih hnested
  · intro hgiven
    rcases hgiven with hknown | h
    · exact Or.inl hknown
    · induction h with
      | here hplace => exact or_iff_not_imp_left.2 (.here hplace)
      | deeper _ hnested ih =>
          rcases ih with hknown | hasked
          · exact Or.inl (hclosed _ hknown _ hnested)
          · exact or_iff_not_imp_left.2 (.deeper hasked hnested)

/-- What a run that asks for some places does to the cache, where `more` are the places noted in the
journal. -/
structure Fills (shelf : Shelf) (places : List Nat) (cache : Cache) (more : List Nat)
    (later : Cache) : Prop where
  valid : shelf.Valid later
  mem_iff : ∀ place, place ∈ later ↔ place ∈ cache ∨ place ∈ more
  noted_iff : ∀ place, place ∈ more ↔ Asked shelf cache places place
  nodup : more.Nodup

theorem Fills.mem_iff_asked (h : Fills shelf places cache more later) (place : Nat) :
    place ∈ later ↔ place ∈ cache ∨ Asked shelf cache places place := by
  rw [h.mem_iff, h.noted_iff]

theorem fills_nil (hvalid : shelf.Valid cache) : Fills shelf [] cache [] cache where
  valid := hvalid
  mem_iff := by simp
  noted_iff := by simp [not_asked_nil]
  nodup := List.nodup_nil

theorem fills_of_mem (hvalid : shelf.Valid cache) (hknown : place ∈ cache) :
    Fills shelf [place] cache [] cache where
  valid := hvalid
  mem_iff := by simp
  noted_iff := by simp [not_asked_of_mem hknown]
  nodup := List.nodup_nil

theorem Fills.append {rest more' : List Nat} {last : Cache}
    (h : Fills shelf places cache more later) (h' : Fills shelf rest later more' last) :
    Fills shelf (places ++ rest) cache (more ++ more') last where
  valid := h'.valid
  mem_iff place := by rw [h'.mem_iff, h.mem_iff, List.mem_append, or_assoc]
  noted_iff place := by
    rw [List.mem_append, h.noted_iff, h'.noted_iff, asked_append_iff h.mem_iff_asked]
  nodup := by
    refine List.nodup_append.2 ⟨h.nodup, h'.nodup, fun place hfirst other hsecond heq => ?_⟩
    subst heq
    exact ((h'.noted_iff place).1 hsecond).not_mem ((h.mem_iff place).2 (Or.inr hfirst))

/-- A new template is rendered and remembered; what it nests stands before it and so is not noted as
that template itself. -/
theorem Fills.insert (hshelf : shelf.Ordered) (hnew : place ∉ cache) {text : String}
    (h : Fills shelf (shelf.placesAt place) cache more later)
    (htext : shelf.renderAt afresh place = .ok text) :
    Fills shelf [place] cache (place :: more) (later.insert place text) where
  valid other found hfound := by
    rw [Std.TreeMap.getElem?_insert] at hfound
    split at hfound
    · next heq =>
        cases hfound
        rw [← Std.compare_eq_iff_eq.1 heq]
        exact htext
    · exact h.valid other found hfound
  mem_iff other := by
    rw [Std.TreeMap.mem_insert, Std.compare_eq_iff_eq, h.mem_iff, List.mem_cons,
      or_left_comm, eq_comm]
  noted_iff other := by
    rw [List.mem_cons, h.noted_iff, asked_singleton_iff hnew]
  nodup := by
    refine List.nodup_cons.2 ⟨fun hmem => ?_, h.nodup⟩
    exact Nat.lt_irrefl place (((h.noted_iff place).1 hmem).lt hshelf (hshelf place))

theorem remembered_of_some {render : Nat → Rendering String} {text : String}
    (htext : cache[place]? = some text) :
    remembered render place cache = .ok (text, cache) := by
  simp only [remembered, getThe, MonadStateOf.get, StateT.get, bind, StateT.bind, Except.bind,
    pure, StateT.pure, Except.pure, htext]

theorem remembered_of_none {render : Nat → Rendering String} (hnone : cache[place]? = none) :
    remembered render place cache =
      (render place cache).map fun (text, later) => (text, later.insert place text) := by
  simp only [remembered, getThe, MonadStateOf.get, StateT.get, bind, StateT.bind, Except.bind,
    pure, StateT.pure, Except.pure, hnone]
  cases render place cache <;> rfl

theorem recorded_of_some {render : Nat → Journaled String} {text : String} (journal : List Nat)
    (htext : cache[place]? = some text) :
    recorded render place journal cache = .ok ((text, journal), cache) := by
  simp only [recorded, remembered, getThe, MonadStateOf.get, StateT.get, bind, StateT.bind,
    Except.bind, pure, StateT.pure, Except.pure, liftM, monadLift, MonadLift.monadLift, StateT.lift,
    htext]

theorem recorded_of_none {render : Nat → Journaled String} (journal : List Nat)
    (hnone : cache[place]? = none) :
    recorded render place journal cache =
      (render place (journal ++ [place]) cache).map fun ((text, journal), later) =>
        ((text, journal), later.insert place text) := by
  have hnoted : noted render place journal cache = render place (journal ++ [place]) cache := rfl
  simp only [recorded, remembered, getThe, MonadStateOf.get, StateT.get, bind, StateT.bind,
    Except.bind, pure, StateT.pure, Except.pure, liftM, monadLift, MonadLift.monadLift, StateT.lift,
    hnone, hnoted]
  cases render place (journal ++ [place]) cache <;> rfl

/-- Rendering with a journal does what rendering does, whatever is in the journal. -/
def erasure : Simulation Journaled Rendering where
  Rel _ x y := ∀ journal cache, (x journal cache).map (fun result => (result.1.1, result.2)) = y cache
  pure _ _ _ := rfl
  throw _ _ _ _ := rfl
  bind {α β first rest x y f g} hfirst hrest journal cache := by
    change Except.map _ (Except.bind (x journal cache) fun result =>
      f result.1.1 result.1.2 result.2) = Except.bind (y cache) fun result => g result.1 result.2
    rw [← hfirst journal cache]
    cases x journal cache with
    | error e => rfl
    | ok result => exact hrest result.1.1 result.1.2 result.2

theorem erasure_recorded {render : Nat → Journaled String} {render' : Nat → Rendering String}
    {asked : List Nat} (h : erasure.Rel asked (render place) (render' place)) :
    erasure.Rel [place] (recorded render place) (remembered render' place) := by
  intro journal cache
  cases hknown : cache[place]? with
  | some text => rw [recorded_of_some journal hknown, remembered_of_some hknown]; rfl
  | none =>
      rw [recorded_of_none journal hknown, remembered_of_none hknown, ← h (journal ++ [place]) cache]
      cases render place (journal ++ [place]) cache <;> rfl

/-- A run that remembers gives what rendering afresh gives, and fills the cache as it should. -/
structure Follows (shelf : Shelf) {α : Type} (asked : List Nat) (x : Journaled α)
    (y : Except TemplateError α) : Prop where
  fails : ∀ e, y = .error e → ∀ journal cache, shelf.Valid cache → x journal cache = .error e
  succeeds : ∀ a, y = .ok a → ∀ journal cache, shelf.Valid cache →
    ∃ more later, x journal cache = .ok ((a, journal ++ more), later) ∧
      Fills shelf asked cache more later

theorem Follows.bind {α β : Type} {first rest : List Nat} {x : Journaled α}
    {y : Except TemplateError α} {f : α → Journaled β} {g : α → Except TemplateError β}
    (hfirst : shelf.Follows first x y) (hrest : ∀ a, shelf.Follows rest (f a) (g a)) :
    shelf.Follows (first ++ rest) (x >>= f) (y >>= g) := by
  have hbind : ∀ journal cache, (x >>= f) journal cache =
      Except.bind (x journal cache) fun result => f result.1.1 result.1.2 result.2 :=
    fun _ _ => rfl
  cases y with
  | error e =>
      refine ⟨fun e' he journal cache hvalid => ?_, fun b hb => nomatch hb⟩
      cases he
      rw [hbind, hfirst.fails e rfl journal cache hvalid]
      rfl
  | ok a =>
      refine ⟨fun e he journal cache hvalid => ?_, fun b hb journal cache hvalid => ?_⟩ <;>
        obtain ⟨more, later, hx, hfills⟩ := hfirst.succeeds a rfl journal cache hvalid
      · rw [hbind, hx]
        exact (hrest a).fails e he _ _ hfills.valid
      · obtain ⟨more', last, hf, hfills'⟩ := (hrest a).succeeds b hb (journal ++ more) later hfills.valid
        refine ⟨more ++ more', last, ?_, hfills.append hfills'⟩
        rw [hbind, hx, ← List.append_assoc]
        exact hf

/-- Rendering that remembers, with a journal, against rendering afresh. -/
def following (shelf : Shelf) : Simulation Journaled (Except TemplateError) where
  Rel := shelf.Follows
  pure a :=
    { fails := fun e he => nomatch he
      succeeds := fun b hb journal cache hvalid =>
        ⟨[], cache, by cases hb; rw [List.append_nil]; rfl, fills_nil hvalid⟩ }
  throw _ e :=
    { fails := fun e' he _ _ _ => by cases he; rfl
      succeeds := fun b hb => nomatch hb }
  bind := Follows.bind

/-- A nested template that is asked for is either remembered, and validly so, or rendered. -/
theorem follows_recorded (hshelf : shelf.Ordered) {render : Nat → Journaled String}
    {render' : Nat → Except TemplateError String}
    (h : shelf.Follows (shelf.placesAt place) (render place) (render' place))
    (hafresh : render' place = shelf.renderAt afresh place) :
    shelf.Follows [place] (recorded render place) (afresh render' place) := by
  have hmem : ∀ cache : Cache, place ∈ cache ↔ ∃ text, cache[place]? = some text := fun cache => by
    rw [Std.TreeMap.mem_iff_isSome_getElem?, Option.isSome_iff_exists]
  refine ⟨fun e he journal cache hvalid => ?_, fun text htext journal cache hvalid => ?_⟩
  · -- what fails afresh is not in a valid cache
    have hnone : cache[place]? = none := by
      refine Option.eq_none_iff_forall_ne_some.2 fun text htext => ?_
      rw [afresh, hafresh, hvalid place text htext] at he
      cases he
    rw [recorded_of_none journal hnone, h.fails e he _ cache hvalid]
    rfl
  · cases hknown : cache[place]? with
    | some known =>
        rw [afresh, hafresh, hvalid place known hknown] at htext
        cases htext
        refine ⟨[], cache, ?_, fills_of_mem hvalid ((hmem cache).2 ⟨_, hknown⟩)⟩
        rw [recorded_of_some journal hknown, List.append_nil]
    | none =>
        have hnew : place ∉ cache := fun hplace => by
          obtain ⟨text, htext⟩ := (hmem cache).1 hplace
          rw [hknown] at htext
          cases htext
        obtain ⟨more, later, hrun, hfills⟩ := h.succeeds text htext (journal ++ [place]) cache hvalid
        refine ⟨place :: more, later.insert place text, ?_,
          hfills.insert hshelf hnew (hafresh.symm.trans htext)⟩
        rw [recorded_of_none journal hknown, hrun, List.append_assoc]
        rfl

theorem follows_renderAt (hshelf : shelf.Ordered) (place : Nat) :
    shelf.Follows (shelf.placesAt place) (shelf.renderAt recorded place)
      (shelf.renderAt afresh place) :=
  (following shelf).renderAt hshelf (fun _ _ _ => follows_recorded hshelf) place

theorem follows_journaled (hshelf : shelf.Ordered) (template : Template) :
    shelf.Follows template.places (shelf.journaled template) (shelf.plain template) :=
  (following shelf).render template fun place _ =>
    follows_recorded hshelf (follows_renderAt hshelf place) rfl

theorem erasure_renderAt (hshelf : shelf.Ordered) (place : Nat) :
    erasure.Rel (shelf.placesAt place) (shelf.renderAt recorded place)
      (shelf.renderAt remembered place) :=
  erasure.renderAt hshelf (fun _ _ _ h _ => erasure_recorded h) place

theorem erasure_journaled (hshelf : shelf.Ordered) (template : Template) :
    erasure.Rel template.places (shelf.journaled template) (shelf.rendering template) :=
  erasure.render template fun place _ => erasure_recorded (erasure_renderAt hshelf place)

theorem renderAt_afresh (hshelf : shelf.Ordered) {template : Template}
    (htemplate : shelf.templates[place]? = some template) :
    shelf.renderAt afresh place = shelf.plain template := by
  rw [Shelf.renderAt, htemplate, plain]
  refine template.render_congr fun nested hnested => ?_
  have hplace : nested ∈ shelf.placesAt place := by rwa [placesAt, htemplate]
  rw [afresh, afresh, if_pos (hshelf place nested hplace)]

theorem Valid.exists_template (hvalid : shelf.Valid cache) {text : String}
    (htext : cache[place]? = some text) : ∃ template, shelf.templates[place]? = some template := by
  have hrender := hvalid place text htext
  cases htemplate : shelf.templates[place]? with
  | some template => exact ⟨template, rfl⟩
  | none =>
      rw [Shelf.renderAt, htemplate] at hrender
      cases hrender

theorem valid_empty (shelf : Shelf) : shelf.Valid ∅ :=
  fun place text htext => by rw [Std.TreeMap.getElem?_emptyc] at htext; cases htext

/-- A cache with one text is valid if rendering afresh gives this text. -/
theorem valid_insert {text : String} (h : shelf.renderAt afresh place = .ok text) :
    shelf.Valid ((∅ : Cache).insert place text) := by
  intro other found hfound
  rw [Std.TreeMap.getElem?_insert] at hfound
  split at hfound
  · next hplace =>
      rw [Std.compare_eq_iff_eq] at hplace
      subst hplace
      cases hfound
      exact h
  · simp at hfound

/-- What a run with a valid cache does, with the journal of it. -/
theorem Follows.run {α : Type} {x : Journaled α} {y : Except TemplateError α} {z : Rendering α}
    (hfollows : shelf.Follows places x y) (herase : erasure.Rel places x z)
    (hvalid : shelf.Valid cache) :
    (∀ e, y = .error e → z cache = .error e) ∧
    ∀ a, y = .ok a → ∃ journal later, z cache = .ok (a, later) ∧
      x [] cache = .ok ((a, journal), later) ∧ Fills shelf places cache journal later := by
  refine ⟨fun e he => ?_, fun a ha => ?_⟩
  · rw [← herase [] cache, hfollows.fails e he [] cache hvalid]
    rfl
  · obtain ⟨journal, later, hrun, hfills⟩ := hfollows.succeeds a ha [] cache hvalid
    exact ⟨journal, later, by rw [← herase [] cache, hrun]; rfl, hrun, hfills⟩

theorem run_rendering (hshelf : shelf.Ordered) (template : Template) (hvalid : shelf.Valid cache) :
    (∀ e, shelf.plain template = .error e → shelf.rendering template cache = .error e) ∧
    ∀ text, shelf.plain template = .ok text → ∃ journal later,
      shelf.rendering template cache = .ok (text, later) ∧
      shelf.journaled template [] cache = .ok ((text, journal), later) ∧
      Fills shelf template.places cache journal later :=
  (follows_journaled hshelf template).run (erasure_journaled hshelf template) hvalid

/-- The text of a template is the one that rendering afresh gives. -/
theorem compileSource_eq_plain (hshelf : shelf.Ordered) (template : Template) :
    shelf.compileSource template = shelf.plain template := by
  have hrun := run_rendering hshelf template (valid_empty shelf)
  have hcompile : shelf.compileSource template = (shelf.rendering template ∅).map Prod.fst := rfl
  rw [hcompile]
  cases hplain : shelf.plain template with
  | error e => rw [hrun.1 e hplain]; rfl
  | ok text =>
      obtain ⟨journal, later, heq, -⟩ := hrun.2 text hplain
      rw [heq]
      rfl

/-- A cache that holds with each template those nested in it does so again afterwards. -/
theorem Fills.closed (h : Fills shelf places cache more later) (hclosed : shelf.Closed cache) :
    shelf.Closed later := by
  intro place hplace nested hnested
  rw [h.mem_iff_asked] at hplace ⊢
  rcases hplace with hknown | hasked
  · exact Or.inl (hclosed place hknown nested hnested)
  · exact or_iff_not_imp_left.2 (.deeper hasked hnested)

/-- A cache that comes up in a run is valid, and with each template it holds those nested in it. -/
theorem Met.valid_and_closed (hshelf : shelf.Ordered) (h : Met shelf cache) :
    shelf.Valid cache ∧ shelf.Closed cache := by
  induction h with
  | start => exact ⟨valid_empty shelf, fun place hplace => by simp at hplace⟩
  | @asked cache later place text _ hrun ih =>
      obtain ⟨hfails, hsucceeds⟩ := (follows_recorded hshelf (follows_renderAt hshelf place) rfl).run
        (erasure_recorded (erasure_renderAt hshelf place)) ih.1
      cases hplain : afresh (shelf.renderAt afresh) place with
      | error e =>
          rw [hfails e hplain] at hrun
          cases hrun
      | ok found =>
          obtain ⟨journal, last, hlast, -, hfills⟩ := hsucceeds found hplain
          rw [hlast] at hrun
          cases hrun
          exact ⟨hfills.valid, hfills.closed ih.2⟩

/-- **Remembering changes no result.**  On an ordered shelf, rendering with a cache whose texts are
those that rendering afresh gives leads to the same text or the same failure as rendering afresh.  If
it succeeds, then

* the cache has grown by the nested templates, at any depth, that are asked for, which are all of them
  unless one was known whose own nested templates were not;
* each text in the cache is that of the template on its own;
* each template that is new in the cache was rendered exactly once, and no others were. -/
theorem rendering_agrees_with_plain (hshelf : shelf.Ordered) (template : Template)
    (hvalid : shelf.Valid cache) :
    (shelf.rendering template cache).map Prod.fst = shelf.plain template ∧
    ∀ text later, shelf.rendering template cache = .ok (text, later) →
      (∀ place, place ∈ later ↔ place ∈ cache ∨ shelf.Asked cache template.places place) ∧
      (shelf.Closed cache → shelf.Closed later ∧
        ∀ place, place ∈ later ↔ place ∈ cache ∨ shelf.Nested template.places place) ∧
      (∀ (place : Nat) entry, later[place]? = some entry → ∃ nested,
        shelf.templates[place]? = some nested ∧ shelf.compileSource nested = .ok entry) ∧
      ∃ journal, shelf.journaled template [] cache = .ok ((text, journal), later) ∧
        journal.Nodup ∧ ∀ place, place ∈ journal ↔ place ∈ later ∧ place ∉ cache := by
  obtain ⟨hfails, hsucceeds⟩ := run_rendering hshelf template hvalid
  cases hplain : shelf.plain template with
  | error e =>
      rw [hfails e hplain]
      exact ⟨rfl, fun text later heq => nomatch heq⟩
  | ok text =>
      obtain ⟨journal, later, hrun, hjournal, hfills⟩ := hsucceeds text hplain
      rw [hrun]
      refine ⟨rfl, fun text' later' heq => ?_⟩
      cases heq
      refine ⟨hfills.mem_iff_asked, fun hclosed => ⟨hfills.closed hclosed, fun place => ?_⟩,
        fun place entry hentry => ?_, journal, hjournal, hfills.nodup, fun place => ?_⟩
      · rw [hfills.mem_iff_asked, hclosed.mem_or_asked_iff]
      · obtain ⟨nested, hnested⟩ := hfills.valid.exists_template hentry
        refine ⟨nested, hnested, ?_⟩
        rw [compileSource_eq_plain hshelf, ← renderAt_afresh hshelf hnested]
        exact hfills.valid place entry hentry
      · constructor
        · exact fun hplace => ⟨(hfills.mem_iff place).2 (Or.inr hplace),
            ((hfills.noted_iff place).1 hplace).not_mem⟩
        · exact fun hplace => ((hfills.mem_iff place).1 hplace.1).resolve_left hplace.2

/-- A template without others. -/
def digit : Template := .build [.pattern ⟨"\\d", ""⟩]

/-- A template that nests it twice. -/
def pair : Template := .build [.template 0, .literal "-", .template 0]

/-- The two on a shelf. -/
def drawer : Shelf := ((({} : Shelf).put digit).2.put pair).2

/-- A template that nests both. -/
def series : Template := .build [.template 1, .template 0, .template 1]

theorem ordered_drawer : drawer.Ordered := by
  have hdigit : (({} : Shelf).put digit).2.Stocked := Stocked.empty.put_build _ (by simp)
  refine (hdigit.put_build _ fun place hplace => ?_).ordered
  simp only [List.mem_cons, List.not_mem_nil, Fragment.template.injEq, reduceCtorEq, or_false,
    false_or, or_self] at hplace
  subst hplace
  decide

/-- A template that nests the second only. -/
def bundle : Template := .build [.template 1]

theorem closed_digit_known : drawer.Closed ((∅ : Cache).insert 0 "\\d") := by
  intro place hplace nested hnested
  have hzero : place = 0 := by
    rw [Std.TreeMap.mem_insert, Std.compare_eq_iff_eq] at hplace
    exact (hplace.resolve_right (by simp)).symm
  have hplaces : drawer.placesAt 0 = [] := by cbv
  rw [hzero, hplaces] at hnested
  cases hnested

/-- With the first text known, which nests nothing, the second is rendered and remembered, and then all
nested templates are known. -/
theorem rendering_agrees_with_plain_drawer :
    drawer.Ordered ∧ drawer.Valid ((∅ : Cache).insert 0 "\\d") ∧
      drawer.Closed ((∅ : Cache).insert 0 "\\d") ∧
      ∃ later, drawer.rendering series ((∅ : Cache).insert 0 "\\d") =
        .ok ("\\d\\-\\d\\d\\d\\-\\d", later) ∧ drawer.Closed later ∧ 1 ∈ later ∧
        ∀ place, place ∈ later ↔
          place ∈ (∅ : Cache).insert 0 "\\d" ∨ drawer.Nested series.places place := by
  have hvalid : drawer.Valid ((∅ : Cache).insert 0 "\\d") := valid_insert (by cbv)
  have hplain : drawer.plain series = .ok "\\d\\-\\d\\d\\d\\-\\d" := by cbv
  obtain ⟨hsame, hrest⟩ := rendering_agrees_with_plain ordered_drawer series hvalid
  rw [hplain] at hsame
  cases hrun : drawer.rendering series ((∅ : Cache).insert 0 "\\d") with
  | error e =>
      rw [hrun] at hsame
      cases hsame
  | ok result =>
      obtain ⟨text, later⟩ := result
      rw [hrun] at hsame
      cases hsame
      have hplaces : series.places = [1, 0, 1] := by cbv
      obtain ⟨-, hclosed, -⟩ := hrest _ later hrun
      obtain ⟨hlater, hmem⟩ := hclosed closed_digit_known
      refine ⟨ordered_drawer, hvalid, closed_digit_known, later, rfl, hlater, ?_, hmem⟩
      refine (hmem 1).2 (Or.inr (.here ?_))
      rw [hplaces]
      exact List.mem_cons_self

/-- Where a text is known but not those nested below it, they stay unknown: the second text alone is
known, rendering the template that nests it succeeds, and the first, which is nested in the second, is
not in the cache afterwards. -/
theorem exists_nested_not_mem_later :
    drawer.Ordered ∧ drawer.Valid ((∅ : Cache).insert 1 "\\d\\-\\d") ∧
      drawer.Nested bundle.places 0 ∧
      ∃ later, drawer.rendering bundle ((∅ : Cache).insert 1 "\\d\\-\\d") =
        .ok ("\\d\\-\\d", later) ∧ 0 ∉ later := by
  have hplaces : bundle.places = [1] := by cbv
  have hinner : drawer.placesAt 1 = [0, 0] := by cbv
  have hone : drawer.Nested bundle.places 1 := by
    rw [hplaces]
    exact .here (List.mem_singleton_self 1)
  have hnested : drawer.Nested bundle.places 0 := by
    refine hone.deeper ?_
    rw [hinner]
    exact List.mem_cons_self
  have hvalid : drawer.Valid ((∅ : Cache).insert 1 "\\d\\-\\d") := valid_insert (by cbv)
  have hplain : drawer.plain bundle = .ok "\\d\\-\\d" := by cbv
  obtain ⟨journal, later, hrun, -, hfills⟩ := (run_rendering ordered_drawer bundle hvalid).2 _ hplain
  refine ⟨ordered_drawer, hvalid, hnested, later, hrun, fun hmem => ?_⟩
  rw [hplaces] at hfills
  rcases (hfills.mem_iff_asked 0).1 hmem with hknown | hasked
  · simp [Std.TreeMap.mem_insert] at hknown
  · exact not_asked_of_mem (by simp [Std.TreeMap.mem_insert]) hasked

end Shelf

end RegexTemplate
