import RegexTemplate.Proofs.TestCase.Splitting
import RegexTemplate.TestCase.Basic

/-!
# What a test case is put together from

Nothing of a text is lost when it is split.  It is put together from marks of the byte order, the opening
hyphens, a line break that may be left out, the frontmatter, carriage returns, the closing hyphens behind a
line feed, another line break that may be left out, and the body.  Such a layout of a text is exact if the
closing hyphens are the first ones and each part between ends where it has to: then the frontmatter and
the body are what the text is split into (`Layout.Exact.splitChars_eq`), and each text with both pairs of
hyphens has an exact layout (`exists_exact_layout`).

Each piece of a layout begins between two characters.  A search among the bytes of the text finds the
closing hyphens where the layout has them (`Layout.Exact.sliced`), so that it may be cut there.

Main statement: `parse_splits_exactly`.
-/

namespace RegexTemplate.TestCase

/-- The pieces of a text with a frontmatter, from the first to the last. -/
structure Layout where
  /-- How many marks of the byte order there are. -/
  marks : Nat
  opening : Option LineBreak
  frontmatter : List Char
  /-- How many carriage returns stand in front of the closing hyphens. -/
  returns : Nat
  closing : Option LineBreak
  body : List Char
deriving Repr

namespace Layout

variable (layout : Layout)

/-- What stands in front of the closing hyphens. -/
def enclosed : List Char := layout.frontmatter ++ List.replicate layout.returns '\r'

/-- What stands behind the closing hyphens. -/
def closed : List Char := LineBreak.optionalChars layout.closing ++ layout.body

/-- What stands behind the opening hyphens and the line break there. -/
def rest : List Char := layout.enclosed ++ '\n' :: hyphens ++ layout.closed

/-- The pieces, each as it stands in the text. -/
def pieces : List (List Char) :=
  [List.replicate layout.marks '\ufeff', hyphens, LineBreak.optionalChars layout.opening,
    layout.frontmatter, List.replicate layout.returns '\r', '\n' :: hyphens,
    LineBreak.optionalChars layout.closing, layout.body]

/-- The characters of the text. -/
def chars : List Char := layout.pieces.flatten

/-- How many bytes of the text stand in front of one of the pieces. -/
def offset (k : Nat) : Nat := (Text.encode (layout.pieces.take k).flatten).length

/-- How many bytes of the rest stand in front of the closing hyphens. -/
def closingOffset : Nat := (Text.encode layout.enclosed).length

/-- The closing hyphens are the first ones, and nothing that does not belong to a part is left in it. -/
structure Exact : Prop where
  opening_taken : LineBreak.Taken layout.opening layout.rest
  not_closed : ¬ ('\n' :: hyphens) <:+: layout.enclosed
  getLast?_ne : layout.frontmatter.getLast? ≠ some '\r'
  closing_taken : LineBreak.Taken layout.closing layout.body

/-- How a text is cut by counting its bytes. -/
structure Sliced (text : String) : Prop where
  /-- Each piece begins and ends between two characters of the text. -/
  isValid_offset : ∀ k, String.Pos.Raw.IsValid text ⟨layout.offset k⟩
  /-- A search among the bytes of the rest finds the closing hyphens where they stand. -/
  firstAt_iff : ∀ offset,
    Text.FirstAt (Text.encode ('\n' :: hyphens)) (Text.encode layout.rest) offset ↔
      offset = layout.closingOffset
  /-- They begin and end between two characters. -/
  isValid_closing : String.Pos.Raw.IsValid (String.ofList layout.rest) ⟨layout.closingOffset⟩
  isValid_closed : String.Pos.Raw.IsValid (String.ofList layout.rest) ⟨layout.closingOffset + 4⟩
  take_eq : (Text.encode layout.rest).take layout.closingOffset = Text.encode layout.enclosed
  drop_eq : (Text.encode layout.rest).drop (layout.closingOffset + 4) = Text.encode layout.closed

variable {layout : Layout}

theorem chars_eq : layout.chars = List.replicate layout.marks '\ufeff' ++
    (hyphens ++ (LineBreak.optionalChars layout.opening ++ layout.rest)) := by
  simp [chars, pieces, rest, enclosed, closed]

theorem Exact.opened (h : layout.Exact) : Opened layout.chars layout.rest :=
  ⟨layout.marks, layout.opening, chars_eq, h.opening_taken⟩

/-- The closing hyphens are found where an exact layout has them. -/
theorem Exact.splitAtFirst?_rest (h : layout.Exact) :
    Text.splitAtFirst? ('\n' :: hyphens) layout.rest = some (layout.enclosed, layout.closed) :=
  (Text.splitAtFirst?_eq_some_iff feed_not_mem_hyphens).2 ⟨rfl, h.not_closed⟩

/-- An exact layout has the parts that a text is split into. -/
theorem Exact.splitChars_eq (h : layout.Exact) :
    splitChars layout.chars = .ok (layout.frontmatter, layout.body) := by
  have hfrontmatter : dropReturns layout.enclosed = layout.frontmatter :=
    Text.reverse_dropWhile_eq_iff.2 ⟨layout.returns, rfl, h.getLast?_ne⟩
  have hbody : dropLineBreak layout.closed = layout.body :=
    dropLineBreak_eq_iff.2 ⟨layout.closing, rfl, h.closing_taken⟩
  rw [splitChars_of_opened h.opened, h.splitAtFirst?_rest]
  exact congrArg Except.ok (Prod.ext hfrontmatter hbody)

/-- The bytes of an exact layout can be cut where the closing hyphens are found among them. -/
theorem Exact.sliced (h : layout.Exact) {text : String} (htext : text.toList = layout.chars) :
    layout.Sliced text := by
  have hascii : Text.IsAscii ('\n' :: hyphens) := by simp [Text.IsAscii, hyphens]
  have hfour : (Text.encode ('\n' :: hyphens)).length = 4 := rfl
  have hfirst : Text.FirstAt (Text.encode ('\n' :: hyphens)) (Text.encode layout.rest)
      layout.closingOffset :=
    Text.firstAt_of_splitAtFirst? hascii (List.cons_ne_nil _ _) h.splitAtFirst?_rest
  have hbehind : (Text.encode (layout.enclosed ++ '\n' :: hyphens)).length =
      layout.closingOffset + 4 := by
    rw [Text.encode_append, List.length_append, hfour, closingOffset]
  have hrest : (String.ofList layout.rest).toList = layout.rest := String.toList_ofList
  constructor
  case isValid_offset =>
    intro k
    have hpieces : text.toList =
        (layout.pieces.take k).flatten ++ (layout.pieces.drop k).flatten := by
      rw [htext, chars, ← List.flatten_append, List.take_append_drop]
    exact Text.isValid_length_encode hpieces
  case firstAt_iff =>
    refine fun offset => ⟨fun hfound => hfound.offset_eq hfirst, ?_⟩
    rintro rfl
    exact hfirst
  case isValid_closing =>
    rw [rest, List.append_assoc] at hrest ⊢
    exact Text.isValid_length_encode hrest
  case isValid_closed =>
    rw [← hbehind]
    exact Text.isValid_length_encode hrest
  case take_eq =>
    rw [rest, List.append_assoc, Text.encode_append]
    exact List.take_left
  case drop_eq =>
    rw [rest, Text.encode_append, ← hbehind]
    exact List.drop_left

end Layout

variable {cs rest : List Char} {text : String} {e : FrontmatterError}

/-- The opening hyphens are missing exactly where the text does not begin with them behind the marks of
the byte order. -/
theorem splitChars_eq_missingOpening_iff :
    splitChars cs = .error .missingOpening ↔ ¬ hyphens <+: cs.dropWhile (· == '\ufeff') := by
  rw [splitChars]
  cases hopened : Text.dropFront? hyphens (cs.dropWhile (· == '\ufeff')) with
  | none =>
      refine iff_of_true rfl fun hprefix => ?_
      obtain ⟨behind, hbehind⟩ := hprefix
      rw [Text.dropFront?_eq_some_iff.2 hbehind.symm] at hopened
      cases hopened
  | some opened =>
      refine iff_of_false ?_ fun hnot => hnot ⟨opened, (Text.dropFront?_eq_some_iff.1 hopened).symm⟩
      cases hfound : Text.splitAtFirst? ('\n' :: hyphens) (dropLineBreak opened) with
      | none => simp [hfound]
      | some found => simp [hfound]

/-- Else there is something behind them. -/
theorem exists_opened (h : hyphens <+: cs.dropWhile (· == '\ufeff')) : ∃ rest, Opened cs rest := by
  obtain ⟨behind, hbehind⟩ := h
  obtain ⟨marks, hmarks⟩ := dropWhile_marks_eq_iff.1 hbehind.symm
  obtain ⟨opening, hrest, htaken⟩ := dropLineBreak_eq_iff.1 (rfl : dropLineBreak behind = _)
  rw [hrest] at hmarks
  exact ⟨_, marks, opening, hmarks, htaken⟩

/-- The closing hyphens are missing exactly where there are none in the rest. -/
theorem splitChars_eq_missingClosing_iff (hopened : Opened cs rest) :
    splitChars cs = .error .missingClosing ↔ ¬ ('\n' :: hyphens) <:+: rest := by
  rw [splitChars_of_opened hopened, ← Text.splitAtFirst?_eq_none_iff]
  cases Text.splitAtFirst? ('\n' :: hyphens) rest with
  | none => exact iff_of_true rfl rfl
  | some found => exact iff_of_false nofun nofun

/-- A text with both pairs of hyphens has an exact layout. -/
theorem exists_exact_layout (hopened : Opened cs rest) (hclosed : ('\n' :: hyphens) <:+: rest) :
    ∃ layout : Layout, layout.Exact ∧ layout.chars = cs ∧ layout.rest = rest := by
  obtain ⟨marks, opening, hcs, htaken⟩ := hopened
  cases hfound : Text.splitAtFirst? ('\n' :: hyphens) rest with
  | none => exact absurd hclosed (Text.splitAtFirst?_eq_none_iff.1 hfound)
  | some found =>
      obtain ⟨enclosed, closed⟩ := found
      obtain ⟨hrest, hfirst⟩ := (Text.splitAtFirst?_eq_some_iff feed_not_mem_hyphens).1 hfound
      obtain ⟨returns, henclosed, hlast⟩ :=
        Text.reverse_dropWhile_eq_iff.1 (rfl : dropReturns enclosed = _)
      obtain ⟨closing, hbody, hclosing⟩ := dropLineBreak_eq_iff.1 (rfl : dropLineBreak closed = _)
      let layout : Layout :=
        ⟨marks, opening, dropReturns enclosed, returns, closing, dropLineBreak closed⟩
      have hlayoutEnclosed : layout.enclosed = enclosed := henclosed.symm
      have hlayoutClosed : layout.closed = closed := hbody.symm
      have hlayoutRest : layout.rest = rest := by
        rw [Layout.rest, hlayoutEnclosed, hlayoutClosed, hrest]
      refine ⟨layout, ⟨?_, ?_, hlast, hclosing⟩, ?_, hlayoutRest⟩
      · rw [hlayoutRest]
        exact htaken
      · rw [hlayoutEnclosed]
        exact hfirst
      · rw [Layout.chars_eq, hlayoutRest, hcs]

/-- Once a text is split, hyphens are not reported as missing. -/
theorem Config.parse_error {frontmatter : String} (h : Config.parse frontmatter = .error e) :
    (∃ fault, e = .malformed fault) ∨ ∃ reason, e = .misfit reason := by
  rw [Config.parse] at h
  cases hentries : Toml.parse frontmatter with
  | error failure =>
      rw [hentries] at h
      exact Or.inl ⟨failure.fault, (Except.error.inj h).symm⟩
  | ok entries =>
      rw [hentries] at h
      change (entries.foldlM Config.add {}).mapError _ = _ at h
      cases hconfig : entries.foldlM Config.add {} with
      | error mismatch =>
          rw [hconfig] at h
          exact Or.inr ⟨mismatch.misfit, (Except.error.inj h).symm⟩
      | ok config =>
          rw [hconfig] at h
          cases h

theorem parse_of_splitChars {frontmatter body : List Char}
    (h : splitChars text.toList = .ok (frontmatter, body)) :
    parse text = (Config.parse (String.ofList frontmatter)).map fun config =>
      ⟨config, String.ofList body⟩ := by
  rw [parse, ofText_eq h]
  change (Config.parse (String.ofList frontmatter) >>= _) = _
  cases Config.parse (String.ofList frontmatter) <;> rfl

/-- Missing hyphens are reported where the text is not split because of them. -/
theorem parse_eq_missing_iff (he : e = .missingOpening ∨ e = .missingClosing) :
    parse text = .error e ↔ splitChars text.toList = .error e := by
  cases hsplit : splitChars text.toList with
  | error other =>
      rw [parse, ofText_eq_error hsplit]
      exact ⟨fun h => by rw [Except.error.inj h], fun h => by rw [Except.error.inj h]; rfl⟩
  | ok parts =>
      obtain ⟨frontmatter, body⟩ := parts
      refine iff_of_false (fun h => ?_) nofun
      rw [parse_of_splitChars hsplit] at h
      cases hconfig : Config.parse (String.ofList frontmatter) with
      | ok config =>
          rw [hconfig] at h
          cases h
      | error other =>
          rw [hconfig] at h
          have hother : other = e := Except.error.inj h
          rw [← hother] at he
          rcases Config.parse_error hconfig with ⟨fault, rfl⟩ | ⟨reason, rfl⟩ <;> simp at he

/-- **Splitting a test case loses nothing and takes the first closing delimiter.**

* The opening hyphens are reported as missing if and only if the text without the marks of the byte order
  in front of it does not begin with them.
* Else something stands behind them and the line break that may follow them.
* In what stands there, the closing hyphens are reported as missing if and only if no line feed in it is
  followed by hyphens.  Else the text has an exact layout with that rest.
* Whatever exact layout a text has, it is split into the frontmatter and the body of that layout, and the
  offsets at which its bytes are cut stand between two characters. -/
theorem parse_splits_exactly (text : String) :
    (parse text = .error .missingOpening ↔
        ¬ hyphens <+: text.toList.dropWhile (· == '\ufeff')) ∧
      (hyphens <+: text.toList.dropWhile (· == '\ufeff') → ∃ rest, Opened text.toList rest) ∧
      (∀ rest, Opened text.toList rest →
        (parse text = .error .missingClosing ↔ ¬ ('\n' :: hyphens) <:+: rest) ∧
          (('\n' :: hyphens) <:+: rest →
            ∃ layout : Layout, layout.Exact ∧ layout.chars = text.toList ∧ layout.rest = rest)) ∧
      ∀ layout : Layout, layout.Exact → layout.chars = text.toList →
        Parts.ofText text =
            .ok ⟨String.ofList layout.frontmatter, String.ofList layout.body⟩ ∧
          parse text = (Config.parse (String.ofList layout.frontmatter)).map (fun config =>
            ⟨config, String.ofList layout.body⟩) ∧
          layout.Sliced text := by
  refine ⟨?_, exists_opened, ?_, ?_⟩
  · rw [parse_eq_missing_iff (Or.inl rfl), splitChars_eq_missingOpening_iff]
  · intro rest hopened
    refine ⟨?_, exists_exact_layout hopened⟩
    rw [parse_eq_missing_iff (Or.inr rfl), splitChars_eq_missingClosing_iff hopened]
  · intro layout hexact hchars
    have hsplit : splitChars text.toList = .ok (layout.frontmatter, layout.body) := by
      rw [← hchars]
      exact hexact.splitChars_eq
    exact ⟨ofText_eq hsplit, parse_of_splitChars hsplit, hexact.sliced hchars.symm⟩

/-- Two marks, a letter of two bytes, carriage returns in front of the closing hyphens, and a body that
begins right behind them. -/
def accented : Layout :=
  ⟨2, some .returnFeed, "entry = 'é'".toList, 2, none, "body\n---\n".toList⟩

/-- The closing hyphens stand behind fourteen bytes of the rest, in front of the body and not in it. -/
theorem parse_splits_exactly_accented :
    accented.Exact ∧
      accented.chars = "\ufeff\ufeff---\r\nentry = 'é'\r\r\n---body\n---\n".toList ∧
      (∃ rest, Opened accented.chars rest) ∧
      parse (String.ofList accented.chars) ≠ .error .missingClosing ∧
      (∃ layout : Layout, layout.Exact ∧ layout.chars = accented.chars ∧
        layout.rest = accented.rest) ∧
      Parts.ofText (String.ofList accented.chars) = .ok ⟨"entry = 'é'", "body\n---\n"⟩ ∧
      String.Pos.Raw.IsValid (String.ofList accented.rest) ⟨14⟩ := by
  have hexact : accented.Exact :=
    ⟨nofun, by decide, by decide, fun _ missed => by cases missed <;> decide⟩
  have hchars : (String.ofList accented.chars).toList = accented.chars := String.toList_ofList
  have hopened : Opened (String.ofList accented.chars).toList accented.rest := by
    rw [hchars]
    exact hexact.opened
  have hclosed : ('\n' :: hyphens) <:+: accented.rest :=
    ⟨accented.enclosed, accented.closed, rfl⟩
  obtain ⟨-, hbehind, hrest, hlayout⟩ := parse_splits_exactly (String.ofList accented.chars)
  obtain ⟨hmissing, hexists⟩ := hrest accented.rest hopened
  obtain ⟨hparts, -, hsliced⟩ := hlayout accented hexact hchars.symm
  rw [hchars] at hbehind hexists
  refine ⟨hexact, by decide, hbehind (by decide), ?_, hexists hclosed, ?_, ?_⟩
  · exact fun h => hmissing.1 h hclosed
  · rw [hparts]
    rfl
  · exact hsliced.isValid_closing

end RegexTemplate.TestCase
