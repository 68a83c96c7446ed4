import RegexTemplate.Proofs.Text.Finding
import RegexTemplate.Proofs.Text.Trimming
import RegexTemplate.TestCase.Frontmatter

/-!
# Writing a test case and splitting it again

A test case is written as three hyphens on a line, the lines of the frontmatter, three hyphens on a line
again, and the body.  The closing hyphens are found behind a line feed, and the first one comes with the
last line of the frontmatter: no earlier line feed is followed by three hyphens
(`splitAtFirst?_lines`), and carriage returns that are left over belong to its line break
(`dropReturns_append`).

The line break behind the opening hyphens is dropped before the closing ones are looked for.  So a
frontmatter without lines leaves no line feed for them to stand behind, and what is written is not read
back.

Main statement: `ofText_written_iff`.
-/

namespace RegexTemplate.TestCase

/-- The two ways in which a line can end. -/
inductive LineBreak where
  | feed
  | returnFeed
deriving DecidableEq, Repr

namespace LineBreak

/-- What stands in front of the line feed. -/
def returns : LineBreak → List Char
  | .feed => []
  | .returnFeed => ['\r']

/-- The characters of a line break. -/
def text (ending : LineBreak) : String := String.ofList (ending.returns ++ ['\n'])

/-- The characters of a line break that may be left out. -/
def optionalChars (ending : Option LineBreak) : List Char :=
  ending.elim [] fun ending => ending.returns ++ ['\n']

/-- Where no line break is taken, none is left. -/
def Taken (ending : Option LineBreak) (rest : List Char) : Prop :=
  ending = none → ∀ missed : LineBreak, ¬ missed.returns ++ ['\n'] <+: rest

end LineBreak

/-- A line that the frontmatter can have: it does not begin like a delimiter, and no line break is in it
or begins at its end. -/
structure IsLine (line : List Char) : Prop where
  not_hyphens : ¬ hyphens <+: line
  feed_not_mem : '\n' ∉ line
  getLast?_ne : line.getLast? ≠ some '\r'

instance : DecidablePred IsLine := fun line =>
  decidable_of_iff (¬ hyphens <+: line ∧ '\n' ∉ line ∧ line.getLast? ≠ some '\r')
    ⟨fun h => ⟨h.1, h.2.1, h.2.2⟩, fun h => ⟨h.1, h.2, h.3⟩⟩

/-- A test case as it is written, with or without a mark of the byte order in front. -/
def written (marked : Bool) (ending : LineBreak) (lines : List String) (body : String) : String :=
  (if marked then "\ufeff" else "") ++ "---" ++ ending.text ++
    String.join (lines.map (· ++ ending.text)) ++ "---" ++ ending.text ++ body

theorem feed_not_mem_hyphens : '\n' ∉ hyphens := by simp [hyphens]

variable {ending : LineBreak} {line tail : List Char} {lines : List (List Char)}

/-- The line feed is the only other character of a line break. -/
theorem eq_of_mem_returns {c : Char} (h : c ∈ ending.returns) : c = '\r' := by
  cases ending with
  | feed => cases h
  | returnFeed => exact List.mem_singleton.1 h

theorem dropLineBreak_append (cs : List Char) :
    dropLineBreak (ending.returns ++ '\n' :: cs) = cs := by
  cases ending <;> rfl

/-- Hyphens in front of a row do not reach over another character. -/
theorem hyphens_isPrefix_of_append {c : Char} (hc : c ≠ '-') (h : hyphens <+: line ++ c :: tail) :
    hyphens <+: line := by
  rcases List.prefix_or_prefix_of_prefix h (List.prefix_append line (c :: tail)) with
    hhere | ⟨rest, hrest⟩
  · exact hhere
  · rw [← hrest, List.prefix_append_right_inj] at h
    cases rest with
    | nil => rw [← hrest, List.append_nil]
    | cons d rest =>
        have hmem : d ∈ hyphens := by
          rw [← hrest]
          exact List.mem_append_right _ List.mem_cons_self
        have hd : d = c := (List.cons_prefix_cons.1 h).1
        have hhyphen : ∀ d ∈ hyphens, d = '-' := by simp [hyphens]
        exact absurd (hd.symm.trans (hhyphen d hmem)) hc

/-- No line begins with hyphens, whatever follows it. -/
theorem IsLine.not_isPrefix_append (h : IsLine line) :
    ¬ hyphens <+: line ++ (ending.returns ++ '\n' :: tail) := by
  intro hprefix
  apply h.not_hyphens
  cases ending with
  | feed => exact hyphens_isPrefix_of_append (by decide) hprefix
  | returnFeed => exact hyphens_isPrefix_of_append (by decide) hprefix

/-- The closing hyphens are found behind the last line. -/
theorem splitAtFirst?_lines (hlines : ∀ line ∈ lines, IsLine line) (hne : lines ≠ []) :
    Text.splitAtFirst? ('\n' :: hyphens)
        (lines.flatMap (· ++ (ending.returns ++ ['\n'])) ++ (hyphens ++ tail)) =
      some ((ending.returns ++ ['\n']).intercalate lines ++ ending.returns, tail) := by
  induction lines with
  | nil => exact absurd rfl hne
  | cons line lines ih =>
      rw [List.forall_mem_cons] at hlines
      have hfeed : '\n' ∉ line ++ ending.returns := by
        intro hmem
        rcases List.mem_append.1 hmem with hline | hreturns
        · exact hlines.1.feed_not_mem hline
        · exact absurd (eq_of_mem_returns hreturns) (by decide)
      cases lines with
      | nil =>
          have htext : [line].flatMap (· ++ (ending.returns ++ ['\n'])) ++ (hyphens ++ tail) =
              (line ++ ending.returns) ++ (('\n' :: hyphens) ++ tail) := by simp
          rw [htext, Text.splitAtFirst?_append_of_not_mem hfeed, Text.splitAtFirst?_append_self,
            List.intercalate_singleton]
          simp
      | cons next lines =>
          have htext : (line :: next :: lines).flatMap (· ++ (ending.returns ++ ['\n'])) ++
              (hyphens ++ tail) = (line ++ ending.returns) ++ '\n' ::
                ((next :: lines).flatMap (· ++ (ending.returns ++ ['\n'])) ++ (hyphens ++ tail)) := by
            simp
          have hnext : ¬ hyphens <+:
              (next :: lines).flatMap (· ++ (ending.returns ++ ['\n'])) ++ (hyphens ++ tail) := by
            have hline : ¬ hyphens <+: next ++ (ending.returns ++ '\n' ::
                (lines.flatMap (· ++ (ending.returns ++ ['\n'])) ++ (hyphens ++ tail))) :=
              (hlines.2 next List.mem_cons_self).not_isPrefix_append
            rw [List.flatMap_cons]
            simpa using hline
          have hhere : Text.dropFront? ('\n' :: hyphens) ('\n' ::
              ((next :: lines).flatMap (· ++ (ending.returns ++ ['\n'])) ++ (hyphens ++ tail))) =
                none := by
            rw [Option.eq_none_iff_forall_ne_some]
            intro rest hrest
            have hwhole := Text.dropFront?_eq_some_iff.1 hrest
            rw [List.cons_append, List.cons.injEq] at hwhole
            exact hnext ⟨rest, hwhole.2.symm⟩
          rw [htext, Text.splitAtFirst?_append_of_not_mem hfeed, Text.splitAtFirst?, hhere,
            ih hlines.2 (List.cons_ne_nil _ _), List.intercalate_cons_of_ne_nil (List.cons_ne_nil _ _)]
          simp

theorem getLast?_joined_ne (hlines : ∀ line ∈ lines, IsLine line) :
    ((ending.returns ++ ['\n']).intercalate lines).getLast? ≠ some '\r' := by
  induction lines with
  | nil => simp
  | cons line lines ih =>
      rw [List.forall_mem_cons] at hlines
      cases lines with
      | nil =>
          rw [List.intercalate_singleton]
          exact hlines.1.getLast?_ne
      | cons next lines =>
          rw [List.intercalate_cons_of_ne_nil (List.cons_ne_nil _ _), List.getLast?_append]
          cases hlast : ((ending.returns ++ ['\n']).intercalate (next :: lines)).getLast? with
          | none => simp
          | some c =>
              have hc := ih hlines.2
              rw [hlast] at hc
              exact hc

/-- A row that does not end in a carriage return loses only those that follow it. -/
theorem dropReturns_append {cs : List Char} (h : cs.getLast? ≠ some '\r') :
    dropReturns (cs ++ ending.returns) = cs := by
  have hreturns : ∃ n, ending.returns = List.replicate n '\r' := by
    cases ending with
    | feed => exact ⟨0, rfl⟩
    | returnFeed => exact ⟨1, rfl⟩
  obtain ⟨n, hn⟩ := hreturns
  exact Text.reverse_dropWhile_eq_iff.2 ⟨n, by rw [hn], h⟩

/-- One line break in front of a row is dropped, if there is one. -/
theorem dropLineBreak_eq_iff {cs rest : List Char} : dropLineBreak cs = rest ↔
    ∃ ending, cs = LineBreak.optionalChars ending ++ rest ∧ LineBreak.Taken ending rest := by
  constructor
  · intro h
    rw [dropLineBreak.eq_def] at h
    split at h
    · exact ⟨some .returnFeed, by rw [h]; rfl, nofun⟩
    · exact ⟨some .feed, by rw [h]; rfl, nofun⟩
    · next hreturnFeed hfeed =>
        refine ⟨none, by rw [h]; rfl, fun _ missed hmissed => ?_⟩
        obtain ⟨behind, hbehind⟩ := h ▸ hmissed
        cases missed with
        | feed => exact hfeed behind hbehind.symm
        | returnFeed => exact hreturnFeed behind hbehind.symm
  · intro hgiven
    obtain ⟨ending, rfl, htaken⟩ := hgiven
    cases ending with
    | some ending =>
        rw [LineBreak.optionalChars, Option.elim_some, List.append_assoc]
        exact dropLineBreak_append rest
    | none =>
        rw [LineBreak.optionalChars, Option.elim_none, List.nil_append, dropLineBreak.eq_def]
        split
        · exact absurd (List.prefix_append ['\r', '\n'] _) (htaken rfl .returnFeed)
        · exact absurd (List.prefix_append ['\n'] _) (htaken rfl .feed)
        · rfl

/-- What is left of a text behind its opening hyphens and the line break there. -/
def Opened (cs rest : List Char) : Prop :=
  ∃ marks opening, cs = List.replicate marks '\ufeff' ++
    (hyphens ++ (LineBreak.optionalChars opening ++ rest)) ∧ LineBreak.Taken opening rest

/-- Marks of the byte order in front of the opening hyphens are dropped, and no others. -/
theorem dropWhile_marks_eq_iff {cs behind : List Char} :
    cs.dropWhile (· == '\ufeff') = hyphens ++ behind ↔
      ∃ marks, cs = List.replicate marks '\ufeff' ++ (hyphens ++ behind) := by
  have hfirst : (hyphens ++ behind).head? ≠ some '\ufeff' := by simp [hyphens]
  rw [Text.dropWhile_eq_iff]
  exact exists_congr fun marks => and_iff_left hfirst

/-- Behind the opening hyphens, the closing ones are looked for. -/
theorem splitChars_of_opened {cs rest : List Char} (h : Opened cs rest) :
    splitChars cs =
      match Text.splitAtFirst? ('\n' :: hyphens) rest with
      | none => .error .missingClosing
      | some (frontmatter, closed) => .ok (dropReturns frontmatter, dropLineBreak closed) := by
  obtain ⟨marks, opening, hcs, htaken⟩ := h
  have hmarks := dropWhile_marks_eq_iff.2 ⟨marks, hcs⟩
  have hopened := Text.dropFront?_eq_some_iff.2
    (rfl : hyphens ++ (LineBreak.optionalChars opening ++ rest) = hyphens ++ _)
  have hrest : dropLineBreak (LineBreak.optionalChars opening ++ rest) = rest :=
    dropLineBreak_eq_iff.2 ⟨opening, rfl, htaken⟩
  rw [splitChars, hmarks, hopened]
  exact congrArg (fun opened => (match Text.splitAtFirst? ('\n' :: hyphens) opened with
    | none => .error .missingClosing
    | some (frontmatter, closed) => .ok (dropReturns frontmatter, dropLineBreak closed) :
      Except FrontmatterError (List Char × List Char))) hrest

/-- The opening hyphens and the line break behind them are dropped, with the mark in front. -/
theorem splitChars_eq (marked : Bool) (ending : LineBreak) (cs : List Char) :
    splitChars ((if marked then ['\ufeff'] else []) ++
        (hyphens ++ (ending.returns ++ '\n' :: cs))) =
      match Text.splitAtFirst? ('\n' :: hyphens) cs with
      | none => .error .missingClosing
      | some (frontmatter, closed) => .ok (dropReturns frontmatter, dropLineBreak closed) := by
  have hmark : (if marked then ['\ufeff'] else []) =
      List.replicate (if marked then 1 else 0) '\ufeff' := by cases marked <;> rfl
  have hbreak : ending.returns ++ '\n' :: cs = LineBreak.optionalChars (some ending) ++ cs := by
    simp [LineBreak.optionalChars]
  rw [hmark, hbreak]
  exact splitChars_of_opened ⟨_, some ending, rfl, nofun⟩

theorem toList_written (marked : Bool) (ending : LineBreak) (lines : List String) (body : String) :
    (written marked ending lines body).toList = (if marked then ['\ufeff'] else []) ++
      (hyphens ++ (ending.returns ++ '\n' ::
        ((lines.map String.toList).flatMap (· ++ (ending.returns ++ ['\n'])) ++
          (hyphens ++ (ending.returns ++ '\n' :: body.toList))))) := by
  have hmark : (if marked then "\ufeff" else "").toList = if marked then ['\ufeff'] else [] := by
    cases marked <;> rfl
  have hhyphens : "---".toList = hyphens := rfl
  simp [written, LineBreak.text, String.toList_join, List.flatMap_map, hmark, hhyphens]

/-- Where the closing hyphens are found, a frontmatter begins with the opening ones if no line feed
stands between them. -/
theorem hyphens_isPrefix_of_split {cs frontmatter closed : List Char}
    (h : Text.splitAtFirst? ('\n' :: hyphens) (hyphens ++ cs) = some (frontmatter, closed)) :
    hyphens <+: frontmatter := by
  have hwhole := Text.splitAtFirst?_eq_some h
  have hprefix : hyphens <+: frontmatter ++ '\n' :: (hyphens ++ closed) :=
    ⟨cs, by simpa using hwhole⟩
  exact hyphens_isPrefix_of_append (by decide) hprefix

theorem dropReturns_ne_nil {cs : List Char} (h : hyphens <+: cs) : dropReturns cs ≠ [] := by
  intro hnil
  rw [dropReturns, List.reverse_eq_nil_iff, List.dropWhile_eq_nil_iff] at hnil
  have hmem : '-' ∈ cs := h.subset List.mem_cons_self
  exact absurd (hnil '-' (List.mem_reverse.2 hmem)) (by decide)

theorem ofText_eq {text : String} {parts : List Char × List Char}
    (h : splitChars text.toList = .ok parts) :
    Parts.ofText text = .ok ⟨String.ofList parts.1, String.ofList parts.2⟩ := by
  rw [Parts.ofText, h]
  rfl

theorem ofText_eq_error {text : String} {e : FrontmatterError}
    (h : splitChars text.toList = .error e) : Parts.ofText text = .error e := by
  rw [Parts.ofText, h]
  rfl

/-- A frontmatter that has a line is read back. -/
theorem ofText_written (marked : Bool) (ending : LineBreak) {lines : List String}
    (hlines : ∀ line ∈ lines, IsLine line.toList) (hne : lines ≠ []) (body : String) :
    Parts.ofText (written marked ending lines body) =
      .ok ⟨ending.text.intercalate lines, body⟩ := by
  have hrows : ∀ line ∈ lines.map String.toList, IsLine line := by
    simpa only [List.forall_mem_map] using hlines
  have hrows_ne : lines.map String.toList ≠ [] := List.map_eq_nil_iff.not.2 hne
  have hjoined : String.ofList ((ending.returns ++ ['\n']).intercalate (lines.map String.toList)) =
      ending.text.intercalate lines := by
    rw [← String.toList_inj, String.toList_intercalate, LineBreak.text, String.toList_ofList,
      String.toList_ofList]
  have hsplit := splitChars_eq marked ending
    ((lines.map String.toList).flatMap (· ++ (ending.returns ++ ['\n'])) ++
      (hyphens ++ (ending.returns ++ '\n' :: body.toList)))
  rw [← toList_written, splitAtFirst?_lines hrows hrows_ne] at hsplit
  rw [ofText_eq hsplit, dropReturns_append (getLast?_joined_ne hrows), dropLineBreak_append, hjoined,
    String.ofList_toList]

/-- A frontmatter without lines leaves only the closing hyphens in front of the next line feed. -/
theorem splitChars_written_nil (marked : Bool) (ending : LineBreak) (body : String) :
    splitChars (written marked ending [] body).toList =
      match Text.splitAtFirst? ('\n' :: hyphens)
        (hyphens ++ (ending.text ++ body).toList) with
      | none => .error .missingClosing
      | some (frontmatter, closed) => .ok (dropReturns frontmatter, dropLineBreak closed) := by
  have hbody : (ending.text ++ body).toList = ending.returns ++ '\n' :: body.toList := by
    simp [LineBreak.text]
  rw [toList_written, hbody]
  exact splitChars_eq marked ending _

/-- No text is read as an empty frontmatter that is written without lines. -/
theorem ofText_written_nil_ne (marked : Bool) (ending : LineBreak) (body body' : String) :
    Parts.ofText (written marked ending [] body) ≠ .ok ⟨"", body'⟩ := by
  have hsplit := splitChars_written_nil marked ending body
  cases hfound : Text.splitAtFirst? ('\n' :: hyphens) (hyphens ++ (ending.text ++ body).toList) with
  | none =>
      rw [hfound] at hsplit
      rw [ofText_eq_error hsplit]
      exact fun h => nomatch h
  | some found =>
      rw [hfound] at hsplit
      rw [ofText_eq hsplit, ne_eq, Except.ok.injEq, Parts.mk.injEq]
      intro hread
      have hempty : dropReturns found.1 = [] := String.ofList_eq_empty_iff.1 hread.1
      exact dropReturns_ne_nil (hyphens_isPrefix_of_split hfound) hempty

/-- The closing hyphens are reported as missing if no others follow. -/
theorem ofText_written_nil (marked : Bool) (ending : LineBreak) {body : String}
    (hbody : ¬ ('\n' :: hyphens) <:+: (ending.text ++ body).toList) :
    Parts.ofText (written marked ending [] body) = .error .missingClosing := by
  have hsplit := splitChars_written_nil marked ending body
  rw [Text.splitAtFirst?_append_of_not_mem feed_not_mem_hyphens,
    Text.splitAtFirst?_eq_none_iff.2 hbody] at hsplit
  exact ofText_eq_error hsplit

/-- **A test case that has been written is split into what it was written from if and only if its
frontmatter has a line.**  Without one, the closing hyphens are missed: if no others follow, they are
reported as missing, although they stand there. -/
theorem ofText_written_iff (marked : Bool) (ending : LineBreak) {lines : List String}
    (hlines : ∀ line ∈ lines, IsLine line.toList) (body : String) :
    (Parts.ofText (written marked ending lines body) =
        .ok ⟨ending.text.intercalate lines, body⟩ ↔ lines ≠ []) ∧
      (lines = [] → ¬ ('\n' :: hyphens) <:+: (ending.text ++ body).toList →
        Parts.ofText (written marked ending lines body) = .error .missingClosing) := by
  refine ⟨⟨?_, fun hne => ofText_written marked ending hlines hne body⟩, ?_⟩
  · intro hread hnil
    subst hnil
    exact ofText_written_nil_ne marked ending body body hread
  · intro hnil hbody
    subst hnil
    exact ofText_written_nil marked ending hbody

/-- Behind a mark of the byte order, with carriage returns, an empty line and a delimiter in the body. -/
theorem ofText_written_iff_blank :
    (∀ line ∈ ["entry = 'a'", "", " ---"], IsLine line.toList) ∧
      Parts.ofText
          "\ufeff---\r\nentry = 'a'\r\n\r\n ---\r\n---\r\nbody\n---\n" =
        .ok ⟨"entry = 'a'\r\n\r\n ---", "body\n---\n"⟩ := by
  have hlines : ∀ line ∈ ["entry = 'a'", "", " ---"], IsLine line.toList := by decide
  obtain ⟨hread, -⟩ := ofText_written_iff true .returnFeed hlines "body\n---\n"
  exact ⟨hlines, hread.2 (List.cons_ne_nil _ _)⟩

/-- A test case without any line of frontmatter is refused, and its closing hyphens are said to be
missing. -/
theorem ofText_written_no_lines :
    written false .feed [] "[[template]]\nname = 'a'\nfragments = ['/b/']\n" =
        "---\n---\n[[template]]\nname = 'a'\nfragments = ['/b/']\n" ∧
      Parts.ofText "---\n---\n[[template]]\nname = 'a'\nfragments = ['/b/']\n" =
        .error .missingClosing := by
  refine ⟨by decide +kernel, ofText_eq_error ?_⟩
  rfl

end RegexTemplate.TestCase
