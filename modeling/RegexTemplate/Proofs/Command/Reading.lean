import Mathlib.Data.List.Basic
import RegexTemplate.Command.Arguments

/-!
# What a reading depends on

Reading a command line goes on from what has been read so far.  Here it is said for each stage when it
succeeds: for an option that is taken (`take_eq_ok_iff`), for its long name (`takeLong_eq_ok_iff`), for its
letter (`takeLetters_cons_eq_ok_iff`), for a word (`accept_eq_ok_iff`).

What has been read before is looked at for two things only: an option is not given twice, and there are not
too many operands.  Both only make the reader stricter.  So words that are accepted behind a reading are
accepted by themselves, and what is then read of them is the same (`exists_of_foldlM_behind`).
-/

namespace RegexTemplate.Command

theorem bind_eq_ok_iff {α β : Type} {x : Except Halt α} {f : α → Except Halt β} {b : β} :
    (x >>= f) = .ok b ↔ ∃ a, x = .ok a ∧ f a = .ok b := by
  cases x with
  | error halt => simp [Bind.bind, Except.bind]
  | ok a => simp [Bind.bind, Except.bind]

/-- An option can have what is attached to it. -/
def Switch.Fits (option : Switch) (attached : Option String) : Prop :=
  match option.effect with
  | .flag => attached = none
  | .value | .values => True
  | .help | .version => False

namespace Reading

variable {reading next final earlier : Reading} {topic : Option String} {known : List Switch}
  {count : Nat} {word name : String} {words : List String} {letter : Char} {long letters : List Char}
  {option : Switch} {attached : Option String}

/-- A reading behind what another one has read. -/
def behind (reading earlier : Reading) : Reading :=
  { reading with
    given := earlier.given ++ reading.given
    operands := earlier.operands ++ reading.operands }

/-- A reading with one more option. -/
def taken (reading : Reading) (option : Switch) (attached : Option String) : Reading :=
  match attached with
  | some value => reading.give option.long value
  | none =>
    if option.effect = .flag then reading.give option.long ""
    else { reading with pending := some option.long }

theorem taken_behind (reading earlier : Reading) (option : Switch) (attached : Option String) :
    (reading.behind earlier).taken option attached = (reading.taken option attached).behind earlier := by
  cases attached with
  | some value => simp [taken, give, behind]
  | none =>
      by_cases hflag : option.effect = .flag
      · simp [taken, give, behind, hflag]
      · simp [taken, behind, hflag]

theorem has_of_has_behind (h : reading.has name) : (reading.behind earlier).has name := by
  rw [has, behind, List.any_append, Bool.or_eq_true]
  exact Or.inr h

/-- An option is taken unless it is a request for help, or given twice. -/
theorem take_eq_ok_iff :
    reading.take topic option attached = .ok next ↔
      option.Fits attached ∧ (reading.has option.long → option.effect = .values) ∧
        next = reading.taken option attached := by
  obtain ⟨long, short, effect⟩ := option
  unfold take Switch.Fits taken
  cases reading.has long <;> cases effect <;> cases attached <;> simp <;> exact eq_comm

/-- An option that is taken behind another reading is taken by itself. -/
theorem exists_of_take_behind (h : (reading.behind earlier).take topic option attached = .ok next) :
    ∃ own, reading.take topic option attached = .ok own ∧ next = own.behind earlier := by
  obtain ⟨hfits, hrepeated, hnext⟩ := take_eq_ok_iff.1 h
  have htaken : reading.take topic option attached = .ok (reading.taken option attached) :=
    take_eq_ok_iff.2 ⟨hfits, fun hhas => hrepeated (has_of_has_behind hhas), rfl⟩
  exact ⟨_, htaken, hnext.trans (taken_behind reading earlier option attached)⟩

/-- A flag is taken unless it has been given. -/
theorem take_flag_eq_ok_iff (topic : Option String) {short : Option Char} :
    reading.take topic ⟨name, short, .flag⟩ none = .ok next ↔
      reading.has name = false ∧ next = reading.give name "" := by
  rw [take_eq_ok_iff]
  simp [Switch.Fits, taken]

/-- The name in a word behind two hyphens. -/
def nameOf (long : List Char) : String := String.ofList (long.takeWhile (· != '='))

/-- The value in a word behind two hyphens. -/
def valueOf (long : List Char) : Option String :=
  match long.dropWhile (· != '=') with
  | [] => none
  | _ :: value => some (String.ofList value)

/-- Without a value, the word is the name. -/
theorem toList_nameOf (h : valueOf long = none) : (nameOf long).toList = long := by
  have hdrop : long.dropWhile (· != '=') = [] := by
    cases hdrop : long.dropWhile (· != '=') with
    | nil => rfl
    | cons first rest => simp [valueOf, hdrop] at h
  have hall := List.takeWhile_append_dropWhile (p := (· != '=')) (l := long)
  rw [hdrop, List.append_nil] at hall
  rw [nameOf, hall, String.toList_ofList]

theorem takeLong_eq (reading : Reading) (topic : Option String) (known : List Switch)
    (long : List Char) :
    reading.takeLong topic known long =
      match known.find? (·.long == nameOf long) with
      | none => .error (.refused (.unknownOption ("--" ++ String.ofList long)))
      | some option =>
        match option.effect, valueOf long with
        | .help, some _ => .error (.refused (.unexpectedValue (nameOf long)))
        | .version, some _ => .error (.refused (.unexpectedValue (nameOf long)))
        | _, _ => reading.take topic option (valueOf long) := rfl

/-- A word behind two hyphens is read if it begins with the name of an option that can be taken. -/
theorem takeLong_eq_ok_iff :
    reading.takeLong topic known long = .ok next ↔ ∃ option,
      known.find? (·.long == nameOf long) = some option ∧
        reading.take topic option (valueOf long) = .ok next := by
  rw [takeLong_eq]
  cases hfind : known.find? (·.long == nameOf long) with
  | none => simp
  | some option =>
      have hnot : (option.effect = .help ∨ option.effect = .version) →
          ¬ reading.take topic option (valueOf long) = .ok next := by
        intro heffect htaken
        have hfits := (take_eq_ok_iff.1 htaken).1
        rcases heffect with heffect | heffect <;> rw [Switch.Fits, heffect] at hfits <;> exact hfits
      simp only [Option.some.injEq, exists_eq_left']
      split
      · next heffect _ => simpa using hnot (Or.inl heffect)
      · next heffect _ => simpa using hnot (Or.inr heffect)
      · rfl

theorem takeLong_of_unknown (h : known.find? (·.long == nameOf long) = none) :
    reading.takeLong topic known long =
      .error (.refused (.unknownOption ("--" ++ String.ofList long))) := by
  rw [takeLong_eq, h]

/-- A word behind two hyphens that is read behind another reading is read by itself. -/
theorem exists_of_takeLong_behind (h : (reading.behind earlier).takeLong topic known long = .ok next) :
    ∃ own, reading.takeLong topic known long = .ok own ∧ next = own.behind earlier := by
  obtain ⟨option, hfind, htake⟩ := takeLong_eq_ok_iff.1 h
  obtain ⟨own, hown, hnext⟩ := exists_of_take_behind htake
  exact ⟨own, takeLong_eq_ok_iff.2 ⟨option, hfind, hown⟩, hnext⟩

/-- The value behind the letter of an option that has one. -/
def valueBehind : List Char → Option String
  | [] => none
  | '=' :: value => some (String.ofList value)
  | value => some (String.ofList value)

/-- Letters are read if the first one belongs to an option that can be taken, with all others as its value
or with the others read in turn. -/
theorem takeLetters_cons_eq_ok_iff :
    reading.takeLetters topic known (letter :: letters) = .ok next ↔ ∃ option,
      known.find? (·.short == some letter) = some option ∧
        if option.effect = .value ∨ option.effect = .values then
          reading.take topic option (valueBehind letters) = .ok next
        else ∃ between, reading.take topic option none = .ok between ∧
          between.takeLetters topic known letters = .ok next := by
  rw [takeLetters]
  cases hfind : known.find? (·.short == some letter) with
  | none => simp
  | some option =>
      simp only [Option.some.injEq, exists_eq_left']
      by_cases hvalued : option.effect = .value ∨ option.effect = .values
      · rw [if_pos hvalued, if_pos hvalued]
        cases letters with
        | nil => rfl
        | cons first rest =>
            by_cases hequals : first = '='
            · rw [hequals]
              rfl
            · simp [valueBehind, hequals]
      · rw [if_neg hvalued, if_neg hvalued]
        exact bind_eq_ok_iff

theorem takeLetters_of_unknown (h : known.find? (·.short == some letter) = none) :
    reading.takeLetters topic known (letter :: letters) =
      .error (.refused (.unknownOption ("-" ++ String.ofList [letter]))) := by
  rw [takeLetters, h]

/-- Letters that are read behind another reading are read by themselves. -/
theorem exists_of_takeLetters_behind
    (h : (reading.behind earlier).takeLetters topic known letters = .ok next) :
    ∃ own, reading.takeLetters topic known letters = .ok own ∧ next = own.behind earlier := by
  induction letters generalizing reading with
  | nil => exact ⟨reading, rfl, (Except.ok.inj h).symm⟩
  | cons letter letters ih =>
      obtain ⟨option, hfind, htake⟩ := takeLetters_cons_eq_ok_iff.1 h
      by_cases hvalued : option.effect = .value ∨ option.effect = .values
      · rw [if_pos hvalued] at htake
        obtain ⟨own, hown, hnext⟩ := exists_of_take_behind htake
        refine ⟨own, takeLetters_cons_eq_ok_iff.2 ⟨option, hfind, ?_⟩, hnext⟩
        rwa [if_pos hvalued]
      · rw [if_neg hvalued] at htake
        obtain ⟨between, hbetween, hrest⟩ := htake
        obtain ⟨middle, hmiddle, rfl⟩ := exists_of_take_behind hbetween
        obtain ⟨own, hown, hnext⟩ := ih hrest
        refine ⟨own, takeLetters_cons_eq_ok_iff.2 ⟨option, hfind, ?_⟩, hnext⟩
        rw [if_neg hvalued]
        exact ⟨middle, hmiddle, hown⟩

/-- A word that is read behind another reading is read by itself. -/
theorem exists_of_takeWord_behind
    (h : (reading.behind earlier).takeWord topic known word = .ok next) :
    ∃ own, reading.takeWord topic known word = .ok own ∧ next = own.behind earlier := by
  unfold takeWord at h ⊢
  -- Which kind of word it is does not depend on the options and operands before it.
  have hescaped : (reading.behind earlier).escaped = reading.escaped := rfl
  have hpending : (reading.behind earlier).pending = reading.pending := rfl
  rw [hescaped, hpending] at h
  split at h
  · next hesc =>
      refine ⟨_, if_pos hesc, ?_⟩
      simpa [behind] using h.symm
  · next hesc =>
      rw [if_neg hesc]
      split at h
      · cases h
      · refine ⟨_, rfl, ?_⟩
        simpa [behind, give] using h.symm
      · refine ⟨_, rfl, ?_⟩
        simpa [behind] using h.symm
      · exact exists_of_takeLong_behind h
      · exact exists_of_takeLetters_behind h
      · refine ⟨_, rfl, ?_⟩
        simpa [behind] using h.symm

/-- Reads one word of a command that has a number of operands. -/
def accept (topic : Option String) (known : List Switch) (count : Nat) (reading : Reading)
    (word : String) : Except Halt Reading := do
  let reading ← reading.takeWord topic known word
  match reading.operands[count]? with
  | some operand => .error (.refused (.unexpectedOperand operand))
  | none => .ok reading

theorem accept_eq_ok_iff :
    reading.accept topic known count word = .ok next ↔
      reading.takeWord topic known word = .ok next ∧ next.operands.length ≤ count := by
  rw [accept, bind_eq_ok_iff]
  constructor
  · intro h
    obtain ⟨read, hread, hcount⟩ := h
    split at hcount
    · cases hcount
    · next hnone =>
        cases hcount
        exact ⟨hread, List.getElem?_eq_none_iff.1 hnone⟩
  · intro h
    refine ⟨next, h.1, ?_⟩
    rw [List.getElem?_eq_none h.2]

/-- Words that are accepted behind another reading are accepted by themselves. -/
theorem exists_of_foldlM_behind
    (h : words.foldlM (accept topic known count) (reading.behind earlier) = .ok final) :
    ∃ own, words.foldlM (accept topic known count) reading = .ok own ∧ final = own.behind earlier := by
  induction words generalizing reading with
  | nil => exact ⟨reading, rfl, (Except.ok.inj h).symm⟩
  | cons word words ih =>
      rw [List.foldlM_cons, bind_eq_ok_iff] at h
      obtain ⟨next, hnext, hrest⟩ := h
      obtain ⟨hread, hcount⟩ := accept_eq_ok_iff.1 hnext
      obtain ⟨middle, hmiddle, rfl⟩ := exists_of_takeWord_behind hread
      obtain ⟨own, hown, hfinal⟩ := ih hrest
      refine ⟨own, ?_, hfinal⟩
      have hfewer : middle.operands.length ≤ count := by
        rw [behind, List.length_append] at hcount
        omega
      rw [List.foldlM_cons, bind_eq_ok_iff]
      exact ⟨middle, accept_eq_ok_iff.2 ⟨hmiddle, hfewer⟩, hown⟩

theorem finish_eq_ok_iff : reading.finish = .ok next ↔ reading.pending = none ∧ next = reading := by
  unfold finish
  cases hpending : reading.pending with
  | none => simp [eq_comm]
  | some name => simp

/-- A command reads its words if they are accepted one by one and no value is missing in the end. -/
theorem readWords_eq_ok_iff :
    readWords topic known count words = .ok final ↔
      words.foldlM (accept topic known count) {} = .ok final ∧ final.pending = none := by
  have hread : readWords topic known count words = (do
      let reading ← words.foldlM (accept topic known count) {}
      reading.finish) := rfl
  rw [hread, bind_eq_ok_iff]
  constructor
  · intro h
    obtain ⟨reading, hfold, hfinish⟩ := h
    obtain ⟨hpending, rfl⟩ := finish_eq_ok_iff.1 hfinish
    exact ⟨hfold, hpending⟩
  · intro h
    exact ⟨final, h.1, finish_eq_ok_iff.2 ⟨h.2, rfl⟩⟩

/-- A reading that expects nothing in particular: no value of an option, and no operands only. -/
structure Ready (reading : Reading) : Prop where
  pending : reading.pending = none
  escaped : reading.escaped = false

/-- What has been read before such a reading is all that sets it apart from one that begins. -/
theorem Ready.eq_behind (h : reading.Ready) : reading = ({} : Reading).behind reading := by
  obtain ⟨given, operands, pending, escaped⟩ := reading
  obtain ⟨rfl, rfl⟩ := h
  simp [behind]

theorem takeWord_operand (h : reading.Ready) (hword : beginsWithHyphen word = false) :
    reading.takeWord topic known word =
      .ok { reading with operands := reading.operands ++ [word] } := by
  obtain ⟨given, operands, pending, escaped⟩ := reading
  obtain ⟨rfl, rfl⟩ := h
  cases hlist : word.toList with
  | nil => simp [takeWord, hlist]
  | cons first rest =>
      have hfirst : first ≠ '-' := by simpa [beginsWithHyphen, hlist] using hword
      simp [takeWord, hlist, hfirst]

theorem takeWord_long {first : Char} (h : reading.Ready)
    (hword : word.toList = '-' :: '-' :: first :: long) :
    reading.takeWord topic known word = reading.takeLong topic known (first :: long) := by
  obtain ⟨given, operands, pending, escaped⟩ := reading
  obtain ⟨rfl, rfl⟩ := h
  simp [takeWord, hword]

theorem takeWord_letters (h : reading.Ready) (hword : word.toList = '-' :: letter :: letters)
    (hletter : letter ≠ '-') :
    reading.takeWord topic known word = reading.takeLetters topic known (letter :: letters) := by
  obtain ⟨given, operands, pending, escaped⟩ := reading
  obtain ⟨rfl, rfl⟩ := h
  simp [takeWord, hword, hletter]

end Reading

end RegexTemplate.Command
