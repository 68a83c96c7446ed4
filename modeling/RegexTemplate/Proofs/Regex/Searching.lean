import RegexTemplate.Proofs.Text.Finding
import RegexTemplate.Regex.Basic

/-!
# Searching for a row of characters

The expression for a row of characters has a program that counts down (`instrs_ofRow_cons`): the
instruction at a position takes the character behind which that many are left, and goes on to the one
below.  So a thread is at the position that says how much of the row is still to come, and it stands
for an occurrence that has begun (`Begun`).  At each place there is one thread for each beginning of
the row that the text read so far ends with (`Pending`).  They are at different positions, and hence
none of them is dropped when they settle (`settle_of_waits`); the one that accepts, if there is one, is
at the lowest position and comes first.

Main statement: `find?_ofRow`, searching with the program finds the first occurrence of the row.  So it
finds something where the row occurs, and the whole text only if this is the row.
-/

namespace RegexTemplate

open String (utf8Len)

namespace Regex

/-! ## The program of a row -/

/-- The expression for one character. -/
def Expr.ofChar (c : Char) : Expr := .chars (.singleton c)

/-- The expression for a row of characters, one behind the other. -/
def Expr.ofRow (raw : List Char) : Expr := .ofParts (raw.map .ofChar)

/-- A row has one part for each character. -/
theorem Expr.parts_ofRow (raw : List Char) : (Expr.ofRow raw).parts = raw.map Expr.ofChar := by
  refine Expr.parts_ofParts fun e he => ?_
  obtain ⟨c, -, rfl⟩ := List.mem_map.1 he
  rfl

/-- The instructions that take a row, those for its end first. -/
def rowInstrs : List Char → List Instr
  | [] => [.accept]
  | c :: raw => rowInstrs raw ++ [.chars (.singleton c) raw.length]

/-- The program that takes a row. -/
def Program.ofRow (raw : List Char) : Program := ⟨(rowInstrs raw).toArray, raw.length⟩

variable {raw taken rest done front back : List Char} {c : Char}

theorem length_rowInstrs (raw : List Char) : (rowInstrs raw).length = raw.length + 1 := by
  induction raw with
  | nil => rfl
  | cons c raw ih => rw [rowInstrs, List.length_append, ih, List.length_singleton, List.length_cons]

theorem compile_ofRow (raw : List Char) :
    (Expr.ofRow raw).compile 0 #[.accept] = (raw.length, (rowInstrs raw).toArray) := by
  induction raw with
  | nil => rfl
  | cons c raw ih =>
      have hcons : (Expr.ofRow (c :: raw)).compile 0 #[.accept] =
          emit ((Expr.ofRow raw).compile 0 #[.accept]).2
            (.chars (.singleton c) ((Expr.ofRow raw).compile 0 #[.accept]).1) := by
        cases raw <;> rfl
      rw [hcons, ih, emit, List.size_toArray, length_rowInstrs, rowInstrs, List.push_toArray,
        List.length_cons]

/-- The program of a row is what its expression is compiled to, unless it is too large. -/
theorem ofExpr_ofRow (raw : List Char) :
    Program.ofExpr (.ofRow raw) =
      if (Expr.ofRow raw).isSmall then .ok (.ofRow raw) else .error .tooLarge := by
  rw [Program.ofExpr, compile_ofRow]
  cases (Expr.ofRow raw).isSmall <;> rfl

/-- The instructions for the end of a row come first. -/
theorem rowInstrs_isPrefix (taken rest : List Char) :
    rowInstrs rest <+: rowInstrs (taken ++ rest) := by
  induction taken with
  | nil => exact List.prefix_rfl
  | cons c taken ih => exact ih.trans (List.prefix_append _ _)

theorem instrs_ofRow_append (taken rest : List Char) :
    (Program.ofRow (taken ++ rest)).instrs[rest.length]? = (rowInstrs rest)[rest.length]? := by
  obtain ⟨more, hmore⟩ := rowInstrs_isPrefix taken rest
  have hlt : rest.length < (rowInstrs rest).length := by
    rw [length_rowInstrs]
    omega
  rw [Program.ofRow, List.getElem?_toArray, ← hmore, List.getElem?_append_left hlt]

/-- Where nothing is left, the program accepts. -/
theorem instrs_ofRow_nil (taken : List Char) :
    (Program.ofRow taken).instrs[0]? = some .accept := by
  have hinstr := instrs_ofRow_append taken []
  rwa [List.append_nil] at hinstr

/-- Where some characters are left, the program takes the first of them. -/
theorem instrs_ofRow_cons (taken rest : List Char) (c : Char) :
    (Program.ofRow (taken ++ c :: rest)).instrs[rest.length + 1]? =
      some (.chars (.singleton c) rest.length) := by
  have hinstr := instrs_ofRow_append taken (c :: rest)
  have hlast : rest.length + 1 = (rowInstrs rest).length := (length_rowInstrs rest).symm
  rw [List.length_cons, rowInstrs] at hinstr
  rw [hinstr, hlast, List.getElem?_concat_length]

/-! ## Threads that wait -/

/-- An instruction at which a thread waits for a character, or accepts. -/
def Instr.Waits : Instr → Prop
  | .chars _ _ => True
  | .look _ _ => False
  | .fork _ _ => False
  | .accept => True

/-- The threads that arrive where they wait. -/
def Waiting (program : Program) (threads : List Thread) : Prop :=
  ∀ thread ∈ threads, ∃ instr, program.instrs[thread.position]? = some instr ∧ instr.Waits

variable {program : Program} {place : Place} {threads : List Thread}

/-- A thread that arrives where it waits stays there, if no other has been there before. -/
theorem follow_of_waits {thread : Thread} {instr : Instr} {frontier : Frontier} {fuel : Nat}
    (hinstr : program.instrs[thread.position]? = some instr) (hwaits : instr.Waits)
    (hfresh : frontier.visited.getD thread.position true = false) :
    follow program place thread.start (fuel + 2) [thread.position] frontier =
      ⟨frontier.visited.set! thread.position true, thread :: frontier.waiting⟩ := by
  rw [follow, hfresh, hinstr]
  cases instr with
  | chars set next => rfl
  | accept => rfl
  | look condition next => exact hwaits.elim
  | fork first second => exact hwaits.elim

/-- Threads that arrive at different positions where they wait are all kept, in their order. -/
theorem settle_of_waits (hwaiting : Waiting program threads)
    (hdistinct : (threads.map Thread.position).Nodup) :
    settle program place threads = threads := by
  have hfold : ∀ (threads : List Thread) (frontier : Frontier), Waiting program threads →
      (threads.map Thread.position).Nodup →
      (∀ thread ∈ threads, frontier.visited.getD thread.position true = false) →
      (threads.foldl (fun frontier thread =>
        follow program place thread.start (2 * program.instrs.size + 2) [thread.position] frontier)
        frontier).waiting = threads.reverse ++ frontier.waiting := by
    intro threads
    induction threads with
    | nil => exact fun _ _ _ _ => rfl
    | cons thread threads ih =>
        intro frontier hwaiting hdistinct hfresh
        rw [Waiting, List.forall_mem_cons] at hwaiting
        rw [List.map_cons, List.nodup_cons] at hdistinct
        rw [List.forall_mem_cons] at hfresh
        obtain ⟨⟨instr, hinstr, hwaits⟩, hrest⟩ := hwaiting
        have hother : ∀ other ∈ threads,
            (frontier.visited.set! thread.position true).getD other.position true = false := by
          intro other hmem
          have hne : thread.position ≠ other.position :=
            fun heq => hdistinct.1 (heq ▸ List.mem_map_of_mem hmem)
          have hold := hfresh.2 other hmem
          rw [Array.getD_eq_getD_getElem?] at hold ⊢
          rwa [Array.set!_eq_setIfInBounds, Array.getElem?_setIfInBounds_ne hne]
        rw [List.foldl_cons, follow_of_waits hinstr hwaits hfresh.1, ih _ hrest hdistinct.2 hother,
          List.reverse_cons, List.append_assoc, List.singleton_append]
  have hfresh : ∀ thread ∈ threads,
      (Array.replicate program.instrs.size false).getD thread.position true = false := by
    intro thread hmem
    obtain ⟨instr, hinstr, -⟩ := hwaiting thread hmem
    obtain ⟨hlt, -⟩ := Array.getElem?_eq_some_iff.1 hinstr
    rw [Array.getD_eq_getD_getElem?, Array.getElem?_replicate, if_pos hlt, Option.getD_some]
  have hwhole := hfold threads ⟨Array.replicate program.instrs.size false, []⟩ hwaiting hdistinct
    hfresh
  rw [settle]
  simp only [hwhole, List.append_nil, List.reverse_reverse]

/-- Where a thread goes when it takes the next character. -/
def Thread.step? (program : Program) (after : Option Char) (thread : Thread) : Option Thread :=
  match program.instrs[thread.position]? with
  | some (.chars set next) => if after.any set.has then some ⟨next, thread.start⟩ else none
  | _ => none

/-- If no thread accepts, those that can take the next character move on. -/
theorem advance_of_not_accept
    (haccept : ∀ thread ∈ threads, program.instrs[thread.position]? ≠ some .accept) :
    advance program place threads = (none, threads.filterMap (Thread.step? program place.after)) := by
  induction threads with
  | nil => rfl
  | cons thread threads ih =>
      rw [List.forall_mem_cons] at haccept
      rw [advance, ih haccept.2, List.filterMap_cons, Thread.step?]
      cases hinstr : program.instrs[thread.position]? with
      | none => rfl
      | some instr =>
          cases instr with
          | chars set next =>
              dsimp only
              cases place.after.any set.has <;> rfl
          | look condition next => rfl
          | fork first second => rfl
          | accept => exact absurd hinstr haccept.1

/-! ## Occurrences that have begun -/

/-- A thread stands for an occurrence of a row that has begun in the text read so far, which ends with
what has been taken of the row.  The thread is at the position that says how much is left. -/
def Begun (raw done : List Char) (thread : Thread) : Prop :=
  ∃ front taken rest, raw = taken ++ rest ∧ done = front ++ taken ∧
    thread = ⟨rest.length, utf8Len front⟩

/-- The threads at a place: one for each occurrence that has begun, those with less to come first. -/
structure Pending (raw done : List Char) (threads : List Thread) : Prop where
  sorted : threads.Pairwise fun thread other => thread.position < other.position
  mem_iff : ∀ thread, thread ∈ threads ↔ Begun raw done thread

theorem Begun.waits {thread : Thread} (h : Begun raw done thread) :
    ∃ instr, (Program.ofRow raw).instrs[thread.position]? = some instr ∧ instr.Waits := by
  obtain ⟨front, taken, rest, rfl, -, rfl⟩ := h
  cases rest with
  | nil =>
      rw [List.append_nil]
      exact ⟨_, instrs_ofRow_nil taken, trivial⟩
  | cons c rest => exact ⟨_, instrs_ofRow_cons taken rest c, trivial⟩

/-- The threads at a place are kept as they are. -/
theorem Pending.settle_eq (h : Pending raw done threads) :
    settle (.ofRow raw) place threads = threads := by
  apply settle_of_waits
  · intro thread hmem
    exact ((h.mem_iff thread).1 hmem).waits
  · exact List.Pairwise.map _ (fun _ _ hlt => Nat.ne_of_lt hlt) h.sorted

/-- Only a thread with nothing left accepts. -/
theorem Begun.accepts_iff {thread : Thread} (h : Begun raw done thread) :
    (Program.ofRow raw).instrs[thread.position]? = some .accept ↔ thread.position = 0 := by
  obtain ⟨front, taken, rest, rfl, -, rfl⟩ := h
  cases rest with
  | nil =>
      rw [List.append_nil]
      exact iff_of_true (instrs_ofRow_nil taken) rfl
  | cons c rest =>
      rw [List.length_cons, instrs_ofRow_cons]
      simp

/-- If the text read so far ends with the row, then that occurrence is found. -/
theorem Pending.advance_found (h : Pending raw (front ++ raw) threads) :
    advance (.ofRow raw) place threads = (some (utf8Len front, place.offset), []) := by
  have hmem : ⟨0, utf8Len front⟩ ∈ threads :=
    (h.mem_iff _).2 ⟨front, raw, [], (List.append_nil raw).symm, rfl, rfl⟩
  cases threads with
  | nil => cases hmem
  | cons thread threads =>
      -- no position is below that of a thread with nothing left
      have hhead : thread = ⟨0, utf8Len front⟩ := by
        rcases List.mem_cons.1 hmem with heq | hlater
        · exact heq.symm
        · exact absurd ((List.pairwise_cons.1 h.sorted).1 _ hlater) (Nat.not_lt_zero _)
      rw [hhead, advance, instrs_ofRow_nil]

/-- Otherwise nothing is found, and the threads that can take the next character move on. -/
theorem Pending.advance_none (h : Pending raw done threads) (hends : ¬ raw <:+ done) :
    advance (.ofRow raw) place threads =
      (none, threads.filterMap (Thread.step? (.ofRow raw) place.after)) := by
  apply advance_of_not_accept
  intro thread hmem haccept
  have hbegun := (h.mem_iff thread).1 hmem
  have hposition := hbegun.accepts_iff.1 haccept
  obtain ⟨front, taken, rest, rfl, rfl, rfl⟩ := hbegun
  obtain rfl : rest = [] := List.length_eq_zero_iff.1 hposition
  rw [List.append_nil] at hends
  exact hends (List.suffix_append front taken)

theorem has_singleton_iff {d : Char} : (CharSet.singleton c).has d ↔ c = d := by
  have hval : c = d ↔ c.toNat = d.toNat := by
    rw [Char.toNat, Char.toNat, ← UInt32.toNat_inj.symm, Char.val_inj]
  rw [hval]
  simp only [CharSet.has, CharSet.singleton, CharSet.liesIn]
  split
  · simp only [Bool.false_eq_true, false_iff]
    omega
  · split
    · simp only [true_iff]
      omega
    · simp only [Bool.false_eq_true, false_iff]
      omega

/-- A thread moves on when the next character is the one that it waits for. -/
theorem step?_eq_some_iff {thread moved : Thread} (h : Begun raw done thread) :
    thread.step? (.ofRow raw) (some c) = some moved ↔
      ∃ front taken rest, raw = taken ++ c :: rest ∧ done = front ++ taken ∧
        thread = ⟨rest.length + 1, utf8Len front⟩ ∧ moved = ⟨rest.length, utf8Len front⟩ := by
  constructor
  · intro hstep
    obtain ⟨front, taken, rest, rfl, rfl, rfl⟩ := h
    cases rest with
    | nil =>
        rw [Thread.step?, List.append_nil, List.length_nil, instrs_ofRow_nil] at hstep
        cases hstep
    | cons d rest =>
        rw [Thread.step?, List.length_cons, instrs_ofRow_cons] at hstep
        dsimp only at hstep
        rw [Option.ite_none_right_eq_some, Option.any_some, has_singleton_iff,
          Option.some.injEq] at hstep
        obtain ⟨rfl, rfl⟩ := hstep
        exact ⟨front, taken, rest, rfl, rfl, rfl, rfl⟩
  · intro hgiven
    obtain ⟨front, taken, rest, rfl, rfl, rfl, rfl⟩ := hgiven
    rw [Thread.step?, instrs_ofRow_cons]
    exact if_pos (has_singleton_iff.2 rfl)

/-- An occurrence that has begun when a character has been read either begins behind the character, or
had begun before and goes on with it. -/
theorem begun_concat_iff {thread : Thread} :
    Begun raw (done ++ [c]) thread ↔ thread = ⟨raw.length, utf8Len (done ++ [c])⟩ ∨
      ∃ front taken rest, raw = taken ++ c :: rest ∧ done = front ++ taken ∧
        thread = ⟨rest.length, utf8Len front⟩ := by
  constructor
  · intro h
    obtain ⟨front, taken, rest, hraw, hdone, rfl⟩ := h
    rcases List.eq_nil_or_concat taken with rfl | ⟨taken, d, rfl⟩
    · rw [List.append_nil] at hdone
      rw [hraw, hdone]
      exact Or.inl rfl
    · rw [List.concat_eq_append] at hraw hdone
      rw [← List.append_assoc] at hdone
      obtain ⟨hfront, hlast⟩ := List.append_inj' hdone rfl
      cases hlast
      refine Or.inr ⟨front, taken, rest, ?_, hfront, rfl⟩
      rw [hraw, List.append_assoc, List.singleton_append]
  · rintro (rfl | ⟨front, taken, rest, rfl, rfl, rfl⟩)
    · exact ⟨done ++ [c], [], raw, rfl, (List.append_nil _).symm, rfl⟩
    · refine ⟨front, taken ++ [c], rest, ?_, List.append_assoc _ _ _, rfl⟩
      rw [List.append_assoc, List.singleton_append]

/-- When a character is read, the threads that can take it move on, and a new one begins. -/
theorem Pending.concat (h : Pending raw done threads) :
    Pending raw (done ++ [c]) (threads.filterMap (Thread.step? (.ofRow raw) (some c)) ++
      [⟨raw.length, utf8Len (done ++ [c])⟩]) := by
  have hmoved : ∀ moved, moved ∈ threads.filterMap (Thread.step? (.ofRow raw) (some c)) ↔
      ∃ front taken rest, raw = taken ++ c :: rest ∧ done = front ++ taken ∧
        moved = ⟨rest.length, utf8Len front⟩ := by
    intro moved
    rw [List.mem_filterMap]
    constructor
    · intro hgiven
      obtain ⟨thread, hmem, hstep⟩ := hgiven
      have hbegun := (h.mem_iff thread).1 hmem
      obtain ⟨front, taken, rest, hraw, hdone, -, hmoved⟩ := (step?_eq_some_iff hbegun).1 hstep
      exact ⟨front, taken, rest, hraw, hdone, hmoved⟩
    · intro hgiven
      obtain ⟨front, taken, rest, hraw, hdone, hmoved⟩ := hgiven
      have hbegun : Begun raw done ⟨rest.length + 1, utf8Len front⟩ :=
        ⟨front, taken, c :: rest, hraw, hdone, rfl⟩
      refine ⟨_, (h.mem_iff _).2 hbegun, (step?_eq_some_iff hbegun).2 ?_⟩
      exact ⟨front, taken, rest, hraw, hdone, rfl, hmoved⟩
  constructor
  · rw [List.pairwise_append]
    refine ⟨?_, List.pairwise_singleton _ _, ?_⟩
    · rw [List.pairwise_filterMap]
      refine h.sorted.imp_of_mem ?_
      intro thread other hthread hother hlt moved hstep moved' hstep'
      obtain ⟨_, _, rest, -, -, rfl, rfl⟩ := (step?_eq_some_iff ((h.mem_iff _).1 hthread)).1 hstep
      obtain ⟨_, _, rest', -, -, rfl, rfl⟩ := (step?_eq_some_iff ((h.mem_iff _).1 hother)).1 hstep'
      exact Nat.lt_of_succ_lt_succ hlt
    · intro moved hmem new hnew
      obtain ⟨front, taken, rest, rfl, -, rfl⟩ := (hmoved moved).1 hmem
      rw [List.mem_singleton.1 hnew]
      change rest.length < (taken ++ c :: rest).length
      rw [List.length_append, List.length_cons]
      omega
  · intro thread
    rw [List.mem_append, hmoved, List.mem_singleton, begun_concat_iff, or_comm]

/-- In front of the text, only a new thread has begun. -/
theorem pending_nil (raw : List Char) : Pending raw [] [⟨raw.length, 0⟩] := by
  refine ⟨List.pairwise_singleton _ _, fun thread => ?_⟩
  rw [List.mem_singleton]
  constructor
  · rintro rfl
    exact ⟨[], [], raw, rfl, rfl, rfl⟩
  · intro h
    obtain ⟨front, taken, rest, rfl, hdone, rfl⟩ := h
    obtain ⟨rfl, rfl⟩ := List.append_eq_nil_iff.1 hdone.symm
    rfl

/-! ## The search -/

/-- One step of a run that has found nothing yet. -/
theorem run_ofRow_eq {before : Option Char} {arriving : List Thread} {offset : Nat}
    (hpending : Pending raw done (arriving ++ [⟨raw.length, offset⟩])) :
    run (.ofRow raw) offset before arriving none rest =
      let moved := advance (.ofRow raw) ⟨offset, before, rest.head?⟩
        (arriving ++ [⟨raw.length, offset⟩])
      match rest with
      | [] => moved.1
      | c :: rest =>
        if moved.1.isSome && moved.2.isEmpty then moved.1
        else run (.ofRow raw) (offset + c.utf8Size) (some c) moved.2 moved.1 rest := by
  have hstart : (Program.ofRow raw).start = raw.length := rfl
  rw [run.eq_def]
  simp only [Option.isNone_none, if_true]
  rw [hstart, hpending.settle_eq]
  cases rest <;> simp only [Option.orElse_eq_orElse, Option.orElse_eq_or, Option.or_none]

/-- If the text read so far ends with the row for the first time, then running the program gives that
occurrence. -/
theorem run_ofRow_of_suffix {before : Option Char} {arriving : List Thread}
    (hpending : Pending raw done (arriving ++ [⟨raw.length, utf8Len done⟩]))
    (hfirst : ∀ front back, done = front ++ raw ++ back → back = []) (hends : raw <:+ done) :
    run (.ofRow raw) (utf8Len done) before arriving none rest =
      (Text.splitAtFirst? raw (done ++ rest)).map fun parts =>
        (utf8Len parts.1, utf8Len parts.1 + utf8Len raw) := by
  obtain ⟨front, rfl⟩ := hends
  have hsplit : Text.splitAtFirst? raw (front ++ raw ++ rest) = some (front, rest) := by
    apply Text.splitAtFirst?_of_first rfl
    intro front' back' heq
    by_contra hlt
    -- an earlier occurrence would end before the text read so far does
    have hshort : (front' ++ raw).length ≤ (front ++ raw).length := by
      rw [List.length_append, List.length_append]
      omega
    have hearlier : front' ++ raw <+: front ++ raw ++ rest := ⟨back', heq.symm⟩
    obtain ⟨more, hmore⟩ := List.prefix_of_prefix_length_le hearlier (List.prefix_append _ _) hshort
    obtain rfl := hfirst front' more hmore.symm
    rw [List.append_nil] at hmore
    rw [List.append_cancel_right hmore] at hlt
    exact hlt (Nat.le_refl _)
  have hrun : run (.ofRow raw) (utf8Len (front ++ raw)) before arriving none rest =
      some (utf8Len front, utf8Len (front ++ raw)) := by
    rw [run_ofRow_eq hpending, hpending.advance_found]
    cases rest <;> rfl
  rw [hrun, hsplit, String.utf8Len_append]
  rfl

/-- If the whole text does not end with the row, the search ends. -/
theorem run_ofRow_nil {before : Option Char} {arriving : List Thread} {offset : Nat}
    (hpending : Pending raw done (arriving ++ [⟨raw.length, offset⟩])) (hends : ¬ raw <:+ done) :
    run (.ofRow raw) offset before arriving none [] = none := by
  rw [run_ofRow_eq hpending, hpending.advance_none hends]

/-- If the text read so far does not end with the row, the search goes on. -/
theorem run_ofRow_cons {before : Option Char} {arriving : List Thread} {offset : Nat}
    (hpending : Pending raw done (arriving ++ [⟨raw.length, offset⟩])) (hends : ¬ raw <:+ done) :
    run (.ofRow raw) offset before arriving none (c :: rest) =
      run (.ofRow raw) (offset + c.utf8Size) (some c)
        (List.filterMap (Thread.step? (.ofRow raw) (some c)) (arriving ++ [⟨raw.length, offset⟩]))
        none rest := by
  rw [run_ofRow_eq hpending, hpending.advance_none hends]
  rfl

/-- As long as the row has not occurred before, running the program on the rest of the text finds its
first occurrence in the whole. -/
theorem run_ofRow {before : Option Char} {arriving : List Thread}
    (hpending : Pending raw done (arriving ++ [⟨raw.length, utf8Len done⟩]))
    (hfirst : ∀ front back, done = front ++ raw ++ back → back = []) :
    run (.ofRow raw) (utf8Len done) before arriving none rest =
      (Text.splitAtFirst? raw (done ++ rest)).map fun parts =>
        (utf8Len parts.1, utf8Len parts.1 + utf8Len raw) := by
  induction rest generalizing done before arriving with
  | nil =>
      by_cases hends : raw <:+ done
      · exact run_ofRow_of_suffix hpending hfirst hends
      · have hnone : Text.splitAtFirst? raw done = none := by
          rw [Text.splitAtFirst?_eq_none_iff]
          intro hinfix
          obtain ⟨front, back, hdone⟩ := hinfix
          obtain rfl := hfirst front back hdone.symm
          rw [List.append_nil] at hdone
          exact hends ⟨front, hdone⟩
        rw [run_ofRow_nil hpending hends, List.append_nil, hnone]
        rfl
  | cons c rest ih =>
      by_cases hends : raw <:+ done
      · exact run_ofRow_of_suffix hpending hfirst hends
      · have hlength : utf8Len done + c.utf8Size = utf8Len (done ++ [c]) := by
          rw [String.utf8Len_append, String.utf8Len_cons, String.utf8Len_nil, Nat.zero_add]
        have hnext : ∀ front back, done ++ [c] = front ++ raw ++ back → back = [] := by
          intro front back hdone
          rcases List.eq_nil_or_concat back with rfl | ⟨back, d, rfl⟩
          · rfl
          · rw [List.concat_eq_append, ← List.append_assoc] at hdone
            obtain ⟨hfront, -⟩ := List.append_inj' hdone rfl
            obtain rfl := hfirst front back hfront
            rw [List.append_nil] at hfront
            exact absurd ⟨front, hfront.symm⟩ hends
        rw [run_ofRow_cons hpending hends, hlength, ih hpending.concat hnext, List.append_assoc,
          List.singleton_append]

/-- **Searching for a row finds its first occurrence**, and nothing if it does not occur. -/
theorem find?_ofRow (raw : List Char) (text : String) :
    (Program.ofRow raw).find? text =
      (Text.splitAtFirst? raw text.toList).map fun parts =>
        (utf8Len parts.1, utf8Len parts.1 + utf8Len raw) := by
  refine @run_ofRow raw text.toList [] none [] (pending_nil raw) ?_
  intro front back hdone
  exact (List.append_eq_nil_iff.1 hdone.symm).2

/-- Something is found exactly where the row occurs. -/
theorem isSome_find?_ofRow_iff {raw text : String} :
    ((Program.ofRow raw.toList).find? text).isSome ↔ raw.toList <:+: text.toList := by
  rw [find?_ofRow, Option.isSome_map, Option.isSome_iff_ne_none, ne_eq,
    Text.splitAtFirst?_eq_none_iff, not_not]

/-- The only text that is found from one end to the other is the row. -/
theorem find?_ofRow_eq_whole_iff {raw text : String} :
    (Program.ofRow raw.toList).find? text = some (0, text.utf8ByteSize) ↔ text = raw := by
  rw [find?_ofRow, Option.map_eq_some_iff]
  constructor
  · intro hgiven
    obtain ⟨⟨front, back⟩, hsplit, hoffsets⟩ := hgiven
    rw [Prod.mk.injEq] at hoffsets
    obtain ⟨hfront, hlength⟩ := hoffsets
    have htext := Text.splitAtFirst?_eq_some hsplit
    obtain rfl : front = [] := String.utf8Len_eq_zero.1 hfront
    have hback : utf8Len back = 0 := by
      rw [← String.utf8Len_toList, htext] at hlength
      simp only [String.utf8Len_append, String.utf8Len_nil] at hlength
      omega
    rw [String.utf8Len_eq_zero.1 hback, List.append_nil, List.nil_append] at htext
    exact String.toList_injective htext
  · rintro rfl
    refine ⟨([], []), Text.splitAtFirst?_of_first (List.append_nil _).symm ?_, ?_⟩
    · intro front back htext
      exact Nat.zero_le _
    · rw [String.utf8Len_nil, String.utf8Len_toList, Nat.zero_add]

end Regex

end RegexTemplate
