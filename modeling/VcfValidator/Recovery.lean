import VcfValidator.Step

/-!
# Error containment and resynchronisation

An error action hands its line to a skip state, which calls nothing until the newline and then
jumps to the start of the meta section (state 20) or of the body section (state 624). So a line
has at most one error, only its newline follows the error, and the line after it starts in the
section's start state. The chunks a caller feeds change none of this: `parse` clears the
records, which the skip states never read, and puts `cs` back after an exception, when the line
has had no error. At the end of input `end()` adds at most one error, and none after a line
that already had its error.
-/

namespace VcfValidator

open Scanner

set_option autoImplicit false

section

variable {σ : Type} (P : ParsePolicy σ)

/-! ### End of input -/

theorem eofGroups_failing :
    eofGroups.all (fun group => match group.2 with
      | .error _ _ :: _ => true
      | _ => false) = true := by decide

theorem eofActions_cases (cs : Nat) :
    eofActions cs = [] ∨ ∃ sec message rest, eofActions cs = .error sec message :: rest := by
  unfold eofActions
  cases found : eofGroups.find? (fun group => cs ∈ group.1) with
  | none => exact .inl rfl
  | some group =>
      have failing := List.all_eq_true.mp eofGroups_failing group (List.mem_of_find?_eq_some found)
      simp only [Option.map_some', Option.getD_some]
      split at failing
      · next sec message rest same => exact .inr ⟨sec, message, rest, same⟩
      · contradiction

/-- The states that have end-of-input actions, one bit each: the cases of the `switch ( cs )`. -/
def eofMask : Nat := (eofGroups.flatMap (·.1)).foldl (fun mask cs => mask ||| 1 <<< cs) 0

set_option maxRecDepth 20000 in
theorem eofMask_full : eofMask ||| 1 = (1 <<< 621) - 1 := by decide

theorem testBit_foldl_or (states : List Nat) (mask i : Nat) :
    (states.foldl (fun mask cs => mask ||| 1 <<< cs) mask).testBit i =
      (mask.testBit i || states.contains i) := by
  induction states generalizing mask with
  | nil => simp
  | cons cs states ih =>
      rw [List.foldl_cons, ih, Nat.testBit_or, Nat.one_shiftLeft, Nat.testBit_two_pow,
        List.contains_cons]
      by_cases same : cs = i
      · simp [same]
      · have other : (i == cs) = false := by simpa using fun back : i = cs => same back.symm
        simp [same, other]

/-- The `switch ( cs )` of the end of input lists exactly the states from 1 to 620. -/
theorem mem_eofStates {cs : Nat} (low : 1 ≤ cs) : cs ∈ eofGroups.flatMap (·.1) ↔ cs ≤ 620 := by
  have bit : (eofMask ||| 1).testBit cs = ((1 <<< 621) - 1).testBit cs := by rw [eofMask_full]
  have one : (1 : Nat).testBit cs = false := by
    rw [← Nat.pow_zero 2, Nat.testBit_two_pow]
    exact decide_eq_false (by omega)
  have low_bits (n : Nat) : ((1 <<< n) - 1).testBit cs = decide (cs < n) := by
    rw [Nat.one_shiftLeft, Nat.testBit_two_pow_sub_one]
  rw [Nat.testBit_or, eofMask, testBit_foldl_or, one, Nat.zero_testBit, Bool.false_or, Bool.or_false,
    low_bits] at bit
  generalize eofGroups.flatMap (·.1) = states at bit ⊢
  simpa [Nat.lt_succ_iff] using bit

theorem eofActions_ne_nil {cs : Nat} (low : 1 ≤ cs) (high : cs ≤ 620) : eofActions cs ≠ [] := by
  obtain ⟨group, member, inGroup⟩ := List.mem_flatMap.mp ((mem_eofStates low).mpr high)
  unfold eofActions
  cases found : eofGroups.find? (fun group => cs ∈ group.1) with
  | none => exact absurd (by simpa using inGroup) (List.find?_eq_none.mp found group member)
  | some picked =>
      have failing := List.all_eq_true.mp eofGroups_failing picked (List.mem_of_find?_eq_some found)
      simp only [Option.map_some', Option.getD_some]
      split at failing <;> simp_all

/-- The skip states and the two final states have no end-of-input action. -/
theorem eofActions_final {cs : Nat} (high : 621 ≤ cs) : eofActions cs = [] := by
  have unlisted : cs ∉ eofGroups.flatMap (·.1) := fun listed =>
    absurd ((mem_eofStates (by omega)).mp listed) (by omega)
  unfold eofActions
  rw [List.find?_eq_none.mpr fun group member inGroup =>
    unlisted (List.mem_flatMap.mpr ⟨group, member, by simpa using inGroup⟩)]
  rfl

theorem eofActions_skipState (sec : Section) : eofActions (skipState sec) = [] :=
  eofActions_final (by cases sec <;> decide)

theorem finish_errors (s : Parser σ) : (s.finish P).2.countP Event.isError ≤ 1 := by
  unfold Parser.finish
  split
  · simp
  · dsimp only
    rcases eofActions_cases s.cs with empty | ⟨sec, message, rest, failing⟩
    · simp [empty, runActions_nil]
    · simp [failing, runActions_error, Event.isError]

theorem finish_skipState (sec : Section) (s : Parser σ) (skipping : s.cs = skipState sec) :
    (s.finish P).2 = [] := by
  unfold Parser.finish
  split
  · rfl
  · simp [skipping, eofActions_skipState, runActions_nil]

/-! ### One line -/

/-- The events of a line read so far: no error yet, or one error, the last event, with the
scanner in the error's skip state. -/
def LineSoFar (s : Parser σ) (events : List Event) : Prop :=
  (∀ e ∈ events, e.isError = false) ∨
    ∃ pre sec message line, (∀ e ∈ pre, e.isError = false) ∧
      events = pre ++ [.error sec message line] ∧ s.cs = skipState sec ∧ s.thrown = none

/-- The events of a line read up to its newline: no error, or one error followed only by the
newline, the scanner back in the start state of the error's section. -/
def LineDone (s : Parser σ) (events : List Event) : Prop :=
  (∀ e ∈ events, e.isError = false) ∨
    ∃ pre sec message line, (∀ e ∈ pre, e.isError = false) ∧
      events = pre ++ [.error sec message line, .newline] ∧ s.cs = resumeState sec ∧
      s.thrown = none

theorem lineSoFar_step {c : UInt8} (other : c ≠ 10) (s : Parser σ) (events : List Event)
    (soFar : LineSoFar s events) : LineSoFar (s.step P c).1 (events ++ (s.step P c).2) := by
  rcases soFar with quiet | ⟨pre, sec, message, line, quietPre, same, skipping, alive⟩
  · rcases step_errors P s c with quiet₁ | ⟨pre₁, sec, message, line, -, quietPre, same, cs, alive⟩ |
      ⟨-, -, -, -, ten, -⟩
    · exact .inl (by simpa [or_imp, forall_and] using ⟨quiet, quiet₁⟩)
    · refine .inr ⟨events ++ pre₁, sec, message, line, ?_, by simp [same], cs, alive⟩
      simpa [or_imp, forall_and] using ⟨quiet, quietPre⟩
    · exact absurd ten other
  · obtain ⟨alive₁, cs, events₁⟩ := step_skipState P sec s skipping alive c
    simp only [other, ite_false] at cs events₁
    exact .inr ⟨pre, sec, message, line, quietPre, by simp [same, events₁], cs, alive₁⟩

theorem lineDone_step (s : Parser σ) (events : List Event) (soFar : LineSoFar s events) :
    LineDone (s.step P 10).1 (events ++ (s.step P 10).2) := by
  rcases soFar with quiet | ⟨pre, sec, message, line, quietPre, same, skipping, alive⟩
  · rcases step_errors P s 10 with quiet₁ | ⟨-, -, -, -, other, -⟩ |
      ⟨pre₁, sec, message, line, -, quietPre, same, cs, alive⟩
    · exact .inl (by simpa [or_imp, forall_and] using ⟨quiet, quiet₁⟩)
    · exact absurd rfl other
    · refine .inr ⟨events ++ pre₁, sec, message, line, ?_, by simp [same], cs, alive⟩
      simpa [or_imp, forall_and] using ⟨quiet, quietPre⟩
  · obtain ⟨alive₁, cs, events₁⟩ := step_skipState P sec s skipping alive 10
    simp only [ite_true] at cs events₁
    exact .inr ⟨pre, sec, message, line, quietPre, by simp [same, events₁], cs, alive₁⟩

theorem lineSoFar_run (bytes : List UInt8) (noNewline : 10 ∉ bytes) (s : Parser σ)
    (events : List Event) (soFar : LineSoFar s events) :
    LineSoFar (s.run P bytes).1 (events ++ (s.run P bytes).2) := by
  induction bytes generalizing s events with
  | nil => simpa [Parser.run] using soFar
  | cons c bytes ih =>
      simp only [List.mem_cons, not_or] at noNewline
      have next := ih noNewline.2 _ _ (lineSoFar_step P (Ne.symm noNewline.1) s events soFar)
      simpa [Parser.run] using next

theorem lineDone_run (bytes : List UInt8) (noNewline : 10 ∉ bytes) (s : Parser σ)
    (events : List Event) (soFar : LineSoFar s events) :
    LineDone (s.run P (bytes ++ [10])).1 (events ++ (s.run P (bytes ++ [10])).2) := by
  induction bytes generalizing s events with
  | nil => simpa [Parser.run] using lineDone_step P s events soFar
  | cons c bytes ih =>
      simp only [List.mem_cons, not_or] at noNewline
      have next := ih noNewline.2 _ _ (lineSoFar_step P (Ne.symm noNewline.1) s events soFar)
      simpa [Parser.run] using next

/-- Both line predicates read only `cs`, and only while no exception is pending. -/
theorem lineSoFar_transfer {s t : Parser σ} {events : List Event} (soFar : LineSoFar s events)
    (thrown : t.thrown = s.thrown) (cs : s.thrown = none → t.cs = s.cs) : LineSoFar t events := by
  rcases soFar with quiet | ⟨pre, sec, message, line, quietPre, same, skipping, alive⟩
  · exact .inl quiet
  · exact .inr ⟨pre, sec, message, line, quietPre, same, by rw [cs alive, skipping], by rw [thrown, alive]⟩

theorem lineDone_transfer {s t : Parser σ} {events : List Event} (done : LineDone s events)
    (thrown : t.thrown = s.thrown) (cs : s.thrown = none → t.cs = s.cs) : LineDone t events := by
  rcases done with quiet | ⟨pre, sec, message, line, quietPre, same, resumed, alive⟩
  · exact .inl quiet
  · exact .inr ⟨pre, sec, message, line, quietPre, same, by rw [cs alive, resumed], by rw [thrown, alive]⟩

/-- `parse` runs the chunk on the parser with its records cleared, and puts `cs` back when an
exception stopped it: neither changes what the line predicates read. -/
theorem parse_transfer (Line : Parser σ → List Event → Prop)
    (transfer : ∀ {s t : Parser σ} {events : List Event}, Line s events → t.thrown = s.thrown →
      (s.thrown = none → t.cs = s.cs) → Line t events)
    (chunk : List UInt8) (s : Parser σ) (events : List Event)
    (read : Line ({ s with policy := P.clearRecords s.policy }.run P chunk).1
      (events ++ ({ s with policy := P.clearRecords s.policy }.run P chunk).2))
    (idle : s.thrown.isSome → Line s events) :
    Line (s.parse P chunk).1 (events ++ (s.parse P chunk).2) := by
  unfold Parser.parse
  split
  · next thrown => simpa using idle thrown
  · dsimp only
    split
    · next thrown =>
        refine transfer read rfl fun alive => ?_
        simp [alive] at thrown
    · exact read

/-- An exception is never pending after an error of the line, whose skip state calls nothing. -/
theorem lineSoFar_thrown {s : Parser σ} {events : List Event} (soFar : LineSoFar s events)
    (thrown : s.thrown.isSome) : LineDone s events := by
  rcases soFar with quiet | ⟨-, -, -, -, -, -, -, alive⟩
  · exact .inl quiet
  · simp [alive] at thrown

theorem lineSoFar_parseChunks (chunks : List (List UInt8)) (noNewline : 10 ∉ chunks.flatten)
    (s : Parser σ) (events : List Event) (soFar : LineSoFar s events) :
    LineSoFar (s.parseChunks P chunks).1 (events ++ (s.parseChunks P chunks).2) := by
  induction chunks generalizing s events with
  | nil => simpa [Parser.parseChunks] using soFar
  | cons chunk chunks ih =>
      simp only [List.flatten, List.mem_append, not_or] at noNewline
      have first := parse_transfer P LineSoFar lineSoFar_transfer chunk s events
        (lineSoFar_run P chunk noNewline.1 _ events (lineSoFar_transfer soFar rfl fun _ => rfl))
        fun _ => soFar
      simpa [Parser.parseChunks] using ih noNewline.2 _ _ first

theorem lineDone_parse_nil (s : Parser σ) (events : List Event) (done : LineDone s events) :
    LineDone (s.parse P []).1 (events ++ (s.parse P []).2) :=
  parse_transfer P LineDone lineDone_transfer [] s events
    (by simpa [Parser.run] using lineDone_transfer done rfl fun _ => rfl) fun _ => done

theorem lineDone_parseChunks_empty (chunks : List (List UInt8)) (empty : chunks.flatten = [])
    (s : Parser σ) (events : List Event) (done : LineDone s events) :
    LineDone (s.parseChunks P chunks).1 (events ++ (s.parseChunks P chunks).2) := by
  induction chunks generalizing s events with
  | nil => simpa [Parser.parseChunks] using done
  | cons chunk chunks ih =>
      simp only [List.flatten, List.append_eq_nil] at empty
      obtain ⟨nothing, empty⟩ := empty
      subst nothing
      simpa [Parser.parseChunks] using ih empty _ _ (lineDone_parse_nil P s events done)

/-- Where the newline of a line read in two pieces lies: at the end of the first, the second
being empty, or at the end of the second. -/
theorem split_newline {first second line : List UInt8} (read : first ++ second = line ++ [10]) :
    second = [] ∧ first = line ++ [10] ∨ ∃ rest, second = rest ++ [10] ∧ first ++ rest = line := by
  rcases List.eq_nil_or_concat second with empty | ⟨rest, x, same⟩
  · subst empty
    exact .inl ⟨rfl, by simpa using read⟩
  · rw [List.concat_eq_append] at same
    subst same
    rw [← List.append_assoc] at read
    obtain ⟨within, ten⟩ := List.append_inj' read rfl
    simp only [List.cons.injEq, and_true] at ten
    exact .inr ⟨rest, by rw [ten], within⟩

theorem lineDone_parseChunks (chunks : List (List UInt8)) (line : List UInt8)
    (noNewline : 10 ∉ line) (read : chunks.flatten = line ++ [10]) (s : Parser σ)
    (events : List Event) (soFar : LineSoFar s events) :
    LineDone (s.parseChunks P chunks).1 (events ++ (s.parseChunks P chunks).2) := by
  induction chunks generalizing s events line with
  | nil => simp at read
  | cons chunk chunks ih =>
      rcases split_newline read with ⟨empty, whole⟩ | ⟨rest, more, within⟩
      · subst whole
        have first := parse_transfer P LineDone lineDone_transfer _ s events
          (lineDone_run P line noNewline _ events (lineSoFar_transfer soFar rfl fun _ => rfl))
          fun thrown => lineSoFar_thrown soFar thrown
        simpa [Parser.parseChunks] using lineDone_parseChunks_empty P chunks empty _ _ first
      · subst within
        simp only [List.mem_append, not_or] at noNewline
        have first := parse_transfer P LineSoFar lineSoFar_transfer chunk s events
          (lineSoFar_run P chunk noNewline.1 _ events (lineSoFar_transfer soFar rfl fun _ => rfl))
          fun _ => soFar
        simpa [Parser.parseChunks] using ih rest noNewline.2 more _ _ first

/-- A line read in three pieces: the end of a buffer already being parsed, whole buffers, and the
start of one more buffer. -/
theorem lineDone_pieces (s : Parser σ) (first : List UInt8) (middle : List (List UInt8))
    (last line : List UInt8) (noNewline : 10 ∉ line)
    (read : first ++ middle.flatten ++ last = line ++ [10]) :
    LineDone (((s.run P first).1.parseChunks P middle).1.parse P last).1
      ((s.run P first).2 ++ ((s.run P first).1.parseChunks P middle).2 ++
        (((s.run P first).1.parseChunks P middle).1.parse P last).2) := by
  rcases split_newline read with ⟨none, front⟩ | ⟨rest, ends, within⟩
  · subst none
    rcases split_newline front with ⟨none, whole⟩ | ⟨rest, ends, within⟩
    · subst whole
      have done := lineDone_run P line noNewline s [] (.inl nofun)
      exact lineDone_parse_nil P _ _ (lineDone_parseChunks_empty P middle none _ _ done)
    · subst within
      simp only [List.mem_append, not_or] at noNewline
      have soFar := lineSoFar_run P first noNewline.1 s [] (.inl nofun)
      exact lineDone_parse_nil P _ _ (lineDone_parseChunks P middle rest noNewline.2 ends _ _ soFar)
  · subst ends within
    simp only [List.mem_append, not_or] at noNewline
    have soFar := lineSoFar_parseChunks P middle noNewline.1.2 _ _
      (lineSoFar_run P first noNewline.1.1 s [] (.inl nofun))
    exact parse_transfer P LineDone lineDone_transfer _ _ _
      (lineDone_run P rest noNewline.2 _ _ (lineSoFar_transfer soFar rfl fun _ => rfl))
      fun thrown => lineSoFar_thrown soFar thrown

theorem lineSoFar_finish (s : Parser σ) (events : List Event) (soFar : LineSoFar s events) :
    (events ++ (s.finish P).2).countP Event.isError ≤ 1 := by
  rcases soFar with quiet | ⟨pre, sec, message, line, quietPre, same, skipping, -⟩
  · rw [List.countP_append, List.countP_eq_zero.mpr (by simpa using quiet)]
    simpa using finish_errors P s
  · rw [finish_skipState P sec s skipping, same]
    simp [List.countP_eq_zero.mpr (by simpa using quietPre), Event.isError]

/-- The unterminated last line, read from the middle of a buffer, then in whole buffers, then to
the end of input. -/
theorem tail_errors (s : Parser σ) (first : List UInt8) (chunks : List (List UInt8))
    (noNewline : 10 ∉ first ++ chunks.flatten) :
    ((s.run P first).2 ++ ((s.run P first).1.validate P chunks).2).countP Event.isError ≤ 1 := by
  simp only [List.mem_append, not_or] at noNewline
  have soFar := lineSoFar_parseChunks P chunks noNewline.2 _ _
    (lineSoFar_run P first noNewline.1 s [] (.inl nofun))
  simpa [Parser.validate] using lineSoFar_finish P _ _ soFar

/-! ### Counting the errors of a run -/

/-- The count of a run so far: at most one error per newline read, and one more while the line
being read has had its error, the scanner then sitting in the error's skip state (or an
exception having stopped it). -/
def Counted (s : Parser σ) (errors newlines : Nat) : Prop :=
  errors ≤ newlines ∨
    (errors ≤ newlines + 1 ∧ (s.thrown.isSome ∨ ∃ sec, s.cs = skipState sec ∧ s.thrown = none))

theorem counted_step (s : Parser σ) (errors newlines : Nat) (counted : Counted s errors newlines)
    (c : UInt8) :
    Counted (s.step P c).1 (errors + (s.step P c).2.countP Event.isError)
      (newlines + if c = 10 then 1 else 0) := by
  cases thrown : s.thrown with
  | some escape =>
      have idle : s.step P c = (s, []) := by simp [Parser.step, thrown]
      rw [idle]
      rcases counted with fewer | ⟨fewer, stuck⟩
      · exact .inl (by simp; omega)
      · exact .inr ⟨by simp; omega, .inl (by simp [thrown])⟩
  | none =>
  rcases counted with fewer | ⟨fewer, (stuck | ⟨sec, skipping, -⟩)⟩
  · rcases step_errors P s c with quiet | ⟨pre, sec, message, line, other, quietPre, same, cs, alive⟩ |
      ⟨pre, sec, message, line, ten, quietPre, same, cs, alive⟩
    · refine .inl ?_
      rw [List.countP_eq_zero.mpr (by simpa using quiet)]
      omega
    · refine .inr ⟨?_, .inr ⟨sec, cs, alive⟩⟩
      rw [same, List.countP_append, List.countP_eq_zero.mpr (by simpa using quietPre)]
      simp [Event.isError]
      omega
    · refine .inl ?_
      rw [same, List.countP_append, List.countP_eq_zero.mpr (by simpa using quietPre)]
      simp [Event.isError, ten]
      omega
  · simp [thrown] at stuck
  · obtain ⟨alive, cs, events⟩ := step_skipState P sec s skipping thrown c
    rw [events]
    by_cases ten : c = 10
    · exact .inl (by simp [ten, Event.isError]; omega)
    · exact .inr ⟨by simp [ten]; omega, .inr ⟨sec, by simp [cs, ten], alive⟩⟩


theorem counted_mono {s : Parser σ} {errors newlines more : Nat}
    (counted : Counted s errors newlines) (le : newlines ≤ more) : Counted s errors more := by
  rcases counted with fewer | ⟨fewer, stuck⟩
  · exact .inl (by omega)
  · exact .inr ⟨by omega, stuck⟩

theorem counted_run (bytes : List UInt8) (s : Parser σ) (errors newlines : Nat)
    (counted : Counted s errors newlines) :
    Counted (s.run P bytes).1 (errors + (s.run P bytes).2.countP Event.isError)
      (newlines + bytes.count 10) := by
  induction bytes generalizing s errors newlines with
  | nil => simpa [Parser.run] using counted
  | cons c bytes ih =>
      have next := ih _ _ _ (counted_step P s errors newlines counted c)
      simp only [Parser.run, List.countP_append, List.count_cons, beq_iff_eq] at next ⊢
      rw [← Nat.add_assoc, ← Nat.add_assoc, Nat.add_right_comm newlines]
      exact next

theorem counted_parse (chunk : List UInt8) (s : Parser σ) (errors newlines : Nat)
    (counted : Counted s errors newlines) :
    Counted (s.parse P chunk).1 (errors + (s.parse P chunk).2.countP Event.isError)
      (newlines + chunk.count 10) := by
  unfold Parser.parse
  split
  · simpa using counted_mono counted (Nat.le_add_right _ _)
  · next alive =>
      have read := counted_run P chunk { s with policy := P.clearRecords s.policy } errors newlines
        counted
      dsimp only
      split
      · next thrown =>
          rcases read with fewer | ⟨fewer, -⟩
          · exact .inl fewer
          · exact .inr ⟨fewer, .inl thrown⟩
      · exact read

theorem counted_parseChunks (chunks : List (List UInt8)) (s : Parser σ) (errors newlines : Nat)
    (counted : Counted s errors newlines) :
    Counted (s.parseChunks P chunks).1 (errors + (s.parseChunks P chunks).2.countP Event.isError)
      (newlines + chunks.flatten.count 10) := by
  induction chunks generalizing s errors newlines with
  | nil => simpa [Parser.parseChunks] using counted
  | cons chunk chunks ih =>
      have next := ih _ _ _ (counted_parse P chunk s errors newlines counted)
      simp only [Parser.parseChunks, List.countP_append, List.flatten, List.count_append] at next ⊢
      simpa only [Nat.add_assoc] using next

theorem counted_finish (s : Parser σ) (errors newlines : Nat) (counted : Counted s errors newlines) :
    errors + (s.finish P).2.countP Event.isError ≤ newlines + 1 := by
  rcases counted with fewer | ⟨fewer, stuck | ⟨sec, skipping, -⟩⟩
  · have := finish_errors P s
    omega
  · have idle : (s.finish P).2 = [] := by simp [Parser.finish, stuck]
    simp [idle]
    omega
  · simp [finish_skipState P sec s skipping]
    omega

/-- Over a whole run, at most one error per line: the lines are the pieces between the newlines,
the last one possibly empty. -/
theorem errors_le_lines (s : Parser σ) (chunks : List (List UInt8)) :
    (s.validate P chunks).2.countP Event.isError ≤ chunks.flatten.count 10 + 1 := by
  have parsed := counted_parseChunks P chunks s 0 0 (.inl (Nat.le_refl 0))
  have ended := counted_finish P _ _ _ parsed
  simp only [Parser.validate, List.countP_append]
  omega

/-- Every line, however the caller cut the input into buffers, has at most one error; only its
newline follows the error, and the scanner then starts the next line in the start state of the
error's section. The unterminated last line has at most one error, counting the end of input.
Over a whole run there are at most as many errors as lines. -/
theorem one_error_per_line :
    (∀ (s : Parser σ) (first : List UInt8) (middle : List (List UInt8)) (last line : List UInt8),
      10 ∉ line → first ++ middle.flatten ++ last = line ++ [10] →
        LineDone (((s.run P first).1.parseChunks P middle).1.parse P last).1
          ((s.run P first).2 ++ ((s.run P first).1.parseChunks P middle).2 ++
            (((s.run P first).1.parseChunks P middle).1.parse P last).2)) ∧
    (∀ (s : Parser σ) (first : List UInt8) (chunks : List (List UInt8)),
      10 ∉ first ++ chunks.flatten →
        ((s.run P first).2 ++ ((s.run P first).1.validate P chunks).2).countP Event.isError ≤ 1) ∧
    (∀ (s : Parser σ) (chunks : List (List UInt8)),
      (s.validate P chunks).2.countP Event.isError ≤ chunks.flatten.count 10 + 1) :=
  ⟨lineDone_pieces P, tail_errors P, errors_le_lines P⟩

end

end VcfValidator
