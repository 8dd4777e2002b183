import VcfValidator.Order

/-!
# What `is_valid` promises

`Parser::is_valid` compares the final state with `vcf_first_final` and looks at nothing else.
Two facts of the table, checked once by `decide`, say what that comparison means: a skip state
is entered only by an error action or from a skip state, and the final states 623 and 624 only
by a label that ends a line. With the end-of-input `switch`, which covers every state from 1 to
620, they give one direction: a run that reports no error ends valid, after a newline and a
header line. The other direction does not hold, and not by accident of one row: the skip state of
the body section resumes in the final state 624, so a run ends valid whenever its last line is a
complete header or body line, whatever errors came before.
-/

namespace VcfValidator

open Scanner

set_option autoImplicit false

/-- Whether a label, read in state `cs`, enters a skip state only from a skip state, and a final
state only when it ends a line. A label that starts with an error makes the error's own jump. -/
def Scanner.Tr.settles (cs : Nat) (tr : Tr) : Bool :=
  match tr.actions with
  | .error _ _ :: _ => true
  | actions =>
      (!(landing actions tr.target == 621 || landing actions tr.target == 622) || cs == 621 ||
          cs == 622) &&
        (!(landing actions tr.target == 623 || landing actions tr.target == 624) || tr.endsLine)

set_option maxRecDepth 20000 in
theorem rows_settle :
    rows.toList.enum.all (fun entry => entry.2.labelsAll (Tr.settles entry.1)) = true := by
  decide

theorem label_settles (cs : Nat) (c : UInt8) : (label cs c).settles cs = true := by
  by_cases bound : cs < 627
  · exact label_of_enum rows_settle bound c
  · rw [label_beyond (by omega)]
    simp [Scanner.Tr.settles, go, landing]

section

variable {σ : Type} (P : ParsePolicy σ)

theorem skipState_of {cs : Nat} (skip : cs = 621 ∨ cs = 622) : ∃ sec, cs = skipState sec := by
  rcases skip with rfl | rfl
  · exact ⟨.meta, rfl⟩
  · exact ⟨.body, rfl⟩

/-- What a run so far says of the state it stops in: in a skip state the last call was the error
that led there, and in a final state the last byte read was a newline. A run stopped by an
exception says nothing. -/
def Settled (s : Parser σ) (read : List UInt8) (events : List Event) : Prop :=
  s.thrown = none →
    (s.cs = 621 ∨ s.cs = 622 → ∃ sec message line, events.getLast? = some (.error sec message line)) ∧
    (s.cs = 623 ∨ s.cs = 624 → read.getLast? = some 10)

theorem settled_step (s : Parser σ) (read : List UInt8) (events : List Event)
    (settled : Settled s read events) (c : UInt8) :
    Settled (s.step P c).1 (read ++ [c]) (events ++ (s.step P c).2) := by
  intro alive₁
  have alive : s.thrown = none := by
    cases thrown : s.thrown with
    | none => rfl
    | some _ => simp [Parser.step, thrown] at alive₁
  have newline (ten : c = 10) : (read ++ [c]).getLast? = some 10 := by simp [ten]
  rcases step_error_or_run P s c alive with ⟨sec, message, rest, -, cs, -, events₁⟩ | ⟨clean, same⟩
  · rw [cs, events₁]
    by_cases ten : c = 10
    · rw [if_pos ten]
      exact ⟨fun skip => by cases sec <;> simp [resumeState] at skip, fun _ => newline ten⟩
    · rw [if_neg ten, if_neg ten]
      exact ⟨fun _ => ⟨sec, s.messageText message, s.nLines, by simp⟩,
        fun final => by cases sec <;> simp [skipState] at final⟩
  · have settles := label_settles s.cs c
    unfold Tr.settles at settles
    split at settles
    · next sec message rest failing =>
        exact absurd (failing ▸ List.mem_cons_self _ _) (clean sec message)
    have landed : (s.step P c).1.cs = landing (label s.cs c).actions (label s.cs c).target := by
      rw [same] at alive₁ ⊢
      dsimp only at alive₁ ⊢
      exact runActions_landing P s c (label s.cs c).actions (label s.cs c).target alive₁
    rw [← landed] at settles
    simp only [Bool.and_eq_true, Bool.or_eq_true, Bool.not_eq_true', beq_iff_eq,
      Bool.or_eq_false_iff, beq_eq_false_iff_ne, ne_eq] at settles
    refine ⟨fun skip => ?_, fun final => ?_⟩
    · have skipped : s.cs = 621 ∨ s.cs = 622 := by omega
      obtain ⟨sec, skipping⟩ := skipState_of skipped
      obtain ⟨-, cs₁, events₁⟩ := step_skipState P sec s skipping alive c
      have other : c ≠ 10 := fun ten => by
        rw [cs₁, if_pos ten] at skip
        cases sec <;> simp [resumeState] at skip
      rw [events₁, if_neg other, List.append_nil]
      exact (settled alive).1 skipped
    · have ends : (label s.cs c).endsLine = true := settles.2.resolve_left fun ⟨_, _⟩ => by omega
      exact newline (Classical.byContradiction fun other =>
        Bool.false_ne_true ((label_endsLine other s.cs).symm.trans ends))

theorem settled_run (bytes : List UInt8) (s : Parser σ) (read : List UInt8) (events : List Event)
    (settled : Settled s read events) :
    Settled (s.run P bytes).1 (read ++ bytes) (events ++ (s.run P bytes).2) := by
  induction bytes generalizing s read events with
  | nil => simpa [Parser.run] using settled
  | cons c bytes ih => simpa [Parser.run] using ih _ _ _ (settled_step P s read events settled c)

theorem settled_parse (chunk : List UInt8) (s : Parser σ) (read : List UInt8) (events : List Event)
    (settled : Settled s read events) :
    Settled (s.parse P chunk).1 (read ++ chunk) (events ++ (s.parse P chunk).2) := by
  have ran := settled_run P chunk { s with policy := P.clearRecords s.policy } read events settled
  unfold Parser.parse
  split
  · next thrown => exact fun alive => by simp only at alive; simp [alive] at thrown
  · dsimp only
    split
    · next thrown => exact fun alive => by simp only at alive; simp [alive] at thrown
    · exact ran

theorem settled_parseChunks (chunks : List (List UInt8)) (s : Parser σ) (read : List UInt8)
    (events : List Event) (settled : Settled s read events) :
    Settled (s.parseChunks P chunks).1 (read ++ chunks.flatten)
      (events ++ (s.parseChunks P chunks).2) := by
  induction chunks generalizing s read events with
  | nil => simpa [Parser.parseChunks] using settled
  | cons chunk chunks ih =>
      simpa [Parser.parseChunks] using ih _ _ _ (settled_parse P chunk s read events settled)

/-- In a skip state or a final state `end()` does nothing. -/
theorem finish_final (s : Parser σ) (final : 621 ≤ s.cs) :
    (s.finish P).1.cs = s.cs ∧ (s.finish P).1.thrown = s.thrown ∧ (s.finish P).2 = [] := by
  unfold Parser.finish
  split
  · exact ⟨rfl, rfl, rfl⟩
  · simp [eofActions_final final, runActions_nil]

/-- Anywhere short of a skip state or a final state, `end()` reports exactly one error. -/
theorem finish_error_count (s : Parser σ) (alive : s.thrown = none) (low : 1 ≤ s.cs) :
    (s.finish P).2.countP Event.isError = if 621 ≤ s.cs then 0 else 1 := by
  split
  · next final => simp [(finish_final P s final).2.2]
  · unfold Parser.finish
    rw [if_neg (by simp [alive])]
    rcases eofActions_cases s.cs with empty | ⟨sec, message, rest, failing⟩
    · exact absurd empty (eofActions_ne_nil low (by omega))
    · simp [failing, runActions_error, Event.isError]

/-- Where the input may stop with `end()` reporting nothing: right after the newline of a line
of the body section (the run reached it by `handle_header_line` or a header or body error), or
inside a line whose error was the last call. -/
def CleanStop (read : List UInt8) (events : List Event) : Prop :=
  (read.getLast? = some 10 ∧ (.headerLine ∈ events ∨ ∃ e ∈ events, e.isLateError = true)) ∨
    ∃ sec message line, events.getLast? = some (.error sec message line)

/-- What the state a run of `parse` calls stops in says of the run: it is a state of the table,
and from 621 on the input stopped cleanly. -/
theorem parseChunks_stop (p : σ) (chunks : List (List UInt8)) (s : Parser σ) (events : List Event)
    (ran : (Parser.init p).parseChunks P chunks = (s, events)) (alive : s.thrown = none) :
    1 ≤ s.cs ∧ s.cs ≤ 624 ∧
      (s.cs = 621 ∨ s.cs = 622 → ∃ sec message line, events.getLast? = some (.error sec message line)) ∧
      (623 ≤ s.cs → chunks.flatten.getLast? = some 10 ∧
        (.headerLine ∈ events ∨ ∃ e ∈ events, e.isLateError = true)) := by
  have settled := settled_parseChunks P chunks (Parser.init p) [] []
    fun _ => ⟨fun skip => by simp [Parser.init] at skip, fun final => by simp [Parser.init] at final⟩
  obtain ⟨next, run, ordered⟩ :=
    parseChunks_follow P chunks (Parser.init p) .fileformat (.inr ⟨rfl, by simp [Parser.init, sections]⟩)
  rw [ran] at settled run ordered
  simp only [List.nil_append] at settled run ordered
  rcases ordered with ⟨thrown, -⟩ | ⟨-, member⟩
  · simp [alive] at thrown
  obtain ⟨low, high⟩ := sections_bound member
  obtain ⟨skip, final⟩ := settled alive
  refine ⟨low, high, skip, fun late => ⟨final (by omega), ?_⟩⟩
  have body : next = .body := by
    unfold sections at member
    rw [if_neg (by omega), if_neg (by omega), if_neg (by omega), if_neg (by omega),
      if_neg (by omega), if_pos high] at member
    simpa using member
  subst body
  exact Section.follow_body (by decide) run

/-- `is_valid` after `end()` says that the scanner was in a final state before it, where `end()`
does nothing. -/
theorem finish_isValid (s : Parser σ) (alive : s.thrown = none)
    (valid : (s.finish P).1.isValid = true) : 623 ≤ s.cs ∧ (s.finish P).2 = [] := by
  unfold Parser.finish at valid ⊢
  rw [if_neg (by simp [alive])] at valid ⊢
  rcases eofActions_cases s.cs with empty | ⟨sec, message, rest, failing⟩
  · exact ⟨by simpa [empty, runActions_nil, Parser.isValid] using valid, by simp [empty, runActions_nil]⟩
  · simp only [failing, runActions_error, Parser.isValid] at valid
    cases sec <;> simp [skipState] at valid

theorem finish_alive (s : Parser σ) (completed : (s.finish P).1.thrown = none) : s.thrown = none := by
  cases thrown : s.thrown with
  | none => rfl
  | some _ => simp [Parser.finish, thrown] at completed

end

theorem Event.isError_of_isLateError {e : Event} (late : e.isLateError = true) : e.isError = true := by
  cases e <;> simp_all [Event.isLateError, Event.isError]

/-- A run, in any chunks, that reports no error and lets no exception out ends valid, after a
newline and a header line. Put the other way: after any `parse` calls, `end()` reports exactly one
error, unless the input stopped cleanly, in which case it reports none. -/
theorem quiet_run_is_valid {σ : Type} (P : ParsePolicy σ) (p : σ) :
    (∀ chunks : List (List UInt8),
      (∀ e ∈ ((Parser.init p).validate P chunks).2, e.isError = false) →
      ((Parser.init p).validate P chunks).1.thrown = none →
        ((Parser.init p).validate P chunks).1.isValid = true ∧ chunks.flatten.getLast? = some 10 ∧
          .headerLine ∈ ((Parser.init p).validate P chunks).2) ∧
    (∀ chunks : List (List UInt8), ((Parser.init p).parseChunks P chunks).1.thrown = none →
      (((Parser.init p).parseChunks P chunks).1.finish P).2.countP Event.isError =
          (if 621 ≤ ((Parser.init p).parseChunks P chunks).1.cs then 0 else 1) ∧
        (621 ≤ ((Parser.init p).parseChunks P chunks).1.cs →
          CleanStop chunks.flatten ((Parser.init p).parseChunks P chunks).2)) := by
  refine ⟨fun chunks quiet completed => ?_, fun chunks alive => ?_⟩
  · cases ran : (Parser.init p).parseChunks P chunks with
    | mk s events =>
    simp only [Parser.validate, ran, List.mem_append] at quiet completed ⊢
    have alive := finish_alive P s completed
    obtain ⟨low, -, skip, final⟩ := parseChunks_stop P p chunks s events ran alive
    have count := finish_error_count P s alive low
    rw [List.countP_eq_zero.mpr fun e member => by simp [quiet e (.inr member)]] at count
    have late : 621 ≤ s.cs := Classical.byContradiction fun early => by
      rw [if_neg early] at count
      contradiction
    have settledFinal : 623 ≤ s.cs := Classical.byContradiction fun early => by
      obtain ⟨sec, message, line, last⟩ := skip (by omega)
      simpa [Event.isError] using quiet _ (.inl (List.mem_of_getLast?_eq_some last))
    obtain ⟨ends, header⟩ := final settledFinal
    obtain ⟨same, -, -⟩ := finish_final P s late
    refine ⟨by simpa [Parser.isValid, same] using settledFinal, ends, ?_⟩
    rcases header with member | ⟨e, member, lateError⟩
    · exact .inl member
    · simpa [Event.isError_of_isLateError lateError] using quiet e (.inl member)
  · cases ran : (Parser.init p).parseChunks P chunks with
    | mk s events =>
    rw [ran] at alive
    dsimp only at alive ⊢
    obtain ⟨low, -, skip, final⟩ := parseChunks_stop P p chunks s events ran alive
    refine ⟨finish_error_count P s alive low, fun late => ?_⟩
    by_cases settledFinal : 623 ≤ s.cs
    · exact .inl (final settledFinal)
    · exact .inr (skip (by omega))

set_option maxRecDepth 20000 in
/-- The header line alone is a valid file: the run is quiet, and the theorem applies. -/
theorem header_only_file_is_valid :
    (∀ e ∈ ((Parser.init ()).validate acceptAll
        [bytesOf "##fileformat=VCFv4.1\n#CHROM\tPOS\tID\tREF\tALT\tQUAL\tFILTER\tINFO\n"]).2,
        e.isError = false) ∧
      ((Parser.init ()).validate acceptAll
        [bytesOf "##fileformat=VCFv4.1\n#CHROM\tPOS\tID\tREF\tALT\tQUAL\tFILTER\tINFO\n"]).1.thrown = none ∧
      ((Parser.init ()).validate acceptAll
        [bytesOf "##fileformat=VCFv4.1\n#CHROM\tPOS\tID\tREF\tALT\tQUAL\tFILTER\tINFO\n"]).1.isValid = true := by
  have quiet : (∀ e ∈ ((Parser.init ()).validate acceptAll
        [bytesOf "##fileformat=VCFv4.1\n#CHROM\tPOS\tID\tREF\tALT\tQUAL\tFILTER\tINFO\n"]).2,
        e.isError = false) ∧
      ((Parser.init ()).validate acceptAll
        [bytesOf "##fileformat=VCFv4.1\n#CHROM\tPOS\tID\tREF\tALT\tQUAL\tFILTER\tINFO\n"]).1.thrown = none := by
    decide
  exact ⟨quiet.1, quiet.2, ((quiet_run_is_valid acceptAll ()).1 _ quiet.1 quiet.2).1⟩

/-- What `is_valid` does say of a whole run that lets no exception out: `end()` made no call, the
input ends with a newline, and the run reached the body section. Errors before that are not
excluded. -/
theorem valid_run_reached_body {σ : Type} (P : ParsePolicy σ) (p : σ) (chunks : List (List UInt8))
    (valid : ((Parser.init p).validate P chunks).1.isValid = true)
    (completed : ((Parser.init p).validate P chunks).1.thrown = none) :
    ((Parser.init p).validate P chunks).2 = ((Parser.init p).parseChunks P chunks).2 ∧
      chunks.flatten.getLast? = some 10 ∧
      (.headerLine ∈ ((Parser.init p).validate P chunks).2 ∨
        ∃ e ∈ ((Parser.init p).validate P chunks).2, e.isLateError = true) := by
  cases ran : (Parser.init p).parseChunks P chunks with
  | mk s events =>
  simp only [Parser.validate, ran] at valid completed ⊢
  have alive := finish_alive P s completed
  obtain ⟨settledFinal, quiet⟩ := finish_isValid P s alive valid
  obtain ⟨-, -, -, final⟩ := parseChunks_stop P p chunks s events ran alive
  rw [quiet, List.append_nil]
  exact ⟨rfl, final settledFinal⟩

/-- A header line, then the body line `x`, which the body section rejects. -/
def bodyErrorFile : List (List UInt8) :=
  [bytesOf "##fileformat=VCFv4.1\n#CHROM\tPOS\tID\tREF\tALT\tQUAL\tFILTER\tINFO\nx\n"]

set_option maxRecDepth 20000 in
/-- The run reports the error of `x`, throws nothing, and resumes in the final state 624, where
`end()` leaves it, so it is valid. -/
theorem bodyErrorFile_run :
    ((Parser.init ()).validate acceptAll bodyErrorFile).1.isValid = true ∧
      ((Parser.init ()).validate acceptAll bodyErrorFile).1.thrown = none ∧
      ((Parser.init ()).validate acceptAll bodyErrorFile).2.countP Event.isError = 1 := by
  decide

/-- The run is valid and reports one error. -/
theorem valid_after_body_error :
    ((Parser.init ()).validate acceptAll bodyErrorFile).1.isValid = true ∧
      ((Parser.init ()).validate acceptAll bodyErrorFile).2.countP Event.isError = 1 :=
  ⟨bodyErrorFile_run.1, bodyErrorFile_run.2.2⟩

/-- The same run throws nothing, so it satisfies the hypotheses of `valid_run_reached_body`. -/
theorem body_error_run_reached_body :
    ((Parser.init ()).validate acceptAll bodyErrorFile).1.isValid = true ∧
      ((Parser.init ()).validate acceptAll bodyErrorFile).1.thrown = none ∧
      bodyErrorFile.flatten.getLast? = some 10 :=
  ⟨bodyErrorFile_run.1, bodyErrorFile_run.2.1,
    (valid_run_reached_body acceptAll () _ bodyErrorFile_run.1 bodyErrorFile_run.2.1).2.1⟩

end VcfValidator
