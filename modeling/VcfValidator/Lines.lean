import VcfValidator.Recovery

/-!
# Counting lines

`n_lines` is changed by the newline action alone, which also makes the one call of
`handle_newline`; every diagnostic is stamped with `n_lines` when it is raised. Only a `'\n'`
reaches a label with the newline action, and no label has two. So along any run the line counter
grows by the number of `handle_newline` calls, at most one per `'\n'`, and each diagnostic
carries the number of those calls before it. That every `'\n'` makes one is another matter: the
attribute values of `<...>` meta lines take `'\n'` as a value byte.
-/

namespace VcfValidator

open Scanner

set_option autoImplicit false

section

variable {σ : Type} (P : ParsePolicy σ)

/-- Whether every diagnostic of `events` carries the line counter as it stands when the
diagnostic is raised, the counter starting at `line` and counting the `handle_newline` calls. -/
def stamped : Nat → List Event → Bool
  | _, [] => true
  | line, .newline :: events => stamped (line + 1) events
  | line, .error _ _ stamp :: events => stamp == line && stamped line events
  | line, .warning _ stamp :: events => stamp == line && stamped line events
  | line, _ :: events => stamped line events

theorem stamped_append (line : Nat) (first rest : List Event) :
    stamped line (first ++ rest) =
      (stamped line first && stamped (line + first.count .newline) rest) := by
  induction first generalizing line with
  | nil => simp [stamped]
  | cons e first ih =>
      cases e <;> simp only [List.cons_append, List.append_eq, stamped, ih, List.count_cons, beq_iff_eq,
        reduceCtorEq, ite_true, ite_false, Nat.add_zero, Bool.and_assoc, Nat.add_assoc,
        Nat.add_comm 1]

theorem exec_count_newline (s : Parser σ) (c : UInt8) (a : Action) :
    (s.exec P c a).2.count .newline = if a = .newline then 1 else 0 := by
  cases a
  case metaLine =>
    exact List.count_eq_zero.mpr fun member => by
      rcases metaLine_events P s member with same | ⟨_, same⟩ <;> cases same
  case bodyLine =>
    exact List.count_eq_zero.mpr fun member => by
      rcases bodyLine_events P s member with same | same | ⟨_, _, same⟩ | ⟨_, _, same⟩ <;>
        cases same
  all_goals rfl

theorem bodyLine_nLines (s : Parser σ) : (s.bodyLine P).1.nLines = s.nLines := by
  have last : (s.lastColumn P).1.nLines = s.nLines := by
    unfold Parser.lastColumn
    split <;> rfl
  unfold Parser.bodyLine Parser.checkBodyLine
  dsimp only
  split <;> exact last

theorem exec_nLines (s : Parser σ) (c : UInt8) (a : Action) :
    (s.exec P c a).1.nLines = s.nLines + (s.exec P c a).2.count .newline := by
  rw [exec_count_newline]
  cases a
  case bodyLine => exact bodyLine_nLines P s
  all_goals rfl

theorem runActions_nLines (s : Parser σ) (c : UInt8) (actions : List Action) (target : Nat) :
    (s.runActions P c actions target).1.nLines =
      s.nLines + (s.runActions P c actions target).2.1.count .newline ∧
    (s.runActions P c actions target).2.1.count .newline ≤ actions.count .newline := by
  induction actions generalizing s with
  | nil => simp [Parser.runActions]
  | cons a actions ih =>
      have own := exec_nLines P s c a
      have counted := exec_count_newline P s c a
      have bound : (if a = .newline then 1 else 0) ≤ (a :: actions).count .newline := by
        rw [List.count_cons]
        split <;> simp_all
      simp only [Parser.runActions]
      split
      · exact ⟨own, counted ▸ bound⟩
      · split
        · exact ⟨own, counted ▸ bound⟩
        · obtain ⟨rest, restBound⟩ := ih (s.exec P c a).1
          simp only [List.count_append, List.count_cons, beq_iff_eq] at rest restBound bound ⊢
          constructor <;> omega

theorem step_nLines (s : Parser σ) (c : UInt8) :
    (s.step P c).1.nLines = s.nLines + (s.step P c).2.count .newline := by
  unfold Parser.step
  split
  · simp
  · have first := (runActions_nLines P s c (label s.cs c).actions (label s.cs c).target).1
    generalize s.runActions P c (label s.cs c).actions (label s.cs c).target = r at first ⊢
    dsimp only
    split
    · have second := (runActions_nLines P r.1 c (label r.1.cs c).actions (label r.1.cs c).target).1
      generalize r.1.runActions P c (label r.1.cs c).actions (label r.1.cs c).target = r₂ at second ⊢
      simp only [List.count_append]
      omega
    · exact first

/-- Only a `'\n'` makes a `handle_newline` call, and only one. -/
theorem step_count_newline (s : Parser σ) (c : UInt8) :
    (s.step P c).2.count .newline ≤ if c = 10 then 1 else 0 := by
  cases thrown : s.thrown with
  | some _ => simp [Parser.step, thrown]
  | none =>
      rcases step_error_or_run P s c thrown with ⟨sec, message, rest, -, -, -, events⟩ | ⟨-, same⟩
      · rw [events]
        split <;> simp
      · have bound := (runActions_nLines P s c (label s.cs c).actions (label s.cs c).target).2
        rw [same]
        dsimp only
        by_cases ten : c = 10
        · rw [if_pos ten]
          exact Nat.le_trans bound (label_readsOnce s.cs c).2
        · have quiet := label_endsLine ten s.cs
          simp only [Tr.endsLine, List.any_eq_false, Bool.or_eq_true, beq_iff_eq, not_or] at quiet
          have none : (label s.cs c).actions.count .newline = 0 :=
            List.count_eq_zero.mpr fun member => (quiet _ member).1.1 rfl
          rw [if_neg ten]
          omega

theorem run_lines (s : Parser σ) (bytes : List UInt8) :
    (s.run P bytes).1.nLines = s.nLines + (s.run P bytes).2.count .newline ∧
      (s.run P bytes).2.count .newline ≤ bytes.count 10 := by
  induction bytes generalizing s with
  | nil => simp [Parser.run]
  | cons c bytes ih =>
      have first := step_nLines P s c
      have bound := step_count_newline P s c
      obtain ⟨rest, restBound⟩ := ih (s.step P c).1
      simp only [Parser.run, List.count_append, List.count_cons, beq_iff_eq] at rest restBound ⊢
      by_cases ten : c = 10
      · subst ten
        simp only [ite_true] at bound ⊢
        constructor <;> omega
      · simp only [ten, ite_false] at bound ⊢
        constructor <;> omega

theorem parse_lines (s : Parser σ) (chunk : List UInt8) :
    (s.parse P chunk).1.nLines = s.nLines + (s.parse P chunk).2.count .newline ∧
      (s.parse P chunk).2.count .newline ≤ chunk.count 10 := by
  unfold Parser.parse
  split
  · simp
  · have read := run_lines P { s with policy := P.clearRecords s.policy } chunk
    dsimp only
    split <;> exact read

theorem parseChunks_lines (s : Parser σ) (chunks : List (List UInt8)) :
    (s.parseChunks P chunks).1.nLines = s.nLines + (s.parseChunks P chunks).2.count .newline ∧
      (s.parseChunks P chunks).2.count .newline ≤ chunks.flatten.count 10 := by
  induction chunks generalizing s with
  | nil => simp [Parser.parseChunks]
  | cons chunk chunks ih =>
      obtain ⟨first, bound⟩ := parse_lines P s chunk
      obtain ⟨rest, restBound⟩ := ih (s.parse P chunk).1
      simp only [Parser.parseChunks, List.flatten, List.count_append] at rest restBound ⊢
      constructor <;> omega

theorem finish_lines (s : Parser σ) :
    (s.finish P).1.nLines = s.nLines ∧ (s.finish P).2.count .newline = 0 := by
  unfold Parser.finish
  split
  · simp
  · dsimp only
    rcases eofActions_cases s.cs with empty | ⟨sec, message, rest, failing⟩
    · simp [empty, runActions_nil]
    · simp [failing, runActions_error]

/-- Along a whole run the line counter grows by the number of `handle_newline` calls, and there
is at most one of those per `'\n'` read. -/
theorem validate_lines (s : Parser σ) (chunks : List (List UInt8)) :
    (s.validate P chunks).1.nLines = s.nLines + (s.validate P chunks).2.count .newline ∧
      (s.validate P chunks).2.count .newline ≤ chunks.flatten.count 10 := by
  obtain ⟨parsed, bound⟩ := parseChunks_lines P s chunks
  obtain ⟨ended, none⟩ := finish_lines P (s.parseChunks P chunks).1
  simp only [Parser.validate, List.count_append]
  constructor <;> omega

theorem checkBodyLine_stamped (s : Parser σ) : stamped s.nLines (s.checkBodyLine P).2 = true := by
  unfold Parser.checkBodyLine
  dsimp only
  split
  · rfl
  · next warning _ =>
      cases warning <;> cases (P.handleBodyLine s.policy).2 <;> simp [stamped]

theorem exec_stamped (s : Parser σ) (c : UInt8) (a : Action) :
    stamped s.nLines (s.exec P c a).2 = true := by
  cases a
  case metaLine =>
    simp only [Parser.exec, Parser.metaLine]
    cases (P.handleMetaLine s.policy).2 <;> simp [stamped]
  case bodyLine =>
    have last : (s.lastColumn P).1.nLines = s.nLines ∧ (s.lastColumn P).2.count .newline = 0 ∧
        stamped s.nLines (s.lastColumn P).2 = true := by
      unfold Parser.lastColumn
      split <;> simp [Parser.call, stamped]
    simp only [Parser.exec, Parser.bodyLine, stamped_append, last.1, last.2.1, last.2.2,
      Nat.add_zero, Bool.true_and]
    exact last.1 ▸ checkBodyLine_stamped P (s.lastColumn P).1
  case error => simp [Parser.exec, stamped]
  all_goals rfl

theorem runActions_stamped (s : Parser σ) (c : UInt8) (actions : List Action) (target : Nat) :
    stamped s.nLines (s.runActions P c actions target).2.1 = true := by
  induction actions generalizing s with
  | nil => rfl
  | cons a actions ih =>
      simp only [Parser.runActions]
      split
      · exact exec_stamped P s c a
      · split
        · exact exec_stamped P s c a
        · rw [stamped_append, exec_stamped, ← exec_nLines, ih]
          rfl

theorem step_stamped (s : Parser σ) (c : UInt8) : stamped s.nLines (s.step P c).2 = true := by
  unfold Parser.step
  split
  · rfl
  · have first := runActions_stamped P s c (label s.cs c).actions (label s.cs c).target
    have counted := (runActions_nLines P s c (label s.cs c).actions (label s.cs c).target).1
    generalize s.runActions P c (label s.cs c).actions (label s.cs c).target = r at first counted ⊢
    dsimp only
    split
    · rw [stamped_append, first, ← counted, runActions_stamped]
      rfl
    · exact first

theorem run_stamped (s : Parser σ) (bytes : List UInt8) :
    stamped s.nLines (s.run P bytes).2 = true := by
  induction bytes generalizing s with
  | nil => rfl
  | cons c bytes ih =>
      simp only [Parser.run]
      rw [stamped_append, step_stamped, ← step_nLines, ih]
      rfl

theorem parseChunks_stamped (s : Parser σ) (chunks : List (List UInt8)) :
    stamped s.nLines (s.parseChunks P chunks).2 = true := by
  induction chunks generalizing s with
  | nil => rfl
  | cons chunk chunks ih =>
      have first : stamped s.nLines (s.parse P chunk).2 = true := by
        unfold Parser.parse
        split
        · rfl
        · exact run_stamped P { s with policy := P.clearRecords s.policy } chunk
      simp only [Parser.parseChunks]
      rw [stamped_append, first, ← (parse_lines P s chunk).1, ih]
      rfl

/-- Along a whole run every diagnostic carries the line counter: its initial value and the
number of `handle_newline` calls before the diagnostic. -/
theorem validate_stamped (s : Parser σ) (chunks : List (List UInt8)) :
    stamped s.nLines (s.validate P chunks).2 = true := by
  have ended : stamped (s.parseChunks P chunks).1.nLines ((s.parseChunks P chunks).1.finish P).2 =
      true := by
    unfold Parser.finish
    split
    · rfl
    · exact runActions_stamped P { (s.parseChunks P chunks).1 with
        policy := P.clearRecords (s.parseChunks P chunks).1.policy } 0 _ _
  simp only [Parser.validate]
  rw [stamped_append, parseChunks_stamped, ← (parseChunks_lines P s chunks).1, ended]
  rfl

end

set_option maxRecDepth 20000 in
/-- The `'\n'` inside an attribute value of a `contig` line is a value byte: of the four `'\n'`
of the text only three make a `handle_newline` call, and the error of the fourth line, `x`, is
reported on line 3. The calls kept are the errors and the newlines. -/
theorem contig_value_takes_newline :
    ((Parser.init ()).parse acceptAll (bytesOf "##fileformat=VCFv4.1\n##contig=<ID=1,x=a\nb>\nx\n")).2.filter
        (fun e => e.isError || e == .newline) =
      [.newline, .newline, .error .meta none 3, .newline] := by
  decide

end VcfValidator
