import VcfValidator.Lines

/-!
# The columns of a body line

Every tab of a body line closes a column with `handle_column_end`, whose argument `n_columns`
counts the columns of the line from one. The newline closes the last column only when it is a
sample column, `if (n_columns > 9)` in the end-of-line action, so a line of the eight mandatory
columns never closes its INFO column.

The columns themselves are read by sub-automata that are more permissive than the data model:
the POS and QUAL automata both take a leading `-`.
-/

namespace VcfValidator

open Scanner

set_option autoImplicit false

/-- The column number a `handle_column_end` call closes. -/
def Event.closedColumn : Event → Option Nat
  | .columnEnd n => some n
  | _ => none

/-- The states of a body line: the sub-automata of its columns and the two line starts, not the
skip state 622. -/
def isBodyState (cs : Nat) : Bool := 400 ≤ cs && cs ≤ 620 || cs == 623 || cs == 624

/-- The column a body state reads, by runs of states: `CHROM` 1 to `INFO` 8, with the
reserved-key trie of `INFO` from 432 and the longer `FILTER`, `QUAL` and `ALT` automata above it,
`FORMAT` 9, and 10 for every sample column. -/
def columnOf (cs : Nat) : Nat :=
  if cs ≤ 400 then 1
  else if cs ≤ 403 then 2
  else if cs ≤ 405 then 3
  else if cs ≤ 407 then 4
  else if cs ≤ 409 then 5
  else if cs ≤ 412 then 6
  else if cs ≤ 415 then 7
  else if cs ≤ 418 then 8
  else if cs ≤ 420 then 9
  else if cs ≤ 422 then 10
  else if cs ≤ 427 then 1
  else if cs ≤ 431 then 10
  else if cs ≤ 554 then 8
  else if cs ≤ 556 then 7
  else if cs ≤ 563 then 6
  else if cs ≤ 618 then 5
  else 1

/-- Whether a label of a body state, read on a tab exactly when `tab`, keeps the column count:
an error; or calls only, with one `handle_column_end` on a tab and none on another byte, into a
state of the next column or of the same one; or the end of the line, from the `INFO` column or a
sample column, with no column closed before the end-of-line action. -/
def Scanner.Tr.keepsColumns (cs : Nat) (tab : Bool) (tr : Tr) : Bool :=
  match tr.actions with
  | .error _ _ :: _ => true
  | actions =>
      if tr.endsLine then
        actions == [.tokenEnd, .bodyLine, .newline] && tr.target == 624 &&
          (columnOf cs == 8 || columnOf cs == 10)
      else
        actions.all Action.isCall && actions.count .columnEnd == (if tab then 1 else 0) &&
          isBodyState tr.target && columnOf tr.target == Nat.min (columnOf cs + (if tab then 1 else 0)) 10

/-- Whether the label of `'\n'` fails first or ends the line: no body state reads the newline
into a column. -/
def Scanner.Tr.endsBodyLine (tr : Tr) : Bool :=
  match tr.actions with
  | .error _ _ :: _ => true
  | _ => tr.endsLine

set_option maxRecDepth 20000 in
/-- The rows of the body line, states 400 to 624 but for the skip states, keep the column count
and end the line on `'\n'`. -/
theorem rows_keepColumns :
    (((rows.toList.drop 400).take 225).enumFrom 400).all (fun entry => !isBodyState entry.1 ||
      entry.2.labelsByTab (Tr.keepsColumns entry.1) && (entry.2.pick 10).endsBodyLine) = true := by
  decide

theorem row_keepsColumns {cs : Nat} (body : isBodyState cs = true) :
    (row cs).labelsByTab (Tr.keepsColumns cs) = true ∧ ((row cs).pick 10).endsBodyLine = true := by
  have inside : 400 ≤ cs ∧ cs ≤ 624 := by
    simp only [isBodyState, Bool.or_eq_true, Bool.and_eq_true, decide_eq_true_eq,
      beq_iff_eq] at body
    omega
  have fits := row_of_block rows_keepColumns inside.1 (by omega) (by omega)
  rw [body, Bool.not_true, Bool.false_or, Bool.and_eq_true] at fits
  exact fits

theorem label_keepsColumns {cs : Nat} (body : isBodyState cs = true) (c : UInt8) :
    (label cs c).keepsColumns cs (c == 9) = true :=
  Row.labelsByTab_pick (row_keepsColumns body).1 c

theorem label_newline_endsBodyLine {cs : Nat} (body : isBodyState cs = true) :
    (label cs 10).endsBodyLine = true := by
  rw [label, show charOf 10 = 10 by decide]
  exact (row_keepsColumns body).2

section

variable {σ : Type} (P : ParsePolicy σ)

/-- Calls other than the newline close one column for each `handle_column_end`, numbered on from
`n_columns`. -/
theorem runActions_columns {actions : List Action} (calls : ∀ a ∈ actions, a.isCall = true)
    (noNewline : .newline ∉ actions) (s : Parser σ) (c : UInt8) (target : Nat)
    (alive : s.thrown = none) :
    (s.runActions P c actions target).1.nColumns = s.nColumns + actions.count .columnEnd ∧
      (s.runActions P c actions target).2.1.filterMap Event.closedColumn =
        List.range' s.nColumns (actions.count .columnEnd) := by
  induction actions generalizing s with
  | nil => exact ⟨rfl, rfl⟩
  | cons a actions ih =>
      have call := calls a (List.mem_cons_self a actions)
      have alive₁ := (exec_call P call s c).2.1.trans alive
      have notNewline : a ≠ .newline := fun same => noNewline (same ▸ List.mem_cons_self _ _)
      obtain ⟨columns, closed⟩ := ih (fun b member => calls b (List.mem_cons_of_mem a member))
        (fun member => noNewline (List.mem_cons_of_mem a member)) _ alive₁
      rw [runActions_cons P a (jump_call call) s c actions target alive₁, List.filterMap_append,
        columns, closed, List.count_cons]
      cases a <;> simp [Action.isCall, Parser.exec, Parser.call, Event.closedColumn,
        List.range'_succ, Nat.add_assoc, Nat.add_comm 1] at call notNewline ⊢

/-- Where a body line is after `tabs` tabs with no error: in a state of the line, with one column
more than tabs counted, and in a state of that column. -/
structure ColumnPos (s : Parser σ) (tabs : Nat) : Prop where
  body : isBodyState s.cs = true
  alive : s.thrown = none
  columns : s.nColumns = tabs + 1
  column : columnOf s.cs = Nat.min (tabs + 1) 10

/-- A body line start with the count at 1 is the position before the first tab. -/
theorem columnPos_start {s : Parser σ} (start : s.cs = 623 ∨ s.cs = 624) (alive : s.thrown = none)
    (fresh : s.nColumns = 1) : ColumnPos s 0 := by
  rcases start with same | same <;> exact ⟨by rw [same]; rfl, alive, fresh, by rw [same]; rfl⟩

/-- A byte other than the newline, read in a body state with no error: its label calls handlers
only, with one `handle_column_end` exactly on a tab, into a state of the body line of the next
column or of the same one. -/
theorem label_body_byte {s : Parser σ} (body : isBodyState s.cs = true) (alive : s.thrown = none)
    {c : UInt8} (notNewline : c ≠ 10) (quiet : ∀ e ∈ (s.step P c).2, e.isError = false) :
    (∀ a ∈ (label s.cs c).actions, a.isCall = true) ∧ .newline ∉ (label s.cs c).actions ∧
      (label s.cs c).actions.count .columnEnd = (if c = 9 then 1 else 0) ∧
      isBodyState (label s.cs c).target = true ∧
      columnOf (label s.cs c).target = Nat.min (columnOf s.cs + if c = 9 then 1 else 0) 10 ∧
      s.step P c = ((s.runActions P c (label s.cs c).actions (label s.cs c).target).1,
        (s.runActions P c (label s.cs c).actions (label s.cs c).target).2.1) := by
  rcases step_error_or_run P s c alive with ⟨sec, message, rest, -, -, -, events⟩ |
    ⟨clean, same⟩
  · exact absurd (quiet _ (events ▸ List.mem_cons_self _ _)) (by simp [Event.isError])
  have keeps := label_keepsColumns body c
  unfold Tr.keepsColumns at keeps
  split at keeps
  · next sec message rest failing => exact absurd (failing ▸ List.mem_cons_self _ _) (clean sec message)
  rw [label_endsLine notNewline, if_neg Bool.false_ne_true] at keeps
  simp only [Bool.and_eq_true, List.all_eq_true, beq_iff_eq] at keeps
  obtain ⟨⟨⟨calls, count⟩, body⟩, column⟩ := keeps
  have quietLine := label_endsLine notNewline s.cs
  simp only [Tr.endsLine, List.any_eq_false, Bool.or_eq_true, beq_iff_eq, not_or] at quietLine
  exact ⟨calls, fun member => (quietLine _ member).1.1 rfl, count, body, column, same⟩

/-- A byte other than the newline read with no error keeps the line's position, a tab closing
the column it ends. -/
theorem columnPos_step {s : Parser σ} {tabs : Nat} (pos : ColumnPos s tabs) {c : UInt8}
    (notNewline : c ≠ 10) (quiet : ∀ e ∈ (s.step P c).2, e.isError = false) :
    ColumnPos (s.step P c).1 (tabs + if c = 9 then 1 else 0) ∧
      (s.step P c).2.filterMap Event.closedColumn = if c = 9 then [tabs + 1] else [] := by
  obtain ⟨calls, noNewline, count, body, column, same⟩ :=
    label_body_byte P pos.body pos.alive notNewline quiet
  obtain ⟨-, cs, alive₁, -⟩ := runActions_allCalls P calls (label s.cs c).target s c pos.alive
  obtain ⟨columns, closed⟩ := runActions_columns P calls noNewline s c _ pos.alive
  rw [same]
  rw [pos.column] at column
  refine ⟨⟨by rw [cs]; exact body, alive₁, ?_, ?_⟩, ?_⟩
  · rw [columns, count, pos.columns]
    split <;> rfl
  · rw [cs, column]
    simp only [Nat.min_eq_min]
    split <;> omega
  · rw [closed, count, pos.columns]
    split <;> rfl

/-- The end-of-line action when it neither throws nor reports an error: the last sample column
if `n_columns > 9`, the warning of the check if any, and `handle_body_line`. -/
theorem bodyLine_accepted (s : Parser σ) (done : (s.bodyLine P).1.thrown = none)
    (quiet : ∀ e ∈ (s.bodyLine P).2, e.isError = false) :
    (s.bodyLine P).1.cs = s.cs ∧ (s.bodyLine P).1.nLines = s.nLines ∧
      ∃ message : Option String, (s.bodyLine P).2 =
        (if 9 < s.nColumns then [.columnEnd s.nColumns] else []) ++
          (message.map fun m => Event.warning m s.nLines).toList ++ [.bodyLine] := by
  have last : (s.lastColumn P).1.cs = s.cs ∧ (s.lastColumn P).1.nLines = s.nLines ∧
      (s.lastColumn P).2 = if 9 < s.nColumns then [.columnEnd s.nColumns] else [] := by
    unfold Parser.lastColumn
    split <;> exact ⟨rfl, rfl, rfl⟩
  unfold Parser.bodyLine Parser.checkBodyLine at *
  generalize s.lastColumn P = l at *
  obtain ⟨cs, lines, events⟩ := last
  dsimp only at *
  revert done quiet
  split
  · intro done
    simp at done
  · next bad warning _ =>
      intro _ quiet
      cases failure : (P.handleBodyLine l.1.policy).2 with
      | some message =>
          exact absurd (quiet (.error .body (some message) l.1.nLines) (by simp [failure]))
            (by simp [Event.isError])
      | none =>
          refine ⟨cs, lines, warning, ?_⟩
          simp [failure, events, lines]

/-- The newline of a label that ends a body line: `handle_token_end`, then the end-of-line
action, then the newline, into the line start 624 with the column count back at 1. -/
theorem step_endsBodyLine (s : Parser σ) (alive : s.thrown = none)
    (ends : (label s.cs 10).actions = [.tokenEnd, .bodyLine, .newline])
    (target : (label s.cs 10).target = 624)
    (done : (s.step P 10).1.thrown = none) (quiet : ∀ e ∈ (s.step P 10).2, e.isError = false) :
    (s.step P 10).1.cs = 624 ∧ (s.step P 10).1.nColumns = 1 ∧
      ∃ message : Option String, (s.step P 10).2 =
        .tokenEnd :: ((if 9 < s.nColumns then [.columnEnd s.nColumns] else []) ++
          (message.map fun m => Event.warning m s.nLines).toList ++ [.bodyLine, .newline]) := by
  rcases step_error_or_run P s 10 alive with ⟨sec, message, rest, failing, -⟩ | ⟨-, same⟩
  · rw [ends] at failing
    cases failing
  have first : (s.exec P 10 .tokenEnd).1.thrown = none ∧
      (s.exec P 10 .tokenEnd).1.nColumns = s.nColumns ∧
      (s.exec P 10 .tokenEnd).1.nLines = s.nLines ∧ (s.exec P 10 .tokenEnd).2 = [.tokenEnd] :=
    ⟨alive, rfl, rfl, rfl⟩
  rw [same, ends, target, runActions_cons P .tokenEnd rfl s 10 _ 624 first.1] at done quiet ⊢
  generalize s.exec P 10 .tokenEnd = called at *
  obtain ⟨alive₁, columns₁, lines₁, events₁⟩ := first
  cases thrown : (called.1.bodyLine P).1.thrown with
  | some escape =>
      simp [Parser.runActions, Action.jump, Parser.exec, thrown] at done
  | none =>
      simp only [Parser.runActions, Action.jump, Parser.exec, thrown, Option.isSome_none,
        Bool.false_eq_true, ite_false, events₁, Parser.call] at done quiet ⊢
      obtain ⟨-, lines₂, message, events₂⟩ := bodyLine_accepted P called.1 thrown
        (fun e member => quiet e (by simp [member]))
      refine ⟨trivial, trivial, message, ?_⟩
      simp [events₂, columns₁, lines₁]

/-- The newline of a body line read with no error and no exception: the line has the eight
mandatory columns or at least ten, the end-of-line action closes the last column only in the
second case, and the next body line starts with the count back at 1. -/
theorem columnPos_newline {s : Parser σ} {tabs : Nat} (pos : ColumnPos s tabs)
    (done : (s.step P 10).1.thrown = none) (quiet : ∀ e ∈ (s.step P 10).2, e.isError = false) :
    (tabs = 7 ∨ 9 ≤ tabs) ∧ (s.step P 10).1.cs = 624 ∧ (s.step P 10).1.nColumns = 1 ∧
      ∃ message : Option String, (s.step P 10).2 =
        .tokenEnd :: ((if 9 ≤ tabs then [.columnEnd (tabs + 1)] else []) ++
          (message.map fun m => Event.warning m s.nLines).toList ++ [.bodyLine, .newline]) := by
  rcases step_error_or_run P s 10 pos.alive with ⟨sec, message, rest, -, -, -, events⟩ |
    ⟨clean, -⟩
  · exact absurd (quiet _ (events ▸ List.mem_cons_self _ _)) (by simp [Event.isError])
  have ends := label_newline_endsBodyLine pos.body
  have keeps := label_keepsColumns pos.body 10
  unfold Tr.endsBodyLine at ends
  unfold Tr.keepsColumns at keeps
  split at keeps
  · next sec message rest failing => exact absurd (failing ▸ List.mem_cons_self _ _) (clean sec message)
  split at ends
  · next sec message rest failing => exact absurd (failing ▸ List.mem_cons_self _ _) (clean sec message)
  rw [if_pos ends] at keeps
  simp only [Bool.and_eq_true, beq_iff_eq, Bool.or_eq_true, pos.column, Nat.min_eq_min] at keeps
  obtain ⟨⟨actions, target⟩, column⟩ := keeps
  obtain ⟨cs, columns, message, events⟩ := step_endsBodyLine P s pos.alive actions target done quiet
  refine ⟨by omega, cs, columns, message, ?_⟩
  rw [events, pos.columns]
  simp only [Nat.lt_add_one_iff]

/-- The bytes of a body line before its newline, read with no error, keep its position and
close one column for each tab, in order. -/
theorem columnPos_run {s : Parser σ} {tabs : Nat} (pos : ColumnPos s tabs) (bytes : List UInt8)
    (noNewline : 10 ∉ bytes) (quiet : ∀ e ∈ (s.run P bytes).2, e.isError = false) :
    ColumnPos (s.run P bytes).1 (tabs + bytes.count 9) ∧
      (s.run P bytes).2.filterMap Event.closedColumn = List.range' (tabs + 1) (bytes.count 9) := by
  induction bytes generalizing s tabs with
  | nil => exact ⟨pos, rfl⟩
  | cons c bytes ih =>
      simp only [List.mem_cons, not_or] at noNewline
      simp only [Parser.run, List.mem_append] at quiet
      obtain ⟨pos₁, closed₁⟩ := columnPos_step P pos (Ne.symm noNewline.1)
        (fun e member => quiet e (.inl member))
      obtain ⟨pos₂, closed₂⟩ := ih pos₁ noNewline.2 (fun e member => quiet e (.inr member))
      simp only [Parser.run, List.filterMap_append, closed₁, closed₂, List.count_cons, beq_iff_eq]
      by_cases tab : c = 9
      · simp only [tab, ite_true] at pos₂ ⊢
        exact ⟨(by omega : tabs + 1 + bytes.count 9 = tabs + (bytes.count 9 + 1)) ▸ pos₂, rfl⟩
      · simp only [tab, ite_false, Nat.add_zero] at pos₂ ⊢
        exact ⟨pos₂, rfl⟩

end

set_option maxRecDepth 20000 in
/-- A line of the eight mandatory columns closes only seven: the newline closes the last column
only when it is a sample column, so `handle_column_end` is never called for `INFO`. -/
theorem eight_column_line_leaves_info_open :
    ((Parser.init ()).validate acceptAll [bytesOf
      "##fileformat=VCFv4.1\n#CHROM\tPOS\tID\tREF\tALT\tQUAL\tFILTER\tINFO\n1\t5\t.\tA\tC\t.\t.\t.\n"]).2.filterMap
        Event.closedColumn = [1, 2, 3, 4, 5, 6, 7] := by
  decide

/-- The columns of an accepted body line. Read from a body line start, with the column count at
1, a line with no newline in it that raises no error and lets no exception out up to and
including its newline has the eight mandatory columns or at least ten. Its tabs close columns
1, 2, … in order, and the newline closes the last column too when there are at least ten; all of
them come before the check's warning and `handle_body_line`, which end the line before its
newline. The next line starts in 624 with the count back at 1. -/
theorem accepted_body_line_columns {σ : Type} (P : ParsePolicy σ) (s : Parser σ)
    (start : s.cs = 623 ∨ s.cs = 624) (alive : s.thrown = none) (fresh : s.nColumns = 1)
    (line : List UInt8) (oneLine : 10 ∉ line)
    (done : (s.run P (line ++ [10])).1.thrown = none)
    (quiet : ∀ e ∈ (s.run P (line ++ [10])).2, e.isError = false) :
    (line.count 9 + 1 = 8 ∨ 10 ≤ line.count 9 + 1) ∧
      (s.run P (line ++ [10])).2.filterMap Event.closedColumn =
        List.range' 1 (line.count 9) ++
          (if 10 ≤ line.count 9 + 1 then [line.count 9 + 1] else []) ∧
      (∃ (pre : List Event) (message : Option String), (s.run P (line ++ [10])).2 =
        pre ++ (message.map fun m => Event.warning m s.nLines).toList ++ [.bodyLine, .newline]) ∧
      (s.run P (line ++ [10])).1.cs = 624 ∧ (s.run P (line ++ [10])).1.nColumns = 1 := by
  rw [run_append] at done quiet ⊢
  simp only [List.mem_append] at quiet
  obtain ⟨pos₁, closed₁⟩ := columnPos_run P (columnPos_start start alive fresh) line oneLine
    fun e member => quiet e (.inl member)
  simp only [Parser.run, List.append_nil] at done quiet ⊢
  obtain ⟨shape, cs, columns, message, events⟩ :=
    columnPos_newline P pos₁ done fun e member => quiet e (.inr member)
  have lines : (s.run P line).1.nLines = s.nLines := by
    obtain ⟨grown, bound⟩ := run_lines P s line
    rw [List.count_eq_zero.mpr oneLine] at bound
    omega
  rw [Nat.zero_add] at shape events
  refine ⟨by omega, ?_, ⟨(s.run P line).2 ++ .tokenEnd ::
    (if 9 ≤ line.count 9 then [.columnEnd (line.count 9 + 1)] else []), message, ?_⟩, cs, columns⟩
  · rw [events, List.filterMap_append, closed₁]
    by_cases many : 9 ≤ line.count 9
    · simp [many, Event.closedColumn, show 10 ≤ line.count 9 + 1 by omega]
    · simp [many, Event.closedColumn, show ¬ 10 ≤ line.count 9 + 1 by omega]
  · rw [events, lines]
    simp

set_option maxRecDepth 20000 in
/-- An accepted line of ten columns, read from the first body line start, applies
`accepted_body_line_columns`. -/
theorem ten_column_line_columns :
    ((⟨623, 3, 1, [], (), none⟩ : Parser Unit).run acceptAll
      (bytesOf "1\t5\t.\tA\tC\t.\t.\t.\tGT\t0/1" ++ [10])).2.filterMap Event.closedColumn =
        List.range' 1 10 :=
  ((accepted_body_line_columns acceptAll ⟨623, 3, 1, [], (), none⟩ (.inl rfl) rfl rfl
    (bytesOf "1\t5\t.\tA\tC\t.\t.\t.\tGT\t0/1") (by decide) (by decide) (by decide)).2.1).trans
    (by decide)

set_option maxRecDepth 20000 in
/-- A body line with the position `-5` and the quality `-1` is read with no error and ends with
`handle_body_line`. -/
theorem signed_position_and_quality_accepted :
    ((Parser.init ()).validate acceptAll [bytesOf
      "##fileformat=VCFv4.1\n#CHROM\tPOS\tID\tREF\tALT\tQUAL\tFILTER\tINFO\n1\t-5\t.\tA\tC\t-1\t.\t.\n"]).2.filter
        (fun e => e.isError || e == .bodyLine) =
      [.bodyLine] := by
  decide

end VcfValidator
