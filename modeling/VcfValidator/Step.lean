import VcfValidator.Parser
import VcfValidator.Scanner.Labels

/-!
# What one byte does

Facts about `Parser.step` in every state, derived only from what `Labels` checks over the
table: the form of each label, and that only the leaf of `'\n'` makes a newline or ends a line.
The skip states are the one place where two rows are read: they swallow every byte up to the
newline and then resume in the start state of their section.
-/

namespace VcfValidator

open Scanner

set_option autoImplicit false

/-- The `ErrorPolicy` error handlers, as opposed to the warning handler and the `ParsePolicy`. -/
def Event.isError : Event → Bool
  | .error _ _ _ => true
  | _ => false

/-- The state a skip state resumes in after the newline: `{goto st20;}` or `{goto st624;}`. -/
def resumeState : Section → Nat
  | .fileformat => 20
  | .meta => 20
  | .header => 624
  | .body => 624

/-- A byte below 128 compares as itself. -/
theorem charOf_eq {c b : UInt8} (small : b.toNat < 128) : charOf c = b.toNat ↔ c = b := by
  have toNat : c = b ↔ c.toNat = b.toNat :=
    ⟨fun same => by rw [same], fun same => UInt8.eq_of_val_eq (Fin.ext same)⟩
  have bound : c.toNat < 256 := c.val.isLt
  rw [toNat, charOf]
  split <;> omega

theorem charOf_eq_ten (c : UInt8) : charOf c = 10 ↔ c = 10 := @charOf_eq c 10 (by decide)

theorem Scanner.Row.pick_cases (row : Row) (x : Int) :
    row.pick x = row.other ∨ ∃ edge ∈ row.edges, edge.admits x = true ∧ row.pick x = edge.tr := by
  unfold Row.pick
  split
  · next edge found =>
      exact .inr ⟨edge, List.mem_of_find?_eq_some found, by simpa using List.find?_some found, rfl⟩
  · exact .inl rfl

/-- A leaf of one byte: the `case` of a `switch`, or an equality test. -/
theorem Scanner.Row.pick_leaf (b x : Int) (tr other : Tr) (edges : List Edge) :
    (Row.mk (⟨b, b, tr⟩ :: edges) other).pick x = if x = b then tr else (Row.mk edges other).pick x := by
  by_cases same : x = b
  · simp [Row.pick, List.find?, Edge.admits, same]
  · have outside : (decide (b ≤ x) && decide (x ≤ b)) = false := by
      simp only [Bool.and_eq_false_iff, decide_eq_false_iff_not]
      omega
    simp [Row.pick, List.find?, Edge.admits, same, outside]

theorem Scanner.Row.pick_nil (other : Tr) (x : Int) : (Row.mk [] other).pick x = other := rfl

theorem row_mem (cs : Nat) : row cs ∈ rows.toList := by
  unfold row
  rw [List.getD_eq_getElem?_getD]
  cases found : rows.toList[cs]? with
  | none => exact List.mem_cons_self _ _
  | some r => exact List.getElem?_mem found

theorem row_wellFormed (cs : Nat) : (row cs).wellFormed = true :=
  List.all_eq_true.mp rows_wellFormed _ (row_mem cs)

theorem Scanner.Row.labelsAll_pick {p : Tr → Bool} {row : Row} (fits : row.labelsAll p = true)
    (x : Int) : p (row.pick x) = true := by
  simp only [Row.labelsAll, Bool.and_eq_true, List.all_eq_true] at fits
  rcases row.pick_cases x with same | ⟨edge, member, -, same⟩
  · rw [same]
    exact fits.2
  · rw [same]
    exact fits.1 edge member

/-- Whether every label of a row has `p tab`, where `tab` says whether the label reads a tab: a
leaf that admits a tab on a tab, a leaf that admits another byte on another byte, and the final
`goto` on both. -/
def Scanner.Row.labelsByTab (p : Bool → Tr → Bool) (row : Row) : Bool :=
  row.edges.all (fun edge => (!edge.admits 9 || p true edge.tr) &&
      (edge.lo == 9 && edge.hi == 9 || p false edge.tr)) &&
    p true row.other && p false row.other

theorem Scanner.Row.labelsByTab_pick {p : Bool → Tr → Bool} {row : Row}
    (fits : row.labelsByTab p = true) (c : UInt8) : p (c == 9) (row.pick (charOf c)) = true := by
  simp only [Row.labelsByTab, Bool.and_eq_true, List.all_eq_true, Bool.or_eq_true,
    Bool.not_eq_true'] at fits
  have byte : charOf c = 9 ↔ c = 9 := @charOf_eq c 9 (by decide)
  by_cases tab : c = 9
  · rw [beq_iff_eq.mpr tab]
    rcases row.pick_cases (charOf c) with same | ⟨edge, member, admits, same⟩
    · exact same ▸ fits.1.2
    · rw [byte.mpr tab] at admits
      exact same ▸ (fits.1.1 edge member).1.resolve_left (by rw [admits]; decide)
  · rw [beq_eq_false_iff_ne.mpr tab]
    rcases row.pick_cases (charOf c) with same | ⟨edge, member, admits, same⟩
    · exact same ▸ fits.2
    · refine same ▸ (fits.1.1 edge member).2.resolve_left fun ⟨low, high⟩ => tab (byte.mp ?_)
      simp only [Edge.admits, Bool.and_eq_true, decide_eq_true_eq] at admits
      simp only [beq_iff_eq] at low high
      omega

/-- A property checked of every label of the table holds of the label of every state and byte. -/
theorem label_of_rows {p : Tr → Bool} (checked : rows.toList.all (Row.labelsAll p) = true)
    (cs : Nat) (c : UInt8) : p (label cs c) = true :=
  Scanner.Row.labelsAll_pick (List.all_eq_true.mp checked _ (row_mem cs)) (charOf c)

set_option maxRecDepth 4000 in
theorem rows_size : rows.size = 627 := rfl

/-- A property checked of every row of the table, with its state, holds of the row of every
state of the table. -/
theorem row_of_enum {q : Nat × Row → Bool} (checked : rows.toList.enum.all q = true) {cs : Nat}
    (bound : cs < 627) : q (cs, row cs) = true := by
  have inside : cs < rows.toList.length := by rw [Array.length_toList, rows_size]; exact bound
  refine List.all_eq_true.mp checked (cs, row cs) ?_
  rw [List.mk_mem_enum_iff_getElem?, row, List.getD_eq_getElem?_getD,
    List.getElem?_eq_getElem inside]
  rfl

/-- The same for a block of `count` rows from the state `start`: a certificate over one part of
the table walks to that part once, where one row at a time would walk to each row. -/
theorem row_of_block {q : Nat × Row → Bool} {start count : Nat}
    (checked : (((rows.toList.drop start).take count).enumFrom start).all q = true) {cs : Nat}
    (low : start ≤ cs) (high : cs < start + count) (bound : cs < 627) : q (cs, row cs) = true := by
  have inside : cs < rows.toList.length := by rw [Array.length_toList, rows_size]; exact bound
  refine List.all_eq_true.mp checked (cs, row cs) ?_
  rw [List.mk_mem_enumFrom_iff_le_and_getElem?_sub, List.getElem?_take_of_lt (by omega),
    List.getElem?_drop, Nat.add_sub_of_le low, row, List.getD_eq_getElem?_getD,
    List.getElem?_eq_getElem inside]
  exact ⟨low, rfl⟩

/-- Whether the rows from the state `cs` on pass the checks, each given with its state, in
increasing order of the states: a certificate over scattered rows of the table that walks to
them once and compares each state once. -/
def rowsFit : Nat → List Row → List (Nat × (Row → Bool)) → Bool
  | _, _, [] => true
  | _, [], _ :: _ => false
  | cs, row :: rows, (n, check) :: checks =>
      if n = cs then check row && rowsFit (cs + 1) rows checks
      else rowsFit (cs + 1) rows ((n, check) :: checks)

theorem rowsFit_spec {cs : Nat} {rows : List Row} {checks : List (Nat × (Row → Bool))}
    (fits : rowsFit cs rows checks = true) {n : Nat} {check : Row → Bool}
    (member : (n, check) ∈ checks) : cs ≤ n ∧ ∃ row, rows[n - cs]? = some row ∧ check row = true := by
  induction rows generalizing cs checks with
  | nil =>
      cases checks with
      | nil => cases member
      | cons first checks => cases fits
  | cons row rows ih =>
      cases checks with
      | nil => cases member
      | cons first checks =>
          obtain ⟨m, firstCheck⟩ := first
          have later {checks' : List (Nat × (Row → Bool))} (rest : rowsFit (cs + 1) rows checks' = true)
              (member' : (n, check) ∈ checks') :
              cs ≤ n ∧ ∃ row', (row :: rows)[n - cs]? = some row' ∧ check row' = true := by
            obtain ⟨low, r, found, passes⟩ := ih rest member'
            refine ⟨by omega, r, ?_, passes⟩
            rw [show n - cs = n - (cs + 1) + 1 by omega, List.getElem?_cons_succ]
            exact found
          unfold rowsFit at fits
          split at fits
          · next same =>
              rw [Bool.and_eq_true] at fits
              rcases List.mem_cons.mp member with here | rest
              · cases here
                subst same
                exact ⟨Nat.le_refl _, row, by simp, fits.1⟩
              · exact later fits.2 rest
          · exact later fits member

/-- The rows a `rowsFit` certificate from `start` checks pass their checks. -/
theorem row_of_rowsFit {start : Nat} {checks : List (Nat × (Row → Bool))}
    (fits : rowsFit start (rows.toList.drop start) checks = true) {n : Nat} {check : Row → Bool}
    (member : (n, check) ∈ checks) : check (row n) = true := by
  obtain ⟨low, r, found, passes⟩ := rowsFit_spec fits member
  rw [List.getElem?_drop, Nat.add_sub_of_le low] at found
  rw [row, List.getD_eq_getElem?_getD, found]
  exact passes

/-- A property checked of every label of every row, with the row's state, holds of the label of
every state of the table and every byte. -/
theorem label_of_enum {p : Nat → Tr → Bool}
    (checked : rows.toList.enum.all (fun entry => entry.2.labelsAll (p entry.1)) = true)
    {cs : Nat} (bound : cs < 627) (c : UInt8) : p cs (label cs c) = true :=
  Scanner.Row.labelsAll_pick (row_of_enum checked bound) (charOf c)

/-- Past the table, `row` falls back on `st0`, whose only label goes to state 0. -/
theorem label_beyond {cs : Nat} (beyond : 627 ≤ cs) (c : UInt8) : label cs c = go 0 := by
  unfold label row
  rw [List.getD_eq_getElem?_getD,
    List.getElem?_eq_none (by rw [Array.length_toList, rows_size]; omega)]
  rfl

theorem label_wellFormed (cs : Nat) (c : UInt8) : (label cs c).wellFormed = true := by
  have fits := row_wellFormed cs
  simp only [Row.wellFormed, Bool.and_eq_true, List.all_eq_true] at fits
  rcases (row cs).pick_cases (charOf c) with same | ⟨edge, member, -, same⟩
  · rw [label, same]
    exact fits.1.2
  · rw [label, same]
    exact (fits.1.1 edge member).1

theorem label_readsOnce (cs : Nat) (c : UInt8) :
    (label cs c).actions.count .tokenChar ≤ 1 ∧ (label cs c).actions.count .newline ≤ 1 := by
  have reads := label_of_rows rows_readsOnce cs c
  simp only [Tr.readsOnce, Bool.and_eq_true, decide_eq_true_eq] at reads
  exact reads

/-- Only the leaf of `'\n'` makes a newline or ends a line. -/
theorem label_endsLine {c : UInt8} (other : c ≠ 10) (cs : Nat) : (label cs c).endsLine = false := by
  have fits := row_wellFormed cs
  simp only [Row.wellFormed, Bool.and_eq_true, List.all_eq_true, Bool.not_eq_true'] at fits
  rcases (row cs).pick_cases (charOf c) with same | ⟨edge, member, admits, same⟩
  · rw [label, same]
    exact fits.2
  · rw [label, same]
    have leaf := (fits.1.1 edge member).2
    simp only [Bool.or_eq_true, Bool.not_eq_true', Bool.and_eq_true, beq_iff_eq] at leaf
    rcases leaf with quiet | ⟨low, high⟩
    · exact quiet
    · simp only [Edge.admits, Bool.and_eq_true, decide_eq_true_eq, low, high] at admits
      exact absurd ((charOf_eq_ten c).mp (by omega)) other

/-- The state a label's actions end in: the state of the first jump, or the label's target. -/
def landing : List Action → Nat → Nat
  | [], target => target
  | a :: actions, target =>
      match a.jump with
      | some (cs, _) => cs
      | none => landing actions target

section

variable {σ : Type} (P : ParsePolicy σ)

/-- No error, or a single error of `sec` made last. -/
def ErrorLast (sec : Section) (events : List Event) : Prop :=
  (∀ e ∈ events, e.isError = false) ∨
    ∃ pre message line, (∀ e ∈ pre, e.isError = false) ∧ events = pre ++ [.error sec message line]

theorem errorLast_failure (sec : Section) (pre : List Event)
    (quiet : ∀ e ∈ pre, e.isError = false) (failure : Option String) (line : Nat) :
    ErrorLast sec
      (pre ++ (failure.map fun message => Event.error sec (some message) line).toList) := by
  cases failure with
  | none => exact .inl (by simpa using quiet)
  | some message => exact .inr ⟨pre, some message, line, quiet, by simp⟩

theorem exec_call {a : Action} (call : a.isCall = true) (s : Parser σ) (c : UInt8) :
    (s.exec P c a).1.cs = s.cs ∧ (s.exec P c a).1.thrown = s.thrown ∧
      ∃ event, (s.exec P c a).2 = [event] ∧ event.isError = false := by
  cases a <;> simp_all [Action.isCall, Parser.exec, Parser.call, Event.isError]

theorem jump_call {a : Action} (call : a.isCall = true) : a.jump = none := by
  cases a <;> simp_all [Action.isCall, Action.jump]

theorem exec_metaLine (s : Parser σ) (c : UInt8) :
    (s.exec P c .metaLine).1.cs = s.cs ∧ (s.exec P c .metaLine).1.thrown = s.thrown ∧
      ErrorLast .meta (s.exec P c .metaLine).2 :=
  ⟨rfl, rfl, errorLast_failure .meta [.metaLine] (by simp [Event.isError]) _ _⟩

theorem lastColumn_spec (s : Parser σ) :
    (s.lastColumn P).1.cs = s.cs ∧ (s.lastColumn P).1.thrown = s.thrown ∧
      ∀ e ∈ (s.lastColumn P).2, e.isError = false := by
  unfold Parser.lastColumn
  split <;> simp [Parser.call, Event.isError]

theorem checkBodyLine_spec (s : Parser σ) :
    (s.checkBodyLine P).1.cs = s.cs ∧
      (((s.checkBodyLine P).1.thrown = s.thrown ∧ ErrorLast .body (s.checkBodyLine P).2) ∨
        ((s.checkBodyLine P).1.thrown.isSome ∧ (s.checkBodyLine P).2 = [])) := by
  unfold Parser.checkBodyLine
  dsimp only
  split
  · simp
  · next warning _ =>
      refine ⟨rfl, .inl ⟨rfl, ?_⟩⟩
      rw [← List.singleton_append, ← List.append_assoc]
      exact errorLast_failure _ _ (by cases warning <;> simp [Event.isError]) _ _

theorem exec_bodyLine (s : Parser σ) (c : UInt8) :
    (s.exec P c .bodyLine).1.cs = s.cs ∧
      (((s.exec P c .bodyLine).1.thrown = s.thrown ∧ ErrorLast .body (s.exec P c .bodyLine).2) ∨
        ((s.exec P c .bodyLine).1.thrown.isSome ∧
          ∀ e ∈ (s.exec P c .bodyLine).2, e.isError = false)) := by
  obtain ⟨cs₁, thrown₁, quiet₁⟩ := lastColumn_spec P s
  obtain ⟨cs₂, checked⟩ := checkBodyLine_spec P (s.lastColumn P).1
  simp only [Parser.exec, Parser.bodyLine]
  refine ⟨cs₂.trans cs₁, ?_⟩
  rcases checked with ⟨thrown₂, quiet₂ | ⟨pre, message, line, quiet₂, same⟩⟩ | ⟨thrown₂, empty⟩
  · refine .inl ⟨thrown₂.trans thrown₁, .inl ?_⟩
    simp only [List.mem_append]
    rintro e (member | member)
    · exact quiet₁ e member
    · exact quiet₂ e member
  · refine .inl ⟨thrown₂.trans thrown₁, .inr ⟨_ ++ pre, message, line, ?_, by
      rw [same, List.append_assoc]⟩⟩
    simp only [List.mem_append]
    rintro e (member | member)
    · exact quiet₁ e member
    · exact quiet₂ e member
  · exact .inr ⟨thrown₂, by simpa [empty] using quiet₁⟩


/-- The calls `handle_meta_line` makes: the line itself, then the meta error it may raise. -/
theorem metaLine_events (s : Parser σ) {e : Event} (member : e ∈ (s.metaLine P).2) :
    e = .metaLine ∨ ∃ message, e = .error .meta (some message) s.nLines := by
  simp only [Parser.metaLine, List.mem_cons, Option.mem_toList, Option.mem_def,
    Option.map_eq_some'] at member
  rcases member with same | ⟨message, -, same⟩
  · exact .inl same
  · exact .inr ⟨message, same.symm⟩

/-- The calls the end of a body line makes: the last sample column, the warning of the check,
the line itself and the body error it may raise. -/
theorem bodyLine_events (s : Parser σ) {e : Event} (member : e ∈ (s.bodyLine P).2) :
    e = .columnEnd s.nColumns ∨ e = .bodyLine ∨ (∃ message line, e = .warning message line) ∨
      ∃ message line, e = .error .body (some message) line := by
  simp only [Parser.bodyLine, List.mem_append] at member
  rcases member with member | member
  · unfold Parser.lastColumn at member
    split at member <;> simp_all [Parser.call]
  · unfold Parser.checkBodyLine at member
    dsimp only at member
    split at member
    · simp at member
    · simp only [List.mem_append, List.mem_cons, Option.mem_toList, Option.mem_def,
        Option.map_eq_some'] at member
      rcases member with ⟨message, -, same⟩ | same | ⟨message, -, same⟩
      · exact .inr (.inr (.inl ⟨message, _, same.symm⟩))
      · exact .inr (.inl same)
      · exact .inr (.inr (.inr ⟨message, _, same.symm⟩))

theorem runActions_error (s : Parser σ) (c : UInt8) (sec : Section) (message : Message)
    (rest : List Action) (target : Nat) :
    s.runActions P c (.error sec message :: rest) target =
      ({ s with cs := skipState sec }, [.error sec (s.messageText message) s.nLines], true) := by
  simp [Parser.runActions, Parser.exec, Action.jump]

theorem runActions_calls {pre : List Action} (calls : ∀ a ∈ pre, a.isCall = true)
    (rest : List Action) (target : Nat) (s : Parser σ) (c : UInt8) (alive : s.thrown = none) :
    ∃ (s₁ : Parser σ) (events : List Event), s₁.thrown = none ∧
      (∀ e ∈ events, e.isError = false) ∧
      s.runActions P c (pre ++ rest) target =
        ((s₁.runActions P c rest target).1, events ++ (s₁.runActions P c rest target).2.1,
          (s₁.runActions P c rest target).2.2) := by
  induction pre generalizing s with
  | nil => exact ⟨s, [], alive, by simp, by simp⟩
  | cons a pre ih =>
    have call := calls a (List.mem_cons_self a pre)
    obtain ⟨-, thrown_same, event, events_eq, quiet⟩ := exec_call P call s c
    obtain ⟨s₁, events, alive₁, quiet₁, eq⟩ :=
      ih (fun b member => calls b (List.mem_cons_of_mem a member)) (s.exec P c a).1
        (by rw [thrown_same, alive])
    refine ⟨s₁, event :: events, alive₁, ?_, ?_⟩
    · simpa [quiet] using quiet₁
    · simp only [List.cons_append, Parser.runActions, jump_call call, thrown_same, alive,
        Option.isSome_none, Bool.false_eq_true, ite_false, List.append_eq]
      rw [eq, events_eq]
      rfl

theorem runActions_nil (s : Parser σ) (c : UInt8) (target : Nat) :
    s.runActions P c [] target = ({ s with cs := target }, [], false) := rfl

theorem runActions_newline (s : Parser σ) (c : UInt8) (target : Nat) (alive : s.thrown = none) :
    (s.runActions P c [.newline] target).1.cs = target ∧
      (s.runActions P c [.newline] target).1.thrown = none ∧
      (s.runActions P c [.newline] target).2 = ([.newline], false) := by
  simp [Parser.runActions, Parser.exec, Parser.call, Action.jump, alive]

theorem runActions_cons (a : Action) (noJump : a.jump = none) (s : Parser σ) (c : UInt8)
    (rest : List Action) (target : Nat) (alive : (s.exec P c a).1.thrown = none) :
    s.runActions P c (a :: rest) target =
      (((s.exec P c a).1.runActions P c rest target).1,
        (s.exec P c a).2 ++ ((s.exec P c a).1.runActions P c rest target).2.1,
        ((s.exec P c a).1.runActions P c rest target).2.2) := by
  simp only [Parser.runActions, noJump, alive, Option.isSome_none, Bool.false_eq_true, ite_false]

theorem runActions_metaLine (s : Parser σ) (c : UInt8) (target : Nat) (alive : s.thrown = none) :
    let r := s.runActions P c [.metaLine, .newline] target
    r.1.cs = target ∧ r.1.thrown = none ∧ r.2.2 = false ∧
      ∃ events, ErrorLast .meta events ∧ r.2.1 = events ++ [.newline] := by
  obtain ⟨-, thrown_same, last⟩ := exec_metaLine P s c
  have alive₁ := thrown_same.trans alive
  obtain ⟨cs_eq, alive₂, rest⟩ := runActions_newline P (s.exec P c .metaLine).1 c target alive₁
  rw [runActions_cons P .metaLine rfl s c _ target alive₁]
  exact ⟨cs_eq, alive₂, by rw [rest], _, last, by rw [rest]⟩

theorem runActions_bodyLine (s : Parser σ) (c : UInt8) (target : Nat) (alive : s.thrown = none) :
    let r := s.runActions P c [.bodyLine, .newline] target
    r.2.2 = false ∧
      ((r.1.cs = target ∧ r.1.thrown = none ∧
        ∃ events, ErrorLast .body events ∧ r.2.1 = events ++ [.newline]) ∨
      (r.1.thrown.isSome ∧ ∀ e ∈ r.2.1, e.isError = false)) := by
  obtain ⟨-, checked⟩ := exec_bodyLine P s c
  rcases checked with ⟨thrown_same, last⟩ | ⟨thrown, quiet⟩
  · have alive₁ := thrown_same.trans alive
    obtain ⟨cs_eq, alive₂, rest⟩ := runActions_newline P (s.exec P c .bodyLine).1 c target alive₁
    rw [runActions_cons P .bodyLine rfl s c _ target alive₁]
    exact ⟨by rw [rest], .inl ⟨cs_eq, alive₂, _, last, by rw [rest]⟩⟩
  · simp only [Parser.runActions, Action.jump, thrown, ite_true, true_and]
    exact .inr quiet


/-- The `fgoto` a skip state makes after the newline. -/
def resumeAction : Section → Action
  | .fileformat => .gotoMetaSection
  | .meta => .gotoMetaSection
  | .header => .gotoBodySection
  | .body => .gotoBodySection

set_option maxRecDepth 4000 in
theorem row_skipState (sec : Section) :
    row (skipState sec) =
      ⟨[⟨10, 10, ⟨[.newline, resumeAction sec], skipState sec + 4⟩⟩], go (skipState sec)⟩ := by
  cases sec <;> rfl

theorem label_skipState (sec : Section) (c : UInt8) :
    label (skipState sec) c =
      if c = 10 then ⟨[.newline, resumeAction sec], skipState sec + 4⟩ else go (skipState sec) := by
  rw [label, row_skipState, Row.pick_leaf, Row.pick_nil]
  by_cases ten : c = 10
  · subst ten
    simp [(charOf_eq_ten 10).mpr rfl]
  · simp [ten, mt (charOf_eq_ten c).mp ten]

theorem runActions_skipState (sec : Section) (s : Parser σ) (skipping : s.cs = skipState sec)
    (alive : s.thrown = none) (c : UInt8) :
    let r := s.runActions P c (label s.cs c).actions (label s.cs c).target
    r.2.2 = false ∧ r.1.thrown = none ∧
      r.1.cs = (if c = 10 then resumeState sec else skipState sec) ∧
      r.2.1 = (if c = 10 then [.newline] else []) := by
  rw [skipping, label_skipState]
  by_cases ten : c = 10
  · cases sec <;>
      simp [ten, Parser.runActions, Parser.exec, Parser.call, Action.jump, resumeAction,
        resumeState, alive]
  · simp [ten, go, runActions_nil, alive]


theorem runActions_allCalls {actions : List Action} (calls : ∀ a ∈ actions, a.isCall = true)
    (target : Nat) (s : Parser σ) (c : UInt8) (alive : s.thrown = none) :
    let r := s.runActions P c actions target
    r.2.2 = false ∧ r.1.cs = target ∧ r.1.thrown = none ∧ ∀ e ∈ r.2.1, e.isError = false := by
  obtain ⟨s₁, events, alive₁, quiet, same⟩ := runActions_calls P calls [] target s c alive
  rw [List.append_nil] at same
  rw [same]
  exact ⟨rfl, rfl, alive₁, by simpa [runActions_nil] using quiet⟩

theorem step_skipState (sec : Section) (s : Parser σ) (skipping : s.cs = skipState sec)
    (alive : s.thrown = none) (c : UInt8) :
    (s.step P c).1.thrown = none ∧
      (s.step P c).1.cs = (if c = 10 then resumeState sec else skipState sec) ∧
      (s.step P c).2 = (if c = 10 then [.newline] else []) := by
  obtain ⟨again, alive₁, cs₁, events₁⟩ := runActions_skipState P sec s skipping alive c
  simp only [Parser.step, alive, Option.isSome_none, Bool.false_eq_true, ite_false, again]
  exact ⟨alive₁, cs₁, events₁⟩

/-- A skip state swallows the rest of its line silently. -/
theorem run_skipState (sec : Section) (bytes : List UInt8) (noNewline : 10 ∉ bytes) (s : Parser σ)
    (skipping : s.cs = skipState sec) (alive : s.thrown = none) :
    (s.run P bytes).1.cs = skipState sec ∧ (s.run P bytes).1.thrown = none ∧ (s.run P bytes).2 = [] := by
  induction bytes generalizing s with
  | nil => exact ⟨skipping, alive, rfl⟩
  | cons c bytes ih =>
      simp only [List.mem_cons, not_or] at noNewline
      obtain ⟨alive₁, cs, events⟩ := step_skipState P sec s skipping alive c
      rw [if_neg (Ne.symm noNewline.1)] at cs events
      obtain ⟨cs₂, alive₂, events₂⟩ := ih noNewline.2 _ cs alive₁
      simp only [Parser.run, events, events₂, List.append_nil]
      exact ⟨cs₂, alive₂, trivial⟩

/-- Only the end of a body line throws. -/
theorem exec_thrown (s : Parser σ) (c : UInt8) (a : Action) :
    (s.exec P c a).1.thrown = s.thrown ∨ a = .bodyLine := by
  cases a
  case bodyLine => exact .inr rfl
  all_goals exact .inl rfl

theorem runActions_alive (s : Parser σ) (c : UInt8) (actions : List Action) (target : Nat)
    (noBody : .bodyLine ∉ actions) (alive : s.thrown = none) :
    (s.runActions P c actions target).1.thrown = none := by
  induction actions generalizing s with
  | nil => exact alive
  | cons a actions ih =>
      have same : (s.exec P c a).1.thrown = s.thrown :=
        (exec_thrown P s c a).resolve_right fun body => noBody (body ▸ List.mem_cons_self _ _)
      simp only [Parser.runActions]
      split
      · exact same.trans alive
      · rw [if_neg (by simp [same, alive])]
        exact ih _ (fun member => noBody (List.mem_cons_of_mem _ member)) (same.trans alive)

theorem runActions_landing (s : Parser σ) (c : UInt8) (actions : List Action) (target : Nat)
    (alive : (s.runActions P c actions target).1.thrown = none) :
    (s.runActions P c actions target).1.cs = landing actions target := by
  induction actions generalizing s with
  | nil => rfl
  | cons a actions ih =>
      cases jumps : a.jump with
      | some jump => simp [Parser.runActions, jumps, landing]
      | none =>
          simp only [Parser.runActions, jumps, landing] at alive ⊢
          by_cases thrown : (s.exec P c a).1.thrown.isSome
          · simp only [thrown, ite_true] at alive
            simp [alive] at thrown
          · simp only [thrown, Bool.false_eq_true, ite_false] at alive ⊢
            exact ih _ alive

theorem run_append (s : Parser σ) (first rest : List UInt8) :
    s.run P (first ++ rest) =
      (((s.run P first).1.run P rest).1, (s.run P first).2 ++ ((s.run P first).1.run P rest).2) := by
  induction first generalizing s with
  | nil => rfl
  | cons c first ih => simp [Parser.run, ih]

/-- Only an error action makes the byte be read again. -/
theorem runActions_again (s : Parser σ) (c : UInt8) (actions : List Action) (target : Nat)
    (again : (s.runActions P c actions target).2.2 = true) :
    ∃ sec message, .error sec message ∈ actions := by
  induction actions generalizing s with
  | nil => simp [Parser.runActions] at again
  | cons a actions ih =>
      simp only [Parser.runActions] at again
      split at again
      · next jumps =>
          cases a with
          | error sec message => exact ⟨sec, message, List.mem_cons_self _ _⟩
          | _ => simp_all [Action.jump]
      · split at again
        · simp at again
        · obtain ⟨sec, message, member⟩ := ih _ again
          exact ⟨sec, message, List.mem_cons_of_mem _ member⟩

/-- One byte either meets an error first, which is reported alone before the skip state reads
the byte again, or runs a label with no error action in it. -/
theorem step_error_or_run (s : Parser σ) (c : UInt8) (alive : s.thrown = none) :
    (∃ sec message rest, (label s.cs c).actions = .error sec message :: rest ∧
      (s.step P c).1.cs = (if c = 10 then resumeState sec else skipState sec) ∧
      (s.step P c).1.thrown = none ∧
      (s.step P c).2 =
        .error sec (s.messageText message) s.nLines :: (if c = 10 then [.newline] else [])) ∨
    ((∀ sec message, .error sec message ∉ (label s.cs c).actions) ∧
      s.step P c = ((s.runActions P c (label s.cs c).actions (label s.cs c).target).1,
        (s.runActions P c (label s.cs c).actions (label s.cs c).target).2.1)) := by
  rcases Tr.wellFormed_error (label_wellFormed s.cs c) with ⟨sec, message, rest, failing⟩ | clean
  · obtain ⟨-, alive₂, cs₂, events₂⟩ :=
      runActions_skipState P sec { s with cs := skipState sec } rfl alive c
    simp only [Parser.step, alive, Option.isSome_none, Bool.false_eq_true, ite_false]
    rw [failing, runActions_error, if_pos rfl]
    dsimp only at alive₂ cs₂ events₂ ⊢
    exact .inl ⟨sec, message, rest, rfl, cs₂, alive₂, by rw [events₂]; rfl⟩
  · have again : (s.runActions P c (label s.cs c).actions (label s.cs c).target).2.2 = false := by
      cases flag : (s.runActions P c (label s.cs c).actions (label s.cs c).target).2.2 with
      | false => rfl
      | true =>
          obtain ⟨sec, message, member⟩ := runActions_again P _ _ _ _ flag
          exact absurd member (clean sec message)
    refine .inr ⟨clean, ?_⟩
    simp only [Parser.step, alive, Option.isSome_none, Bool.false_eq_true, ite_false]
    rw [if_neg (by rw [again]; decide)]

/-- What reading one byte does to the errors of its line: no error; or one error, made last, by
a handler whose skip state the scanner is now in; or, on a newline, one error followed only by
the newline, after which the scanner is at the start of the error's section. -/
def ByteErrors (c : UInt8) (after : Parser σ) (events : List Event) : Prop :=
  (∀ e ∈ events, e.isError = false) ∨
    (∃ pre sec message line, c ≠ 10 ∧ (∀ e ∈ pre, e.isError = false) ∧
      events = pre ++ [.error sec message line] ∧ after.cs = skipState sec ∧
      after.thrown = none) ∨
    (∃ pre sec message line, c = 10 ∧ (∀ e ∈ pre, e.isError = false) ∧
      events = pre ++ [.error sec message line, .newline] ∧ after.cs = resumeState sec ∧
      after.thrown = none)

theorem byteErrors_lineEnd {c : UInt8} (ten : c = 10) (sec : Section) (after : Parser σ)
    (events last : List Event) (quiet : ∀ e ∈ events, e.isError = false)
    (ends : ErrorLast sec last) (resumed : after.cs = resumeState sec)
    (alive : after.thrown = none) :
    ByteErrors c after (events ++ (last ++ [.newline])) := by
  rcases ends with quiet₁ | ⟨pre, message, line, quiet₁, rfl⟩
  · refine .inl ?_
    simp only [List.mem_append, List.mem_singleton]
    rintro e (member | member | rfl)
    · exact quiet e member
    · exact quiet₁ e member
    · rfl
  · refine .inr (.inr ⟨events ++ pre, sec, message, line, ten, ?_, by simp, resumed, alive⟩)
    simp only [List.mem_append]
    rintro e (member | member)
    · exact quiet e member
    · exact quiet₁ e member

theorem runActions_resume (a : Action) {cs : Nat} (jumps : a.jump = some (cs, false))
    (noEvent : ∀ (s : Parser σ) (c : UInt8), (s.exec P c a).2 = []) (s : Parser σ) (c : UInt8)
    (target : Nat) (alive : s.thrown = none) :
    (s.runActions P c [.newline, a] target).2 = ([.newline], false) := by
  rw [runActions_cons P .newline rfl s c [a] target alive]
  simp only [Parser.runActions, jumps, noEvent, List.append_nil]
  rfl

theorem step_errors (s : Parser σ) (c : UInt8) : ByteErrors c (s.step P c).1 (s.step P c).2 := by
  cases thrown : s.thrown with
  | some escape => simp [Parser.step, thrown, ByteErrors]
  | none =>
  have ten (ends : (label s.cs c).endsLine = true) : c = 10 :=
    Classical.byContradiction fun other => by rw [label_endsLine other] at ends; contradiction
  rcases step_error_or_run P s c thrown with ⟨sec, message, rest, -, cs, alive, events⟩ | ⟨clean, ran⟩
  · rw [events]
    by_cases ten : c = 10
    · rw [if_pos ten] at cs ⊢
      exact .inr (.inr ⟨[], sec, _, s.nLines, ten, by simp, rfl, cs, alive⟩)
    · rw [if_neg ten] at cs ⊢
      exact .inr (.inl ⟨[], sec, _, s.nLines, ten, by simp, rfl, cs, alive⟩)
  rw [ran]
  rcases Tr.wellFormed_cases (label_wellFormed s.cs c) with
    ⟨sec, message, rest, failing⟩ | calls | ⟨pre, same, calls, target⟩ |
      ⟨pre, same, calls, target⟩ | skip | skip
  · exact absurd (failing ▸ List.mem_cons_self _ _) (clean sec message)
  · exact .inl (runActions_allCalls P calls (label s.cs c).target s c thrown).2.2.2
  · have ten := ten (by simp [Tr.endsLine, same])
    obtain ⟨s₁, events, alive₁, quiet, split⟩ :=
      runActions_calls P calls [.metaLine, .newline] (label s.cs c).target s c thrown
    obtain ⟨cs₂, alive₂, -, last, ends, lastEq⟩ :=
      runActions_metaLine P s₁ c (label s.cs c).target alive₁
    rw [same, split, lastEq]
    exact byteErrors_lineEnd ten .meta _ events last quiet ends (cs₂.trans target) alive₂
  · have ten := ten (by simp [Tr.endsLine, same])
    obtain ⟨s₁, events, alive₁, quiet, split⟩ :=
      runActions_calls P calls [.bodyLine, .newline] (label s.cs c).target s c thrown
    obtain ⟨-, ended | ⟨-, quiet₂⟩⟩ := runActions_bodyLine P s₁ c (label s.cs c).target alive₁
    · obtain ⟨cs₂, alive₂, last, ends, lastEq⟩ := ended
      rw [same, split, lastEq]
      exact byteErrors_lineEnd ten .body _ events last quiet ends (cs₂.trans target) alive₂
    · rw [same, split]
      refine .inl ?_
      simp only [List.mem_append]
      rintro e (member | member)
      · exact quiet e member
      · exact quiet₂ e member
  · rw [skip, runActions_resume P .gotoMetaSection rfl (fun _ _ => rfl) s c _ thrown]
    exact .inl (by simp [Event.isError])
  · rw [skip, runActions_resume P .gotoBodySection rfl (fun _ _ => rfl) s c _ thrown]
    exact .inl (by simp [Event.isError])

end

end VcfValidator
