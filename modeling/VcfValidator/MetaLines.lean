import VcfValidator.Lines

/-!
# Recovery inside the meta section

A line of the meta section starts in state 16, right after the fileformat line, or in state 20.
Its `#` leads to state 17, where `#` begins a meta entry and `C` commits the line to the header
line; any other byte is an error. One certificate, checked by `decide` over the rows of the meta
entries and the skip state 621, says that from there every error goes to the fileformat or meta
handler and every label stays in those rows, unless it ends the line, in state 20. So a line that
does not begin with `#C`, once its newline is read as one, leaves the scanner in state 20, where
every well-formed meta line leaves it, with at most one error, of the fileformat or meta handler.
A line that begins with `#C` is read as a header line instead. A second certificate, over the
header line's states 354 to 399 and the skip state 622, says that every error there goes to the
header handler and every label stays in those states unless it ends the line, in the body section:
623 after a header line `handle_header_line` took, 624 after the skip state. So such a line leaves
the scanner in the body section, with at most one error, of the header handler.
-/

namespace VcfValidator

open Scanner

set_option autoImplicit false

/-- The states of a meta line past its first two bytes, and the skip state of the fileformat and
meta handlers. -/
def inMetaLine (cs : Nat) : Bool := (18 ≤ cs && cs ≤ 353 && cs != 20) || cs == 621

/-- Whether a label, read in state `cs` of a meta line, keeps the line in the meta section: an
error goes to the skip state 621, no label ends a body line, a label that ends the line lands in
state 20, and any other lands in a state of a meta line. -/
def Scanner.Tr.keepsMeta (cs : Nat) (tr : Tr) : Bool :=
  !inMetaLine cs ||
    match tr.actions with
    | .error sec _ :: _ => skipState sec == 621
    | actions => !actions.contains .bodyLine &&
        if tr.endsLine then landing actions tr.target == 20 else inMetaLine (landing actions tr.target)

set_option maxRecDepth 20000 in
theorem rows_keepMeta :
    rows.toList.enum.all (fun entry => entry.2.labelsAll (Tr.keepsMeta entry.1)) = true := by
  decide

/-- The states of a header line past its `#C`, and the skip state of the header and body
handlers. -/
def inHeaderLine (cs : Nat) : Bool := (354 ≤ cs && cs ≤ 399) || cs == 622

/-- Whether a label, read in state `cs` of a header line, keeps the line there: an error goes to
the header handler, any other label only calls handlers or is the skip state's newline into the
body section, a label that ends the line lands in the body section, 623 or 624, and any other
lands in a state of the header line. -/
def Scanner.Tr.keepsHeader (cs : Nat) (tr : Tr) : Bool :=
  !inHeaderLine cs ||
    match tr.actions with
    | .error sec _ :: _ => sec == .header
    | actions => (actions.all Action.isCall || actions == [.newline, .gotoBodySection]) &&
        if tr.endsLine then landing actions tr.target == 623 || landing actions tr.target == 624
        else inHeaderLine (landing actions tr.target)

set_option maxRecDepth 20000 in
theorem rows_keepHeader :
    rows.toList.enum.all (fun entry => entry.2.labelsAll (Tr.keepsHeader entry.1)) = true := by
  decide

set_option maxRecDepth 4000 in
theorem row_lineStart : row 16 = ⟨[⟨35, 35, go 17⟩], tr18⟩ ∧ row 20 = ⟨[⟨35, 35, go 17⟩], tr20⟩ :=
  ⟨rfl, rfl⟩

set_option maxRecDepth 4000 in
theorem row_afterHash : row 17 = ⟨[⟨35, 35, go 18⟩, ⟨67, 67, go 354⟩], tr20⟩ := rfl

/-- A label that fails first, in the fileformat or meta handler. -/
def MetaFailure (tr : Tr) : Prop :=
  ∃ sec message rest, tr.actions = .error sec message :: rest ∧ skipState sec = 621

theorem label_lineStart_hash {cs : Nat} (start : cs = 16 ∨ cs = 20) : label cs 35 = go 17 := by
  have byte : charOf 35 = 35 := by decide
  rcases start with rfl | rfl <;> simp only [label, row_lineStart, Row.pick_leaf, byte, ite_true]

theorem label_lineStart {cs : Nat} (start : cs = 16 ∨ cs = 20) (c : UInt8) :
    (c = 35 ∧ label cs c = go 17) ∨ MetaFailure (label cs c) := by
  by_cases hash : c = 35
  · subst hash
    exact .inl ⟨rfl, label_lineStart_hash start⟩
  · have byte : charOf c ≠ 35 := fun same => hash ((@charOf_eq c 35 (by decide)).mp same)
    refine .inr ?_
    rcases start with rfl | rfl <;> simp only [label, row_lineStart, Row.pick_leaf, Row.pick_nil, byte,
      ite_false]
    · exact ⟨.fileformat, _, _, rfl, rfl⟩
    · exact ⟨.meta, _, _, rfl, rfl⟩

theorem label_afterHash {c : UInt8} (notC : c ≠ 67) :
    (c = 35 ∧ label 17 c = go 18) ∨ MetaFailure (label 17 c) := by
  have notC : charOf c ≠ 67 := fun same => notC ((@charOf_eq c 67 (by decide)).mp same)
  by_cases hash : c = 35
  · subst hash
    have byte : charOf 35 = 35 := by decide
    exact .inl ⟨rfl, by simp only [label, row_afterHash, Row.pick_leaf, byte, ite_true]⟩
  · have byte : charOf c ≠ 35 := fun same => hash ((@charOf_eq c 35 (by decide)).mp same)
    have same : label 17 c = tr20 := by
      simp only [label, row_afterHash, Row.pick_leaf, Row.pick_nil, byte, notC, ite_false]
    exact .inr ⟨.meta, .none, [headerColumnsError, headerSectionError], by rw [same]; rfl, rfl⟩

theorem resumeState_of_skipState {sec : Section} (skip : skipState sec = 621) : resumeState sec = 20 := by
  cases sec <;> simp_all [skipState, resumeState]

section

variable {σ : Type} (P : ParsePolicy σ)

/-- A label that fails first in the fileformat or meta handler sends the scanner to the skip
state 621, or on a newline back to state 20. -/
theorem step_metaFailure (s : Parser σ) (c : UInt8) (alive : s.thrown = none)
    (failing : MetaFailure (label s.cs c)) :
    (s.step P c).1.thrown = none ∧ (s.step P c).1.cs = if c = 10 then 20 else 621 := by
  obtain ⟨sec, message, rest, actions, skip⟩ := failing
  rcases step_error_or_run P s c alive with ⟨sec₁, message₁, rest₁, actions₁, cs, alive₁, -⟩ |
    ⟨clean, -⟩
  · rw [actions] at actions₁
    cases actions₁
    exact ⟨alive₁, by rw [cs, resumeState_of_skipState skip, skip]⟩
  · exact absurd (actions ▸ List.mem_cons_self _ _) (clean sec message)

theorem step_go (s : Parser σ) (c : UInt8) (alive : s.thrown = none) {target : Nat}
    (plain : label s.cs c = go target) :
    (s.step P c).1.thrown = none ∧ (s.step P c).1.cs = target ∧ (s.step P c).2 = [] := by
  simp [Parser.step, alive, plain, go, runActions_nil]

theorem step_newline_byte (s : Parser σ) (c : UInt8) (member : .newline ∈ (s.step P c).2) :
    c = 10 :=
  Classical.byContradiction fun other => by
    have bound := step_count_newline P s c
    rw [if_neg other] at bound
    exact absurd (List.count_pos_iff.mpr member) (by omega)

theorem step_inMetaLine (s : Parser σ) (inside : inMetaLine s.cs = true) (alive : s.thrown = none)
    (c : UInt8) :
    (s.step P c).1.thrown = none ∧ (.newline ∈ (s.step P c).2 → (s.step P c).1.cs = 20) ∧
      (c ≠ 10 → inMetaLine (s.step P c).1.cs = true) := by
  have bound : s.cs < 627 := by
    simp only [inMetaLine, Bool.or_eq_true, Bool.and_eq_true, decide_eq_true_eq, beq_iff_eq,
      bne_iff_ne, ne_eq] at inside
    omega
  have keeps := label_of_enum rows_keepMeta bound c
  simp only [Tr.keepsMeta, inside, Bool.not_true, Bool.false_or] at keeps
  split at keeps
  · next sec message rest failing =>
      obtain ⟨alive₁, cs⟩ :=
        step_metaFailure P s c alive ⟨sec, message, rest, failing, by simpa using keeps⟩
      exact ⟨alive₁, fun member => by rw [cs, if_pos (step_newline_byte P s c member)],
        fun other => by rw [cs, if_neg other]; rfl⟩
  · next notFailing =>
      rcases step_error_or_run P s c alive with ⟨sec, message, rest, failing, -⟩ | ⟨-, same⟩
      · exact absurd failing (notFailing sec message rest)
      simp only [Bool.and_eq_true, Bool.not_eq_true', List.contains, List.elem_eq_mem,
        decide_eq_false_iff_not] at keeps
      obtain ⟨noBody, lands⟩ := keeps
      have alive₁ := runActions_alive P s c _ (label s.cs c).target noBody alive
      have landed := runActions_landing P s c _ _ alive₁
      rw [same]
      dsimp only
      by_cases ends : (label s.cs c).endsLine = true
      · rw [if_pos ends, beq_iff_eq] at lands
        exact ⟨alive₁, fun _ => landed.trans lands,
          fun other => absurd ends (by rw [label_endsLine other]; decide)⟩
      · rw [if_neg ends] at lands
        have noNewline : .newline ∉ (label s.cs c).actions := fun member =>
          ends (List.any_eq_true.mpr ⟨_, member, by simp⟩)
        have quiet := (runActions_nLines P s c (label s.cs c).actions (label s.cs c).target).2
        rw [List.count_eq_zero.mpr noNewline] at quiet
        exact ⟨alive₁, fun member => absurd (List.count_pos_iff.mpr member) (by omega),
          fun _ => landed ▸ lands⟩

/-- A byte read in a state of a header line: no exception, every error of the header handler,
a newline only into the body section, and any other byte into a state of the header line. -/
theorem step_inHeaderLine (s : Parser σ) (inside : inHeaderLine s.cs = true) (alive : s.thrown = none)
    (c : UInt8) :
    (s.step P c).1.thrown = none ∧
      (∀ sec message n, .error sec message n ∈ (s.step P c).2 → sec = .header) ∧
      (.newline ∈ (s.step P c).2 → (s.step P c).1.cs = 623 ∨ (s.step P c).1.cs = 624) ∧
      (c ≠ 10 → inHeaderLine (s.step P c).1.cs = true) := by
  have bound : s.cs < 627 := by
    simp only [inHeaderLine, Bool.or_eq_true, Bool.and_eq_true, decide_eq_true_eq,
      beq_iff_eq] at inside
    omega
  have keeps := label_of_enum rows_keepHeader bound c
  simp only [Tr.keepsHeader, inside, Bool.not_true, Bool.false_or] at keeps
  rcases step_error_or_run P s c alive with ⟨sec, message, rest, failing, cs, alive₁, events⟩ |
    ⟨clean, same⟩
  · rw [failing, beq_iff_eq] at keeps
    subst keeps
    refine ⟨alive₁, fun sec₁ message₁ n member => ?_, fun member => ?_, fun other => ?_⟩
    · rw [events] at member
      split at member <;> simp_all
    · rw [events] at member
      split at member
      · next ten => rw [cs, if_pos ten]; exact .inr rfl
      · simp at member
    · rw [cs, if_neg other]
      rfl
  split at keeps
  · next sec message rest failing => exact absurd (failing ▸ List.mem_cons_self _ _) (clean sec message)
  simp only [Bool.and_eq_true, Bool.or_eq_true, List.all_eq_true, beq_iff_eq] at keeps
  obtain ⟨shape, lands⟩ := keeps
  obtain ⟨quiet, noBody⟩ : (∀ e ∈ (s.step P c).2, e.isError = false) ∧
      .bodyLine ∉ (label s.cs c).actions := by
    rw [same]
    rcases shape with calls | skip
    · exact ⟨(runActions_allCalls P calls _ s c alive).2.2.2,
        fun member => absurd (calls _ member) (by decide)⟩
    · rw [skip, runActions_resume P .gotoBodySection rfl (fun _ _ => rfl) s c _ alive]
      exact ⟨by simp [Event.isError], by decide⟩
  have alive₁ := runActions_alive P s c _ (label s.cs c).target noBody alive
  have landed := runActions_landing P s c _ _ alive₁
  refine ⟨by rw [same]; exact alive₁,
    fun sec message n member => absurd (quiet _ member) (by simp [Event.isError]), ?_⟩
  rw [same]
  dsimp only
  by_cases ends : (label s.cs c).endsLine = true
  · rw [if_pos ends, Bool.or_eq_true, beq_iff_eq, beq_iff_eq] at lands
    exact ⟨fun _ => by rw [landed]; exact lands,
      fun other => absurd ends (by rw [label_endsLine other]; decide)⟩
  · rw [if_neg ends] at lands
    have noNewline : .newline ∉ (label s.cs c).actions := fun member =>
      ends (List.any_eq_true.mpr ⟨_, member, by simp⟩)
    have none := (runActions_nLines P s c (label s.cs c).actions (label s.cs c).target).2
    rw [List.count_eq_zero.mpr noNewline] at none
    exact ⟨fun member => absurd (List.count_pos_iff.mpr member) (by omega), fun _ => landed ▸ lands⟩

/-- The bytes of a header line before its newline keep it in the header line's states, with no
exception and no error but the header handler's. -/
theorem headerLine_run (line : List UInt8) (noNewline : 10 ∉ line) (s : Parser σ)
    (inside : inHeaderLine s.cs = true) (alive : s.thrown = none) :
    (s.run P line).1.thrown = none ∧ inHeaderLine (s.run P line).1.cs = true ∧
      ∀ sec message n, .error sec message n ∈ (s.run P line).2 → sec = .header := by
  induction line generalizing s with
  | nil => exact ⟨alive, inside, fun _ _ _ member => absurd member (List.not_mem_nil _)⟩
  | cons c line ih =>
      simp only [List.mem_cons, not_or] at noNewline
      obtain ⟨alive₁, header₁, -, inside₁⟩ := step_inHeaderLine P s inside alive c
      obtain ⟨alive₂, inside₂, header₂⟩ := ih noNewline.2 _ (inside₁ (Ne.symm noNewline.1)) alive₁
      refine ⟨alive₂, inside₂, fun sec message n member => ?_⟩
      rcases List.mem_append.mp member with here | later
      · exact header₁ sec message n here
      · exact header₂ sec message n later

/-- Where a line of the meta section is after the bytes `read`: at its start, after a lone `#`,
or in a state of a meta line. -/
def MetaLinePos (cs : Nat) (read : List UInt8) : Prop :=
  (read = [] ∧ (cs = 16 ∨ cs = 20)) ∨ (read = [35] ∧ cs = 17) ∨ inMetaLine cs = true

theorem metaFailure_pos (s : Parser σ) (read : List UInt8) (alive : s.thrown = none) (c : UInt8)
    (failing : MetaFailure (label s.cs c)) :
    (s.step P c).1.thrown = none ∧ (.newline ∈ (s.step P c).2 → (s.step P c).1.cs = 20) ∧
      (c ≠ 10 → MetaLinePos (s.step P c).1.cs (read ++ [c])) := by
  obtain ⟨alive₁, cs⟩ := step_metaFailure P s c alive failing
  exact ⟨alive₁, fun member => by rw [cs, if_pos (step_newline_byte P s c member)],
    fun other => .inr (.inr (by rw [cs, if_neg other]; rfl))⟩

theorem metaLinePos_step (s : Parser σ) (read : List UInt8) (pos : MetaLinePos s.cs read)
    (alive : s.thrown = none) (c : UInt8) (notHeader : read = [35] → c ≠ 67) :
    (s.step P c).1.thrown = none ∧ (.newline ∈ (s.step P c).2 → (s.step P c).1.cs = 20) ∧
      (c ≠ 10 → MetaLinePos (s.step P c).1.cs (read ++ [c])) := by
  rcases pos with ⟨rfl, start⟩ | ⟨rfl, afterHash⟩ | inside
  · rcases label_lineStart start c with ⟨rfl, plain⟩ | failing
    · obtain ⟨alive₁, cs, -⟩ := step_go P s 35 alive plain
      exact ⟨alive₁, fun member => absurd (step_newline_byte P s 35 member) (by decide),
        fun _ => .inr (.inl ⟨rfl, cs⟩)⟩
    · exact metaFailure_pos P s [] alive c failing
  · rcases label_afterHash (notHeader rfl) with ⟨rfl, plain⟩ | failing
    · obtain ⟨alive₁, cs, -⟩ := step_go P s 35 alive (by rw [afterHash]; exact plain)
      exact ⟨alive₁, fun member => absurd (step_newline_byte P s 35 member) (by decide),
        fun _ => .inr (.inr (by rw [cs]; rfl))⟩
    · exact metaFailure_pos P s [35] alive c (by rw [afterHash]; exact failing)
  · obtain ⟨alive₁, ends, stays⟩ := step_inMetaLine P s inside alive c
    exact ⟨alive₁, ends, fun other => .inr (.inr (stays other))⟩

theorem metaLinePos_run (line : List UInt8) (noNewline : 10 ∉ line) (s : Parser σ)
    (read : List UInt8) (pos : MetaLinePos s.cs read) (alive : s.thrown = none)
    (notHeader : (read ++ line).take 2 ≠ [35, 67]) :
    (s.run P line).1.thrown = none ∧ MetaLinePos (s.run P line).1.cs (read ++ line) := by
  induction line generalizing s read with
  | nil => simpa [Parser.run] using ⟨alive, pos⟩
  | cons c line ih =>
      simp only [List.mem_cons, not_or] at noNewline
      have notC : read = [35] → c ≠ 67 := by
        rintro rfl rfl
        exact notHeader rfl
      obtain ⟨alive₁, -, pos₁⟩ := metaLinePos_step P s read pos alive c notC
      have next := ih noNewline.2 _ (read ++ [c]) (pos₁ (Ne.symm noNewline.1)) alive₁
        (by simpa using notHeader)
      simpa [Parser.run] using next

/-- A line done made at most one error. -/
theorem lineDone_countP {after : Parser σ} {events : List Event} (done : LineDone after events) :
    events.countP Event.isError ≤ 1 := by
  rcases done with quiet | ⟨pre, sec, message, n, quietPre, rfl, -, -⟩
  · simp [List.countP_eq_zero.mpr (by simpa using quiet)]
  · simp [List.countP_eq_zero.mpr (by simpa using quietPre), Event.isError]

/-- A line done in state 20 made its error, if any, in the fileformat or meta handler. -/
theorem lineDone_metaErrors {after : Parser σ} {events : List Event} (done : LineDone after events)
    (resumed : after.cs = 20) :
    ∀ sec message n, .error sec message n ∈ events → sec = .fileformat ∨ sec = .meta := by
  rcases done with quiet | ⟨pre, sec, message, n, quietPre, rfl, cs, -⟩
  · intro sec message n member
    simpa [Event.isError] using quiet _ member
  · intro sec₁ message₁ n₁ member
    simp only [List.mem_append, List.mem_cons, Event.error.injEq, List.not_mem_nil, reduceCtorEq,
      or_false] at member
    rcases member with member | ⟨rfl, -, -⟩
    · simpa [Event.isError] using quietPre _ member
    · rw [resumed] at cs
      cases sec₁
      · exact .inl rfl
      · exact .inr rfl
      all_goals simp [resumeState] at cs

/-- The bytes `#C` from a meta line start lead into the header line, with no call. -/
theorem run_headerStart (s : Parser σ) (start : s.cs = 16 ∨ s.cs = 20) (alive : s.thrown = none) :
    (s.run P [35, 67]).1.cs = 354 ∧ (s.run P [35, 67]).1.thrown = none ∧ (s.run P [35, 67]).2 = [] := by
  obtain ⟨alive₁, cs₁, events₁⟩ := step_go P s 35 alive (label_lineStart_hash start)
  have plain : label (s.step P 35).1.cs 67 = go 354 := by
    rw [cs₁, label, row_afterHash]
    decide
  obtain ⟨alive₂, cs₂, events₂⟩ := step_go P _ 67 alive₁ plain
  simp only [Parser.run, events₁, events₂, List.append_nil]
  exact ⟨cs₂, alive₂, trivial⟩

/-- A line that begins with `#C`, read from a meta line start, is a header line: once its newline
is read as one, the scanner is in the body section, with no exception and no error but the header
handler's. -/
theorem headerLine_resumes (s : Parser σ) (start : s.cs = 16 ∨ s.cs = 20) (alive : s.thrown = none)
    (rest : List UInt8) (noNewline : 10 ∉ rest)
    (counted : .newline ∈ (s.run P (35 :: 67 :: rest ++ [10])).2) :
    (s.run P (35 :: 67 :: rest ++ [10])).1.thrown = none ∧
      ((s.run P (35 :: 67 :: rest ++ [10])).1.cs = 623 ∨
        (s.run P (35 :: 67 :: rest ++ [10])).1.cs = 624) ∧
      ∀ sec message n, .error sec message n ∈ (s.run P (35 :: 67 :: rest ++ [10])).2 →
        sec = .header := by
  obtain ⟨cs₁, alive₁, events₁⟩ := run_headerStart P s start alive
  obtain ⟨alive₂, inside₂, header₂⟩ :=
    headerLine_run P rest noNewline _ (by rw [cs₁]; rfl) alive₁
  obtain ⟨alive₃, header₃, ends₃, -⟩ := step_inHeaderLine P _ inside₂ alive₂ 10
  have split : s.run P (35 :: 67 :: rest ++ [10]) =
      ((((s.run P [35, 67]).1.run P rest).1.step P 10).1,
        ((s.run P [35, 67]).1.run P rest).2 ++ (((s.run P [35, 67]).1.run P rest).1.step P 10).2) := by
    rw [show 35 :: 67 :: rest ++ [10] = [35, 67] ++ (rest ++ [10]) from rfl, run_append, run_append,
      events₁]
    simp [Parser.run]
  have quietLine : .newline ∉ ((s.run P [35, 67]).1.run P rest).2 := by
    have bound := (run_lines P (s.run P [35, 67]).1 rest).2
    rw [List.count_eq_zero.mpr noNewline] at bound
    exact List.count_eq_zero.mp (by omega)
  rw [split, List.mem_append] at counted
  rw [split]
  refine ⟨alive₃, ends₃ (counted.resolve_left quietLine), fun sec message n member => ?_⟩
  rcases List.mem_append.mp member with here | later
  · exact header₂ sec message n here
  · exact header₃ sec message n later

end

/-- A line of the meta section, once its newline is read as one, has made at most one error and
let no exception out. If it does not begin with `#C`, the scanner is in state 20 and the error is
the fileformat or meta handler's; if it does, the line is a header line, the scanner is in the body
section and the error is the header handler's. -/
theorem meta_line_resumes {σ : Type} (P : ParsePolicy σ) (s : Parser σ) (line : List UInt8)
    (start : s.cs = 16 ∨ s.cs = 20) (alive : s.thrown = none) (noNewline : 10 ∉ line)
    (counted : .newline ∈ (s.run P (line ++ [10])).2) :
    (s.run P (line ++ [10])).1.thrown = none ∧
      (s.run P (line ++ [10])).2.countP Event.isError ≤ 1 ∧
      (line.take 2 ≠ [35, 67] → (s.run P (line ++ [10])).1.cs = 20 ∧
        ∀ sec message n, .error sec message n ∈ (s.run P (line ++ [10])).2 →
          sec = .fileformat ∨ sec = .meta) ∧
      (line.take 2 = [35, 67] →
        ((s.run P (line ++ [10])).1.cs = 623 ∨ (s.run P (line ++ [10])).1.cs = 624) ∧
        ∀ sec message n, .error sec message n ∈ (s.run P (line ++ [10])).2 → sec = .header) := by
  have done := lineDone_run P line noNewline s [] (.inl nofun)
  rw [List.nil_append] at done
  by_cases header : line.take 2 = [35, 67]
  · obtain ⟨rest, rfl⟩ : ∃ rest, line = 35 :: 67 :: rest := by
      rcases line with _ | ⟨a, _ | ⟨b, rest⟩⟩
      · cases header
      · cases header
      · simp only [List.take, List.cons.injEq, and_true] at header
        exact ⟨rest, by rw [header.1, header.2]⟩
    obtain ⟨alive₁, cs, sections⟩ := headerLine_resumes P s start alive rest
      (fun member => noNewline (List.mem_cons_of_mem _ (List.mem_cons_of_mem _ member))) counted
    exact ⟨alive₁, lineDone_countP done, fun notHeader => absurd header notHeader,
      fun _ => ⟨cs, sections⟩⟩
  obtain ⟨alive₁, pos⟩ := metaLinePos_run P line noNewline s [] (.inl ⟨rfl, start⟩) alive header
  obtain ⟨alive₂, ends, -⟩ := metaLinePos_step P _ line pos alive₁ 10 (fun _ => by decide)
  have quietLine : .newline ∉ (s.run P line).2 := by
    have bound := (run_lines P s line).2
    rw [List.count_eq_zero.mpr noNewline] at bound
    exact List.count_eq_zero.mp (by omega)
  have split : s.run P (line ++ [10]) =
      (((s.run P line).1.step P 10).1, (s.run P line).2 ++ ((s.run P line).1.step P 10).2) := by
    rw [run_append]
    simp [Parser.run]
  rw [split, List.mem_append] at counted
  have resumed : (s.run P (line ++ [10])).1.cs = 20 := by
    rw [split]
    exact ends (counted.resolve_left quietLine)
  exact ⟨by rw [split]; exact alive₂, lineDone_countP done,
    fun _ => ⟨resumed, lineDone_metaErrors done resumed⟩, fun same => absurd same header⟩

set_option maxRecDepth 20000 in
/-- The malformed `##INFO=<x`, read where the fileformat line leaves the scanner, meets the
hypotheses of `meta_line_resumes`. -/
theorem info_line_resumes :
    .newline ∈ ((⟨16, 2, 1, [], (), none⟩ : Parser Unit).run acceptAll (bytesOf "##INFO=<x" ++ [10])).2 ∧
      ((⟨16, 2, 1, [], (), none⟩ : Parser Unit).run acceptAll (bytesOf "##INFO=<x" ++ [10])).1.cs = 20 := by
  have counted : .newline ∈ ((⟨16, 2, 1, [], (), none⟩ : Parser Unit).run acceptAll (bytesOf "##INFO=<x" ++ [10])).2 := by
    decide
  exact ⟨counted, ((meta_line_resumes acceptAll ⟨16, 2, 1, [], (), none⟩ (bytesOf "##INFO=<x")
    (.inl rfl) rfl (by decide) counted).2.2.1 (by decide)).1⟩

set_option maxRecDepth 20000 in
/-- The line `#Comment` begins like the header line: its error goes to the header handler, the
scanner resumes in the body section, and the header line after it is a body error. -/
theorem comment_line_leaves_meta :
    ((Parser.init ()).validate acceptAll [bytesOf "##fileformat=VCFv4.1\n#Comment\n#CHROM\tPOS\tID\tREF\tALT\tQUAL\tFILTER\tINFO\n"]).2.filter Event.isError =
        [.error .header (some "The header line does not start with the mandatory columns: CHROM, POS, ID, REF, ALT, QUAL, FILTER and INFO") 2,
          .error .body (some "Chromosome is not a string without colons or whitespaces, optionally wrapped with angle brackets (<>)") 3] ∧
      .headerLine ∉ ((Parser.init ()).validate acceptAll [bytesOf "##fileformat=VCFv4.1\n#Comment\n#CHROM\tPOS\tID\tREF\tALT\tQUAL\tFILTER\tINFO\n"]).2 := by
  decide

end VcfValidator
