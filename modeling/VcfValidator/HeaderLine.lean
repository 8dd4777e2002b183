import VcfValidator.Order
import VcfValidator.MetaLines

/-!
# Sample names and the header line

State 399 calls `handle_sample_name` on the tab or the newline that ends a sample column, before
the rest of the line has been read. So the header line is not all or nothing: a line that fails
after its first sample column has already handed over the names before the failure. What the
section order does give is that sample names come only inside the header line, followed by
tokens and further sample names up to `handle_header_line` or a header error, and never after it.

Inside one header line a certificate over its states 354 to 399 counts: every tab up to the one
after `FORMAT` closes a column, every later tab makes the name of the column it closes, and the
newline makes the name of the last one. So a header line that `handle_header_line` accepts has
made one sample name for each column past the ninth, each as soon as the column is read.
-/

namespace VcfValidator

open Scanner

set_option autoImplicit false

/-- What keeps a header line going: tokens and sample names. -/
theorem Scanner.Section.header_stays {x : Event} (stay : Section.header.next x = some .header) :
    x = .sampleName ∨ x = .tokenBegin ∨ x = .tokenEnd ∨ ∃ c, x = .tokenChar c := by
  cases x
  case error sec _ _ => cases sec <;> simp [Section.next] at stay
  all_goals simp_all [Section.next]

/-- The first state of each column from `POS` to `FORMAT`: where the tabs of the header line lead
before the samples begin. -/
def columnStarts : List Nat := [359, 363, 366, 370, 374, 379, 386, 391]

/-- How many more tabs than sample names the header line has read in state `cs`: one for each
column closed before the samples, and nine in the sample states 398 and 399. -/
def tabsAhead (cs : Nat) : Nat :=
  if 398 ≤ cs then 9 else (columnStarts.filter fun start => start ≤ cs).length

theorem tabsAhead_early {cs : Nat} (early : cs < 398) : tabsAhead cs ≤ 8 := by
  rw [tabsAhead, if_neg (by omega)]
  exact List.length_filter_le _ columnStarts

theorem tabsAhead_late {cs : Nat} (late : 398 ≤ cs) : tabsAhead cs = 9 := if_pos late

/-- Whether a label, read in state `cs` of the header line on a tab exactly when `tab`, keeps the
count of sample names: an error goes to the skip state 622; any other label only calls handlers
and either ends the line, with one sample name once the samples have begun and none before, or
stays in the header line without `handle_header_line`, each tab it reads closing a column before
the samples or making a sample name. -/
def Scanner.Tr.countsSamples (cs : Nat) (tab : Bool) (tr : Tr) : Bool :=
  match tr.actions with
  | .error sec _ :: _ => skipState sec == 622
  | actions =>
      actions.all Action.isCall &&
        if tr.endsLine then actions.count .sampleName == tabsAhead cs + 1 - 9
        else actions.count .headerLine == 0 && 354 ≤ tr.target && tr.target ≤ 399 &&
          tabsAhead tr.target + actions.count .sampleName == tabsAhead cs + (if tab then 1 else 0) &&
          (398 ≤ tr.target || cs < 398 && actions.count .sampleName == 0)

/-- Whether every label of a row keeps the count: a leaf that admits a tab on a tab, a leaf that
admits another byte on another byte, and the final `goto` on both. -/
def Scanner.Row.countsSamples (cs : Nat) (row : Row) : Bool :=
  row.edges.all (fun edge => (!edge.admits 9 || edge.tr.countsSamples cs true) &&
      (edge.lo == 9 && edge.hi == 9 || edge.tr.countsSamples cs false)) &&
    row.other.countsSamples cs true && row.other.countsSamples cs false

set_option maxRecDepth 20000 in
/-- The rows of the header line, states 354 to 399, keep the count. -/
theorem rows_countSamples :
    (((rows.toList.drop 354).take 46).enumFrom 354).all (fun entry => entry.2.countsSamples entry.1) =
      true := by
  decide

theorem label_countsSamples {cs : Nat} (inside : 354 ≤ cs ∧ cs ≤ 399) (c : UInt8) :
    (label cs c).countsSamples cs (c == 9) = true := by
  have fits := row_of_block rows_countSamples inside.1 (by omega) (by omega)
  simp only [Row.countsSamples, Bool.and_eq_true, List.all_eq_true, Bool.or_eq_true,
    Bool.not_eq_true'] at fits
  have byte : charOf c = 9 ↔ c = 9 := @charOf_eq c 9 (by decide)
  rcases (row cs).pick_cases (charOf c) with same | ⟨edge, member, admits, same⟩
  · rw [label, same]
    by_cases tab : c = 9
    · rw [beq_iff_eq.mpr tab]
      exact fits.1.2
    · rw [beq_eq_false_iff_ne.mpr tab]
      exact fits.2
  · rw [label, same]
    obtain ⟨tabEdge, otherEdge⟩ := fits.1.1 edge member
    by_cases tab : c = 9
    · rw [beq_iff_eq.mpr tab]
      rw [byte.mpr tab] at admits
      exact tabEdge.resolve_left (by rw [admits]; decide)
    · rw [beq_eq_false_iff_ne.mpr tab]
      refine otherEdge.resolve_left fun ⟨low, high⟩ => tab (byte.mp ?_)
      simp only [Edge.admits, Bool.and_eq_true, decide_eq_true_eq] at admits
      simp only [beq_iff_eq] at low high
      omega

section

variable {σ : Type} (P : ParsePolicy σ)

/-- Actions that only call handlers make one sample name, one `handle_header_line` and one
newline for each such action. -/
theorem runActions_count_calls {actions : List Action} (calls : ∀ a ∈ actions, a.isCall = true)
    (s : Parser σ) (c : UInt8) (target : Nat) (alive : s.thrown = none) :
    (s.runActions P c actions target).2.1.count .sampleName = actions.count .sampleName ∧
      (s.runActions P c actions target).2.1.count .headerLine = actions.count .headerLine ∧
      (s.runActions P c actions target).2.1.count .newline = actions.count .newline := by
  induction actions generalizing s with
  | nil => exact ⟨rfl, rfl, rfl⟩
  | cons a actions ih =>
      have call := calls a (List.mem_cons_self a actions)
      have alive₁ := (exec_call P call s c).2.1.trans alive
      obtain ⟨samples, headers, newlines⟩ :=
        ih (fun b member => calls b (List.mem_cons_of_mem a member)) _ alive₁
      rw [runActions_cons P a (jump_call call) s c actions target alive₁, List.count_append,
        List.count_append, List.count_append, samples, headers, newlines, List.count_cons,
        List.count_cons, List.count_cons]
      cases a <;> simp [Action.isCall, Parser.exec, Parser.call] at call ⊢ <;> omega

/-- A label that only calls handlers goes to its target and makes its calls. -/
theorem step_calls (s : Parser σ) (alive : s.thrown = none) (c : UInt8)
    (calls : ∀ a ∈ (label s.cs c).actions, a.isCall = true) :
    (s.step P c).1.cs = (label s.cs c).target ∧ (s.step P c).1.thrown = none ∧
      (s.step P c).2.count .sampleName = (label s.cs c).actions.count .sampleName ∧
      (s.step P c).2.count .headerLine = (label s.cs c).actions.count .headerLine ∧
      (s.step P c).2.count .newline = (label s.cs c).actions.count .newline := by
  rcases step_error_or_run P s c alive with ⟨sec, message, rest, failing, -⟩ | ⟨-, same⟩
  · exact absurd (calls _ (failing ▸ List.mem_cons_self _ _)) (by simp [Action.isCall])
  obtain ⟨-, cs, alive₁, -⟩ := runActions_allCalls P calls (label s.cs c).target s c alive
  rw [same]
  exact ⟨cs, alive₁, runActions_count_calls P calls s c _ alive⟩

/-- A label that fails first makes no sample name and no `handle_header_line`. -/
theorem step_failing (s : Parser σ) (alive : s.thrown = none) (c : UInt8) {sec : Section}
    {message : Message} {rest : List Action}
    (failing : (label s.cs c).actions = .error sec message :: rest) :
    (s.step P c).1.thrown = none ∧
      (s.step P c).1.cs = (if c = 10 then resumeState sec else skipState sec) ∧
      .headerLine ∉ (s.step P c).2 ∧ .sampleName ∉ (s.step P c).2 := by
  rcases step_error_or_run P s c alive with ⟨sec₁, message₁, rest₁, failing₁, cs, alive₁, events⟩ |
    ⟨clean, -⟩
  · rw [failing] at failing₁
    cases failing₁
    refine ⟨alive₁, cs, ?_, ?_⟩ <;> split at events <;> simp [events]
  · exact absurd (failing ▸ List.mem_cons_self _ _) (clean sec message)

/-- Where a line that begins with `#C` is after the bytes `read`, with `samples` sample names
made: at its start, after its `#`, in a state of the header line with `tabsAhead` more tabs than
sample names and no sample name before the samples begin, or, after an error, in the skip state
622. -/
def HeaderLinePos (cs : Nat) (read : List UInt8) (samples : Nat) : Prop :=
  (read = [] ∧ (cs = 16 ∨ cs = 20) ∧ samples = 0) ∨ (read = [35] ∧ cs = 17 ∧ samples = 0) ∨
    (354 ≤ cs ∧ cs ≤ 399 ∧ read.count 9 = tabsAhead cs + samples ∧ (cs < 398 → samples = 0)) ∨
    cs = 622

/-- Before an error, every tab past the ninth column has made one sample name. -/
theorem HeaderLinePos.samples {cs : Nat} {read : List UInt8} {samples : Nat}
    (pos : HeaderLinePos cs read samples) (going : cs ≠ 622) : samples = read.count 9 - 9 := by
  rcases pos with ⟨rfl, -, rfl⟩ | ⟨rfl, -, rfl⟩ | ⟨-, -, tabs, early⟩ | skip
  · rfl
  · rfl
  · by_cases late : 398 ≤ cs
    · rw [tabs, tabsAhead_late late]
      omega
    · have ahead := tabsAhead_early (Nat.lt_of_not_le late)
      have none := early (Nat.lt_of_not_le late)
      omega
  · exact absurd skip going

theorem label_afterHash_header : label 17 67 = go 354 := by
  rw [label, row_afterHash]
  rfl

theorem headerLinePos_step (s : Parser σ) (read : List UInt8) (samples : Nat)
    (pos : HeaderLinePos s.cs read samples) (alive : s.thrown = none) (c : UInt8)
    (notNewline : c ≠ 10) (start : read = [] → c = 35) (afterHash : read = [35] → c = 67) :
    (s.step P c).1.thrown = none ∧ .headerLine ∉ (s.step P c).2 ∧
      HeaderLinePos (s.step P c).1.cs (read ++ [c]) (samples + (s.step P c).2.count .sampleName) := by
  rcases pos with ⟨rfl, begin, rfl⟩ | ⟨rfl, hash, rfl⟩ | ⟨low, high, tabs, early⟩ | skip
  · obtain rfl := start rfl
    obtain ⟨alive₁, cs, events⟩ := step_go P s 35 alive (label_lineStart_hash begin)
    exact ⟨alive₁, by simp [events], .inr (.inl ⟨rfl, cs, by simp [events]⟩)⟩
  · obtain rfl := afterHash rfl
    obtain ⟨alive₁, cs, events⟩ := step_go P s 67 alive (hash ▸ label_afterHash_header)
    refine ⟨alive₁, by simp [events], .inr (.inr (.inl ⟨?_, ?_, ?_, fun _ => by simp [events]⟩))⟩
    all_goals simp [cs, events, tabsAhead, columnStarts]
  · have counts := label_countsSamples ⟨low, high⟩ c
    unfold Tr.countsSamples at counts
    split at counts
    · next sec message rest failing =>
        obtain ⟨alive₁, cs, quiet, -⟩ := step_failing P s alive c failing
        rw [if_neg notNewline, (beq_iff_eq.mp counts : skipState sec = 622)] at cs
        exact ⟨alive₁, quiet, .inr (.inr (.inr cs))⟩
    · simp only [Bool.and_eq_true, List.all_eq_true, label_endsLine notNewline, Bool.false_eq_true,
        ite_false, beq_iff_eq, decide_eq_true_eq, Bool.or_eq_true] at counts
      obtain ⟨calls, ⟨⟨⟨noHeader, low₁⟩, high₁⟩, ahead⟩, early₁⟩ := counts
      obtain ⟨cs, alive₁, samples₁, headers₁, -⟩ := step_calls P s alive c calls
      refine ⟨alive₁, List.count_eq_zero.mp (headers₁.trans noHeader),
        .inr (.inr (.inl ⟨cs ▸ low₁, cs ▸ high₁, ?_, fun before => ?_⟩))⟩
      · rw [List.count_append, List.count_singleton, tabs, cs, samples₁]
        simp only [beq_iff_eq]
        omega
      · rw [cs] at before
        rcases early₁ with late | ⟨before₁, none⟩
        · omega
        · rw [early before₁, samples₁, none]
  · obtain ⟨alive₁, cs, events⟩ := step_skipState P .header s skip alive c
    rw [if_neg notNewline] at cs events
    exact ⟨alive₁, by simp [events], .inr (.inr (.inr cs))⟩

theorem headerLinePos_run (tail bytes : List UInt8) (noNewline : 10 ∉ bytes) (s : Parser σ)
    (read : List UInt8) (samples : Nat) (pos : HeaderLinePos s.cs read samples)
    (alive : s.thrown = none) (begins : read ++ bytes <+: 35 :: 67 :: tail) :
    (s.run P bytes).1.thrown = none ∧ .headerLine ∉ (s.run P bytes).2 ∧
      HeaderLinePos (s.run P bytes).1.cs (read ++ bytes)
        (samples + (s.run P bytes).2.count .sampleName) := by
  induction bytes generalizing s read samples with
  | nil => simpa [Parser.run] using ⟨alive, pos⟩
  | cons c bytes ih =>
      simp only [List.mem_cons, not_or] at noNewline
      have start : read = [] → c = 35 := by
        rintro rfl
        simp at begins
        exact begins.1
      have afterHash : read = [35] → c = 67 := by
        rintro rfl
        simp at begins
        exact begins.1
      obtain ⟨alive₁, quiet, pos₁⟩ :=
        headerLinePos_step P s read samples pos alive c (Ne.symm noNewline.1) start afterHash
      obtain ⟨alive₂, quiet₂, pos₂⟩ :=
        ih noNewline.2 _ (read ++ [c]) _ pos₁ alive₁ (by simpa using begins)
      simp only [Parser.run, List.count_append, List.mem_append, not_or, ← Nat.add_assoc]
      exact ⟨alive₂, ⟨quiet, quiet₂⟩, by simpa using pos₂⟩

/-- On the newline of a line that begins with `#C`, `handle_header_line` comes only from a state
of the header line, with the name of the last sample column once the samples have begun. -/
theorem headerLinePos_newline (s : Parser σ) (read : List UInt8) (samples : Nat)
    (pos : HeaderLinePos s.cs read samples) (alive : s.thrown = none)
    (accepted : .headerLine ∈ (s.step P 10).2) :
    samples + (s.step P 10).2.count .sampleName = read.count 9 + 1 - 9 := by
  have failed {sec : Section} {message : Message} {rest : List Action}
      (failing : (label s.cs 10).actions = .error sec message :: rest) : False :=
    (step_failing P s alive 10 failing).2.2.1 accepted
  rcases pos with ⟨rfl, begin, rfl⟩ | ⟨rfl, hash, rfl⟩ | ⟨low, high, tabs, early⟩ | skip
  · rcases label_lineStart begin 10 with ⟨ten, -⟩ | ⟨sec, message, rest, failing, -⟩
    · exact absurd ten (by decide)
    · exact (failed failing).elim
  · rcases label_afterHash (c := 10) (by decide) with ⟨ten, -⟩ | ⟨sec, message, rest, failing, -⟩
    · exact absurd ten (by decide)
    · exact (failed (hash ▸ failing)).elim
  · have counts := label_countsSamples ⟨low, high⟩ 10
    unfold Tr.countsSamples at counts
    split at counts
    · next sec message rest failing => exact (failed failing).elim
    · simp only [Bool.and_eq_true, List.all_eq_true] at counts
      obtain ⟨calls, counts⟩ := counts
      obtain ⟨-, -, samples₁, headers₁, -⟩ := step_calls P s alive 10 calls
      split at counts
      · rw [samples₁, (beq_iff_eq.mp counts), tabs]
        by_cases late : 398 ≤ s.cs
        · rw [tabsAhead_late late]
          omega
        · rw [early (Nat.lt_of_not_le late)]
          omega
      · simp only [Bool.and_eq_true, beq_iff_eq] at counts
        exact absurd (headers₁.trans counts.1.1.1.1) (Nat.ne_of_gt (List.count_pos_iff.mpr accepted))
  · obtain ⟨-, -, events⟩ := step_skipState P .header s skip alive 10
    simp [events] at accepted

end

/-- A line that begins with `#C`, read from the start of a meta line and accepted by
`handle_header_line`: once a prefix of it is read, one sample name has been made for each tab
past the ninth column, so in column order, and the newline makes the name of the last column. -/
theorem accepted_header_line_samples {σ : Type} (P : ParsePolicy σ) (s : Parser σ)
    (line : List UInt8) (start : s.cs = 16 ∨ s.cs = 20) (alive : s.thrown = none)
    (noNewline : 10 ∉ line) (header : line.take 2 = [35, 67])
    (accepted : .headerLine ∈ (s.run P (line ++ [10])).2) :
    (∀ pre rest, line = pre ++ rest → (s.run P pre).2.count .sampleName = pre.count 9 - 9) ∧
      (s.run P (line ++ [10])).2.count .sampleName = line.count 9 + 1 - 9 := by
  have whole : line = 35 :: 67 :: line.drop 2 := by
    conv => lhs; rw [← List.take_append_drop 2 line, header]
    rfl
  have reads (bytes : List UInt8) (noNewline : 10 ∉ bytes) (begins : bytes <+: line) :=
    headerLinePos_run P (line.drop 2) bytes noNewline s [] 0 (.inl ⟨rfl, start, rfl⟩) alive
      (by rw [List.nil_append, ← whole]; exact begins)
  obtain ⟨alive₁, quiet, pos⟩ := reads line noNewline (List.prefix_refl line)
  have split : s.run P (line ++ [10]) =
      (((s.run P line).1.step P 10).1, (s.run P line).2 ++ ((s.run P line).1.step P 10).2) := by
    rw [run_append]
    simp [Parser.run]
  rw [split, List.mem_append] at accepted
  have last := accepted.resolve_left quiet
  have going : (s.run P line).1.cs ≠ 622 := fun skipping => by
    obtain ⟨-, -, events⟩ := step_skipState P .header _ skipping alive₁ 10
    simp [events] at last
  refine ⟨fun pre rest same => ?_, ?_⟩
  · have noNewlinePre : 10 ∉ pre := fun member => noNewline (same ▸ List.mem_append_left rest member)
    obtain ⟨alive₂, -, pos₂⟩ := reads pre noNewlinePre ⟨rest, same.symm⟩
    have going₂ : (s.run P pre).1.cs ≠ 622 := fun skipping => going <| by
      rw [same, run_append]
      exact (run_skipState P .header rest
        (fun member => noNewline (same ▸ List.mem_append_right pre member)) _ skipping alive₂).1
    simpa using pos₂.samples going₂
  · rw [split, List.count_append]
    simpa using headerLinePos_newline P _ line _ pos alive₁ last

/-- Every sample name comes before the header is done, inside the header line: the line goes on
with tokens and sample names only and ends with `handle_header_line` or a header error, after
which no sample name comes. -/
theorem sampleName_inside_header_line {σ : Type} (P : ParsePolicy σ) (p : σ)
    (chunks : List (List UInt8)) (pre post : List Event)
    (split : ((Parser.init p).validate P chunks).2 = pre ++ .sampleName :: post) :
    .headerLine ∉ pre ∧ ∃ mid e rest, post = mid ++ e :: rest ∧
      (∀ x ∈ mid, x = .sampleName ∨ x = .tokenBegin ∨ x = .tokenEnd ∨ ∃ c, x = .tokenChar c) ∧
      (e = .headerLine ∨ ∃ message line, e = .error .header message line) ∧ .sampleName ∉ rest := by
  obtain ⟨final, run, ended⟩ :=
    validate_follow P chunks (Parser.init p) .fileformat (.inr ⟨rfl, by simp [Parser.init, sections]⟩)
  rw [split] at run
  obtain ⟨before, after, first, step, rest⟩ := Section.follow_split run
  have header : after = .header ∧ before.rank ≤ 2 := by
    cases before <;> simp_all [Section.next, Section.rank]
  rw [header.1] at rest
  obtain ⟨mid, e, later, same, stays, ends, body⟩ := Section.follow_header_ends rest ended
  exact ⟨(Section.early_before first header.2).1, mid, e, later, same,
    fun x member => Section.header_stays (stays x member), ends, Section.body_follow body⟩

/-- Sample names come only inside the header line, which ends with `handle_header_line` or a
header error; and a header line that `handle_header_line` accepts has made one sample name for
each column past the ninth, in column order. -/
theorem sample_names_in_header_line {σ : Type} (P : ParsePolicy σ) :
    (∀ (p : σ) (chunks : List (List UInt8)) (pre post : List Event),
      ((Parser.init p).validate P chunks).2 = pre ++ .sampleName :: post →
      .headerLine ∉ pre ∧ ∃ mid e rest, post = mid ++ e :: rest ∧
        (∀ x ∈ mid, x = .sampleName ∨ x = .tokenBegin ∨ x = .tokenEnd ∨ ∃ c, x = .tokenChar c) ∧
        (e = .headerLine ∨ ∃ message line, e = .error .header message line) ∧
        .sampleName ∉ rest) ∧
    (∀ (s : Parser σ) (line : List UInt8), (s.cs = 16 ∨ s.cs = 20) → s.thrown = none →
      10 ∉ line → line.take 2 = [35, 67] → .headerLine ∈ (s.run P (line ++ [10])).2 →
      (∀ pre rest, line = pre ++ rest → (s.run P pre).2.count .sampleName = pre.count 9 - 9) ∧
        (s.run P (line ++ [10])).2.count .sampleName = line.count 9 + 1 - 9) :=
  ⟨sampleName_inside_header_line P, accepted_header_line_samples P⟩

set_option maxRecDepth 20000 in
/-- A header line whose last sample name is followed by a carriage return: the name of the
first sample is handed over at its tab, and the line then fails. -/
theorem rejected_header_keeps_sample_name :
    ((Parser.init ()).validate acceptAll [bytesOf
      "##fileformat=VCFv4.1\n#CHROM\tPOS\tID\tREF\tALT\tQUAL\tFILTER\tINFO\tFORMAT\tS1\tS2\r\n"]).2.filter
        (fun e => e == .sampleName || e.isError) =
      [.sampleName, .error .header none 2] := by
  decide

set_option maxRecDepth 20000 in
/-- The header line of two samples, read where the fileformat line leaves the scanner, is
accepted with both names. -/
theorem two_sample_header_run :
    .headerLine ∈ ((⟨16, 2, 1, [], (), none⟩ : Parser Unit).run acceptAll
      (bytesOf "#CHROM\tPOS\tID\tREF\tALT\tQUAL\tFILTER\tINFO\tFORMAT\tS1\tS2" ++ [10])).2 := by
  decide

set_option maxRecDepth 20000 in
/-- The rejected line above has a sample name to apply the first part of
`sample_names_in_header_line` to, and the accepted line of two samples the second part. -/
theorem header_line_sample_runs :
    (∃ pre post, ((Parser.init ()).validate acceptAll [bytesOf
      "##fileformat=VCFv4.1\n#CHROM\tPOS\tID\tREF\tALT\tQUAL\tFILTER\tINFO\tFORMAT\tS1\tS2\r\n"]).2 =
        pre ++ .sampleName :: post ∧ .headerLine ∉ pre) ∧
      ((⟨16, 2, 1, [], (), none⟩ : Parser Unit).run acceptAll
        (bytesOf "#CHROM\tPOS\tID\tREF\tALT\tQUAL\tFILTER\tINFO\tFORMAT\tS1\tS2" ++ [10])).2.count
          .sampleName = 2 := by
  have member : .sampleName ∈ ((Parser.init ()).validate acceptAll [bytesOf
      "##fileformat=VCFv4.1\n#CHROM\tPOS\tID\tREF\tALT\tQUAL\tFILTER\tINFO\tFORMAT\tS1\tS2\r\n"]).2 := by
    decide
  obtain ⟨pre, post, split⟩ := List.append_of_mem member
  refine ⟨⟨pre, post, split, ((sample_names_in_header_line acceptAll).1 () _ pre post split).1⟩, ?_⟩
  rw [((sample_names_in_header_line acceptAll).2 ⟨16, 2, 1, [], (), none⟩ _ (.inl rfl) rfl
    (by decide) (by decide) two_sample_header_run).2]
  decide

end VcfValidator
