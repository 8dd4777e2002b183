import VcfValidator.HeaderLine

/-!
# Where a line starts

Every newline the scanner makes leaves it in one of four states: 16 after the fileformat line, 20
before every later meta line, 623 after the header line and 624 before every later body line. A
failed line resumes in 20 or 624 too. So the handler of an error depends on the line and on this
state only, not on the lines before. A `'\n'` inside a quoted meta value, such as a
`Description`, is a byte of the value: it makes no newline and the line goes on.

The first line of a section and its later lines do start in different states. Their rows have the
same leaves and differ only in the final `goto`, whose merged action list calls the handler of the
section before first. So the line after the fileformat line is read as a later meta line, and the
first body line as a later body line, except when the first byte fails. Then the error goes to the
fileformat handler instead of the meta handler, or to the header handler instead of the body
handler with its chromosome message: the error action listed first leaves for the skip state at
once, so the handlers listed after it never run. At end of input, state 16 likewise reports to
the fileformat handler and state 20 to the meta handler.
-/

namespace VcfValidator

open Scanner

set_option autoImplicit false

/-- The states a line starts in. -/
def isLineStart (cs : Nat) : Bool := cs == 16 || cs == 20 || cs == 623 || cs == 624

/-- Whether the label of `'\n'` respects line starts: it fails first, so that the skip state
reads the newline; or it makes the newline and lands in a line start; or it only calls handlers
and makes no newline, as in a quoted value. -/
def Scanner.Tr.startsLine (tr : Tr) : Bool :=
  match tr.actions with
  | .error _ _ :: _ => true
  | actions =>
      if actions.contains .newline then isLineStart (landing actions tr.target)
      else actions.all Action.isCall

set_option maxRecDepth 20000 in
/-- Every state but the dead state 0 and the states 625 and 626, which no label lands in, reads
`'\n'` so. -/
theorem rows_newline_startsLine :
    rows.toList.enum.all
      (fun entry => entry.1 == 0 || 625 ≤ entry.1 || (entry.2.pick 10).startsLine) = true := by
  decide

theorem label_newline_startsLine {cs : Nat} (low : 1 ≤ cs) (high : cs ≤ 624) :
    (label cs 10).startsLine = true := by
  have fits := row_of_enum rows_newline_startsLine (show cs < 627 by omega)
  simp only [Bool.or_eq_true, beq_iff_eq, decide_eq_true_eq] at fits
  rw [label, show charOf 10 = 10 by decide]
  exact fits.resolve_left (by omega)

section

variable {σ : Type} (P : ParsePolicy σ)

/-- A `'\n'` that makes the newline leaves the scanner at a line start. -/
theorem step_newline_lineStart (s : Parser σ) (low : 1 ≤ s.cs) (high : s.cs ≤ 624)
    (alive : s.thrown = none) (done : (s.step P 10).1.thrown = none)
    (made : .newline ∈ (s.step P 10).2) :
    isLineStart (s.step P 10).1.cs = true := by
  rcases step_error_or_run P s 10 alive with ⟨sec, message, rest, -, cs, -, -⟩ | ⟨clean, same⟩
  · rw [cs, if_pos rfl]
    cases sec <;> rfl
  · have starts := label_newline_startsLine low high
    unfold Tr.startsLine at starts
    split at starts
    · next sec message rest failing =>
        exact absurd (failing ▸ List.mem_cons_self _ _) (clean sec message)
    · split at starts
      · rw [same] at done ⊢
        rw [runActions_landing P s 10 _ _ done]
        exact starts
      · next quoted =>
          have calls := List.all_eq_true.mp starts
          obtain ⟨-, -, -, -, newlines⟩ := step_calls P s alive 10 calls
          rw [List.count_eq_zero.mpr (fun member => quoted (List.elem_iff.mpr member))] at newlines
          exact absurd (List.count_pos_iff.mpr made) (by omega)

/-- After any bytes read from an ordered state, a `'\n'` that makes the newline and lets no
exception out leaves the scanner at a line start. -/
theorem run_lineStart (pre : List UInt8) (s : Parser σ) (sec : Section) (ordered : Ordered s sec)
    (done : ((s.run P pre).1.step P 10).1.thrown = none)
    (made : .newline ∈ ((s.run P pre).1.step P 10).2) :
    isLineStart ((s.run P pre).1.step P 10).1.cs = true := by
  obtain ⟨next, -, ordered₁⟩ := run_follow P pre s sec ordered
  rcases ordered₁ with ⟨thrown, -⟩ | ⟨alive, member⟩
  · rw [Parser.step, if_pos thrown] at made
    exact absurd made (List.not_mem_nil _)
  · obtain ⟨low, high⟩ := sections_bound member
    exact step_newline_lineStart P _ low high alive done made

/-- The step reads the state `cs` only through its label, unless the label ends a body line,
whose exception leaves `cs` as it was. -/
theorem exec_cs (s : Parser σ) (x : Nat) (c : UInt8) {a : Action} (notBody : a ≠ .bodyLine) :
    ({ s with cs := x } : Parser σ).exec P c a = ({ (s.exec P c a).1 with cs := x }, (s.exec P c a).2) := by
  cases a
  case bodyLine => exact absurd rfl notBody
  all_goals rfl

theorem runActions_cs (actions : List Action) (noBody : .bodyLine ∉ actions) (s : Parser σ)
    (x y : Nat) (c : UInt8) (target : Nat) (alive : s.thrown = none) :
    ({ s with cs := x } : Parser σ).runActions P c actions target =
      ({ s with cs := y } : Parser σ).runActions P c actions target := by
  induction actions generalizing s with
  | nil => rfl
  | cons a actions ih =>
      have notBody : a ≠ .bodyLine := fun same => noBody (same ▸ List.mem_cons_self _ _)
      have same := (exec_thrown P s c a).resolve_right notBody
      simp only [Parser.runActions, exec_cs P s x c notBody, exec_cs P s y c notBody]
      cases a.jump with
      | some jump => rfl
      | none =>
          rw [ih (fun member => noBody (List.mem_cons_of_mem a member)) _ (same.trans alive)]
          simp only [same, alive, Option.isSome_none, Bool.false_eq_true, ite_false]

theorem step_congr (s : Parser σ) (alive : s.thrown = none) {x y : Nat} (c : UInt8)
    (same : label x c = label y c) (noBody : .bodyLine ∉ (label x c).actions) :
    ({ s with cs := x } : Parser σ).step P c = ({ s with cs := y } : Parser σ).step P c := by
  simp only [Parser.step, same, runActions_cs P _ (same ▸ noBody) s x y c _ alive]
  simp only [alive, Option.isSome_none, Bool.false_eq_true, ite_false]

/-- A label that fails first reports its error and hands the byte to the skip state. -/
theorem step_of_failing (s : Parser σ) (alive : s.thrown = none) (c : UInt8) {sec : Section}
    {message : Message} {rest : List Action}
    (failing : (label s.cs c).actions = .error sec message :: rest) :
    s.step P c =
      ((({ s with cs := skipState sec } : Parser σ).runActions P c
          (label (skipState sec) c).actions (label (skipState sec) c).target).1,
        .error sec (s.messageText message) s.nLines ::
          (({ s with cs := skipState sec } : Parser σ).runActions P c
            (label (skipState sec) c).actions (label (skipState sec) c).target).2.1) := by
  simp [Parser.step, alive, failing, runActions_error]

/-- Reading from `first`, the state the first line of a section starts in, and from `later`,
the state of its later lines, ends in the same parser with the same calls, except that a failing
first byte is reported through the handler `early` instead of through `own` with `message`. -/
def ReadAlike (first later : Nat) (early own : Section) (message : Option String) : Prop :=
  ∀ (s : Parser σ), s.thrown = none → ∀ (c : UInt8) (rest : List UInt8),
    (({ s with cs := first } : Parser σ).run P (c :: rest)).1 =
        (({ s with cs := later } : Parser σ).run P (c :: rest)).1 ∧
      ((({ s with cs := first } : Parser σ).run P (c :: rest)).2 =
          (({ s with cs := later } : Parser σ).run P (c :: rest)).2 ∨
        ∃ events, (({ s with cs := first } : Parser σ).run P (c :: rest)).2 =
            .error early none s.nLines :: events ∧
          (({ s with cs := later } : Parser σ).run P (c :: rest)).2 =
            .error own message s.nLines :: events)

/-- A first byte that both rows send to their final `goto`, each failing first into the same skip
state: reported through `early` from `first` and through `own` with `message` from `later`, and
the rest of the input read alike. -/
theorem run_of_others {first later : Nat} {early own : Section} {m₁ m₂ : Message}
    {r₁ r₂ : List Action} {message : Option String}
    (failFirst : (row first).other.actions = .error early m₁ :: r₁)
    (failLater : (row later).other.actions = .error own m₂ :: r₂)
    (skip : skipState early = skipState own)
    (texts : ∀ s : Parser σ, s.messageText m₁ = none ∧ s.messageText m₂ = message)
    (s : Parser σ) (alive : s.thrown = none) {c : UInt8} (rest : List UInt8)
    (fallsFirst : label first c = (row first).other) (fallsLater : label later c = (row later).other) :
    (({ s with cs := first } : Parser σ).run P (c :: rest)).1 =
        (({ s with cs := later } : Parser σ).run P (c :: rest)).1 ∧
      ∃ events, (({ s with cs := first } : Parser σ).run P (c :: rest)).2 =
          .error early none s.nLines :: events ∧
        (({ s with cs := later } : Parser σ).run P (c :: rest)).2 = .error own message s.nLines :: events := by
  have stepFirst := step_of_failing P { s with cs := first } alive c
    (fallsFirst ▸ failFirst : (label first c).actions = _)
  have stepLater := step_of_failing P { s with cs := later } alive c
    (fallsLater ▸ failLater : (label later c).actions = _)
  rw [skip] at stepFirst
  simp only [Parser.run, stepFirst, stepLater, (texts { s with cs := first }).1,
    (texts { s with cs := later }).2]
  exact ⟨trivial, _, rfl, rfl⟩

/-- Two rows with the same leaves read alike when no leaf ends a body line and both final
`goto`s fail first into the same skip state. -/
theorem readAlike_of_rows {first later : Nat} {early own : Section} {m₁ m₂ : Message}
    {r₁ r₂ : List Action} {message : Option String}
    (edges : (row first).edges = (row later).edges)
    (quiet : ∀ e ∈ (row first).edges, .bodyLine ∉ e.tr.actions)
    (failFirst : (row first).other.actions = .error early m₁ :: r₁)
    (failLater : (row later).other.actions = .error own m₂ :: r₂)
    (skip : skipState early = skipState own)
    (texts : ∀ s : Parser σ, s.messageText m₁ = none ∧ s.messageText m₂ = message) :
    ReadAlike P first later early own message := by
  intro s alive c rest
  cases found : (row first).edges.find? (·.admits (charOf c)) with
  | some e =>
      have pickFirst : label first c = e.tr := by simp [label, Row.pick, found]
      have pickLater : label later c = e.tr := by simp [label, Row.pick, ← edges, found]
      have same := step_congr P s alive c (pickFirst.trans pickLater.symm)
        (pickFirst ▸ quiet e (List.mem_of_find?_eq_some found))
      simp only [Parser.run, same, true_or, and_self]
  | none =>
      have pickFirst : label first c = (row first).other := by simp [label, Row.pick, found]
      have pickLater : label later c = (row later).other := by
        simp [label, Row.pick, ← edges, found]
      obtain ⟨same, events⟩ :=
        run_of_others P failFirst failLater skip texts s alive rest pickFirst pickLater
      exact ⟨same, .inr events⟩

end

set_option maxRecDepth 4000 in
theorem row_bodyStart :
    row 623 = ⟨[⟨60, 60, go 423⟩, ⟨48, 57, tr809⟩, ⟨97, 122, tr809⟩, ⟨65, 90, tr809⟩], tr808⟩ ∧
      row 624 = ⟨[⟨60, 60, go 423⟩, ⟨48, 57, tr809⟩, ⟨97, 122, tr809⟩, ⟨65, 90, tr809⟩], tr529⟩ :=
  ⟨rfl, rfl⟩

/-- A byte that falls to the final `goto` of a row falls to it in a row of the same leaves, when
no leaf takes the final label. -/
theorem label_other_of_edges {first later : Nat} (edges : (row first).edges = (row later).edges)
    (leaves : ∀ e ∈ (row later).edges, e.tr ≠ (row later).other) {c : UInt8}
    (falls : label later c = (row later).other) : label first c = (row first).other := by
  unfold label Row.pick at *
  cases found : (row later).edges.find? (·.admits (charOf c)) with
  | some e =>
      rw [found] at falls
      exact absurd falls (leaves e (List.mem_of_find?_eq_some found))
  | none => rw [edges, found]

theorem others_lineStart :
    (row 16).other.actions =
        .error .fileformat .none :: [metaSectionError, headerColumnsError, headerSectionError] ∧
      (row 20).other.actions = .error .meta .none :: [headerColumnsError, headerSectionError] := by
  rw [row_lineStart.1, row_lineStart.2]
  exact ⟨rfl, rfl⟩

theorem others_bodyStart :
    (row 623).other.actions = .error .header .none :: [chromError, bodySectionError] ∧
      (row 624).other.actions =
        .error .body (.text "Chromosome is not a string without colons or whitespaces, optionally wrapped with angle brackets (<>)") ::
          [bodySectionError] := by
  rw [row_bodyStart.1, row_bodyStart.2]
  exact ⟨rfl, rfl⟩

theorem lineStarts_readAlike {σ : Type} (P : ParsePolicy σ) :
    ReadAlike P 16 20 .fileformat .meta none ∧
      ReadAlike P 623 624 .header .body
        (some "Chromosome is not a string without colons or whitespaces, optionally wrapped with angle brackets (<>)") :=
  ⟨readAlike_of_rows P (by rw [row_lineStart.1, row_lineStart.2]) (by simp [row_lineStart, go])
      others_lineStart.1 others_lineStart.2 rfl fun _ => ⟨rfl, rfl⟩,
    readAlike_of_rows P (by rw [row_bodyStart.1, row_bodyStart.2])
      (by simp [row_bodyStart, go, tr809]) others_bodyStart.1 others_bodyStart.2 rfl
      fun _ => ⟨rfl, rfl⟩⟩

theorem eofActions_lineStart :
    eofActions 16 = fileformatSectionError :: [metaSectionError, headerColumnsError, headerSectionError] ∧
      eofActions 20 = metaSectionError :: [headerColumnsError, headerSectionError] :=
  ⟨rfl, rfl⟩

section

variable {σ : Type} (P : ParsePolicy σ)

/-- End of input at a line start: 16 reports to the fileformat handler and 20 to the meta handler,
with no message; the final states 623 and 624 report nothing. -/
theorem finish_lineStart (s : Parser σ) (alive : s.thrown = none) :
    (s.cs = 16 → (s.finish P).2 = [.error .fileformat none s.nLines]) ∧
      (s.cs = 20 → (s.finish P).2 = [.error .meta none s.nLines]) ∧
      (623 ≤ s.cs → (s.finish P).2 = []) := by
  refine ⟨fun start => ?_, fun start => ?_, fun final => ?_⟩
  · simp [Parser.finish, alive, start, eofActions_lineStart.1, fileformatSectionError,
      runActions_error, Parser.messageText]
  · simp [Parser.finish, alive, start, eofActions_lineStart.2, metaSectionError,
      runActions_error, Parser.messageText]
  · simp [Parser.finish, alive, eofActions_final (Nat.le_trans (by decide) final), runActions_nil]

end

set_option maxRecDepth 20000 in
/-- The first line of the meta section and the first body line, when their first byte fails. The
merged action lists of state 16 (`tr18`) and of state 623 (`tr808`) call the handler of the
section before first, and that error action leaves for the skip state at once, so the handler of
the line's own section, which states 20 (`tr20`) and 624 (`tr529`) call on the same byte, with the
chromosome message for a body line, is never called. The rest of the line is read alike, to the
same parser. The body line `:x` shows it, first and after another body line. -/
theorem first_line_error_to_previous_section :
    (∀ {σ : Type} (P : ParsePolicy σ) (s : Parser σ), s.thrown = none →
      ∀ (c : UInt8) (rest : List UInt8), label 20 c = tr20 →
        label 16 c = tr18 ∧
          (({ s with cs := 16 } : Parser σ).run P (c :: rest)).1 =
            (({ s with cs := 20 } : Parser σ).run P (c :: rest)).1 ∧
          ∃ events, (({ s with cs := 16 } : Parser σ).run P (c :: rest)).2 =
              .error .fileformat none s.nLines :: events ∧
            (({ s with cs := 20 } : Parser σ).run P (c :: rest)).2 = .error .meta none s.nLines :: events) ∧
    (∀ {σ : Type} (P : ParsePolicy σ) (s : Parser σ), s.thrown = none →
      ∀ (c : UInt8) (rest : List UInt8), label 624 c = tr529 →
        label 623 c = tr808 ∧
          (({ s with cs := 623 } : Parser σ).run P (c :: rest)).1 =
            (({ s with cs := 624 } : Parser σ).run P (c :: rest)).1 ∧
          ∃ events, (({ s with cs := 623 } : Parser σ).run P (c :: rest)).2 =
              .error .header none s.nLines :: events ∧
            (({ s with cs := 624 } : Parser σ).run P (c :: rest)).2 =
              .error .body (some "Chromosome is not a string without colons or whitespaces, optionally wrapped with angle brackets (<>)")
                s.nLines :: events) ∧
    ((Parser.init ()).validate acceptAll [bytesOf
      "##fileformat=VCFv4.1\n#CHROM\tPOS\tID\tREF\tALT\tQUAL\tFILTER\tINFO\n:x\n"]).2.filter
        Event.isError = [.error .header none 3] ∧
    ((Parser.init ()).validate acceptAll [bytesOf
      "##fileformat=VCFv4.1\n#CHROM\tPOS\tID\tREF\tALT\tQUAL\tFILTER\tINFO\n1\t5\t.\tA\tC\t.\t.\t.\n:x\n"]).2.filter
        Event.isError =
      [.error .body (some "Chromosome is not a string without colons or whitespaces, optionally wrapped with angle brackets (<>)") 4] := by
  refine ⟨fun P s alive c rest falls => ?_, fun P s alive c rest falls => ?_, by decide, by decide⟩
  · have falls₁ : label 20 c = (row 20).other := by rw [falls, row_lineStart.2]
    have first := label_other_of_edges (by rw [row_lineStart.1, row_lineStart.2])
      (by rw [row_lineStart.2]; decide) falls₁
    exact ⟨by rw [first, row_lineStart.1],
      run_of_others P others_lineStart.1 others_lineStart.2 rfl (fun _ => ⟨rfl, rfl⟩) s alive rest
        first falls₁⟩
  · have falls₁ : label 624 c = (row 624).other := by rw [falls, row_bodyStart.2]
    have first := label_other_of_edges (by rw [row_bodyStart.1, row_bodyStart.2])
      (by rw [row_bodyStart.2]; decide) falls₁
    exact ⟨by rw [first, row_bodyStart.1],
      run_of_others P others_bodyStart.1 others_bodyStart.2 rfl (fun _ => ⟨rfl, rfl⟩) s alive rest
        first falls₁⟩

/-- Lines are read from their start state alone. Every newline the scanner makes, after any
chunks and any bytes, leaves it at a line start. The line after the fileformat line and the
first body line are read as later meta and body lines, but for the handler of a failing first
byte. End of input at a line start reports to the handler of that line's section. -/
theorem errors_by_line_start {σ : Type} (P : ParsePolicy σ) :
    (∀ (p : σ) (chunks : List (List UInt8)) (pre : List UInt8),
        ((((Parser.init p).parseChunks P chunks).1.run P pre).1.step P 10).1.thrown = none →
        .newline ∈ ((((Parser.init p).parseChunks P chunks).1.run P pre).1.step P 10).2 →
        isLineStart ((((Parser.init p).parseChunks P chunks).1.run P pre).1.step P 10).1.cs = true) ∧
      ReadAlike P 16 20 .fileformat .meta none ∧
      ReadAlike P 623 624 .header .body
        (some "Chromosome is not a string without colons or whitespaces, optionally wrapped with angle brackets (<>)") ∧
      ∀ s : Parser σ, s.thrown = none →
        (s.cs = 16 → (s.finish P).2 = [.error .fileformat none s.nLines]) ∧
        (s.cs = 20 → (s.finish P).2 = [.error .meta none s.nLines]) ∧
        (623 ≤ s.cs → (s.finish P).2 = []) := by
  refine ⟨fun p chunks pre done made => ?_, (lineStarts_readAlike P).1, (lineStarts_readAlike P).2,
    finish_lineStart P⟩
  obtain ⟨sec, -, ordered⟩ := parseChunks_follow P chunks (Parser.init p) .fileformat
    (.inr ⟨rfl, by simp [Parser.init, sections]⟩)
  exact run_lineStart P pre _ sec ordered done made

/-- The newline of the fileformat line, read in one chunk, leaves the scanner at a line start. -/
theorem fileformat_newline_at_line_start :
    isLineStart ((((Parser.init ()).parseChunks acceptAll []).1.run acceptAll
      (bytesOf "##fileformat=VCFv4.1")).1.step acceptAll 10).1.cs = true :=
  (errors_by_line_start acceptAll).1 () [] _ (by decide) (by decide)

end VcfValidator
