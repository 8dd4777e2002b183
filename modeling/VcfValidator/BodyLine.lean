import VcfValidator.AltColumn
import VcfValidator.InfoColumn

/-!
# A body line

The columns of `VcfValidator.BodyColumns`, `VcfValidator.AltColumn` and
`VcfValidator.InfoColumn` are put together into the table's reading of a whole body line: from
either line start, the table accepts a line and its newline exactly when `validBodyLine` holds,
and goes on at the start of the next line. Each column hands the rest of the line to the state
that starts the next column; `INFO` may end the line, and after `FORMAT` every sample column may.
Through `run_quiet_iff` this is a statement about the scanner itself: a line is read without an
error, and its newline leads to the next line's start, exactly when it is a valid body line.
-/

namespace VcfValidator

open Scanner

set_option autoImplicit false

/-- How the table reads a line from `q`: a line with no newline, followed by its newline, is
accepted exactly when `lang` holds of its fields between tabs, and the walk goes on at the start
of the next line. -/
def ReadsLine (q : Nat) (lang : List (List UInt8) → Bool) : Prop :=
  ∀ line rest, (∀ b ∈ line, inClass newlineByte b = false) →
    tableWalk q (line ++ 10 :: rest) =
      if lang (fieldsOn (inClass tabByte) line) then tableWalk 624 rest else none

/-- The first field by `first`, the others by `rest`; no field at all is refused. -/
def headThen (first : List UInt8 → Bool) (rest : List (List UInt8) → Bool) :
    List (List UInt8) → Bool
  | [] => false
  | field :: fields => first field && rest fields

/-- The fields of a body line as the table reads them: the eight mandatory columns, then nothing,
or `FORMAT` and at least one sample column. -/
def bodyFields : List (List UInt8) → Bool :=
  headThen chromValue <| headThen intValue <| headThen idColumn <| headThen refColumn <|
    headThen altColumn <| headThen qualColumn <| headThen filterColumn <|
      headThen infoColumn fun more => more.isEmpty ||
        headThen formatColumn (fun samples => !samples.isEmpty && samples.all sampleColumn) more

theorem validBodyLine_eq_bodyFields (line : List UInt8) :
    validBodyLine line = bodyFields (fieldsOn (inClass tabByte) line) := by
  unfold validBodyLine
  generalize fieldsOn (inClass tabByte) line = fields
  rcases fields with _ | ⟨chrom, _ | ⟨pos, _ | ⟨id, _ | ⟨ref, _ | ⟨alt, _ | ⟨qual, _ |
    ⟨filter, _ | ⟨info, _ | ⟨format, samples⟩⟩⟩⟩⟩⟩⟩⟩⟩ <;>
    simp [bodyFields, headThen, Bool.and_assoc]

/-! ## Cutting a line at its first tab -/

theorem columnStop_false {b : UInt8} (tab : inClass tabByte b = false)
    (newline : inClass newlineByte b = false) : inClass columnStop b = false := by
  simp only [inClass, inRanges, columnStop, tabByte, newlineByte, List.any_cons, List.any_nil,
    Bool.or_false, Bool.and_eq_false_iff, decide_eq_false_iff_not] at tab newline ⊢
  omega

/-- A line with no newline is a first column, a tab and the rest, or a single column. -/
theorem line_cases {line : List UInt8} (noNewline : ∀ b ∈ line, inClass newlineByte b = false) :
    (∃ field more, line = field ++ 9 :: more ∧ (∀ b ∈ field, inClass columnStop b = false) ∧
      (∀ b ∈ more, inClass newlineByte b = false) ∧ more.length < line.length ∧
      fieldsOn (inClass tabByte) line = field :: fieldsOn (inClass tabByte) more) ∨
    (∀ b ∈ line, inClass columnStop b = false) ∧ fieldsOn (inClass tabByte) line = [line] := by
  by_cases tabbed : ∃ b ∈ line, inClass tabByte b = true
  · obtain ⟨field, s, more, rfl, clear, tab, shorter⟩ := split_at_first tabbed
    obtain rfl : s = 9 := byte_eq_of_toNat (toNat_of_point tab)
    exact .inl ⟨field, more, rfl,
      fun b member => columnStop_false (clear b member) (noNewline b (List.mem_append_left _ member)),
      fun b member => noNewline b (List.mem_append_right _ (List.mem_cons_of_mem _ member)),
      shorter, fieldsOn_append clear tab more⟩
  · have clear : ∀ b ∈ line, inClass tabByte b = false := fun b member =>
      Bool.eq_false_iff.mpr fun tab => tabbed ⟨b, member, tab⟩
    exact .inr ⟨fun b member => columnStop_false (clear b member) (noNewline b member),
      fieldsOn_of_clear clear⟩

theorem fieldsOn_isEmpty (v : List UInt8) : (fieldsOn (inClass tabByte) v).isEmpty = false := by
  cases fields : fieldsOn (inClass tabByte) v with
  | nil => exact absurd fields (fieldsOn_ne_nil v)
  | cons field fields => rfl

/-! ## One column after another -/

/-- A column that the walk accepts before what comes after it. -/
theorem if_and_of_eq {α : Type} {a b : Bool} {x y : Option α} (later : x = if b then y else none) :
    (if a then x else none) = if (a && b) then y else none := by
  cases a <;> simp [later]

/-- A column that only a tab ends, before the columns `rest` reads. -/
theorem readsLine_column {q next : Nat} {first : List UInt8 → Bool}
    {rest : List (List UInt8) → Bool}
    (reads : ReadsField q (inClass columnStop) first (classWalk [(tabByte, next)]))
    (later : ReadsLine next rest) (nonempty : rest [] = false) :
    ReadsLine q (headThen first rest) := by
  intro line more noNewline
  rcases line_cases noNewline with ⟨field, line', rfl, clean, noNewline', -, fields⟩ |
    ⟨clean, fields⟩
  · rw [fields, List.append_assoc, List.cons_append, reads field 9 _ clean rfl]
    exact if_and_of_eq (later line' more noNewline')
  · rw [fields, reads line 10 more clean rfl]
    exact if_and_of_eq (by rw [nonempty]; rfl)

/-- `INFO`: a tab leads on to the columns `rest` reads, a newline ends the line. -/
theorem readsLine_lastColumn {q next : Nat} {first : List UInt8 → Bool}
    {rest : List (List UInt8) → Bool}
    (reads : ReadsField q (inClass columnStop) first
      (classWalk [(tabByte, next), (newlineByte, 624)]))
    (later : ReadsLine next rest) :
    ReadsLine q (headThen first fun fields => fields.isEmpty || rest fields) := by
  intro line more noNewline
  rcases line_cases noNewline with ⟨field, line', rfl, clean, noNewline', -, fields⟩ |
    ⟨clean, fields⟩
  · rw [fields, List.append_assoc, List.cons_append, reads field 9 _ clean rfl]
    exact if_and_of_eq (by dsimp only; rw [fieldsOn_isEmpty]; exact later line' more noNewline')
  · rw [fields, reads line 10 more clean rfl]
    exact if_and_of_eq rfl

/-- The sample columns: each read from `q` again after a tab, the last ended by the newline. -/
theorem readsLine_items {q : Nat} {item : List UInt8 → Bool}
    (reads : ReadsField q (inClass columnStop) item (classWalk [(tabByte, q), (newlineByte, 624)])) :
    ReadsLine q fun fields => !fields.isEmpty && fields.all item := by
  suffices ∀ n line, line.length < n → ∀ more, (∀ b ∈ line, inClass newlineByte b = false) →
      tableWalk q (line ++ 10 :: more) = if (!(fieldsOn (inClass tabByte) line).isEmpty &&
        (fieldsOn (inClass tabByte) line).all item) then tableWalk 624 more else none from
    fun line more noNewline => this _ line (Nat.lt_succ_self _) more noNewline
  intro n
  induction n with
  | zero => exact fun line short => absurd short (Nat.not_lt_zero _)
  | succ n ih =>
      intro line short more noNewline
      rcases line_cases noNewline with ⟨field, line', rfl, clean, noNewline', shorter, fields⟩ |
        ⟨clean, fields⟩
      · have later := ih line' (by omega) more noNewline'
        rw [fieldsOn_isEmpty, Bool.not_false, Bool.true_and] at later
        rw [fields, List.append_assoc, List.cons_append, reads field 9 _ clean rfl]
        exact if_and_of_eq later
      · rw [fields, reads line 10 more clean rfl]
        exact if_and_of_eq rfl

/-! ## The line -/

/-- From either line start of the body, the table reads the columns of a body line one after
another. -/
theorem readsLine_body {start : Nat} (starts : start = 623 ∨ start = 624) :
    ReadsLine start bodyFields :=
  readsLine_column (readsField_chromColumn starts) (readsLine_column readsField_posColumn
    (readsLine_column readsField_idColumn (readsLine_column readsField_refColumn
      (readsLine_column readsField_altColumn (readsLine_column readsField_qualColumn
        (readsLine_column readsField_filterColumn (readsLine_lastColumn readsField_infoColumn
          (readsLine_column readsField_formatColumn (readsLine_items readsField_sampleColumn)
            rfl)) rfl) rfl) rfl) rfl) rfl) rfl) rfl

theorem newline_false_of_not_mem {line : List UInt8} (oneLine : 10 ∉ line) :
    ∀ b ∈ line, inClass newlineByte b = false := fun b member =>
  Bool.eq_false_iff.mpr fun newline => oneLine (by
    obtain rfl : b = 10 := byte_eq_of_toNat (toNat_of_point newline)
    exact member)

/-- A body line, from either state the table starts a line of the body in: the table accepts the
line and its newline exactly when `validBodyLine` holds, and goes on at the start of the next
line. -/
theorem tableWalk_bodyLine {start : Nat} (starts : start = 623 ∨ start = 624) {line : List UInt8}
    (oneLine : 10 ∉ line) (rest : List UInt8) :
    tableWalk start (line ++ 10 :: rest) =
      if validBodyLine line then tableWalk 624 rest else none := by
  rw [validBodyLine_eq_bodyFields]
  exact readsLine_body starts line rest (newline_false_of_not_mem oneLine)

/-- The scanner reads exactly the body lines `validBodyLine` describes: from a body line start,
a line with no newline in it is read without an error, into a state whose newline leads to the
start of the next line, exactly when it is a valid body line. -/
theorem run_bodyLine_iff {σ : Type} (P : ParsePolicy σ) (s : Parser σ)
    (start : s.cs = 623 ∨ s.cs = 624) (alive : s.thrown = none) {line : List UInt8}
    (oneLine : 10 ∉ line) :
    ((∀ e ∈ (s.run P line).2, e.isError = false) ∧
      (label (s.run P line).1.cs 10).walksTo = some 624) ↔ validBodyLine line = true := by
  have whole := tableWalk_bodyLine start oneLine []
  rw [tableWalk_append] at whole
  constructor
  · rintro ⟨quiet, newline⟩
    obtain ⟨q, walk⟩ := Option.isSome_iff_exists.mp ((run_quiet_iff P line oneLine s alive).mp quiet)
    obtain ⟨cs, -, -⟩ := run_tableWalk_some P line oneLine s alive walk
    rw [walk, Option.some_bind, tableWalk_cons, ← cs, newline] at whole
    cases valid : validBodyLine line
    · rw [valid] at whole
      cases whole
    · rfl
  · intro valid
    rw [valid, if_pos rfl] at whole
    cases walk : tableWalk s.cs line with
    | none =>
        rw [walk] at whole
        cases whole
    | some q =>
        obtain ⟨cs, -, quiet⟩ := run_tableWalk_some P line oneLine s alive walk
        rw [walk, Option.some_bind, tableWalk_cons] at whole
        refine ⟨quiet, ?_⟩
        rw [cs]
        cases moves : (label q 10).walksTo with
        | none =>
            rw [moves] at whole
            cases whole
        | some t =>
            rw [moves] at whole
            exact congrArg some (Option.some.inj whole)

set_option maxRecDepth 20000 in
theorem run_bodyLine_eightColumns :
    10 ∉ bytesOf "1\t5\t.\tA\tC\t.\t.\t." ∧
      (∀ e ∈ ((⟨623, 3, 1, [], (), none⟩ : Parser Unit).run acceptAll
        (bytesOf "1\t5\t.\tA\tC\t.\t.\t.")).2, e.isError = false) :=
  ⟨by decide, ((run_bodyLine_iff acceptAll ⟨623, 3, 1, [], (), none⟩ (.inl rfl) rfl
    (by decide)).mpr (by decide)).1⟩

/-- A run of body lines, each with its newline, from a line start of the body: the table accepts
them all exactly when every one is a valid body line, and then stands at the start of the next
line. -/
theorem tableWalk_bodyLines {start : Nat} (starts : start = 623 ∨ start = 624)
    (lines : List (List UInt8)) (oneLine : ∀ line ∈ lines, 10 ∉ line) :
    tableWalk start (lines.map (· ++ [10])).flatten =
      if lines.all validBodyLine then some (if lines.isEmpty then start else 624) else none := by
  induction lines generalizing start with
  | nil => rfl
  | cons line lines ih =>
      have rest := ih (.inr rfl) fun l member => oneLine l (List.mem_cons_of_mem _ member)
      rw [List.map_cons, List.flatten_cons, List.append_assoc, List.singleton_append,
        tableWalk_bodyLine starts (oneLine line (List.mem_cons_self _ _)), rest, List.all_cons]
      cases validBodyLine line
      · rfl
      · cases lines <;> rfl

theorem tableWalk_bodyLines_two :
    (∀ line ∈ [bytesOf "1\t5\t.\tA\tC\t.\t.\tDB", bytesOf "1\t7\t.\tG\t*\t.\t.\t."], 10 ∉ line) ∧
      tableWalk 623 ([bytesOf "1\t5\t.\tA\tC\t.\t.\tDB", bytesOf "1\t7\t.\tG\t*\t.\t.\t."].map
        (· ++ [10])).flatten = some 624 :=
  ⟨by decide, (tableWalk_bodyLines (.inl rfl) _ (by decide)).trans (by decide)⟩

end VcfValidator
