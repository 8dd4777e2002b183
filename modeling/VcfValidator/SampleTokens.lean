import VcfValidator.Ploidy
import VcfValidator.Checks
import VcfValidator.FieldWalks

/-!
# The samples the check reads

`optional_check_body_entry` takes the samples of a line from `column_tokens("SAMPLES")`: the
tokens the policy assembled through the token handlers. The store policy begins a token at
`handle_token_begin`, adds each byte of `handle_token_char`, files the token under the current
column at `handle_token_end`, and counts the columns at `handle_column_end`. In a sample column
the table calls these handlers in exactly that shape: the first byte begins the token, each later
byte adds to it, and the tab ends the token before the column, as the newline ends the token of
the last column. So at the check of a body line the scanner accepts, the store's `SAMPLES`
tokens are the texts of the line's sample columns, in order, and the ploidy loop of
`optional_check_body_entry` on them is decided by the `/`- or `|`-separated allele counts of
those columns.
-/

namespace VcfValidator

open Scanner

set_option autoImplicit false

/-- The sample columns of a body line: its tab-separated fields from the tenth on. -/
def sampleColumns (line : List UInt8) : List (List UInt8) := (fieldsOn (· == 9) line).drop 9

/-! ## Fields, one byte at a time -/

section

variable {isSep : UInt8 → Bool}

theorem fieldsOn_cons_sep {a : UInt8} (first : isSep a = true) (w : List UInt8) :
    fieldsOn isSep (a :: w) = [] :: fieldsOn isSep w := by
  simp [fieldsOn, first]

theorem fieldsOn_cons_other {a : UInt8} (first : isSep a = false) {w : List UInt8}
    {g : List UInt8} {gs : List (List UInt8)} (found : fieldsOn isSep w = g :: gs) :
    fieldsOn isSep (a :: w) = (a :: g) :: gs := by
  simp [fieldsOn, first, found]

theorem fieldsOn_cons_split (w : List UInt8) : ∃ g gs, fieldsOn isSep w = g :: gs := by
  cases found : fieldsOn isSep w with
  | nil => exact absurd found (fieldsOn_ne_nil w)
  | cons g gs => exact ⟨g, gs, rfl⟩

theorem fieldsOn_snoc_sep (v : List UInt8) {b : UInt8} (separates : isSep b = true) :
    fieldsOn isSep (v ++ [b]) = fieldsOn isSep v ++ [[]] := by
  induction v with
  | nil => simp [fieldsOn, separates]
  | cons a v ih =>
      rw [List.cons_append]
      cases first : isSep a
      · obtain ⟨g, gs, found⟩ : ∃ g gs, fieldsOn isSep v = g :: gs := fieldsOn_cons_split v
        rw [fieldsOn_cons_other first found,
          fieldsOn_cons_other first (by rw [ih, found]; rfl : fieldsOn isSep (v ++ [b]) = g :: (gs ++ [[]]))]
        rfl
      · rw [fieldsOn_cons_sep first, fieldsOn_cons_sep first, ih]
        rfl

theorem fieldsOn_snoc_other (v : List UInt8) {b : UInt8} (other : isSep b = false)
    {fields : List (List UInt8)} {field : List UInt8} (split : fieldsOn isSep v = fields ++ [field]) :
    fieldsOn isSep (v ++ [b]) = fields ++ [field ++ [b]] := by
  induction v generalizing fields field with
  | nil =>
      rcases fields with _ | ⟨f, fs⟩
      · cases (List.cons.inj split).1
        simp [fieldsOn, other]
      · simp [fieldsOn] at split
  | cons a v ih =>
      rw [List.cons_append]
      cases first : isSep a
      · obtain ⟨g, gs, found⟩ : ∃ g gs, fieldsOn isSep v = g :: gs := fieldsOn_cons_split v
        rw [fieldsOn_cons_other first found] at split
        rcases fields with _ | ⟨f, fs⟩
        · obtain ⟨rfl, rfl⟩ : a :: g = field ∧ gs = [] := by simpa using split
          rw [fieldsOn_cons_other first
            (by rw [@ih [] g found]; rfl : fieldsOn isSep (v ++ [b]) = (g ++ [b]) :: [])]
          rfl
        · obtain ⟨rfl, rest⟩ := List.cons.inj split
          rw [fieldsOn_cons_other first (by rw [@ih (g :: fs) field (by rw [found, rest]; rfl)]; rfl :
            fieldsOn isSep (v ++ [b]) = g :: (fs ++ [field ++ [b]]))]
          rfl
      · rw [fieldsOn_cons_sep first] at split
        rcases fields with _ | ⟨f, fs⟩
        · exact absurd (List.cons.inj split).2 (fieldsOn_ne_nil v)
        · obtain ⟨rfl, rest⟩ := List.cons.inj split
          rw [fieldsOn_cons_sep first, ih rest]
          rfl

theorem length_fieldsOn (v : List UInt8) : (fieldsOn isSep v).length = v.countP isSep + 1 := by
  induction v with
  | nil => rfl
  | cons a v ih =>
      cases first : isSep a
      · obtain ⟨g, gs, found⟩ : ∃ g gs, fieldsOn isSep v = g :: gs := fieldsOn_cons_split v
        rw [found, List.length_cons] at ih
        simp [fieldsOn_cons_other first found, List.countP_cons, first]
        omega
      · simp [fieldsOn_cons_sep first, List.countP_cons, first, ih]

end

/-! ## The store's tokens -/

theorem samples_eq (st : StoreState) :
    storePolicy.columnTokens st "SAMPLES" = (st.tokens.filter fun t => 10 ≤ t.1).map (·.2) := by
  simp [storePolicy, StoreState.columnTokens]

theorem textOf_snoc (bytes : List UInt8) (c : UInt8) :
    textOf (bytes ++ [c]) = (textOf bytes).push (Char.ofNat c.toNat) := by
  simp [textOf, String.push]

/-- A call other than the ends of columns and lines, made before the sample columns, keeps the
store's column and its sample tokens. -/
theorem exec_storeCall {a : Action} (call : a.isCall = true) (notColumn : a ≠ .columnEnd)
    (notNewline : a ≠ .newline) (s : Parser StoreState) (c : UInt8) (early : s.policy.column < 10) :
    (s.exec storePolicy c a).1.policy.column = s.policy.column ∧
      storePolicy.columnTokens (s.exec storePolicy c a).1.policy "SAMPLES" =
        storePolicy.columnTokens s.policy "SAMPLES" := by
  have late : ¬ 10 ≤ s.policy.column := by omega
  cases a <;> simp_all [Action.isCall, Parser.exec, Parser.call, storePolicy, StoreState.handle,
    StoreState.columnTokens]

theorem runActions_storeCalls {actions : List Action} (calls : ∀ a ∈ actions, a.isCall = true)
    (noColumn : .columnEnd ∉ actions) (noNewline : .newline ∉ actions) (s : Parser StoreState)
    (c : UInt8) (target : Nat) (alive : s.thrown = none) (early : s.policy.column < 10) :
    (s.runActions storePolicy c actions target).1.policy.column = s.policy.column ∧
      storePolicy.columnTokens (s.runActions storePolicy c actions target).1.policy "SAMPLES" =
        storePolicy.columnTokens s.policy "SAMPLES" := by
  induction actions generalizing s with
  | nil => exact ⟨rfl, rfl⟩
  | cons a actions ih =>
      have call := calls a (List.mem_cons_self a actions)
      have alive₁ := (exec_call storePolicy call s c).2.1.trans alive
      obtain ⟨column, samples⟩ := exec_storeCall call
        (fun same => noColumn (same ▸ List.mem_cons_self _ _))
        (fun same => noNewline (same ▸ List.mem_cons_self _ _)) s c early
      obtain ⟨column₁, samples₁⟩ := ih (fun b member => calls b (List.mem_cons_of_mem a member))
        (fun member => noColumn (List.mem_cons_of_mem a member))
        (fun member => noNewline (List.mem_cons_of_mem a member)) _ alive₁ (column ▸ early)
      rw [runActions_cons storePolicy a (jump_call call) s c actions target alive₁]
      exact ⟨column₁.trans column, samples₁.trans samples⟩

/-- The end of a token, then of its column. -/
theorem runActions_closeToken (s : Parser StoreState) (c : UInt8) (target : Nat)
    (alive : s.thrown = none) :
    (s.runActions storePolicy c [.tokenEnd, .columnEnd] target).1.policy =
      { s.policy with
        tokens := s.policy.tokens ++ [(s.policy.column, s.policy.token)]
        column := s.policy.column + 1 } := by
  simp [Parser.runActions, Parser.exec, Parser.call, Action.jump, storePolicy, StoreState.handle,
    alive]

theorem runActions_closeColumn (s : Parser StoreState) (c : UInt8) (target : Nat)
    (alive : s.thrown = none) :
    (s.runActions storePolicy c [.columnEnd] target).1.policy =
      { s.policy with column := s.policy.column + 1 } := by
  simp [Parser.runActions, Parser.exec, Parser.call, Action.jump, storePolicy, StoreState.handle,
    alive]

theorem runActions_beginToken (s : Parser StoreState) (c : UInt8) (target : Nat)
    (alive : s.thrown = none) :
    (s.runActions storePolicy c [.tokenBegin, .tokenChar] target).1.policy =
      { s.policy with token := textOf [c] } := by
  simp [Parser.runActions, Parser.exec, Parser.call, Action.jump, storePolicy, StoreState.handle,
    alive, textOf, String.push]

theorem runActions_extendToken (s : Parser StoreState) (c : UInt8) (target : Nat)
    (alive : s.thrown = none) :
    (s.runActions storePolicy c [.tokenChar] target).1.policy =
      { s.policy with token := s.policy.token.push (Char.ofNat c.toNat) } := by
  simp [Parser.runActions, Parser.exec, Parser.call, Action.jump, storePolicy, StoreState.handle,
    alive]

/-- Filing the token under the current column adds it to the sample tokens from the tenth column
on. -/
theorem samples_fileToken (st : StoreState) :
    storePolicy.columnTokens { st with tokens := st.tokens ++ [(st.column, st.token)] } "SAMPLES" =
      storePolicy.columnTokens st "SAMPLES" ++ if 10 ≤ st.column then [st.token] else [] := by
  by_cases late : 10 ≤ st.column <;> simp [samples_eq, late]

/-! ## What the table does to the store -/

/-- Whether the label of a tab, read in a body state of column `column`, ends the column as the
store needs: an error; the end of the token, then of the column; or, before the sample columns,
the end of the column alone. -/
def Scanner.Tr.endsColumnTokens (column : Nat) (tr : Tr) : Bool :=
  match tr.actions with
  | .error _ _ :: _ => true
  | actions => actions == [.tokenEnd, .columnEnd] || column < 10 && actions == [.columnEnd]

/-- Whether a label read in the sample state `cs` on a byte other than the newline, a tab exactly
when `tab`, builds the sample's token: an error; on a tab, the end of the token, then of the
column, never from the column's start 421; on another byte, `handle_token_begin` and the first
character from 421, the next character from the other states, and never back into 421. -/
def Scanner.Tr.buildsSample (cs : Nat) (tab : Bool) (tr : Tr) : Bool :=
  match tr.actions with
  | .error _ _ :: _ => true
  | actions => tr.endsLine ||
      if tab then cs != 421 && actions == [.tokenEnd, .columnEnd]
      else tr.target != 421 &&
        actions == if cs == 421 then [.tokenBegin, .tokenChar] else [.tokenChar]

set_option maxRecDepth 20000 in
/-- Every tab a body state reads ends its column so. -/
theorem rows_endColumnTokens :
    (((rows.toList.drop 400).take 225).enumFrom 400).all (fun entry => !isBodyState entry.1 ||
      (entry.2.pick 9).endsColumnTokens (columnOf entry.1)) = true := by
  decide

set_option maxRecDepth 8000 in
/-- The six sample states build the sample's token, and the start 421 of a sample column fails on
the newline. -/
theorem rows_buildSample :
    [421, 422, 428, 429, 430, 431].all (fun cs => (row cs).labelsByTab (Tr.buildsSample cs)) = true ∧
      (label 421 10).walksTo = none := by
  decide

theorem label_endsColumnTokens {cs : Nat} (body : isBodyState cs = true) :
    (label cs 9).endsColumnTokens (columnOf cs) = true := by
  have inside : 400 ≤ cs ∧ cs ≤ 624 := by
    simp only [isBodyState, Bool.or_eq_true, Bool.and_eq_true, decide_eq_true_eq,
      beq_iff_eq] at body
    omega
  have fits := row_of_block rows_endColumnTokens inside.1 (by omega) (by omega)
  rw [body, Bool.not_true, Bool.false_or] at fits
  rw [label, show charOf 9 = 9 by decide]
  exact fits

theorem sampleStage_mem {cs : Nat} {after : Bool} (stage : sampleStage cs = some after) :
    cs ∈ [421, 422, 428, 429, 430, 431] := by
  unfold sampleStage at stage
  split at stage
  · simp only [List.mem_cons, List.mem_singleton]
    omega
  · split at stage
    · simp only [List.mem_cons, List.mem_singleton]
      omega
    · cases stage

theorem label_buildsSample {cs : Nat} {after : Bool} (stage : sampleStage cs = some after) (c : UInt8) :
    (label cs c).buildsSample cs (c == 9) = true :=
  Row.labelsByTab_pick (List.all_eq_true.mp rows_buildSample.1 cs (sampleStage_mem stage)) c

/-- A tab read with no error from the `FORMAT` column or a sample column starts a sample column
in state 421. -/
theorem label_tab_startsSample {cs : Nat} (body : isBodyState cs = true) (late : 9 ≤ columnOf cs)
    (clean : ∀ sec message, .error sec message ∉ (label cs 9).actions) : (label cs 9).target = 421 := by
  have fits := List.all_eq_true.mp rows_tabStartsSample cs (List.mem_range.mpr (by
    simp only [isBodyState, Bool.or_eq_true, Bool.and_eq_true, decide_eq_true_eq,
      beq_iff_eq] at body
    omega))
  rw [body, decide_eq_true late] at fits
  simp only [Bool.and_self, Bool.not_true, Bool.false_or] at fits
  split at fits
  · next sec message rest failing => exact absurd (failing ▸ List.mem_cons_self _ _) (clean sec message)
  · exact beq_iff_eq.mp fits

/-! ## The store over a body line -/

/-- What the store holds after the bytes `read` of a body line, read with no error from the line's
start: its column count; no sample token before the tenth column; and from there the text of
every finished sample column as its `SAMPLES` tokens, no `,` in the genotype of any of them, and
the current sample column, as a position of the sample states and either its start 421 with
nothing read or the token built so far. -/
structure StorePos (s : Parser StoreState) (read : List UInt8) : Prop where
  column : s.policy.column = read.count 9 + 1
  before : read.count 9 < 9 → storePolicy.columnTokens s.policy "SAMPLES" = []
  samples : 9 ≤ read.count 9 → ∃ done cur, (fieldsOn (· == 9) read).drop 9 = done ++ [cur] ∧
    storePolicy.columnTokens s.policy "SAMPLES" = done.map textOf ∧
    (∀ col ∈ done, 44 ∉ col.takeWhile (· != 58)) ∧ SamplePos s.cs cur ∧
    (s.cs = 421 ∧ cur = [] ∨ s.cs ≠ 421 ∧ s.policy.token = textOf cur)

/-- A body line starts with the store's column at 1 and no token, as `handle_newline` leaves it. -/
theorem storePos_start (s : Parser StoreState) (cleared : s.policy.column = 1 ∧ s.policy.tokens = []) :
    StorePos s [] :=
  ⟨cleared.1, fun _ => by rw [samples_eq, cleared.2]; rfl, fun early => absurd early (by decide)⟩

theorem drop_fieldsOn_snoc {read : List UInt8} {c : UInt8} (late : 9 ≤ read.count 9)
    {done : List (List UInt8)} {cur : List UInt8}
    (split : (fieldsOn (· == 9) read).drop 9 = done ++ [cur]) :
    (fieldsOn (· == 9) (read ++ [c])).drop 9 =
      if c = 9 then done ++ [cur] ++ [[]] else done ++ [cur ++ [c]] := by
  have long : 9 ≤ ((fieldsOn (· == 9) read).take 9).length := by
    rw [List.length_take, length_fieldsOn]
    exact Nat.le_min.mpr ⟨Nat.le_refl 9, by simp only [List.count] at late; omega⟩
  have whole : fieldsOn (· == 9) read = (fieldsOn (· == 9) read).take 9 ++ done ++ [cur] := by
    rw [List.append_assoc, ← split, List.take_append_drop]
  split
  · next tab =>
      rw [fieldsOn_snoc_sep read (by rw [tab]; rfl), List.drop_append_of_le_length
        (by rw [length_fieldsOn]; simp only [List.count] at late; omega), split]
  · next other =>
      rw [@fieldsOn_snoc_other (· == 9) read c (beq_eq_false_iff_ne.mpr other) _ _ whole,
        List.append_assoc, List.drop_append_of_le_length long,
        List.drop_eq_nil_of_le (List.length_take_le 9 _), List.nil_append]

theorem count_snoc (read : List UInt8) (c : UInt8) :
    (read ++ [c]).count 9 = read.count 9 + if c = 9 then 1 else 0 := by
  by_cases tab : c = 9 <;> simp [tab, List.count_append, List.count_cons]

/-- A tab read with no error keeps the store's position: the token of a sample column is filed,
its genotype has no `,`, and the next sample column starts in 421. -/
theorem storePos_tab {s : Parser StoreState} {read : List UInt8} (pos : ColumnPos s (read.count 9))
    (store : StorePos s read) (quiet : ∀ e ∈ (s.step storePolicy 9).2, e.isError = false) :
    StorePos (s.step storePolicy 9).1 (read ++ [9]) := by
  obtain ⟨calls, -, -, -, -, same⟩ := label_body_byte storePolicy pos.body pos.alive (by decide) quiet
  have clean : ∀ sec message, .error sec message ∉ (label s.cs 9).actions :=
    fun sec message member => absurd (calls _ member) (by simp [Action.isCall])
  obtain ⟨-, cs, -, -⟩ := runActions_allCalls storePolicy calls (label s.cs 9).target s 9 pos.alive
  have ends := label_endsColumnTokens pos.body
  unfold Tr.endsColumnTokens at ends
  split at ends
  · next sec message rest failing => exact absurd (failing ▸ List.mem_cons_self _ _) (clean sec message)
  simp only [Bool.or_eq_true, Bool.and_eq_true, beq_iff_eq, decide_eq_true_eq] at ends
  have column := pos.column
  have policy : (s.step storePolicy 9).1.policy.column = s.policy.column + 1 ∧
      storePolicy.columnTokens (s.step storePolicy 9).1.policy "SAMPLES" =
        storePolicy.columnTokens s.policy "SAMPLES" ++
          if 10 ≤ s.policy.column then [s.policy.token] else [] := by
    rw [same]
    rcases ends with closes | ⟨early, closes⟩
    · rw [closes, runActions_closeToken _ _ _ pos.alive, ← samples_fileToken]
      exact ⟨rfl, rfl⟩
    · have low : ¬ 10 ≤ s.policy.column := by
        rw [column, Nat.min_eq_min] at early
        rw [store.column]
        omega
      rw [closes, runActions_closeColumn _ _ _ pos.alive, if_neg low, List.append_nil]
      exact ⟨rfl, by simp [samples_eq]⟩
  have target : 9 ≤ columnOf s.cs → (s.step storePolicy 9).1.cs = 421 := fun late => by
    rw [same]
    exact cs.trans (label_tab_startsSample pos.body late clean)
  have counted : (read ++ [9]).count 9 = read.count 9 + 1 := by rw [count_snoc, if_pos rfl]
  refine ⟨by rw [policy.1, store.column, counted], fun early => ?_, fun late => ?_⟩
  · rw [counted] at early
    rw [policy.2, store.before (by omega), if_neg (by rw [store.column]; omega)]
    rfl
  · rw [counted] at late
    have toFirst : 9 ≤ columnOf s.cs := by
      rw [column, Nat.min_eq_min]
      omega
    have start : SamplePos (s.step storePolicy 9).1.cs [] := by
      rw [target toFirst]
      exact ⟨false, [], [], rfl, rfl, List.not_mem_nil _, List.not_mem_nil _, fun _ => rfl,
        Bool.noConfusion⟩
    by_cases first : read.count 9 = 8
    · refine ⟨[], [], ?_, ?_, fun _ member => absurd member (List.not_mem_nil _), start,
        .inl ⟨target toFirst, rfl⟩⟩
      · rw [@fieldsOn_snoc_sep (· == 9) read 9 rfl,
          List.drop_append_of_le_length (by rw [length_fieldsOn]; simp only [List.count] at first; omega),
          List.drop_eq_nil_of_le (by rw [length_fieldsOn]; simp only [List.count] at first; omega)]
      · rw [policy.2, store.before (by omega), if_neg (by rw [store.column]; omega)]
        rfl
    · obtain ⟨done, cur, split, samples, cleanDone, sample, token⟩ := store.samples (by omega)
      have built := label_buildsSample sample.choose_spec.choose_spec.choose_spec.1 9
      unfold Tr.buildsSample at built
      split at built
      · next sec message rest failing => exact absurd (failing ▸ List.mem_cons_self _ _) (clean sec message)
      simp only [label_endsLine (by decide : (9 : UInt8) ≠ 10), Bool.false_or, beq_self_eq_true,
        ite_true, Bool.and_eq_true, bne_iff_ne, ne_eq, beq_iff_eq] at built
      have filed := token.resolve_left fun start => built.1 start.1
      refine ⟨done ++ [cur], [], ?_, ?_, fun col member => ?_, start, .inl ⟨target toFirst, rfl⟩⟩
      · rw [drop_fieldsOn_snoc (by omega) split, if_pos rfl]
      · rw [policy.2, samples, if_pos (by rw [store.column]; omega), filed.2, List.map_append]
        rfl
      · rcases List.mem_append.mp member with member | member
        · exact cleanDone col member
        · rw [List.mem_singleton.mp member]
          exact sample.genotype

/-- A byte other than the tab and the newline, read with no error, keeps the store's position:
before the sample columns the store's sample tokens do not change, and in a sample column the
byte is added to its token. -/
theorem storePos_other {s : Parser StoreState} {read : List UInt8} (pos : ColumnPos s (read.count 9))
    (store : StorePos s read) {c : UInt8} (notTab : c ≠ 9) (notNewline : c ≠ 10)
    (quiet : ∀ e ∈ (s.step storePolicy c).2, e.isError = false) :
    StorePos (s.step storePolicy c).1 (read ++ [c]) := by
  obtain ⟨calls, noNewline, count, -, -, same⟩ := label_body_byte storePolicy pos.body pos.alive notNewline quiet
  have clean : ∀ sec message, .error sec message ∉ (label s.cs c).actions :=
    fun sec message member => absurd (calls _ member) (by simp [Action.isCall])
  obtain ⟨-, cs, -, -⟩ := runActions_allCalls storePolicy calls (label s.cs c).target s c pos.alive
  have counted : (read ++ [c]).count 9 = read.count 9 := by rw [count_snoc, if_neg notTab, Nat.add_zero]
  rw [if_neg notTab] at count
  by_cases late : 9 ≤ read.count 9
  · obtain ⟨done, cur, split, samples, cleanDone, sample, token⟩ := store.samples late
    have built := label_buildsSample sample.choose_spec.choose_spec.choose_spec.1 c
    unfold Tr.buildsSample at built
    split at built
    · next sec message rest failing => exact absurd (failing ▸ List.mem_cons_self _ _) (clean sec message)
    simp only [label_endsLine notNewline, Bool.false_or, beq_eq_false_iff_ne.mpr notTab,
      Bool.false_eq_true, ite_false, Bool.and_eq_true, bne_iff_ne, ne_eq, beq_iff_eq] at built
    obtain ⟨away, shape⟩ := built
    have grown : (s.step storePolicy c).1.policy = { s.policy with token := textOf (cur ++ [c]) } := by
      rw [same]
      by_cases start : s.cs = 421
      · rw [if_pos start] at shape
        rw [shape, runActions_beginToken _ _ _ pos.alive,
          (token.resolve_right fun later => later.1 start).2, List.nil_append]
      · rw [if_neg start] at shape
        rw [shape, runActions_extendToken _ _ _ pos.alive, textOf_snoc,
          (token.resolve_left fun first => start first.1).2]
    have moved : (s.step storePolicy c).1.cs ≠ 421 := by
      rw [same]
      dsimp only
      rw [cs]
      exact away
    refine ⟨by rw [grown, counted]; exact store.column,
      fun early => absurd late (by rw [counted] at early; omega),
      fun _ => ⟨done, cur ++ [c], ?_, by rw [grown, ← samples]; simp [samples_eq], cleanDone,
        (samplePos_step storePolicy sample pos.alive notTab notNewline quiet).1,
        .inr ⟨moved, by rw [grown]⟩⟩⟩
    rw [drop_fieldsOn_snoc late split, if_neg notTab]
  · have kept := runActions_storeCalls calls
      (fun member => absurd (List.count_pos_iff.mpr member) (by omega)) noNewline s c
      (label s.cs c).target pos.alive (by rw [store.column]; omega)
    have after : (s.step storePolicy c).1 =
        (s.runActions storePolicy c (label s.cs c).actions (label s.cs c).target).1 := by
      rw [same]
    rw [← after] at kept
    exact ⟨by rw [kept.1, counted]; exact store.column,
      fun early => by rw [kept.2]; exact store.before (by omega),
      fun early => absurd early (by rw [counted]; exact late)⟩

/-- The bytes of a body line before its newline, read with no error, keep the store's position. -/
theorem storePos_run {s : Parser StoreState} {read : List UInt8} (pos : ColumnPos s (read.count 9))
    (store : StorePos s read) (bytes : List UInt8) (noNewline : 10 ∉ bytes)
    (quiet : ∀ e ∈ (s.run storePolicy bytes).2, e.isError = false) :
    ColumnPos (s.run storePolicy bytes).1 ((read ++ bytes).count 9) ∧
      StorePos (s.run storePolicy bytes).1 (read ++ bytes) := by
  induction bytes generalizing s read with
  | nil => simpa [Parser.run] using ⟨pos, store⟩
  | cons c bytes ih =>
      simp only [List.mem_cons, not_or] at noNewline
      simp only [Parser.run, List.mem_append] at quiet
      have quiet₁ := fun e member => quiet e (.inl member)
      have pos₁ := (columnPos_step storePolicy pos (Ne.symm noNewline.1) quiet₁).1
      rw [← count_snoc] at pos₁
      have store₁ : StorePos (s.step storePolicy c).1 (read ++ [c]) := by
        by_cases tab : c = 9
        · subst tab
          exact storePos_tab pos store quiet₁
        · exact storePos_other pos store tab (Ne.symm noNewline.1) quiet₁
      have next := ih pos₁ store₁ noNewline.2 fun e member => quiet e (.inr member)
      simpa [Parser.run] using next

/-! ## The check at the end of the line -/

theorem samples_lastColumn (u : Parser StoreState) :
    storePolicy.columnTokens (u.lastColumn storePolicy).1.policy "SAMPLES" =
      storePolicy.columnTokens u.policy "SAMPLES" := by
  unfold Parser.lastColumn
  split
  · rw [samples_eq, samples_eq]
    rfl
  · rfl

/-- At the end of a body line the scanner accepts, the newline's `handle_token_end` files the last
sample column's token, and the check reads the texts of all the sample columns, none with a `,`
in its genotype. -/
theorem samples_at_check {s : Parser StoreState} {line : List UInt8} (pos : ColumnPos s (line.count 9))
    (store : StorePos s line) (ends : ∀ sec message, .error sec message ∉ (label s.cs 10).actions) :
    storePolicy.columnTokens ((s.call storePolicy .tokenEnd).1.lastColumn storePolicy).1.policy
        "SAMPLES" = (sampleColumns line).map textOf ∧
      ∀ col ∈ sampleColumns line, 44 ∉ col.takeWhile (· != 58) := by
  have keeps := label_keepsColumns pos.body 10
  have endsLine := label_newline_endsBodyLine pos.body
  unfold Tr.keepsColumns at keeps
  unfold Tr.endsBodyLine at endsLine
  split at keeps
  · next sec message rest failing => exact absurd (failing ▸ List.mem_cons_self _ _) (ends sec message)
  split at endsLine
  · next sec message rest failing => exact absurd (failing ▸ List.mem_cons_self _ _) (ends sec message)
  rw [if_pos endsLine] at keeps
  simp only [Bool.and_eq_true, beq_iff_eq, Bool.or_eq_true, pos.column, Nat.min_eq_min] at keeps
  have column := keeps.2
  rw [samples_lastColumn, show (s.call storePolicy .tokenEnd).1.policy =
    { s.policy with tokens := s.policy.tokens ++ [(s.policy.column, s.policy.token)] } from rfl,
    samples_fileToken]
  by_cases late : 9 ≤ line.count 9
  · obtain ⟨done, cur, split, samples, cleanDone, sample, token⟩ := store.samples late
    have away : s.cs ≠ 421 := fun start => by
      have fails := rows_buildSample.2
      rw [← start] at fails
      unfold Tr.walksTo at fails
      split at fails
      · next sec message rest failing => exact ends sec message (failing ▸ List.mem_cons_self _ _)
      · cases fails
    rw [samples, if_pos (by rw [store.column]; omega), (token.resolve_left fun first => away first.1).2,
      sampleColumns, split, List.map_append]
    refine ⟨rfl, fun col member => ?_⟩
    rcases List.mem_append.mp member with member | member
    · exact cleanDone col member
    · rw [List.mem_singleton.mp member]
      exact sample.genotype
  · have none : sampleColumns line = [] :=
      List.drop_eq_nil_of_le (by rw [length_fieldsOn]; simp only [List.count] at late ⊢; omega)
    rw [store.before (by omega), if_neg (by rw [store.column]; omega), none]
    exact ⟨rfl, fun _ member => absurd member (List.not_mem_nil _)⟩

theorem comma_not_mem_genotypeOf {col : List UInt8} (clean : 44 ∉ col.takeWhile (· != 58)) :
    ',' ∉ genotypeOf (textOf col) := by
  rw [genotypeOf_textOf, List.mem_map]
  rintro ⟨c, member, comma⟩
  rw [charOfByte_eq c 44 ',' rfl] at comma
  exact clean (comma ▸ member)

/-- `optional_check_body_entry` throws the ploidy loop's warning if it has one, and otherwise goes
on as for a line with no sample. -/
theorem optionalCheckBodyEntry_ploidy (samples : List String) (chromosome position : String)
    (records : List Record) (contigs : List MetaValue) (bad : List String) :
    optionalCheckBodyEntry samples chromosome position records contigs bad =
      (ploidyWarning 0 (-1) samples).elim
        (optionalCheckBodyEntry [] chromosome position records contigs bad)
        fun warning => .ok (bad, some warning) := by
  cases warned : ploidyWarning 0 (-1) samples <;> simp [optionalCheckBodyEntry, warned, ploidyWarning]
  rfl

/-- The ploidy check of an accepted body line, read by the store policy from a line start: the
`SAMPLES` tokens the end-of-line check hands `optional_check_body_entry` are the texts of the
line's sample columns. Every allele count is at least 1. On these samples the check raises no
ploidy warning when all the `/`- or `|`-separated allele counts are the first sample's, and goes
on as for a line with no sample; otherwise it throws the warning for the first sample whose count
differs, named by its index from 0, with both counts. -/
theorem ploidy_warning_first_mismatch (s : Parser StoreState) (line : List UInt8)
    (start : s.cs = 623 ∨ s.cs = 624) (alive : s.thrown = none) (fresh : s.nColumns = 1)
    (cleared : s.policy.column = 1 ∧ s.policy.tokens = []) (oneLine : 10 ∉ line)
    (quiet : ∀ e ∈ (s.run storePolicy (line ++ [10])).2, e.isError = false) :
    let samples := (lineInput storePolicy
      (((s.run storePolicy line).1.call storePolicy .tokenEnd).1.lastColumn storePolicy).1).samples
    samples = (sampleColumns line).map textOf ∧ (∀ sample, 1 ≤ genotypeAlleles sample) ∧
      ((∀ sample ∈ samples, genotypeAlleles sample = genotypeAlleles (samples.headD "")) →
        ∀ chromosome position records contigs bad,
          optionalCheckBodyEntry samples chromosome position records contigs bad =
            optionalCheckBodyEntry [] chromosome position records contigs bad) ∧
      ∀ first pre sample post, samples = first :: pre ++ sample :: post →
        (∀ t ∈ pre, genotypeAlleles t = genotypeAlleles first) →
        genotypeAlleles sample ≠ genotypeAlleles first →
        ∀ chromosome position records contigs bad,
          optionalCheckBodyEntry samples chromosome position records contigs bad =
            .ok (bad, some ("Sample #" ++ toString (pre.length + 1) ++ " has " ++
              toString (genotypeAlleles sample) ++ " allele(s), but " ++
              toString (genotypeAlleles first) ++ " were found in others")) := by
  intro samples
  rw [run_append] at quiet
  simp only [List.mem_append] at quiet
  have started : ColumnPos s (List.count 9 ([] : List UInt8)) := columnPos_start start alive fresh
  obtain ⟨pos, store⟩ := storePos_run started (storePos_start s cleared) line oneLine
    fun e member => quiet e (.inl member)
  rw [List.nil_append] at pos store
  have ends : ∀ sec message, .error sec message ∉ (label (s.run storePolicy line).1.cs 10).actions := by
    intro sec message member
    have quiet₁ := fun e member => quiet e (.inr member)
    simp only [Parser.run, List.append_nil] at quiet₁
    rcases step_error_or_run storePolicy _ 10 pos.alive with
      ⟨sec₁, message₁, rest, -, -, -, events⟩ | ⟨clean, -⟩
    · exact absurd (quiet₁ _ (events ▸ List.mem_cons_self _ _)) (by simp [Event.isError])
    · exact clean sec message member
  obtain ⟨read, cleanColumns⟩ := samples_at_check pos store ends
  have tokens : samples = (sampleColumns line).map textOf := read
  have clean : ∀ sample ∈ samples, ',' ∉ genotypeOf sample := by
    intro sample member
    rw [tokens] at member
    obtain ⟨col, inLine, rfl⟩ := List.mem_map.mp member
    exact comma_not_mem_genotypeOf (cleanColumns col inLine)
  refine ⟨tokens, one_le_genotypeAlleles, fun equal chromosome position records contigs bad => ?_,
    fun first pre sample post split counts differs chromosome position records contigs bad => ?_⟩
  · rw [optionalCheckBodyEntry_ploidy, (ploidyWarning_clean_none clean).mpr equal]
    rfl
  · rw [optionalCheckBodyEntry_ploidy,
      (ploidyWarning_clean_some clean _).mpr ⟨first, pre, sample, post, split, counts, differs, rfl⟩]
    rfl

set_option maxRecDepth 20000 in
/-- Three samples of two, two and one alleles, after the eight columns and `FORMAT`: the third,
index 2, is named. -/
theorem ploidy_mismatch_on_third_sample :
    10 ∉ bytesOf "1\t5\t.\tA\tC\t.\t.\t.\tGT\t0/1\t1|0\t1" ∧
      (∀ e ∈ ((⟨624, 4, 1, [], StoreState.init, none⟩ : Parser StoreState).run storePolicy
        (bytesOf "1\t5\t.\tA\tC\t.\t.\t.\tGT\t0/1\t1|0\t1" ++ [10])).2, e.isError = false) ∧
      optionalCheckBodyEntry (lineInput storePolicy
        ((((⟨624, 4, 1, [], StoreState.init, none⟩ : Parser StoreState).run storePolicy
          (bytesOf "1\t5\t.\tA\tC\t.\t.\t.\tGT\t0/1\t1|0\t1")).1.call storePolicy .tokenEnd).1.lastColumn
            storePolicy).1).samples "1" "5" [] [] [] =
        .ok ([], some "Sample #2 has 1 allele(s), but 2 were found in others") := by
  have oneLine : 10 ∉ bytesOf "1\t5\t.\tA\tC\t.\t.\t.\tGT\t0/1\t1|0\t1" := by decide
  have quiet : ∀ e ∈ ((⟨624, 4, 1, [], StoreState.init, none⟩ : Parser StoreState).run storePolicy
      (bytesOf "1\t5\t.\tA\tC\t.\t.\t.\tGT\t0/1\t1|0\t1" ++ [10])).2, e.isError = false := by
    decide
  have facts := ploidy_warning_first_mismatch ⟨624, 4, 1, [], StoreState.init, none⟩
    (bytesOf "1\t5\t.\tA\tC\t.\t.\t.\tGT\t0/1\t1|0\t1") (.inr rfl) rfl rfl ⟨rfl, rfl⟩ oneLine quiet
  refine ⟨oneLine, quiet, ?_⟩
  rw [facts.2.2.2 "0/1" ["1|0"] "1" [] (facts.1.trans (by decide)) (by decide) (by decide)]
  rfl

end VcfValidator
