import VcfValidator.Step

/-!
# The table as an automaton

Inside a line the scanner is a deterministic automaton. A byte whose label starts with an error
action is rejected: the handler reports it and the skip state swallows the rest of the line.
Every other label of a byte that is not the newline only calls handlers and moves to its
target. `tableWalk` is that automaton, read off the table, and `run_quiet_iff` says that the
scanner refines it: on a stretch of a line, a run raises no error exactly when the walk accepts
the stretch, and it then stops in the walk's state. The field grammars of the later modules are
stated over `tableWalk` and read back to runs through this.
-/

namespace VcfValidator

open Scanner

set_option autoImplicit false

/-- Where a label takes the automaton: nowhere if its first action is an error, its target
otherwise. -/
def Scanner.Tr.walksTo (tr : Tr) : Option Nat :=
  match tr.actions with
  | .error _ _ :: _ => none
  | _ => some tr.target

/-- The automaton of the table from the state `cs`: the state after `bytes`, or `none` when one
of them is rejected. -/
def tableWalk : Nat → List UInt8 → Option Nat
  | cs, [] => some cs
  | cs, c :: bytes => (label cs c).walksTo.bind fun next => tableWalk next bytes

@[simp] theorem tableWalk_nil (cs : Nat) : tableWalk cs [] = some cs := rfl

@[simp] theorem tableWalk_cons (cs : Nat) (c : UInt8) (bytes : List UInt8) :
    tableWalk cs (c :: bytes) = (label cs c).walksTo.bind fun next => tableWalk next bytes := rfl

theorem tableWalk_append (cs : Nat) (first rest : List UInt8) :
    tableWalk cs (first ++ rest) = (tableWalk cs first).bind fun next => tableWalk next rest := by
  induction first generalizing cs with
  | nil => rfl
  | cons c first ih =>
      simp only [List.cons_append, tableWalk_cons, ih]
      cases (label cs c).walksTo <;> rfl

theorem tableWalk_append_of_walk {cs next : Nat} {first : List UInt8} (walk : tableWalk cs first = some next)
    (rest : List UInt8) : tableWalk cs (first ++ rest) = tableWalk next rest := by
  rw [tableWalk_append, walk]
  rfl

theorem Scanner.Tr.walksTo_target {tr : Tr} {next : Nat} (walk : tr.walksTo = some next) :
    tr.target = next := by
  unfold Tr.walksTo at walk
  split at walk
  · cases walk
  · exact Option.some.inj walk

/-- The label of a byte other than the newline fails first or only calls handlers. -/
theorem label_fails_or_calls {c : UInt8} (other : c ≠ 10) (cs : Nat) :
    (label cs c).walksTo = none ∨ ∀ a ∈ (label cs c).actions, a.isCall = true := by
  have quiet := label_endsLine other cs
  rcases Tr.wellFormed_cases (label_wellFormed cs c) with ⟨sec, message, rest, failing⟩ | calls |
    ⟨pre, same, -⟩ | ⟨pre, same, -⟩ | same | same
  · exact .inl (by rw [Tr.walksTo, failing])
  · exact .inr calls
  all_goals simp [Tr.endsLine, same] at quiet

/-! ## Rows read as byte classes -/

theorem byte_eq_of_toNat {c d : UInt8} (same : c.toNat = d.toNat) : c = d :=
  UInt8.eq_of_val_eq (Fin.ext same)

/-- Whether the byte `n` lies in one of the `ranges`, each given by its first and last byte. -/
def inRanges (ranges : List (Nat × Nat)) (n : Nat) : Bool := ranges.any fun r => r.1 ≤ n && n ≤ r.2

/-- A class of bytes given by its ranges. -/
def inClass (ranges : List (Nat × Nat)) (c : UInt8) : Bool := inRanges ranges c.toNat

/-- Where the classes of `spec` take a byte: the target of the first class it is in, nowhere if
it is in none. -/
def classWalk (spec : List (List (Nat × Nat) × Nat)) (c : UInt8) : Option Nat :=
  (spec.find? fun entry => inClass entry.1 c).map (·.2)

/-- Whether a row moves as the classes of `spec` say, checked on the ranges and not byte by
byte: its failing `goto`; every leaf a range of ASCII bytes inside a range of a class, with that
class's target; every range of a class inside a leaf; and classes of different targets apart. -/
def Scanner.Row.walksBy (spec : List (List (Nat × Nat) × Nat)) (row : Row) : Bool :=
  row.other.walksTo.isNone &&
    row.edges.all (fun edge => decide (0 ≤ edge.lo) && decide (edge.hi < 128) &&
      spec.any fun entry => edge.tr.walksTo == some entry.2 &&
        entry.1.any fun r => decide ((r.1 : Int) ≤ edge.lo) && decide (edge.hi ≤ (r.2 : Int))) &&
    spec.all (fun entry => entry.1.all fun r =>
      row.edges.any fun edge => decide (edge.lo ≤ (r.1 : Int)) && decide ((r.2 : Int) ≤ edge.hi)) &&
    spec.all fun entry => spec.all fun other => entry.2 == other.2 ||
      entry.1.all fun r => other.1.all fun r' => r.2 < r'.1 || r'.2 < r.1

theorem Scanner.Row.pick_find (row : Row) (x : Int) :
    ((∀ edge ∈ row.edges, edge.admits x = false) ∧ row.pick x = row.other) ∨
      ∃ edge ∈ row.edges, edge.admits x = true ∧ row.pick x = edge.tr := by
  unfold Row.pick
  split
  · next edge found =>
      exact .inr ⟨edge, List.mem_of_find?_eq_some found, by simpa using List.find?_some found, rfl⟩
  · next missing =>
      exact .inl ⟨fun edge member => by simpa using List.find?_eq_none.mp missing edge member, rfl⟩

theorem mem_inRanges {ranges : List (Nat × Nat)} {n : Nat} :
    inRanges ranges n = true ↔ ∃ r ∈ ranges, r.1 ≤ n ∧ n ≤ r.2 := by
  simp [inRanges]

theorem label_walksBy {cs : Nat} {spec : List (List (Nat × Nat) × Nat)}
    (fits : (row cs).walksBy spec = true) (c : UInt8) : (label cs c).walksTo = classWalk spec c := by
  simp only [Row.walksBy, Bool.and_eq_true, List.all_eq_true, List.any_eq_true, Bool.or_eq_true,
    beq_iff_eq, decide_eq_true_eq, Option.isNone_iff_eq_none] at fits
  obtain ⟨⟨⟨other, leaves⟩, covered⟩, apart⟩ := fits
  have bound : c.toNat < 256 := c.val.isLt
  rcases (row cs).pick_find (charOf c) with ⟨outside, same⟩ | ⟨edge, member, admits, same⟩
  · rw [label, same, other, classWalk, List.find?_eq_none.mpr, Option.map_none']
    intro entry inSpec inside
    obtain ⟨r, inEntry, low, high⟩ := mem_inRanges.mp inside
    obtain ⟨edge, member, below, above⟩ := covered entry inSpec r inEntry
    have ascii := (leaves edge member).1.2
    have admits := outside edge member
    simp only [Edge.admits, charOf, Bool.and_eq_false_iff, decide_eq_false_iff_not] at admits
    split at admits <;> omega
  · obtain ⟨⟨low, high⟩, entry, inSpec, target, r, inEntry, below, above⟩ := leaves edge member
    simp only [Edge.admits, Bool.and_eq_true, decide_eq_true_eq, charOf] at admits
    have ascii : c.toNat < 128 := by split at admits <;> omega
    have inside : inClass entry.1 c = true :=
      mem_inRanges.mpr ⟨r, inEntry, by rw [if_pos ascii] at admits; omega⟩
    have some : (spec.find? fun entry => inClass entry.1 c).isSome :=
      List.find?_isSome.mpr ⟨entry, inSpec, inside⟩
    obtain ⟨first, found⟩ := Option.isSome_iff_exists.mp some
    have firstInside := List.find?_some found
    obtain ⟨r', inFirst, low', high'⟩ := mem_inRanges.mp firstInside
    rcases apart first (List.mem_of_find?_eq_some found) entry inSpec with sameTarget | disjoint
    · rw [label, same, target, classWalk, found, Option.map_some', sameTarget]
    · have := disjoint r' inFirst r inEntry
      rw [if_pos ascii] at admits
      omega

/-! ## Rows read range by range

`walksBy` needs every leaf inside one class. A row whose early leaves carve bytes out of a later,
wider leaf is read instead in its own order: `coversFrom` follows the leaves a range meets, as
`Row.pick` does for each byte of the range. -/

/-- The first leaf that admits the byte decides; the later ones are not read. -/
theorem Scanner.Row.pick_cons (edge : Edge) (edges : List Edge) (other : Tr) (x : Int) :
    (Row.mk (edge :: edges) other).pick x =
      if edge.admits x then edge.tr else (Row.mk edges other).pick x := by
  by_cases admits : edge.admits x <;> simp [Row.pick, List.find?_cons, admits]

/-- Whether every byte from `lo` to `hi`, as `(*p)` compares them, picks a label that walks to
`next`, among `edges` and then `other`: each leaf that meets the range walks there, and the
first that holds all of it ends the search. -/
def coversFrom (next : Option Nat) (lo hi : Int) (other : Tr) : List Edge → Bool
  | [] => other.walksTo == next
  | edge :: edges =>
      if decide (edge.hi < lo) || decide (hi < edge.lo) then coversFrom next lo hi other edges
      else edge.tr.walksTo == next &&
        (decide (edge.lo ≤ lo) && decide (hi ≤ edge.hi) || coversFrom next lo hi other edges)

theorem Scanner.Row.pick_coversFrom {next : Option Nat} {lo hi : Int} {other : Tr}
    {edges : List Edge} (covers : coversFrom next lo hi other edges = true) {x : Int}
    (low : lo ≤ x) (high : x ≤ hi) : ((Row.mk edges other).pick x).walksTo = next := by
  induction edges with
  | nil => simpa [coversFrom, Row.pick_nil] using covers
  | cons edge edges ih =>
      rw [Row.pick_cons]
      unfold coversFrom at covers
      split at covers
      · next apart =>
          simp only [Bool.or_eq_true, decide_eq_true_eq] at apart
          have missed : edge.admits x = false := by
            simp only [Edge.admits, Bool.and_eq_false_iff, decide_eq_false_iff_not]
            omega
          rw [missed]
          exact ih covers
      · simp only [Bool.and_eq_true, beq_iff_eq, Bool.or_eq_true, decide_eq_true_eq] at covers
        obtain ⟨walks, whole | later⟩ := covers
        · have admits : edge.admits x = true := by
            simp only [Edge.admits, Bool.and_eq_true, decide_eq_true_eq]
            omega
          rw [if_pos admits]
          exact walks
        · split
          · exact walks
          · exact ih later

/-- `(*p)` for the byte `n`, as `charOf` computes it. -/
def charOfNat (n : Nat) : Int := if n < 128 then n else n - 256

/-- Whether the bytes of each class of `spec` pick labels that walk to the class's target:
checked on the ranges, each below 128 or from 128 on, where `(*p)` is negative. -/
def Scanner.Row.walksOn (spec : List (List (Nat × Nat) × Option Nat)) (row : Row) : Bool :=
  spec.all fun entry => entry.1.all fun r => (decide (r.2 < 128) || decide (128 ≤ r.1)) &&
    coversFrom entry.2 (charOfNat r.1) (charOfNat r.2) row.other row.edges

theorem Scanner.Row.pick_walksOn {spec : List (List (Nat × Nat) × Option Nat)} {row : Row}
    (fits : row.walksOn spec = true) {ranges : List (Nat × Nat)} {next : Option Nat}
    (entry : (ranges, next) ∈ spec) {c : UInt8} (inside : inClass ranges c = true) :
    (row.pick (charOf c)).walksTo = next := by
  simp only [Row.walksOn, List.all_eq_true, Bool.and_eq_true, Bool.or_eq_true,
    decide_eq_true_eq] at fits
  obtain ⟨r, member, low, high⟩ := mem_inRanges.mp inside
  obtain ⟨side, covers⟩ := fits _ entry r member
  have bound : c.toNat < 256 := c.val.isLt
  refine Row.pick_coversFrom covers ?_ ?_ <;> unfold charOfNat charOf <;> split <;> split <;> omega

/-! ## Rows that copy another

A trie woven into the table is a set of states that each copy one row but for the leaves of the
bytes that lead on in the trie. `like` checks such a copy on the leaf lists, and `pick_like` reads
every other byte in the copy as in the row it copies. -/

deriving instance DecidableEq for Scanner.Edge

/-- Whether a leaf is the leaf of one of the bytes `except` alone. -/
def Scanner.Edge.isLeafOn (except : List Nat) (edge : Edge) : Bool :=
  decide (edge.lo = edge.hi) && except.any fun b => decide (edge.lo = b)

/-- Whether a row is `template` but for leaves of single bytes of `except`: the same other leaves
in the same order, and a final `goto` that walks where the template's does. -/
def Scanner.Row.like (row template : Row) (except : List Nat) : Bool :=
  row.edges.filter (fun edge => !edge.isLeafOn except) ==
      template.edges.filter (fun edge => !edge.isLeafOn except) &&
    row.other.walksTo == template.other.walksTo

theorem find?_admits_filter {except : List Nat} {x : Int} (outside : ∀ b ∈ except, x ≠ b)
    (edges : List Edge) :
    (edges.filter fun edge => !edge.isLeafOn except).find? (·.admits x) =
      edges.find? (·.admits x) := by
  induction edges with
  | nil => rfl
  | cons edge edges ih =>
      by_cases admits : edge.admits x
      · have kept : edge.isLeafOn except = false := by
          simp only [Edge.admits, Bool.and_eq_true, decide_eq_true_eq] at admits
          simp only [Edge.isLeafOn, Bool.and_eq_false_iff, decide_eq_false_iff_not,
            List.any_eq_false, decide_eq_true_eq]
          refine Decidable.or_iff_not_imp_left.mpr fun single b member same => outside b member ?_
          omega
        simp [List.filter_cons, kept, List.find?_cons, admits]
      · by_cases leaf : edge.isLeafOn except <;>
          simp [List.filter_cons, leaf, List.find?_cons, admits, ih]

theorem Scanner.Row.pick_like {template row : Row} {except : List Nat}
    (fits : row.like template except = true) {x : Int} (outside : ∀ b ∈ except, x ≠ b) :
    (row.pick x).walksTo = (template.pick x).walksTo := by
  simp only [Row.like, Bool.and_eq_true, beq_iff_eq] at fits
  unfold Row.pick
  rw [← find?_admits_filter outside row.edges, fits.1, find?_admits_filter outside]
  cases template.edges.find? (·.admits x) with
  | none => exact fits.2
  | some edge => rfl

/-- A byte outside a list of bytes is not compared equal to any of them. -/
theorem charOf_ne_of_not_mem {c : UInt8} {except : List Nat} (outside : c.toNat ∉ except) :
    ∀ b ∈ except, charOf c ≠ b := by
  intro b member same
  have bound : c.toNat < 256 := c.val.isLt
  unfold charOf at same
  split at same
  · exact outside (by rw [show c.toNat = b by omega]; exact member)
  · omega

section

variable {σ : Type} (P : ParsePolicy σ)

theorem step_walksTo_some (s : Parser σ) (alive : s.thrown = none) {c : UInt8} (other : c ≠ 10)
    {next : Nat} (walk : (label s.cs c).walksTo = some next) :
    (s.step P c).1.cs = next ∧ (s.step P c).1.thrown = none ∧
      ∀ e ∈ (s.step P c).2, e.isError = false := by
  rcases label_fails_or_calls other s.cs with fails | calls
  · rw [fails] at walk
    cases walk
  rcases step_error_or_run P s c alive with ⟨sec, message, rest, failing, -⟩ | ⟨-, same⟩
  · exact absurd (calls _ (failing ▸ List.mem_cons_self _ _)) (by simp [Action.isCall])
  obtain ⟨-, cs, alive₁, quiet⟩ := runActions_allCalls P calls (label s.cs c).target s c alive
  rw [same]
  exact ⟨cs.trans (Tr.walksTo_target walk), alive₁, quiet⟩

theorem step_walksTo_none (s : Parser σ) (alive : s.thrown = none) {c : UInt8}
    (walk : (label s.cs c).walksTo = none) : ∃ e ∈ (s.step P c).2, e.isError = true := by
  rcases step_error_or_run P s c alive with ⟨sec, message, rest, -, -, -, events⟩ | ⟨clean, -⟩
  · rw [events]
    exact ⟨_, List.mem_cons_self _ _, rfl⟩
  · unfold Tr.walksTo at walk
    split at walk
    · next sec message rest failing =>
        exact absurd (failing ▸ List.mem_cons_self _ _) (clean sec message)
    · cases walk

/-- An accepted stretch of a line is read without error, into the walk's state. -/
theorem run_tableWalk_some (bytes : List UInt8) (noNewline : 10 ∉ bytes) (s : Parser σ)
    (alive : s.thrown = none) {last : Nat} (walk : tableWalk s.cs bytes = some last) :
    (s.run P bytes).1.cs = last ∧ (s.run P bytes).1.thrown = none ∧
      ∀ e ∈ (s.run P bytes).2, e.isError = false := by
  induction bytes generalizing s with
  | nil => exact ⟨Option.some.inj walk, alive, by simp [Parser.run]⟩
  | cons c bytes ih =>
      simp only [List.mem_cons, not_or] at noNewline
      rw [tableWalk_cons] at walk
      cases moves : (label s.cs c).walksTo with
      | none => rw [moves] at walk; cases walk
      | some next =>
          rw [moves] at walk
          obtain ⟨cs, alive₁, quiet⟩ :=
            step_walksTo_some P s alive (Ne.symm noNewline.1) moves
          obtain ⟨cs₂, alive₂, quiet₂⟩ := ih noNewline.2 _ alive₁ (by rw [cs]; exact walk)
          simp only [Parser.run, List.mem_append]
          exact ⟨cs₂, alive₂, fun e member => member.elim (quiet e) (quiet₂ e)⟩

/-- A rejected stretch of a line raises an error. -/
theorem run_tableWalk_none (bytes : List UInt8) (noNewline : 10 ∉ bytes) (s : Parser σ)
    (alive : s.thrown = none) (walk : tableWalk s.cs bytes = none) :
    ∃ e ∈ (s.run P bytes).2, e.isError = true := by
  induction bytes generalizing s with
  | nil => cases walk
  | cons c bytes ih =>
      simp only [List.mem_cons, not_or] at noNewline
      rw [tableWalk_cons] at walk
      simp only [Parser.run, List.mem_append]
      cases moves : (label s.cs c).walksTo with
      | none =>
          obtain ⟨e, member, error⟩ := step_walksTo_none P s alive moves
          exact ⟨e, .inl member, error⟩
      | some next =>
          rw [moves] at walk
          obtain ⟨cs, alive₁, -⟩ := step_walksTo_some P s alive (Ne.symm noNewline.1) moves
          obtain ⟨e, member, error⟩ := ih noNewline.2 _ alive₁ (by rw [cs]; exact walk)
          exact ⟨e, .inr member, error⟩

/-- The scanner refines the table's automaton: a stretch of a line is read without error
exactly when the walk accepts it. -/
theorem run_quiet_iff (bytes : List UInt8) (noNewline : 10 ∉ bytes) (s : Parser σ)
    (alive : s.thrown = none) :
    (∀ e ∈ (s.run P bytes).2, e.isError = false) ↔ (tableWalk s.cs bytes).isSome := by
  constructor
  · intro quiet
    cases walk : tableWalk s.cs bytes with
    | some last => rfl
    | none =>
        obtain ⟨e, member, error⟩ := run_tableWalk_none P bytes noNewline s alive walk
        rw [quiet e member] at error
        cases error
  · intro accepted
    obtain ⟨last, walk⟩ := Option.isSome_iff_exists.mp accepted
    exact (run_tableWalk_some P bytes noNewline s alive walk).2.2

end

end VcfValidator
