import VcfValidator.InfoKeys

/-!
# Fields read up to a stop byte

A body line is read column by column, each column up to its tab, and inside a column item by item,
each up to its separator. `ReadsField entry stop lang exits` says how the table reads one such
field from the state `entry`: a field `v` with no stop byte, followed by the stop byte `c`, is
accepted exactly when `v` is in the language `lang`, and the walk goes on from where `exits`
takes `c`. Each field is proved so once, from one equation per state of its sub-automaton
(`readsField_of_routes`), and separated items make a field (`readsField_itemsOn`).

The states are read through `Row.walksAs`: a row moves as a list of named byte classes, checked
range by range in the order of its leaves, as `Row.pick` reads them, so a leaf that takes one
byte out of a wider leaf after it is read as the table reads it.
-/

namespace VcfValidator

open Scanner

set_option autoImplicit false

/-! ## Rows read as named classes -/

/-- Whether every byte from `lo` to `hi` lies in one of `ranges`, each range taken from the byte
it covers first; `fuel` bounds the ranges chained. -/
def rangesCover (ranges : List (Nat × Nat)) : Nat → Nat → Nat → Bool
  | 0, lo, hi => decide (hi < lo)
  | fuel + 1, lo, hi => decide (hi < lo) ||
      ranges.any fun r => decide (r.1 ≤ lo) && decide (lo ≤ r.2) && rangesCover ranges fuel (r.2 + 1) hi

theorem inRanges_of_rangesCover {ranges : List (Nat × Nat)} {fuel lo hi n : Nat}
    (covers : rangesCover ranges fuel lo hi = true) (low : lo ≤ n) (high : n ≤ hi) :
    inRanges ranges n = true := by
  induction fuel generalizing lo with
  | zero =>
      simp only [rangesCover, decide_eq_true_eq] at covers
      omega
  | succ fuel ih =>
      simp only [rangesCover, Bool.or_eq_true, decide_eq_true_eq, List.any_eq_true,
        Bool.and_eq_true] at covers
      rcases covers with empty | ⟨r, member, ⟨⟨first, inside⟩, rest⟩⟩
      · omega
      · by_cases within : n ≤ r.2
        · exact mem_inRanges.mpr ⟨r, member, by omega, within⟩
        · exact ih rest (by omega)

/-- Whether a row moves as the classes of `spec` say: its failing `goto` for a byte in no class;
every leaf a range of ASCII bytes, each in some class; and every range of a class read, in the
order of the leaves, to that class's target. -/
def Scanner.Row.walksAs (spec : List (List (Nat × Nat) × Nat)) (row : Row) : Bool :=
  row.other.walksTo.isNone &&
    row.edges.all (fun edge => decide (0 ≤ edge.lo) && decide (edge.hi < 128) &&
      rangesCover (spec.flatMap (·.1)) 128 edge.lo.toNat edge.hi.toNat) &&
    spec.all fun entry => entry.1.all fun r =>
      decide (r.2 < 128) && coversFrom (some entry.2) r.1 r.2 row.other row.edges

theorem label_walksAs {cs : Nat} {spec : List (List (Nat × Nat) × Nat)}
    (fits : (row cs).walksAs spec = true) (c : UInt8) : (label cs c).walksTo = classWalk spec c := by
  simp only [Row.walksAs, Bool.and_eq_true, List.all_eq_true, decide_eq_true_eq,
    Option.isNone_iff_eq_none] at fits
  obtain ⟨⟨other, leaves⟩, read⟩ := fits
  have bound : c.toNat < 256 := c.val.isLt
  cases found : spec.find? fun entry => inClass entry.1 c with
  | some entry =>
      have inside : inClass entry.1 c = true := List.find?_some (p := fun entry : List (Nat × Nat) × Nat => inClass entry.1 c) found
      obtain ⟨r, inEntry, low, high⟩ := mem_inRanges.mp inside
      obtain ⟨ascii, covers⟩ := read entry (List.mem_of_find?_eq_some found) r inEntry
      have small : c.toNat < 128 := by omega
      rw [classWalk, found, Option.map_some', label]
      exact Row.pick_coversFrom covers (by simp only [charOf, if_pos small]; omega)
        (by simp only [charOf, if_pos small]; omega)
  | none =>
      rw [classWalk, found, Option.map_none', label]
      rcases (row cs).pick_find (charOf c) with ⟨-, same⟩ | ⟨edge, member, admits, same⟩
      · rw [same, other]
      · obtain ⟨⟨low, high⟩, covers⟩ := leaves edge member
        simp only [Edge.admits, Bool.and_eq_true, decide_eq_true_eq, charOf] at admits
        have small : c.toNat < 128 := by split at admits <;> omega
        rw [if_pos small] at admits
        obtain ⟨r, inAll, first, last⟩ := mem_inRanges.mp (inRanges_of_rangesCover covers
          (n := c.toNat) (by omega) (by omega))
        obtain ⟨entry, inSpec, inEntry⟩ := List.mem_flatMap.mp inAll
        have inside : inClass entry.1 c = true := mem_inRanges.mpr ⟨r, inEntry, first, last⟩
        exact absurd (List.find?_eq_none.mp found entry inSpec) (by rw [inside]; decide)


@[simp] theorem classWalk_nil (c : UInt8) : classWalk [] c = none := rfl

@[simp] theorem classWalk_cons (A : List (Nat × Nat)) (t : Nat) (spec : List (List (Nat × Nat) × Nat))
    (c : UInt8) : classWalk ((A, t) :: spec) c = if inClass A c then some t else classWalk spec c := by
  by_cases inside : inClass A c <;> simp [classWalk, List.find?_cons, inside]

theorem classWalk_append (spec more : List (List (Nat × Nat) × Nat)) (c : UInt8) :
    classWalk (spec ++ more) c = (classWalk spec c).or (classWalk more c) := by
  induction spec with
  | nil => rfl
  | cons entry spec ih =>
      obtain ⟨A, t⟩ := entry
      by_cases inside : inClass A c = true <;> simp [inside, ih]

theorem classWalk_some {spec : List (List (Nat × Nat) × Nat)} {c : UInt8} {t : Nat}
    (walks : classWalk spec c = some t) : ∃ entry ∈ spec, inClass entry.1 c = true ∧ entry.2 = t := by
  obtain ⟨entry, found, rfl⟩ := Option.map_eq_some'.mp walks
  exact ⟨entry, List.mem_of_find?_eq_some found,
    List.find?_some (p := fun entry : List (Nat × Nat) × Nat => inClass entry.1 c) found, rfl⟩

theorem classWalk_none {spec : List (List (Nat × Nat) × Nat)} {c : UInt8}
    (outside : ∀ entry ∈ spec, inClass entry.1 c = false) : classWalk spec c = none := by
  induction spec with
  | nil => rfl
  | cons entry spec ih =>
      rw [classWalk_cons, if_neg (by simp [outside entry (List.mem_cons_self _ _)]),
        ih fun other member => outside other (List.mem_cons_of_mem _ member)]

/-- Whether every range of `A` lies inside a range of `B`. -/
def subClass (A B : List (Nat × Nat)) : Bool :=
  A.all fun r => B.any fun r' => r'.1 ≤ r.1 && r.2 ≤ r'.2

/-- Whether no range of `A` meets a range of `B`. -/
def classesApart (A B : List (Nat × Nat)) : Bool :=
  A.all fun r => B.all fun r' => r.2 < r'.1 || r'.2 < r.1

theorem inClass_of_subClass {A B : List (Nat × Nat)} (sub : subClass A B = true) {c : UInt8}
    (inside : inClass A c = true) : inClass B c = true := by
  obtain ⟨r, member, low, high⟩ := mem_inRanges.mp inside
  simp only [subClass, List.all_eq_true, List.any_eq_true, Bool.and_eq_true, decide_eq_true_eq] at sub
  obtain ⟨r', member', first, last⟩ := sub r member
  exact mem_inRanges.mpr ⟨r', member', by omega, by omega⟩

theorem inClass_of_classesApart {A B : List (Nat × Nat)} (apart : classesApart A B = true)
    {c : UInt8} (inside : inClass A c = true) : inClass B c = false := by
  obtain ⟨r, member, low, high⟩ := mem_inRanges.mp inside
  simp only [classesApart, List.all_eq_true, Bool.or_eq_true, decide_eq_true_eq] at apart
  refine Bool.eq_false_iff.mpr fun inB => ?_
  obtain ⟨r', member', low', high'⟩ := mem_inRanges.mp inB
  rcases apart r member r' member' with before | after <;> omega

theorem classesApart_of_append {S A B : List (Nat × Nat)} (apart : classesApart S (A ++ B) = true) :
    classesApart S A = true ∧ classesApart S B = true := by
  simp only [classesApart, List.all_append, List.all_eq_true, Bool.and_eq_true] at apart ⊢
  exact ⟨fun r member => (apart r member).1, fun r member => (apart r member).2⟩

theorem inClass_false_of_subClass {A B : List (Nat × Nat)} (sub : subClass A B = true) {c : UInt8}
    (outside : inClass B c = false) : inClass A c = false :=
  Bool.eq_false_iff.mpr fun inside => by
    rw [inClass_of_subClass sub inside] at outside
    cases outside

/-- Whether the ranges of `B` together cover every range of `A`. -/
def coveredBy (A B : List (Nat × Nat)) : Bool := A.all fun r => rangesCover B (B.length + 1) r.1 r.2

theorem inClass_of_coveredBy {A B : List (Nat × Nat)} (covered : coveredBy A B = true) {c : UInt8}
    (inside : inClass A c = true) : inClass B c = true := by
  obtain ⟨r, member, low, high⟩ := mem_inRanges.mp inside
  exact inRanges_of_rangesCover (List.all_eq_true.mp covered r member) low high

theorem classesApart_append_left (A B C : List (Nat × Nat)) :
    classesApart (A ++ B) C = (classesApart A C && classesApart B C) := by
  simp [classesApart, List.all_append]

theorem classesApart_of_subClass {S A B : List (Nat × Nat)} (apart : classesApart S A = true)
    (sub : subClass B A = true) : classesApart S B = true := by
  simp only [classesApart, subClass, List.all_eq_true, List.any_eq_true, Bool.and_eq_true,
    Bool.or_eq_true, decide_eq_true_eq] at apart sub ⊢
  intro r member r' member'
  obtain ⟨r'', member'', low, high⟩ := sub r' member'
  rcases apart r member r'' member'' with before | after <;> omega

/-! ## Fields between separators -/

/-- The fields of `v` between separators, the bytes `isSep` holds of: every separator closes a
field, empty fields included, and the bytes after the last one are the last field. -/
def fieldsOn (isSep : UInt8 → Bool) : List UInt8 → List (List UInt8)
  | [] => [[]]
  | b :: v =>
      if isSep b then [] :: fieldsOn isSep v
      else
        match fieldsOn isSep v with
        | field :: fields => (b :: field) :: fields
        | [] => [[b]]

section

variable {isSep : UInt8 → Bool}

theorem fieldsOn_of_clear {v : List UInt8} (clear : ∀ b ∈ v, isSep b = false) :
    fieldsOn isSep v = [v] := by
  induction v with
  | nil => rfl
  | cons b v ih =>
      simp only [fieldsOn, clear b (List.mem_cons_self b v), Bool.false_eq_true, if_false,
        ih fun x member => clear x (List.mem_cons_of_mem b member)]

theorem fieldsOn_append {u : List UInt8} (clear : ∀ b ∈ u, isSep b = false) {s : UInt8}
    (separates : isSep s = true) (w : List UInt8) :
    fieldsOn isSep (u ++ s :: w) = u :: fieldsOn isSep w := by
  induction u with
  | nil => simp [fieldsOn, separates]
  | cons b u ih =>
      rw [List.cons_append, fieldsOn, if_neg (by rw [clear b (List.mem_cons_self b u)]; decide),
        ih fun x member => clear x (List.mem_cons_of_mem b member)]

theorem fieldsOn_ne_nil (v : List UInt8) : fieldsOn isSep v ≠ [] := by
  cases v with
  | nil => simp [fieldsOn]
  | cons b v =>
      unfold fieldsOn
      split
      · simp
      · split <;> simp

/-- A list with a separator in it is its first field, that separator, and the rest. -/
theorem split_at_first {v : List UInt8} (member : ∃ b ∈ v, isSep b = true) :
    ∃ u s w, v = u ++ s :: w ∧ (∀ b ∈ u, isSep b = false) ∧ isSep s = true ∧
      w.length < v.length := by
  induction v with
  | nil => simp at member
  | cons b v ih =>
      cases first : isSep b
      · obtain ⟨x, inV, separates⟩ := member
        have later : ∃ x ∈ v, isSep x = true := by
          rcases List.mem_cons.mp inV with rfl | inV
          · rw [first] at separates
            cases separates
          · exact ⟨x, inV, separates⟩
        obtain ⟨u, s, w, rfl, clear, separates, shorter⟩ := ih later
        refine ⟨b :: u, s, w, rfl, fun x member => ?_, separates,
          by simp only [List.length_cons, List.length_append] at *; omega⟩
        rcases List.mem_cons.mp member with rfl | member
        · exact first
        · exact clear x member
      · exact ⟨[], b, v, rfl, fun _ member => absurd member (List.not_mem_nil _), first, by simp⟩

/-- Items between separators, the first one of its own language: what the separators split `v`
into. -/
def itemsOn (isSep : UInt8 → Bool) (first item : List UInt8 → Bool) (v : List UInt8) : Bool :=
  match fieldsOn isSep v with
  | field :: fields => first field && fields.all item
  | [] => false

theorem itemsOn_of_clear {first item : List UInt8 → Bool} {v : List UInt8}
    (clear : ∀ b ∈ v, isSep b = false) : itemsOn isSep first item v = first v := by
  simp [itemsOn, fieldsOn_of_clear clear]

theorem itemsOn_append {first item : List UInt8 → Bool} {u : List UInt8}
    (clear : ∀ b ∈ u, isSep b = false) {s : UInt8} (separates : isSep s = true) (w : List UInt8) :
    itemsOn isSep first item (u ++ s :: w) = (first u && itemsOn isSep item item w) := by
  simp only [itemsOn, fieldsOn_append clear separates]
  cases fields : fieldsOn isSep w with
  | nil => exact absurd fields (fieldsOn_ne_nil w)
  | cons field fields => simp

theorem itemsOn_cons {first item : List UInt8 → Bool} (b : UInt8) (w : List UInt8) :
    itemsOn isSep first item (b :: w) =
      if isSep b then first [] && itemsOn isSep item item w
      else itemsOn isSep (fun field => first (b :: field)) item w := by
  have whole : ∀ first : List UInt8 → Bool, itemsOn isSep first item w =
      match fieldsOn isSep w with
      | field :: fields => first field && fields.all item
      | [] => false := fun _ => rfl
  cases fields : fieldsOn isSep w with
  | nil => exact absurd fields (fieldsOn_ne_nil w)
  | cons field fields =>
      by_cases separates : isSep b = true
      · simp [itemsOn, fieldsOn, separates, fields]
      · simp [itemsOn, fieldsOn, separates, fields, whole]

theorem itemsOn_congr {first first' item : List UInt8 → Bool} (same : ∀ field, first field = first' field)
    (v : List UInt8) : itemsOn isSep first item v = itemsOn isSep first' item v := by
  unfold itemsOn
  split <;> simp [same]

/-- A field of `first` up to the first separator, then a field of `second` after it. -/
def thenOn (isSep : UInt8 → Bool) (first second : List UInt8 → Bool) (v : List UInt8) : Bool :=
  first (v.takeWhile fun b => !isSep b) &&
    match v.dropWhile fun b => !isSep b with
    | _ :: rest => second rest
    | [] => false

theorem thenOn_cons {first second : List UInt8 → Bool} (b : UInt8) (w : List UInt8) :
    thenOn isSep first second (b :: w) =
      if isSep b then first [] && second w else thenOn isSep (fun rest => first (b :: rest)) second w := by
  by_cases separates : isSep b = true <;> simp [thenOn, List.takeWhile_cons, List.dropWhile_cons, separates]

theorem thenOn_of_clear {first second : List UInt8 → Bool} {v : List UInt8}
    (clear : ∀ b ∈ v, isSep b = false) : thenOn isSep first second v = false := by
  have kept : ∀ b ∈ v, (!isSep b) = true := fun b member => by simp [clear b member]
  have dropped : (v ++ []).dropWhile (fun b => !isSep b) = ([] : List UInt8).dropWhile fun b => !isSep b :=
    List.dropWhile_append_of_pos kept
  rw [List.append_nil, List.dropWhile_nil] at dropped
  simp [thenOn, dropped]

theorem thenOn_append {first second : List UInt8 → Bool} {u : List UInt8}
    (clear : ∀ b ∈ u, isSep b = false) {s : UInt8} (separates : isSep s = true) (w : List UInt8) :
    thenOn isSep first second (u ++ s :: w) = (first u && second w) := by
  have kept : ∀ b ∈ u, (!isSep b) = true := fun b member => by simp [clear b member]
  simp [thenOn, List.takeWhile_append_of_pos kept, List.dropWhile_append_of_pos kept, separates]


theorem thenOn_eq_true {first second : List UInt8 → Bool} {v : List UInt8}
    (holds : thenOn isSep first second v = true) :
    ∃ u s w, v = u ++ s :: w ∧ (∀ b ∈ u, isSep b = false) ∧ isSep s = true ∧ first u = true ∧
      second w = true := by
  by_cases separated : ∃ b ∈ v, isSep b = true
  · obtain ⟨u, s, w, rfl, clear, separates, -⟩ := split_at_first separated
    rw [thenOn_append clear separates, Bool.and_eq_true] at holds
    exact ⟨u, s, w, rfl, clear, separates, holds⟩
  · rw [thenOn_of_clear fun b member => Bool.eq_false_iff.mpr fun h => separated ⟨b, member, h⟩]
      at holds
    cases holds
end

/-! ## Reading a field -/

/-- How the table reads a field from `entry` up to a stop byte: for a field `v` with no stop
byte, followed by the stop byte `c`, the walk is accepted exactly when `v` is in `lang`, and goes
on from where `exits` takes `c`. -/
def ReadsField (entry : Nat) (stop : UInt8 → Bool) (lang : List UInt8 → Bool)
    (exits : UInt8 → Option Nat) : Prop :=
  ∀ v c rest, (∀ b ∈ v, stop b = false) → stop c = true →
    tableWalk entry (v ++ c :: rest) = if lang v then (exits c).bind fun next => tableWalk next rest
      else none

section

variable {stop : UInt8 → Bool} {exits : UInt8 → Option Nat}

theorem ReadsField.congr {q : Nat} {lang lang' : List UInt8 → Bool} (same : ∀ v, lang v = lang' v)
    (reads : ReadsField q stop lang exits) : ReadsField q stop lang' exits :=
  fun v c rest clean ends => by rw [← same v]; exact reads v c rest clean ends

/-- A state whose labels are those of `q` reads what `q` reads. -/
theorem readsField_of_label_eq {p q : Nat} {lang : List UInt8 → Bool}
    (same : ∀ b, (label p b).walksTo = (label q b).walksTo) (reads : ReadsField q stop lang exits) :
    ReadsField p stop lang exits := by
  intro v c rest clean ends
  rw [← reads v c rest clean ends]
  cases v <;> simp only [List.nil_append, List.cons_append, tableWalk_cons, same]

/-- A state that reads every byte but a stop byte as `q` does, and ends the empty field at once,
reads the empty field besides what `q` reads. -/
theorem readsField_optional {p q : Nat} {lang : List UInt8 → Bool}
    (same : ∀ b, stop b = false → (label p b).walksTo = (label q b).walksTo)
    (final : ∀ c, stop c = true → (label p c).walksTo = exits c)
    (reads : ReadsField q stop lang exits) :
    ReadsField p stop (fun w => w.isEmpty || lang w) exits := by
  intro v c rest clean ends
  cases v with
  | nil => simp [final c ends]
  | cons b w =>
      rw [List.cons_append, tableWalk_cons, same b (clean b (List.mem_cons_self b w)),
        ← tableWalk_cons, ← List.cons_append]
      simpa using reads (b :: w) c rest clean ends

/-- A state that reads every byte as `q` does but the bytes of `cls`, which lead into `r`: a field
that starts with such a byte is read as `r` reads the rest of it, any other as `q` reads it. -/
theorem readsField_except {p q r : Nat} {cls : List (Nat × Nat)}
    {lang tail whole : List UInt8 → Bool}
    (same : ∀ b, inClass cls b = false → (label p b).walksTo = (label q b).walksTo)
    (leads : ∀ b, inClass cls b = true → (label p b).walksTo = some r)
    (clear : ∀ c, stop c = true → inClass cls c = false)
    (reads : ReadsField q stop lang exits) (after : ReadsField r stop tail exits)
    (empty : whole [] = lang [])
    (splits : ∀ b w, whole (b :: w) = if inClass cls b then tail w else lang (b :: w)) :
    ReadsField p stop whole exits := by
  intro v c rest clean ends
  cases v with
  | nil =>
      rw [empty, List.nil_append, tableWalk_cons, same c (clear c ends), ← tableWalk_cons]
      exact reads [] c rest clean ends
  | cons b w =>
      rw [splits, List.cons_append, tableWalk_cons]
      by_cases inside : inClass cls b = true
      · rw [leads b inside, if_pos inside, Option.some_bind]
        exact after w c rest (fun x member => clean x (List.mem_cons_of_mem b member)) ends
      · rw [same b (by simpa using inside), if_neg inside, ← tableWalk_cons, ← List.cons_append]
        exact reads (b :: w) c rest clean ends

/-- A state reads a field when the bytes of `cls` lead back into it, leaving its language as it
is, and each other byte but a stop byte leads nowhere, where the language holds no field
starting with it, or into a state that reads the rest of the field in what the language leaves
of it; a stop byte leaves the state by `exits` exactly when the language holds the empty field. -/
theorem readsField_of_loop {q : Nat} {cls : List (Nat × Nat)} {lang : List UInt8 → Bool}
    (loops : ∀ b, inClass cls b = true → (label q b).walksTo = some q ∧ ∀ w, lang (b :: w) = lang w)
    (step : ∀ b, stop b = false → inClass cls b = false →
      (label q b).walksTo.elim (∀ w, lang (b :: w) = false)
        fun t => ∃ tail : List UInt8 → Bool, ReadsField t stop tail exits ∧ ∀ w, lang (b :: w) = tail w)
    (final : ∀ c, stop c = true → (label q c).walksTo = if lang [] then exits c else none) :
    ReadsField q stop lang exits := by
  intro v c rest clean ends
  induction v with
  | nil =>
      rw [List.nil_append, tableWalk_cons, final c ends]
      split <;> rfl
  | cons b w ih =>
      have later : ∀ x ∈ w, stop x = false := fun x inW => clean x (List.mem_cons_of_mem b inW)
      rw [List.cons_append, tableWalk_cons]
      by_cases inside : inClass cls b = true
      · rw [(loops b inside).1, Option.some_bind, (loops b inside).2, ih later]
      · have next := step b (clean b (List.mem_cons_self b w)) (by simpa using inside)
        cases walks : (label q b).walksTo with
        | none =>
            rw [walks] at next
            rw [next w]
            rfl
        | some t =>
            rw [walks] at next
            obtain ⟨tail, reads, derives⟩ := next
            rw [Option.some_bind, derives w]
            exact reads w c rest later ends

/-- A state with no loop reads a field when each byte leads nowhere or into a state that reads
the rest. -/
theorem readsField_of_step {q : Nat} {lang : List UInt8 → Bool}
    (step : ∀ b, stop b = false → (label q b).walksTo.elim (∀ w, lang (b :: w) = false)
      fun t => ∃ tail : List UInt8 → Bool, ReadsField t stop tail exits ∧ ∀ w, lang (b :: w) = tail w)
    (final : ∀ c, stop c = true → (label q c).walksTo = if lang [] then exits c else none) :
    ReadsField q stop lang exits :=
  readsField_of_loop (fun b (inside : inClass [] b = true) => absurd inside (by simp [inClass, inRanges]))
    (fun b inner _ => step b inner) final

/-- A state that reads the bytes of a class back into itself reads runs of the class, and ends
them at its stop bytes as `ends` takes them. -/
theorem readsField_loop {q : Nat} {cls : List (Nat × Nat)} {ends : List (List (Nat × Nat) × Nat)}
    (row : ∀ c, (label q c).walksTo = classWalk ((cls, q) :: ends) c)
    (clear : ∀ c, stop c = true → inClass cls c = false)
    (within : ∀ c, stop c = false → classWalk ends c = none) :
    ReadsField q stop (·.all (inClass cls)) (classWalk ends) :=
  readsField_of_loop
    (fun b (inside : inClass cls b = true) =>
      ⟨by rw [row, classWalk_cons, if_pos inside], fun w => by simp [inside]⟩)
    (fun b inner outside => by
      rw [row, classWalk_cons, if_neg (by simp [outside]), within b inner]
      exact fun w => by simp [outside])
    (fun c ends => by simp [row, clear c ends])

/-- A state that reads the bytes of `cls` back into itself, and every other byte as `q` does,
reads what `q` reads after a run of them. -/
theorem readsField_skip {p q : Nat} {cls : List (Nat × Nat)} {lang : List UInt8 → Bool}
    (clear : ∀ c, stop c = true → inClass cls c = false)
    (loops : ∀ b, inClass cls b = true → (label p b).walksTo = some p)
    (same : ∀ b, inClass cls b = false → (label p b).walksTo = (label q b).walksTo)
    (reads : ReadsField q stop lang exits) :
    ReadsField p stop (fun w => lang (w.dropWhile (inClass cls))) exits := by
  intro v c rest clean ends
  dsimp only
  induction v with
  | nil =>
      rw [List.nil_append, tableWalk_cons, same c (clear c ends), ← tableWalk_cons,
        ← List.nil_append (c :: rest)]
      exact reads [] c rest clean ends
  | cons b w ih =>
      by_cases inside : inClass cls b = true
      · rw [List.cons_append, tableWalk_cons, loops b inside, Option.some_bind,
          ih fun x inW => clean x (List.mem_cons_of_mem b inW), List.dropWhile_cons_of_pos inside]
      · rw [List.cons_append, tableWalk_cons, same b (by simpa using inside), ← tableWalk_cons,
          ← List.cons_append, List.dropWhile_cons_of_neg inside]
        exact reads (b :: w) c rest clean ends

/-- A state of a field's automaton that reads byte by byte, for the languages `lang` of the
states in `states`: each byte other than a stop byte leaves the state's language for the
language of the label's target, in `states`, or for nothing when the label fails; and a stop
byte leaves the state by `exits` exactly when its language holds the empty field. -/
def ReadsBytes (states : List Nat) (stop : UInt8 → Bool) (lang : Nat → List UInt8 → Bool)
    (exits : UInt8 → Option Nat) (q : Nat) : Prop :=
  (∀ b, stop b = false → ∀ t, (label q b).walksTo = some t → t ∈ states) ∧
    (∀ b, stop b = false → ∀ w,
      lang q (b :: w) = ((label q b).walksTo.map fun t => lang t w).getD false) ∧
    ∀ c, stop c = true → (label q c).walksTo = if lang q [] then exits c else none

/-- A state that reads a whole segment: a field of `lead` up to a separator, which leads into a
state of `states` whose language reads the rest. The segment stops at the field's stop bytes and
at the separator, which is none of them. -/
def ReadsSegment (states : List Nat) (stop : UInt8 → Bool) (lang : Nat → List UInt8 → Bool)
    (q : Nat) : Prop :=
  ∃ isSep segmentStop : UInt8 → Bool, ∃ segmentExits : UInt8 → Option Nat,
    ∃ lead : List UInt8 → Bool, ∃ next ∈ states,
      (∀ c, segmentStop c = (stop c || isSep c)) ∧ (∀ c, stop c = true → isSep c = false) ∧
      (∀ c, segmentExits c = if isSep c then some next else none) ∧
      ReadsField q segmentStop lead segmentExits ∧ ∀ w, lang q w = thenOn isSep lead (lang next) w

/-- The states of a field's automaton read their languages when each reads byte by byte or a
segment at a time: by induction on the field, since a segment reads at least its separator. -/
theorem readsField_of_routes {states : List Nat} {lang : Nat → List UInt8 → Bool}
    (routes : ∀ q ∈ states, ReadsBytes states stop lang exits q ∨ ReadsSegment states stop lang q) :
    ∀ q ∈ states, ReadsField q stop (lang q) exits := by
  suffices ∀ n v, v.length < n → ∀ q ∈ states, (∀ b ∈ v, stop b = false) → ∀ c rest,
      stop c = true → tableWalk q (v ++ c :: rest) =
        if lang q v then (exits c).bind (fun next => tableWalk next rest) else none from
    fun q member v c rest clean ends => this (v.length + 1) v (Nat.lt_succ_self _) q member clean c
      rest ends
  intro n
  induction n with
  | zero => exact fun v short => absurd short (Nat.not_lt_zero _)
  | succ n ih =>
      intro v short q member clean c rest ends
      rcases routes q member with ⟨closed, deriv, final⟩ | ⟨isSep, segmentStop, segmentExits, lead,
        next, inside, stops, apart, exitsAt, reads, splits⟩
      · cases v with
        | nil =>
            rw [List.nil_append, tableWalk_cons, final c ends]
            split <;> rfl
        | cons b w =>
            have inner := clean b (List.mem_cons_self b w)
            rw [List.cons_append, tableWalk_cons, deriv b inner w]
            cases walks : (label q b).walksTo with
            | none => rfl
            | some t =>
                exact ih w (by simp only [List.length_cons] at short; omega) t
                  (closed b inner t walks) (fun x inW => clean x (List.mem_cons_of_mem b inW)) c
                  rest ends
      · rw [splits v]
        by_cases separated : ∃ b ∈ v, isSep b = true
        · obtain ⟨u, s, w, rfl, clear, separates, shorter⟩ := split_at_first separated
          rw [List.append_assoc, List.cons_append,
            reads u s _ (fun b inU => by
                rw [stops, clean b (List.mem_append_left _ inU), clear b inU]; rfl)
              (by rw [stops, separates, Bool.or_true]),
            exitsAt, if_pos separates, Option.some_bind, thenOn_append clear separates,
            ih w (by omega) next inside
              (fun b inW => clean b (List.mem_append_right _ (List.mem_cons_of_mem _ inW))) c rest
              ends]
          cases lead u <;> rfl
        · have clear : ∀ b ∈ v, isSep b = false := fun b inV =>
            Bool.eq_false_iff.mpr fun separates => separated ⟨b, inV, separates⟩
          rw [reads v c rest (fun b inV => by rw [stops, clean b inV, clear b inV]; rfl)
              (by rw [stops, ends, Bool.true_or]),
            exitsAt, if_neg (show ¬isSep c = true by rw [apart c ends]; decide), thenOn_of_clear clear]
          simp

/-- Items read from `entry` up to a stop byte or a separator, which leads back to `entry`, make
a field of items between separators. -/
theorem readsField_itemsOn_self {entry : Nat} {isSep : UInt8 → Bool} {item : List UInt8 → Bool}
    (apart : ∀ c, stop c = true → isSep c = false)
    (items : ReadsField entry (fun c => stop c || isSep c) item
      fun c => if isSep c then some entry else exits c) :
    ReadsField entry stop (itemsOn isSep item item) exits := by
  suffices ∀ n v, v.length ≤ n → (∀ b ∈ v, stop b = false) → ∀ c rest, stop c = true →
      tableWalk entry (v ++ c :: rest) = if itemsOn isSep item item v then
        (exits c).bind fun next => tableWalk next rest else none from
    fun v c rest clean ends => this v.length v (Nat.le_refl _) clean c rest ends
  intro n
  induction n with
  | zero =>
      intro v short clean c rest ends
      rw [List.eq_nil_of_length_eq_zero (Nat.le_zero.mp short),
        itemsOn_of_clear fun _ member => absurd member (List.not_mem_nil _),
        items [] c rest (fun _ member => absurd member (List.not_mem_nil _)) (by simp [ends])]
      simp only [apart c ends, Bool.false_eq_true, if_false]
  | succ n ih =>
      intro v short clean c rest ends
      by_cases member : ∃ b ∈ v, isSep b = true
      · obtain ⟨u, s, w, rfl, clear, separates, shorter⟩ := split_at_first member
        rw [List.append_assoc, List.cons_append,
          items u s _ (fun b inU => by simp [clean b (List.mem_append_left _ inU), clear b inU])
            (by simp [separates])]
        simp only [separates, if_true, Option.some_bind, itemsOn_append clear separates]
        rw [ih w (by simp only [List.length_append, List.length_cons] at short shorter; omega)
          (fun b inW => clean b (List.mem_append_right _ (List.mem_cons_of_mem _ inW))) c rest ends]
        cases item u <;> rfl
      · have clear : ∀ b ∈ v, isSep b = false := fun b inV =>
          Bool.eq_false_iff.mpr fun separates => member ⟨b, inV, separates⟩
        rw [items v c rest (fun b inV => by simp [clean b inV, clear b inV]) (by simp [ends]),
          itemsOn_of_clear clear]
        simp only [apart c ends, Bool.false_eq_true, if_false]

/-- Items between separators, the first read from `first` and the others from `later`, where
every separator leads, make a field. -/
theorem readsField_itemsOn {first later : Nat} {isSep : UInt8 → Bool} {lead item : List UInt8 → Bool}
    (apart : ∀ c, stop c = true → isSep c = false)
    (leads : ReadsField first (fun c => stop c || isSep c) lead
      fun c => if isSep c then some later else exits c)
    (items : ReadsField later (fun c => stop c || isSep c) item
      fun c => if isSep c then some later else exits c) :
    ReadsField first stop (itemsOn isSep lead item) exits := by
  intro v c rest clean ends
  by_cases member : ∃ b ∈ v, isSep b = true
  · obtain ⟨u, s, w, rfl, clear, separates, -⟩ := split_at_first member
    rw [List.append_assoc, List.cons_append,
      leads u s _ (fun b inU => by simp [clean b (List.mem_append_left _ inU), clear b inU])
        (by simp [separates])]
    simp only [separates, if_true, Option.some_bind, itemsOn_append clear separates]
    rw [readsField_itemsOn_self apart items w c rest
      (fun b inW => clean b (List.mem_append_right _ (List.mem_cons_of_mem _ inW))) ends]
    cases lead u <;> rfl
  · have clear : ∀ b ∈ v, isSep b = false := fun b inV =>
      Bool.eq_false_iff.mpr fun separates => member ⟨b, inV, separates⟩
    rw [leads v c rest (fun b inV => by simp [clean b inV, clear b inV]) (by simp [ends]),
      itemsOn_of_clear clear]
    simp only [apart c ends, Bool.false_eq_true, if_false]

/-- A field of `lead` up to a separator, which leads to `next`, then a field read from `next`,
make a field. -/
theorem readsField_thenOn {first next : Nat} {isSep : UInt8 → Bool} {lead tail : List UInt8 → Bool}
    (apart : ∀ c, stop c = true → isSep c = false)
    (leads : ReadsField first (fun c => stop c || isSep c) lead
      fun c => if isSep c then some next else none)
    (tails : ReadsField next stop tail exits) :
    ReadsField first stop (thenOn isSep lead tail) exits := by
  intro v c rest clean ends
  by_cases member : ∃ b ∈ v, isSep b = true
  · obtain ⟨u, s, w, rfl, clear, separates, -⟩ := split_at_first member
    rw [List.append_assoc, List.cons_append,
      leads u s _ (fun b inU => by simp [clean b (List.mem_append_left _ inU), clear b inU])
        (by simp [separates])]
    simp only [separates, if_true, Option.some_bind, thenOn_append clear separates]
    rw [tails w c rest (fun b inW => clean b (List.mem_append_right _ (List.mem_cons_of_mem _ inW)))
      ends]
    cases lead u <;> rfl
  · have clear : ∀ b ∈ v, isSep b = false := fun b inV =>
      Bool.eq_false_iff.mpr fun separates => member ⟨b, inV, separates⟩
    rw [leads v c rest (fun b inV => by simp [clean b inV, clear b inV]) (by simp [ends]),
      thenOn_of_clear clear]
    simp only [apart c ends, Bool.false_eq_true, if_false, Option.none_bind, ite_self]

end

/-! ## Fields of named classes -/

/-- Whether every class of `ends` lies inside the class `S`: the stop bytes of a field. -/
def endsWithin (ends : List (List (Nat × Nat) × Nat)) (S : List (Nat × Nat)) : Bool :=
  ends.all fun entry => subClass entry.1 S

theorem classWalk_of_endsWithin {ends : List (List (Nat × Nat) × Nat)} {S : List (Nat × Nat)}
    (within : endsWithin ends S = true) {c : UInt8} (inner : inClass S c = false) :
    classWalk ends c = none := by
  induction ends with
  | nil => rfl
  | cons entry ends ih =>
      simp only [endsWithin, List.all_cons, Bool.and_eq_true] at within
      have outside : inClass entry.1 c = false := Bool.eq_false_iff.mpr fun inside => by
        rw [inClass_of_subClass within.1 inside] at inner
        cases inner
      rw [classWalk_cons, if_neg (by simp [outside]), ih within.2]

section

variable {S sep : List (Nat × Nat)}

/-- `readsField_itemsOn` for a field that stops at a class `S` and items between the bytes of a
class `sep`, apart from it. -/
theorem readsField_itemsOn_classes {ends : List (List (Nat × Nat) × Nat)} {first later : Nat}
    {lead item : List UInt8 → Bool} (apart : classesApart S sep = true)
    (leads : ReadsField first (inClass (S ++ sep)) lead (classWalk ((sep, later) :: ends)))
    (items : ReadsField later (inClass (S ++ sep)) item (classWalk ((sep, later) :: ends))) :
    ReadsField first (inClass S) (itemsOn (inClass sep) lead item) (classWalk ends) := by
  rw [show inClass (S ++ sep) = fun c => inClass S c || inClass sep c from
      funext (inClass_append S sep),
    show classWalk ((sep, later) :: ends) = fun c => if inClass sep c then some later
      else classWalk ends c from funext (classWalk_cons sep later ends)] at leads items
  exact readsField_itemsOn (fun _ => inClass_of_classesApart apart) leads items

/-- `readsField_thenOn` for a field that stops at a class `S` and a separator of a class `sep`,
apart from it. -/
theorem readsField_thenOn_classes {first next : Nat} {exits : UInt8 → Option Nat}
    {lead tail : List UInt8 → Bool} (apart : classesApart S sep = true)
    (leads : ReadsField first (inClass (S ++ sep)) lead (classWalk [(sep, next)]))
    (tails : ReadsField next (inClass S) tail exits) :
    ReadsField first (inClass S) (thenOn (inClass sep) lead tail) exits := by
  rw [show inClass (S ++ sep) = fun c => inClass S c || inClass sep c from
      funext (inClass_append S sep),
    show classWalk [(sep, next)] = fun c => if inClass sep c then some next else none from
      funext fun c => by rw [classWalk_cons, classWalk_nil]] at leads
  exact readsField_thenOn (fun _ => inClass_of_classesApart apart) leads tails

end

/-- A segment state of a field that stops at a class `S`, as `readsField_thenOn_classes` reads
it. -/
theorem readsSegment_classes {states : List Nat} {lang : Nat → List UInt8 → Bool} {q next : Nat}
    {S sep : List (Nat × Nat)} {lead : List UInt8 → Bool} (member : next ∈ states)
    (apart : classesApart S sep = true)
    (reads : ReadsField q (inClass (S ++ sep)) lead (classWalk [(sep, next)]))
    (splits : ∀ w, lang q w = thenOn (inClass sep) lead (lang next) w) :
    ReadsSegment states (inClass S) lang q :=
  ⟨inClass sep, inClass (S ++ sep), classWalk [(sep, next)], lead, next, member,
    inClass_append S sep, fun _ => inClass_of_classesApart apart,
    fun c => by rw [classWalk_cons, classWalk_nil], reads, splits⟩

/-- A byte state of a field that stops at a class `S`, whose row reads the bytes of the classes of
`inner` into states of `states` and, when it `accepts` the empty field, the stop bytes as `ends`
takes them. -/
theorem readsBytes_classes {states : List Nat} {lang : Nat → List UInt8 → Bool} {q : Nat}
    {S : List (Nat × Nat)} {ends : List (List (Nat × Nat) × Nat)}
    (inner : List (List (Nat × Nat) × Nat)) (accepts : Bool)
    (row : ∀ c, (label q c).walksTo = classWalk (inner ++ if accepts then ends else []) c)
    (within : endsWithin ends S = true) (clear : inner.all (fun entry => classesApart S entry.1) = true)
    (targets : inner.all (fun entry => entry.2 ∈ states) = true)
    (empty : lang q [] = accepts)
    (derives : ∀ b, inClass S b = false → ∀ w,
      lang q (b :: w) = ((classWalk inner b).map fun t => lang t w).getD false) :
    ReadsBytes states (inClass S) lang (classWalk ends) q := by
  have outer : ∀ b, inClass S b = false → (label q b).walksTo = classWalk inner b := fun b inner' => by
    rw [row, classWalk_append]
    cases classWalk inner b with
    | some t => rfl
    | none => cases accepts <;> simp [classWalk_of_endsWithin within inner']
  refine ⟨fun b inner' t walks => ?_, fun b inner' w => by rw [outer b inner', derives b inner' w],
    fun c stops => ?_⟩
  · rw [outer b inner'] at walks
    obtain ⟨entry, member, -, rfl⟩ := classWalk_some walks
    exact of_decide_eq_true (List.all_eq_true.mp targets entry member)
  · have none : classWalk inner c = none := classWalk_none fun entry member =>
      inClass_of_classesApart (List.all_eq_true.mp clear entry member) stops
    rw [row, classWalk_append, none, empty]
    cases accepts <;> rfl

end VcfValidator
