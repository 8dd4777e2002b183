import VcfValidator.BodyColumns

/-!
# The `ALT` column

`ALT` is the one column whose items are not cut at a byte: a breakend mate's chromosome may hold
commas, so the alleles are cut at the commas outside mates (`altFields`). The table reads it with
states that loop back through those commas and through the mates, whose chromosome is read up to
its colon and whose position up to its closing bracket. The language of each state is the rest of
the column from inside an allele, `altRest part rem`: what is left of the allele, read from
`part`, then the alleles after it. `readsField_of_routes` proves them all at once, the segments
read by the blocks of `VcfValidator.ValueReads`.
-/

namespace VcfValidator

set_option autoImplicit false

/-! ## The rest of the column from inside an allele -/

/-- The rest of `ALT` from inside an allele: the rest of the allele, read from `part`, in `rem`,
then alleles between commas. -/
def altRest (part : MatePart) (rem : List UInt8 → Bool) (w : List UInt8) : Bool :=
  match altFields part w with
  | field :: fields => rem field && fields.all altAllele
  | [] => false

theorem altFields_ne_nil (part : MatePart) (w : List UInt8) : altFields part w ≠ [] := by
  cases w with
  | nil => simp [altFields]
  | cons b w =>
      unfold altFields
      split
      · simp
      · split <;> simp

theorem altRest_nil (part : MatePart) (rem : List UInt8 → Bool) : altRest part rem [] = rem [] := by
  simp [altRest, altFields]

theorem altAlleles_eq_altRest (w : List UInt8) : altAlleles w = altRest .outside altAllele w := by
  unfold altAlleles altRest
  cases fields : altFields .outside w with
  | nil => exact absurd fields (altFields_ne_nil _ _)
  | cons field fields => simp

theorem altRest_cons (part : MatePart) (rem : List UInt8 → Bool) (b : UInt8) (w : List UInt8) :
    altRest part rem (b :: w) =
      if part == .outside && inClass comma b then rem [] && altAlleles w
      else altRest (part.next b) (fun field => rem (b :: field)) w := by
  by_cases cuts : (part == .outside && inClass comma b) = true
  · simp only [altRest, altFields, cuts, if_true, altAlleles]
  · simp only [altRest, altFields, cuts, Bool.false_eq_true, if_false]
    cases fields : altFields (part.next b) w with
    | nil => exact absurd fields (altFields_ne_nil _ _)
    | cons field fields => rfl

theorem altRest_congr {part : MatePart} {rem rem' : List UInt8 → Bool} (same : ∀ f, rem f = rem' f)
    (w : List UInt8) : altRest part rem w = altRest part rem' w := by
  unfold altRest
  split <;> simp [same]

theorem altRest_of_rem_false {part : MatePart} {rem : List UInt8 → Bool} (never : ∀ f, rem f = false)
    (w : List UInt8) : altRest part rem w = false := by
  unfold altRest
  split <;> simp [never]

theorem altRest_and {part : MatePart} {rem : List UInt8 → Bool} (a : Bool) (w : List UInt8) :
    altRest part (fun f => a && rem f) w = (a && altRest part rem w) := by
  unfold altRest
  split <;> simp [Bool.and_assoc]

/-- One byte that neither cuts the alleles nor leaves the part it is read in. -/
theorem altRest_step {part part' : MatePart} {rem rem' : List UInt8 → Bool} {b : UInt8}
    (keeps : (part == .outside && inClass comma b) = false) (moves : part.next b = part')
    (derives : ∀ f, rem (b :: f) = rem' f) (w : List UInt8) :
    altRest part rem (b :: w) = altRest part' rem' w := by
  rw [altRest_cons, if_neg (by simp [keeps]), moves]
  exact altRest_congr derives w

/-- A segment of an allele read by `thenOn` without its separator: nothing in it is read. -/
theorem altRest_thenOn_of_clear {sep : UInt8 → Bool} {tail : List UInt8 → Bool} (w : List UInt8)
    (clear : ∀ b ∈ w, sep b = false) :
    ∀ (part : MatePart) (lead : List UInt8 → Bool), altRest part (thenOn sep lead tail) w = false := by
  induction w with
  | nil => intro part lead; simp [altRest_nil, thenOn]
  | cons b w ih =>
      intro part lead
      have apart := clear b (List.mem_cons_self b w)
      rw [altRest_cons]
      split
      · simp [thenOn]
      · rw [altRest_congr (fun f => by rw [thenOn_cons, if_neg (by simp [apart])])]
        exact ih (fun x member => clear x (List.mem_cons_of_mem b member)) _ _

/-- A segment of an allele up to a separator, in a language whose words keep the part they are
read in and hold no comma that cuts the alleles: after it, the rest of the column is read from the
part the separator leads into. -/
theorem altRest_thenOn {part after : MatePart} {sep : UInt8 → Bool} {lead tail : List UInt8 → Bool}
    (keeps : ∀ v, lead v = true → ∀ b ∈ v,
      part.next b = part ∧ (part == .outside && inClass comma b) = false)
    (crosses : ∀ s, sep s = true → part.next s = after ∧ (part == .outside && inClass comma s) = false)
    (w : List UInt8) : altRest part (thenOn sep lead tail) w = thenOn sep lead (altRest after tail) w := by
  by_cases separated : ∃ b ∈ w, sep b = true
  · obtain ⟨x, s, y, rfl, clear, separates, -⟩ := split_at_first separated
    rw [thenOn_append clear separates]
    induction x generalizing lead with
    | nil =>
        rw [List.nil_append, altRest_step (crosses s separates).2 (crosses s separates).1
          (fun f => by rw [thenOn_cons, if_pos separates]), altRest_and]
    | cons b x ih =>
        have apart := clear b (List.mem_cons_self b x)
        have shifted : ∀ f, thenOn sep lead tail (b :: f) = thenOn sep (fun z => lead (b :: z)) tail f :=
          fun f => by rw [thenOn_cons, if_neg (by simp [apart])]
        rw [List.cons_append, altRest_cons]
        split
        · cases read : lead (b :: x)
          · simp [thenOn]
          · exact absurd (keeps _ read b (List.mem_cons_self b x)).2 (by simp [*])
        · by_cases stays : part.next b = part
          · rw [stays, altRest_congr shifted]
            exact ih (fun v read b' member => keeps _ read b' (List.mem_cons_of_mem b member))
              ⟨s, by simp, separates⟩ fun b' member => clear b' (List.mem_cons_of_mem b member)
          · have never : ∀ v, lead (b :: v) = false := fun v => by
              cases read : lead (b :: v)
              · rfl
              · exact absurd (keeps _ read b (List.mem_cons_self b v)).1 stays
            rw [altRest_of_rem_false fun f => by rw [shifted]; simp [thenOn, never], never]
            rfl
  · rw [thenOn_of_clear (fun b member => Bool.eq_false_iff.mpr fun h => separated ⟨b, member, h⟩)]
    exact altRest_thenOn_of_clear w (fun b member => Bool.eq_false_iff.mpr fun h =>
      separated ⟨b, member, h⟩) part lead

/-- A byte that cuts the alleles: the allele read so far ends there. -/
theorem altRest_of_comma {rem : List UInt8 → Bool} {b : UInt8} (cut : inClass comma b = true)
    (w : List UInt8) : altRest .outside rem (b :: w) = (rem [] && altAlleles w) := by
  rw [altRest_cons, if_pos (by simp [cut])]

/-- A byte no allele read so far goes on with: the column is refused. -/
theorem altRest_dead {part : MatePart} {rem : List UInt8 → Bool} {b : UInt8}
    (never : ∀ f, rem (b :: f) = false) (cuts : inClass comma b = true → rem [] = false)
    (w : List UInt8) : altRest part rem (b :: w) = false := by
  rw [altRest_cons]
  split
  · rw [cuts (by simp_all), Bool.false_and]
  · exact altRest_of_rem_false never w

/-- A byte outside a mate of a class with no comma or bracket in it. -/
theorem altRest_outside_step {X : List (Nat × Nat)} {rem rem' : List UInt8 → Bool} {b : UInt8}
    (apart : classesApart X (comma ++ openBracket ++ closeBracket) = true)
    (inside : inClass X b = true) (derives : ∀ f, rem (b :: f) = rem' f) (w : List UInt8) :
    altRest .outside rem (b :: w) = altRest .outside rem' w := by
  have other := inClass_of_classesApart apart inside
  simp only [inClass_append, Bool.or_eq_false_iff] at other
  exact altRest_step (by simp [other.1.1]) (by simp [MatePart.next, other.1.2, other.2]) derives w

/-- A bracket outside a mate opens one. -/
theorem altRest_outside_bracket {X : List (Nat × Nat)} {rem rem' : List UInt8 → Bool} {b : UInt8}
    (apart : classesApart X comma = true) (brackets : subClass X (openBracket ++ closeBracket) = true)
    (inside : inClass X b = true) (derives : ∀ f, rem (b :: f) = rem' f) (w : List UInt8) :
    altRest .outside rem (b :: w) = altRest .chromosome rem' w := by
  have bracket := inClass_of_subClass brackets inside
  rw [inClass_append] at bracket
  exact altRest_step (by simp [inClass_of_classesApart apart inside])
    (by simp [MatePart.next, bracket]) derives w

/-! ## The bytes of the segments of a mate -/

theorem chromName_bytes {v : List UInt8} (holds : chromName v = true) :
    ∀ b ∈ v, inClass (alnum ++ chromPunct) b = true := by
  cases v with
  | nil => cases holds
  | cons c rest =>
      simp only [chromName, Bool.and_eq_true, Bool.or_eq_true, List.isEmpty_iff] at holds
      obtain ⟨letter, rfl | named⟩ := holds
      · simp [inClass_append, letter]
      · simp only [idValue, Bool.and_eq_true, List.all_eq_true] at named
        simp only [List.mem_cons, inClass_append, Bool.or_eq_true]
        rintro b (rfl | member)
        · exact .inl letter
        · simpa using named.1 b member

theorem chromValue_bytes {v : List UInt8} (holds : chromValue v = true) :
    ∀ b ∈ v, inClass (alnum ++ chromPunct ++ openAngle ++ closeAngle) b = true := by
  cases v with
  | nil => cases holds
  | cons c rest =>
      simp only [inClass_append, Bool.or_eq_true]
      simp only [chromValue] at holds
      split at holds
      · obtain ⟨u, s, w, rfl, -, closes, named, ended⟩ := thenOn_eq_true holds
        cases (List.isEmpty_iff.mp ended)
        have letters := chromName_bytes named
        simp only [List.mem_cons, List.mem_append, List.mem_singleton, List.not_mem_nil, or_false]
        rintro b (rfl | member | rfl)
        · exact .inl (.inr ‹_›)
        · exact .inl (.inl (by simpa [inClass_append] using letters b member))
        · exact .inr closes
      · exact fun b member => .inl (.inl (by simpa [inClass_append] using chromName_bytes holds b member))

theorem intValue_bytes {v : List UInt8} (holds : intValue v = true) :
    ∀ b ∈ v, inClass (minusSign ++ digit) b = true := by
  cases v with
  | nil => cases holds
  | cons c rest =>
      simp only [intValue] at holds
      split at holds
      · simp only [plusOf, Bool.and_eq_true, List.all_eq_true] at holds
        simp only [List.mem_cons, inClass_append, Bool.or_eq_true]
        rintro b (rfl | member)
        · exact .inl ‹_›
        · exact .inr (holds.2 b member)
      · simp only [plusOf, Bool.and_eq_true, List.all_eq_true] at holds
        exact fun b member => by simp [inClass_append, holds.2 b member]

/-! ## Across the segments of a mate and of a symbolic allele -/

/-- The chromosome of a mate is read up to its colon, after which the position is read. -/
theorem altRest_mateThen (close : List (Nat × Nat)) (after : List UInt8 → Bool) (w : List UInt8) :
    altRest .chromosome (mateThen close after) w = thenOn (inClass colon) chromValue
      (altRest .position (thenOn (inClass close) intValue after)) w := by
  refine @altRest_thenOn .chromosome .position _ _ _ (fun v read b member => ⟨?_, rfl⟩)
    (fun s colons => ⟨?_, rfl⟩) w
  · have := inClass_of_classesApart (show classesApart (alnum ++ chromPunct ++ openAngle ++
      closeAngle) colon = true by decide) (chromValue_bytes read b member)
    simp [MatePart.next, this]
  · simp [MatePart.next, colons]

/-- The position of a mate is read up to its closing bracket, after which the mate is left. -/
theorem altRest_matePosition {close : List (Nat × Nat)}
    (brackets : subClass close (openBracket ++ closeBracket) = true) (after : List UInt8 → Bool)
    (w : List UInt8) :
    altRest .position (thenOn (inClass close) intValue after) w =
      thenOn (inClass close) intValue (altRest .outside after) w := by
  refine @altRest_thenOn .position .outside _ _ _ (fun v read b member => ⟨?_, rfl⟩)
    (fun s closes => ⟨?_, rfl⟩) w
  · have := inClass_of_classesApart (show classesApart (minusSign ++ digit)
      (openBracket ++ closeBracket) = true by decide) (intValue_bytes read b member)
    simp only [inClass_append, Bool.or_eq_false_iff] at this
    simp [MatePart.next, this.1, this.2]
  · have := inClass_of_subClass brackets closes
    simp [MatePart.next, ← inClass_append, this]

/-- A symbolic allele is read up to its `>`, which does not cut the alleles. -/
theorem altRest_symbolic (w : List UInt8) :
    altRest .outside (thenOn (inClass closeAngle) (idValue altPunct) List.isEmpty) w =
      thenOn (inClass closeAngle) (idValue altPunct) (altRest .outside List.isEmpty) w := by
  refine altRest_thenOn (fun v read b member => ?_) (fun s closes => ?_) w
  · have named : inClass (alnum ++ altPunct) b = true := by
      simp only [idValue, Bool.and_eq_true, List.all_eq_true] at read
      simpa [inClass_append] using read.1 b member
    have := inClass_of_classesApart (show classesApart (alnum ++ altPunct)
      (comma ++ openBracket ++ closeBracket) = true by decide) named
    simp only [inClass_append, Bool.or_eq_false_iff] at this
    simp [MatePart.next, this.1.1, this.1.2, this.2]
  · have := inClass_of_classesApart (show classesApart closeAngle
      (comma ++ openBracket ++ closeBracket) = true by decide) closes
    simp only [inClass_append, Bool.or_eq_false_iff] at this
    simp [MatePart.next, this.1.1, this.1.2, this.2]

/-! ## The first byte of an allele -/

theorem altAllele_of_asterisk {b : UInt8} (star : inClass asterisk b = true) (f : List UInt8) :
    altAllele (b :: f) = f.isEmpty := by
  simp [altAllele, star]

theorem altAllele_of_openAngle {b : UInt8} (angle : inClass openAngle b = true) (f : List UInt8) :
    altAllele (b :: f) = thenOn (inClass closeAngle) (idValue altPunct) List.isEmpty f := by
  simp [altAllele, angle, inClass_of_classesApart (show classesApart openAngle asterisk = true by decide) angle]

theorem altAllele_of_period {b : UInt8} (dot : inClass period b = true) (f : List UInt8) :
    altAllele (b :: f) = plusOf bases f := by
  have other := inClass_of_classesApart
    (show classesApart period (asterisk ++ openAngle) = true by decide) dot
  simp only [inClass_append, Bool.or_eq_false_iff] at other
  simp [altAllele, dot, other]

theorem altAllele_of_openBracket {b : UInt8} (bracket : inClass openBracket b = true)
    (f : List UInt8) : altAllele (b :: f) = mateThen openBracket (plusOf bases) f := by
  have other := inClass_of_classesApart
    (show classesApart openBracket (asterisk ++ openAngle ++ period) = true by decide) bracket
  simp only [inClass_append, Bool.or_eq_false_iff] at other
  simp [altAllele, bracket, other]

theorem altAllele_of_closeBracket {b : UInt8} (bracket : inClass closeBracket b = true)
    (f : List UInt8) : altAllele (b :: f) = mateThen closeBracket (plusOf bases) f := by
  have other := inClass_of_classesApart
    (show classesApart closeBracket (asterisk ++ openAngle ++ period ++ openBracket) = true by decide)
    bracket
  simp only [inClass_append, Bool.or_eq_false_iff] at other
  simp [altAllele, bracket, other]

theorem altAllele_of_base {b : UInt8} (base : inClass bases b = true) (f : List UInt8) :
    altAllele (b :: f) = basesTail f := by
  have other := inClass_of_classesApart (show classesApart bases
    (asterisk ++ openAngle ++ period ++ openBracket ++ closeBracket) = true by decide) base
  simp only [inClass_append, Bool.or_eq_false_iff] at other
  simp [altAllele, base, other]

theorem basesTail_of_base {b : UInt8} (base : inClass bases b = true) (f : List UInt8) :
    basesTail (b :: f) = basesTail f := by
  simp [basesTail, List.dropWhile_cons, base]

theorem basesTail_of_period {b : UInt8} (dot : inClass period b = true) (f : List UInt8) :
    basesTail (b :: f) = f.isEmpty := by
  simp [basesTail, List.dropWhile_cons, dot,
    inClass_of_classesApart (show classesApart period bases = true by decide) dot]

theorem basesTail_of_openBracket {b : UInt8} (bracket : inClass openBracket b = true)
    (f : List UInt8) : basesTail (b :: f) = mateThen openBracket List.isEmpty f := by
  have other := inClass_of_classesApart
    (show classesApart openBracket (bases ++ period) = true by decide) bracket
  simp only [inClass_append, Bool.or_eq_false_iff] at other
  simp [basesTail, List.dropWhile_cons, bracket, other]

theorem basesTail_of_closeBracket {b : UInt8} (bracket : inClass closeBracket b = true)
    (f : List UInt8) : basesTail (b :: f) = mateThen closeBracket List.isEmpty f := by
  have other := inClass_of_classesApart
    (show classesApart closeBracket (bases ++ period ++ openBracket) = true by decide) bracket
  simp only [inClass_append, Bool.or_eq_false_iff] at other
  simp [basesTail, List.dropWhile_cons, bracket, other]

/-! ## The states of `ALT` -/

/-- The states that read `ALT`: those that read its bytes one at a time, and those that start a
segment of a mate or of a symbolic allele. -/
def altStates : List Nat :=
  [408, 409, 564, 565, 566, 567, 569, 570, 574, 582, 586, 594, 598, 606, 610, 618]

/-- The rest of `ALT` that each state of `altStates` reads. -/
def altLang : Nat → List UInt8 → Bool
  | 408 => altColumn
  | 409 => altRest .outside List.isEmpty
  | 564 => altAlleles
  | 565 => altRest .outside (plusOf bases)
  | 566 => altRest .outside (·.all (inClass bases))
  | 567 => altRest .outside (thenOn (inClass closeAngle) (idValue altPunct) List.isEmpty)
  | 569 => altRest .outside basesTail
  | 570 => altRest .chromosome (mateThen openBracket List.isEmpty)
  | 574 => altRest .position (thenOn (inClass openBracket) intValue List.isEmpty)
  | 582 => altRest .chromosome (mateThen closeBracket List.isEmpty)
  | 586 => altRest .position (thenOn (inClass closeBracket) intValue List.isEmpty)
  | 594 => altRest .chromosome (mateThen openBracket (plusOf bases))
  | 598 => altRest .position (thenOn (inClass openBracket) intValue (plusOf bases))
  | 606 => altRest .chromosome (mateThen closeBracket (plusOf bases))
  | 610 => altRest .position (thenOn (inClass closeBracket) intValue (plusOf bases))
  | 618 => fun w => w.isEmpty || altRest .outside (plusOf bases) w
  | _ => fun _ => false

theorem getD_map_classWalk_cons {A : List (Nat × Nat)} {t : Nat}
    {spec : List (List (Nat × Nat) × Nat)} {b : UInt8} {g : Nat → Bool} :
    ((classWalk ((A, t) :: spec) b).map g).getD false =
      if inClass A b then g t else ((classWalk spec b).map g).getD false := by
  rw [classWalk_cons]
  split <;> rfl

/-- The first byte of an allele, as state 564 reads it. -/
theorem altAlleles_cons (b : UInt8) (w : List UInt8) :
    altAlleles (b :: w) = ((classWalk [(asterisk, 409), (period, 565), (openAngle, 567),
      (bases, 569), (openBracket, 594), (closeBracket, 606)] b).map fun t => altLang t w).getD false := by
  rw [altAlleles_eq_altRest]
  simp only [getD_map_classWalk_cons, classWalk_nil, Option.map_none', Option.getD_none]
  split
  next star => exact altRest_outside_step (by decide) star (altAllele_of_asterisk star) w
  split
  next dot => exact altRest_outside_step (by decide) dot (altAllele_of_period dot) w
  split
  next angle => exact altRest_outside_step (by decide) angle (altAllele_of_openAngle angle) w
  split
  next base => exact altRest_outside_step (by decide) base (altAllele_of_base base) w
  split
  next bracket =>
    exact altRest_outside_bracket (by decide) (by decide) bracket (altAllele_of_openBracket bracket) w
  split
  next bracket =>
    exact altRest_outside_bracket (by decide) (by decide) bracket (altAllele_of_closeBracket bracket) w
  next => exact altRest_dead (fun f => by simp [altAllele, *]) (fun _ => rfl) w

/-- The byte after a leading `.`, as state 565 reads it. -/
theorem altDotted_cons (b : UInt8) (w : List UInt8) :
    altRest .outside (plusOf bases) (b :: w) =
      ((classWalk [(bases, 566)] b).map fun t => altLang t w).getD false := by
  simp only [getD_map_classWalk_cons, classWalk_nil, Option.map_none', Option.getD_none]
  split
  next base => exact altRest_outside_step (by decide) base (fun f => by simp [plusOf, base]) w
  next other => exact altRest_dead (fun f => by simp [plusOf, other]) (fun _ => rfl) w

theorem altBytes_columnStart :
    ReadsBytes altStates (inClass columnStop) altLang (classWalk [(tabByte, 410)]) 408 := by
  refine readsBytes_classes [(asterisk, 409), (openAngle, 567), (bases, 569), (openBracket, 594),
    (closeBracket, 606), (period, 618)] false (label_classes rfl) (by decide) (by decide) (by decide)
    rfl fun b _ w => ?_
  show altColumn (b :: w) = _
  by_cases dot : inClass period b = true
  · have other := inClass_of_classesApart (show classesApart period
      (asterisk ++ openAngle ++ bases ++ openBracket ++ closeBracket) = true by decide) dot
    simp only [inClass_append, Bool.or_eq_false_iff] at other
    rw [altColumn, altAlleles_eq_altRest,
      altRest_outside_step (by decide) dot (altAllele_of_period dot)]
    simp only [getD_map_classWalk_cons, other, dot, missingValue, single_cons, Bool.true_and,
      Bool.false_eq_true, if_false, if_true]
    rfl
  · rw [altColumn, altAlleles_cons]
    simp only [getD_map_classWalk_cons, classWalk_nil, dot, missingValue, single_cons,
      Bool.false_and, Bool.false_or, Bool.false_eq_true, if_false]


theorem altBytes_alleleEnd :
    ReadsBytes altStates (inClass columnStop) altLang (classWalk [(tabByte, 410)]) 409 := by
  refine readsBytes_classes [(comma, 564)] true (label_classes rfl) (by decide) (by decide)
    (by decide) rfl fun b _ w => ?_
  show altRest .outside List.isEmpty (b :: w) = _
  simp only [getD_map_classWalk_cons, classWalk_nil, Option.map_none', Option.getD_none]
  split
  next cut => rw [altRest_of_comma cut]; rfl
  next uncut => exact altRest_dead (fun f => rfl) (fun cut => absurd cut uncut) w

theorem altBytes_alleleStart :
    ReadsBytes altStates (inClass columnStop) altLang (classWalk [(tabByte, 410)]) 564 :=
  readsBytes_classes [(asterisk, 409), (period, 565), (openAngle, 567), (bases, 569),
    (openBracket, 594), (closeBracket, 606)] false (label_classes rfl) (by decide) (by decide)
    (by decide) rfl fun b _ w => altAlleles_cons b w

theorem altBytes_dotted :
    ReadsBytes altStates (inClass columnStop) altLang (classWalk [(tabByte, 410)]) 565 :=
  readsBytes_classes [(bases, 566)] false (label_classes rfl) (by decide) (by decide) (by decide)
    rfl fun b _ w => altDotted_cons b w

/-- State 618, after a first `.` of the column: the missing value, or a `.` before bases. -/
theorem altBytes_missing :
    ReadsBytes altStates (inClass columnStop) altLang (classWalk [(tabByte, 410)]) 618 :=
  readsBytes_classes [(bases, 566)] true (label_classes rfl) (by decide) (by decide) (by decide)
    rfl fun b _ w => altDotted_cons b w

theorem altBytes_dottedBases :
    ReadsBytes altStates (inClass columnStop) altLang (classWalk [(tabByte, 410)]) 566 := by
  refine readsBytes_classes [(comma, 564), (bases, 566)] true (label_classes rfl) (by decide)
    (by decide) (by decide) rfl fun b _ w => ?_
  show altRest .outside (·.all (inClass bases)) (b :: w) = _
  simp only [getD_map_classWalk_cons, classWalk_nil, Option.map_none', Option.getD_none]
  split
  next cut => rw [altRest_of_comma cut]; rfl
  split
  next base => exact altRest_outside_step (by decide) base (fun f => by simp [base]) w
  next other => exact altRest_dead (fun f => by simp [other]) (fun cut => absurd cut ‹_›) w

theorem altBytes_bases :
    ReadsBytes altStates (inClass columnStop) altLang (classWalk [(tabByte, 410)]) 569 := by
  refine readsBytes_classes [(period, 409), (comma, 564), (bases, 569), (openBracket, 570),
    (closeBracket, 582)] true (label_classes rfl) (by decide) (by decide) (by decide) rfl
    fun b _ w => ?_
  show altRest .outside basesTail (b :: w) = _
  simp only [getD_map_classWalk_cons, classWalk_nil, Option.map_none', Option.getD_none]
  split
  next dot => exact altRest_outside_step (by decide) dot (basesTail_of_period dot) w
  split
  next cut => rw [altRest_of_comma cut]; rfl
  split
  next base => exact altRest_outside_step (by decide) base (basesTail_of_base base) w
  split
  next bracket =>
    exact altRest_outside_bracket (by decide) (by decide) bracket (basesTail_of_openBracket bracket) w
  split
  next bracket =>
    exact altRest_outside_bracket (by decide) (by decide) bracket (basesTail_of_closeBracket bracket) w
  next =>
    exact altRest_dead (fun f => by simp [basesTail, List.dropWhile_cons, *])
      (fun cut => absurd cut ‹_›) w

/-- Every state of `altStates` reads its bytes one at a time into states of `altStates`, or
reads a segment of a mate or of a symbolic allele into one. -/
theorem altRoutes : ∀ q ∈ altStates, ReadsBytes altStates (inClass columnStop) altLang
    (classWalk [(tabByte, 410)]) q ∨ ReadsSegment altStates (inClass columnStop) altLang q := by
  intro q member
  simp only [altStates, List.mem_cons, List.mem_singleton, List.not_mem_nil, or_false] at member
  rcases member with rfl | rfl | rfl | rfl | rfl | rfl | rfl | rfl | rfl | rfl | rfl | rfl | rfl |
    rfl | rfl | rfl
  · exact .inl altBytes_columnStart
  · exact .inl altBytes_alleleEnd
  · exact .inl altBytes_alleleStart
  · exact .inl altBytes_dotted
  · exact .inl altBytes_dottedBases
  · exact .inr (readsSegment_classes (by decide) (by decide)
      (readsField_idValue (by decide) (by decide) (by decide) (label_classes rfl) (label_classes rfl))
      altRest_symbolic)
  · exact .inl altBytes_bases
  rotate_right
  · exact .inl altBytes_missing
  all_goals first
    | exact .inr (readsSegment_classes (by decide) (by decide)
        (readsField_chromosome (by decide) (by decide) (label_classes rfl) (label_classes rfl)
          (label_classes rfl) (label_classes rfl) (label_classes rfl) (label_classes rfl)
          (label_classes rfl) (label_classes rfl) (label_classes rfl))
        (altRest_mateThen _ _))
    | exact .inr (readsSegment_classes (by decide) (by decide)
        (readsField_intValue (by decide) (by decide) (label_classes rfl) (label_classes rfl)
          (label_classes rfl))
        (altRest_matePosition (by decide) _))

/-- `ALT`: the table reads the column from state 408 exactly as `altColumn` says, up to the tab
into `QUAL`. -/
theorem readsField_altColumn :
    ReadsField 408 (inClass columnStop) altColumn (classWalk [(tabByte, 410)]) :=
  readsField_of_routes altRoutes 408 (by decide)

end VcfValidator
