import VcfValidator.BodyGrammar

/-!
# Values read by blocks of states

The values of a body line are read by a few shapes of sub-automaton, each used by several
columns with states of its own: a single byte, a run of a class, an identifier that needs a
letter or digit, a chromosome name bare or between angle brackets, an integer, and a number with
a fraction and an exponent. Each shape is proved here once, over any states whose rows have it,
for a field that stops at the bytes of a class `S` the value avoids and ends as the classes
`ends` take its stop bytes. The columns instantiate the shapes with the states of the table.
-/

namespace VcfValidator

set_option autoImplicit false

/-- The bytes of a number: sign, digits, point and exponent mark. -/
def numberBytes : List (Nat × Nat) := exponentSign ++ period ++ digit ++ exponentMark

section

variable {S : List (Nat × Nat)} {ends : List (List (Nat × Nat) × Nat)}

/-- A state whose row holds only the ends reads the empty field. -/
theorem readsField_end {q : Nat} (within : endsWithin ends S = true)
    (row : ∀ c, (label q c).walksTo = classWalk ends c) :
    ReadsField q (inClass S) List.isEmpty (classWalk ends) :=
  readsField_of_step
    (fun b inner => by rw [row, classWalk_of_endsWithin within inner]; exact fun _ => rfl)
    (fun c _ => by rw [row]; rfl)

/-- One byte of a class into a state that reads `tail`. -/
theorem readsField_class {entry next : Nat} {cls : List (Nat × Nat)} {tail lang : List UInt8 → Bool}
    (clear : classesApart S cls = true)
    (row : ∀ c, (label entry c).walksTo = classWalk [(cls, next)] c)
    (reads : ReadsField next (inClass S) tail (classWalk ends))
    (empty : lang [] = false) (derives : ∀ b w, lang (b :: w) = (inClass cls b && tail w)) :
    ReadsField entry (inClass S) lang (classWalk ends) := by
  refine readsField_of_step (fun b _ => ?_) (fun c stops => ?_)
  · rw [row, classWalk_cons, classWalk_nil]
    split
    · exact ⟨tail, reads, fun w => by simp [derives, *]⟩
    · exact fun w => by simp [derives, *]
  · rw [row, classWalk_cons, if_neg (by simp [inClass_of_classesApart clear stops]), empty]
    rfl

/-- A single byte of a class, then the ends. -/
theorem readsField_single {entry done : Nat} {cls : List (Nat × Nat)}
    (clear : classesApart S cls = true) (within : endsWithin ends S = true)
    (entryRow : ∀ c, (label entry c).walksTo = classWalk [(cls, done)] c)
    (doneRow : ∀ c, (label done c).walksTo = classWalk ends c) :
    ReadsField entry (inClass S) (single cls) (classWalk ends) :=
  readsField_class clear entryRow (readsField_end within doneRow) rfl
    fun b w => by cases w <;> simp [single]

/-- A run of a class: a first byte into `more`, which reads the rest back into itself. -/
theorem readsField_plusOf {entry more : Nat} {cls : List (Nat × Nat)}
    (clear : classesApart S cls = true) (within : endsWithin ends S = true)
    (entryRow : ∀ c, (label entry c).walksTo = classWalk [(cls, more)] c)
    (moreRow : ∀ c, (label more c).walksTo = classWalk ((cls, more) :: ends) c) :
    ReadsField entry (inClass S) (plusOf cls) (classWalk ends) :=
  readsField_class clear entryRow
    (readsField_loop moreRow (fun _ => inClass_of_classesApart clear)
      fun _ => classWalk_of_endsWithin within)
    rfl fun b w => by simp [plusOf]

/-! ## Identifiers and chromosome names -/

/-- The bytes of an identifier after its first letter or digit, read back into `seen`. -/
theorem readsField_idSeen {seen : Nat} {punct : List (Nat × Nat)}
    (clear : classesApart S (alnum ++ punct) = true) (within : endsWithin ends S = true)
    (seenRow : ∀ c, (label seen c).walksTo = classWalk ((alnum ++ punct, seen) :: ends) c) :
    ReadsField seen (inClass S) (·.all fun c => inClass alnum c || inClass punct c)
      (classWalk ends) := by
  have run := readsField_loop seenRow (fun _ => inClass_of_classesApart clear)
    fun _ => classWalk_of_endsWithin within
  rwa [show inClass (alnum ++ punct) = fun c => inClass alnum c || inClass punct c from
    funext (inClass_append alnum punct)] at run

/-- An identifier of letters, digits and `punct` with a letter or digit among them: `unseen`
reads up to the first letter or digit, `seen` after it. -/
theorem readsField_idValue {unseen seen : Nat} {punct : List (Nat × Nat)}
    (letters : classesApart punct alnum = true) (clear : classesApart S (alnum ++ punct) = true)
    (within : endsWithin ends S = true)
    (unseenRow : ∀ c, (label unseen c).walksTo = classWalk [(punct, unseen), (alnum, seen)] c)
    (seenRow : ∀ c, (label seen c).walksTo = classWalk ((alnum ++ punct, seen) :: ends) c) :
    ReadsField unseen (inClass S) (idValue punct) (classWalk ends) := by
  refine readsField_of_loop (fun b (inside : inClass punct b = true) => ⟨?_, fun w => ?_⟩)
    (fun b _ outside => ?_) (fun c stops => ?_)
  · rw [unseenRow, classWalk_cons, if_pos inside]
  · simp [idValue, inside, inClass_of_classesApart letters inside]
  · rw [unseenRow, classWalk_cons, if_neg (by simp [outside]), classWalk_cons, classWalk_nil]
    split
    · exact ⟨_, readsField_idSeen clear within seenRow, fun w => by simp [idValue, *]⟩
    · exact fun w => by simp [idValue, *]
  · have outside := inClass_of_classesApart clear stops
    rw [inClass_append, Bool.or_eq_false_iff] at outside
    simp [unseenRow, outside.1, outside.2, idValue]

/-- The rest of a name, from `name`, the state after its first letter or digit: nothing, where
`name` ends the field at once, or an identifier, whose first byte `name` reads into `unseen` or
`seen`. -/
theorem readsField_idTail {name unseen seen : Nat} {punct : List (Nat × Nat)}
    (letters : classesApart punct alnum = true) (clear : classesApart S (alnum ++ punct) = true)
    (within : endsWithin ends S = true)
    (nameRow : ∀ c, (label name c).walksTo = classWalk ((punct, unseen) :: (alnum, seen) :: ends) c)
    (unseenRow : ∀ c, (label unseen c).walksTo = classWalk [(punct, unseen), (alnum, seen)] c)
    (seenRow : ∀ c, (label seen c).walksTo = classWalk ((alnum ++ punct, seen) :: ends) c) :
    ReadsField name (inClass S) (fun w => w.isEmpty || idValue punct w) (classWalk ends) := by
  refine readsField_of_step (fun b inner => ?_) (fun c stops => ?_)
  · rw [nameRow, classWalk_cons, classWalk_cons, classWalk_of_endsWithin within inner]
    split
    · refine ⟨_, readsField_idValue letters clear within unseenRow seenRow, fun w => ?_⟩
      simp [idValue, *, inClass_of_classesApart letters ‹_›]
    · split
      · exact ⟨_, readsField_idSeen clear within seenRow, fun w => by simp [idValue, *]⟩
      · exact fun w => by simp [idValue, *]
  · have outside := inClass_of_classesApart clear stops
    rw [inClass_append, Bool.or_eq_false_iff] at outside
    simp [nameRow, outside.1, outside.2]

/-- The first byte of an identifier, from a state that reads as `unseen` does. -/
theorem readsField_idStart {start unseen seen : Nat} {punct : List (Nat × Nat)}
    (letters : classesApart punct alnum = true) (clear : classesApart S (alnum ++ punct) = true)
    (within : endsWithin ends S = true)
    (startRow : ∀ c, (label start c).walksTo = classWalk [(punct, unseen), (alnum, seen)] c)
    (unseenRow : ∀ c, (label unseen c).walksTo = classWalk [(punct, unseen), (alnum, seen)] c)
    (seenRow : ∀ c, (label seen c).walksTo = classWalk ((alnum ++ punct, seen) :: ends) c) :
    ReadsField start (inClass S) (idValue punct) (classWalk ends) :=
  readsField_of_label_eq (fun b => by rw [startRow, unseenRow])
    (readsField_idValue letters clear within unseenRow seenRow)

theorem readsField_chromName {first name : Nat} (clear : classesApart S alnum = true)
    (firstRow : ∀ c, (label first c).walksTo = classWalk [(alnum, name)] c)
    (named : ReadsField name (inClass S) (fun w => w.isEmpty || idValue chromPunct w)
      (classWalk ends)) :
    ReadsField first (inClass S) chromName (classWalk ends) :=
  readsField_class clear firstRow named rfl fun _ _ => rfl

/-- A chromosome name, bare or between angle brackets: `entry` reads its first byte, `name` the
rest of a bare name, `angle` a name after `<`, up to the `>` into `close`. -/
theorem readsField_chromValue {entry name angle close : Nat}
    (clear : classesApart S (alnum ++ openAngle) = true) (apart : classesApart S closeAngle = true)
    (within : endsWithin ends S = true)
    (entryRow : ∀ c, (label entry c).walksTo = classWalk [(alnum, name), (openAngle, angle)] c)
    (named : ReadsField name (inClass S) (fun w => w.isEmpty || idValue chromPunct w)
      (classWalk ends))
    (angled : ReadsField angle (inClass (S ++ closeAngle)) chromName (classWalk [(closeAngle, close)]))
    (closeRow : ∀ c, (label close c).walksTo = classWalk ends c) :
    ReadsField entry (inClass S) chromValue (classWalk ends) := by
  have bracketed := readsField_thenOn_classes apart angled (readsField_end within closeRow)
  have letter : ∀ b, inClass alnum b = true → inClass openAngle b = false := fun _ =>
    inClass_of_classesApart (show classesApart alnum openAngle = true by decide)
  refine readsField_of_step (fun b _ => ?_) (fun c stops => ?_)
  · rw [entryRow, classWalk_cons, classWalk_cons, classWalk_nil]
    split
    · exact ⟨_, named, fun w => by simp [chromValue, chromName, letter b ‹_›, *]⟩
    · split
      · exact ⟨_, bracketed, fun w => by simp [chromValue, *]⟩
      · exact fun w => by simp [chromValue, chromName, *]
  · have outside := inClass_of_classesApart clear stops
    rw [inClass_append, Bool.or_eq_false_iff] at outside
    simp [entryRow, outside.1, outside.2, chromValue]

/-- A chromosome name, bare or between angle brackets, with the states of both forms: `name`,
`unseen` and `seen` read a bare name after its first byte as `readsField_idTail` says, and
`angleName`, `angleUnseen` and `angleSeen` a name after `<` up to the `>` into `close`. -/
theorem readsField_chromosome
    {entry name unseen seen angle angleName angleUnseen angleSeen close : Nat}
    (clear : classesApart S (alnum ++ chromPunct ++ openAngle ++ closeAngle) = true)
    (within : endsWithin ends S = true)
    (entryRow : ∀ c, (label entry c).walksTo = classWalk [(alnum, name), (openAngle, angle)] c)
    (nameRow : ∀ c, (label name c).walksTo =
      classWalk ((chromPunct, unseen) :: (alnum, seen) :: ends) c)
    (unseenRow : ∀ c, (label unseen c).walksTo = classWalk [(chromPunct, unseen), (alnum, seen)] c)
    (seenRow : ∀ c, (label seen c).walksTo = classWalk ((alnum ++ chromPunct, seen) :: ends) c)
    (angleRow : ∀ c, (label angle c).walksTo = classWalk [(alnum, angleName)] c)
    (angleNameRow : ∀ c, (label angleName c).walksTo =
      classWalk [(chromPunct, angleUnseen), (alnum, angleSeen), (closeAngle, close)] c)
    (angleUnseenRow : ∀ c, (label angleUnseen c).walksTo =
      classWalk [(chromPunct, angleUnseen), (alnum, angleSeen)] c)
    (angleSeenRow : ∀ c, (label angleSeen c).walksTo =
      classWalk [(alnum ++ chromPunct, angleSeen), (closeAngle, close)] c)
    (closeRow : ∀ c, (label close c).walksTo = classWalk ends c) :
    ReadsField entry (inClass S) chromValue (classWalk ends) := by
  have letters : classesApart chromPunct alnum = true := by decide
  have bare : classesApart S (alnum ++ chromPunct) = true := classesApart_of_subClass clear (by decide)
  have bracketed : classesApart (S ++ closeAngle) (alnum ++ chromPunct) = true := by
    rw [classesApart_append_left, bare]
    decide
  have closes : endsWithin [(closeAngle, close)] (S ++ closeAngle) = true := by
    simp [endsWithin, subClass, closeAngle]
  exact readsField_chromValue (classesApart_of_subClass clear (by decide))
    (classesApart_of_subClass clear (by decide)) within entryRow
    (readsField_idTail letters bare within nameRow unseenRow seenRow)
    (readsField_chromName (classesApart_of_subClass bracketed (by decide)) angleRow
      (readsField_idTail letters bracketed closes angleNameRow angleUnseenRow angleSeenRow))
    closeRow

/-- The missing value or a run of a class: `entry` reads a `.` into `dot`, which ends the field,
and a byte of the class into `more`, which reads the rest of the run. -/
theorem readsField_missingOr {entry dot more : Nat} {cls : List (Nat × Nat)}
    (clear : classesApart S (period ++ cls) = true) (within : endsWithin ends S = true)
    (apart : classesApart period cls = true)
    (entryRow : ∀ c, (label entry c).walksTo = classWalk [(period, dot), (cls, more)] c)
    (dotRow : ∀ c, (label dot c).walksTo = classWalk ends c)
    (moreRow : ∀ c, (label more c).walksTo = classWalk ((cls, more) :: ends) c) :
    ReadsField entry (inClass S) (fun v => missingValue v || plusOf cls v) (classWalk ends) := by
  obtain ⟨-, clearRun⟩ := classesApart_of_append clear
  refine readsField_of_step (fun b _ => ?_) (fun c stops => ?_)
  · rw [entryRow, classWalk_cons, classWalk_cons, classWalk_nil]
    split
    · exact ⟨_, readsField_end within dotRow, fun w => by
        simp [missingValue, plusOf, inClass_of_classesApart apart ‹_›, *]⟩
    · split
      · exact ⟨_, readsField_loop moreRow (fun _ => inClass_of_classesApart clearRun)
          (fun _ => classWalk_of_endsWithin within), fun w => by simp [missingValue, plusOf, *]⟩
      · exact fun w => by simp [missingValue, plusOf, *]
  · have outside := inClass_of_classesApart clear stops
    rw [inClass_append, Bool.or_eq_false_iff] at outside
    simp [entryRow, outside.1, outside.2, missingValue, single, plusOf]

/-! ## Numbers -/

/-- An integer: `entry` reads an optional minus into `sign` and the first digit into `digits`,
which reads the rest. -/
theorem readsField_intValue {entry sign digits : Nat}
    (clear : classesApart S (minusSign ++ digit) = true) (within : endsWithin ends S = true)
    (entryRow : ∀ c, (label entry c).walksTo = classWalk [(minusSign, sign), (digit, digits)] c)
    (signRow : ∀ c, (label sign c).walksTo = classWalk [(digit, digits)] c)
    (digitsRow : ∀ c, (label digits c).walksTo = classWalk ((digit, digits) :: ends) c) :
    ReadsField entry (inClass S) intValue (classWalk ends) := by
  obtain ⟨-, clearDigit⟩ := classesApart_of_append clear
  have run := readsField_loop digitsRow (fun _ => inClass_of_classesApart clearDigit)
    fun _ => classWalk_of_endsWithin within
  refine readsField_of_step (fun b _ => ?_) (fun c stops => ?_)
  · rw [entryRow, classWalk_cons, classWalk_cons, classWalk_nil]
    split
    · exact ⟨_, readsField_plusOf clearDigit within signRow digitsRow,
        fun w => by simp [intValue, *]⟩
    · split
      · exact ⟨_, run, fun w => by simp [intValue, plusOf, *]⟩
      · exact fun w => by simp [intValue, plusOf, *]
  · have outside := inClass_of_classesApart clear stops
    rw [inClass_append, Bool.or_eq_false_iff] at outside
    simp [entryRow, outside.1, outside.2, intValue]

/-- The stop bytes of a field with a number in it are none of the number's bytes. -/
theorem number_clear (clear : classesApart S numberBytes = true) {c : UInt8}
    (stops : inClass S c = true) :
    inClass exponentSign c = false ∧ inClass period c = false ∧ inClass digit c = false ∧
      inClass exponentMark c = false ∧ inClass minusSign c = false ∧
        inClass zeroDigit c = false ∧ inClass nonzeroDigit c = false := by
  have outside := inClass_of_classesApart clear stops
  simp only [numberBytes, inClass_append, Bool.or_eq_false_iff] at outside
  exact ⟨outside.1.1.1, outside.1.1.2, outside.1.2, outside.2,
    inClass_false_of_subClass (by decide) outside.1.1.1,
    inClass_false_of_subClass (by decide) outside.1.2, inClass_false_of_subClass (by decide) outside.1.2⟩

/-- What follows the whole part of a number, read from `afterZero`, the state after a first `0`, and
from `whole`, the state in the digits after a first digit other than `0`: `dot` reads after the
point, `frac` in the digits after it, `mark` after `e` or `E`, `expSign` after the exponent's sign,
and `exp` in its digits. -/
theorem readsField_fraction {afterZero whole dot frac mark expSign exp : Nat}
    (clear : classesApart S numberBytes = true) (within : endsWithin ends S = true)
    (zeroRow : ∀ c, (label afterZero c).walksTo =
      classWalk ((period, dot) :: (exponentMark, mark) :: ends) c)
    (wholeRow : ∀ c, (label whole c).walksTo =
      classWalk ((digit, whole) :: (period, dot) :: (exponentMark, mark) :: ends) c)
    (dotRow : ∀ c, (label dot c).walksTo = classWalk [(digit, frac)] c)
    (fracRow : ∀ c, (label frac c).walksTo =
      classWalk ((digit, frac) :: (exponentMark, mark) :: ends) c)
    (markRow : ∀ c, (label mark c).walksTo = classWalk [(exponentSign, expSign), (digit, exp)] c)
    (expSignRow : ∀ c, (label expSign c).walksTo = classWalk [(digit, exp)] c)
    (expRow : ∀ c, (label exp c).walksTo = classWalk ((digit, exp) :: ends) c) :
    ReadsField afterZero (inClass S) fractionPart (classWalk ends) ∧
      ReadsField whole (inClass S) (fun w => fractionPart (w.dropWhile (inClass digit)))
        (classWalk ends) := by
  have clearDigit : classesApart S digit = true := (classesApart_of_append
    (classesApart_of_append clear).1).2
  have signDigit : ∀ b, inClass digit b = true → inClass exponentSign b = false := fun _ =>
    inClass_of_classesApart (show classesApart digit exponentSign = true by decide)
  have pointDigit : ∀ b, inClass digit b = true → inClass period b = false := fun _ =>
    inClass_of_classesApart (show classesApart digit period = true by decide)
  have markPoint : ∀ b, inClass exponentMark b = true → inClass period b = false := fun _ =>
    inClass_of_classesApart (show classesApart exponentMark period = true by decide)
  have markDigit : ∀ b, inClass exponentMark b = true → inClass digit b = false := fun _ =>
    inClass_of_classesApart (show classesApart exponentMark digit = true by decide)
  have exponent : ReadsField mark (inClass S) signedDigits (classWalk ends) := by
    refine readsField_of_step (fun b _ => ?_) (fun c stops => ?_)
    · rw [markRow, classWalk_cons, classWalk_cons, classWalk_nil]
      split
      · exact ⟨_, readsField_plusOf clearDigit within expSignRow expRow,
          fun w => by simp [signedDigits, *]⟩
      · split
        · exact ⟨_, readsField_loop expRow (fun _ => inClass_of_classesApart clearDigit)
            (fun _ => classWalk_of_endsWithin within),
            fun w => by simp [signedDigits, plusOf, signDigit b ‹_›, *]⟩
        · exact fun w => by simp [signedDigits, plusOf, *]
    · obtain ⟨sign, -, digitOut, -⟩ := number_clear clear stops
      simp [markRow, sign, digitOut, signedDigits]
  have fraction : ReadsField frac (inClass S) (fun w => exponentPart (w.dropWhile (inClass digit)))
      (classWalk ends) := by
    refine readsField_of_loop (fun b (inside : inClass digit b = true) => ⟨?_, fun w => ?_⟩)
      (fun b inner outside => ?_) (fun c stops => ?_)
    · rw [fracRow, classWalk_cons, if_pos inside]
    · simp [List.dropWhile_cons_of_pos inside]
    · rw [fracRow, classWalk_cons, if_neg (by simp [outside]), classWalk_cons,
        classWalk_of_endsWithin within inner]
      split
      · exact ⟨_, exponent, fun w => by simp [exponentPart, List.dropWhile_cons, outside, *]⟩
      · exact fun w => by simp [exponentPart, List.dropWhile_cons, outside, *]
    · obtain ⟨-, -, digitOut, markOut⟩ := number_clear clear stops
      simp [fracRow, digitOut, markOut, exponentPart]
  have point : ReadsField dot (inClass S)
      (fun w => plusOf digit (w.takeWhile (inClass digit)) && exponentPart (w.dropWhile (inClass digit)))
      (classWalk ends) :=
    readsField_class clearDigit dotRow fraction rfl fun b w => by
      by_cases inside : inClass digit b = true <;> simp [plusOf, List.takeWhile_cons, List.dropWhile_cons, inside]
  have afterWhole : ReadsField afterZero (inClass S) fractionPart (classWalk ends) := by
    refine readsField_of_step (fun b inner => ?_) (fun c stops => ?_)
    · rw [zeroRow, classWalk_cons, classWalk_cons, classWalk_of_endsWithin within inner]
      split
      · exact ⟨_, point, fun w => by simp [fractionPart, *]⟩
      · split
        · exact ⟨_, exponent, fun w => by simp [fractionPart, exponentPart, markPoint b ‹_›, *]⟩
        · exact fun w => by simp [fractionPart, exponentPart, *]
    · obtain ⟨-, pointOut, -, markOut⟩ := number_clear clear stops
      simp [zeroRow, pointOut, markOut, fractionPart]
  refine ⟨afterWhole, readsField_skip (fun c stops => (number_clear clear stops).2.2.1)
    (fun b inside => by rw [wholeRow, classWalk_cons, if_pos inside])
    (fun b outside => by rw [wholeRow, zeroRow, classWalk_cons, if_neg (by simp [outside])])
    afterWhole⟩

/-- A number without its sign: `sign` reads a first `0` into `afterZero` and another first digit into
`whole`. -/
theorem readsField_unsignedFloat {sign afterZero whole : Nat}
    (clear : classesApart S numberBytes = true)
    (signRow : ∀ c, (label sign c).walksTo = classWalk [(zeroDigit, afterZero), (nonzeroDigit, whole)] c)
    (fraction : ReadsField afterZero (inClass S) fractionPart (classWalk ends) ∧
      ReadsField whole (inClass S) (fun w => fractionPart (w.dropWhile (inClass digit)))
        (classWalk ends)) :
    ReadsField sign (inClass S) unsignedFloat (classWalk ends) := by
  refine readsField_of_step (fun b _ => ?_) (fun c stops => ?_)
  · rw [signRow, classWalk_cons, classWalk_cons, classWalk_nil]
    split
    · exact ⟨_, fraction.1, fun w => by simp [unsignedFloat, *]⟩
    · split
      · exact ⟨_, fraction.2, fun w => by simp [unsignedFloat, *]⟩
      · exact fun w => by simp [unsignedFloat, *]
  · obtain ⟨-, -, -, -, -, zeroOut, nonzeroOut⟩ := number_clear clear stops
    simp [signRow, zeroOut, nonzeroOut, unsignedFloat]

/-- A number: `entry` reads an optional minus into `sign`, and a first digit as `sign` does. -/
theorem readsField_floatValue {entry sign afterZero whole : Nat}
    (clear : classesApart S numberBytes = true)
    (entryRow : ∀ c, (label entry c).walksTo =
      classWalk [(minusSign, sign), (zeroDigit, afterZero), (nonzeroDigit, whole)] c)
    (signRow : ∀ c, (label sign c).walksTo =
      classWalk [(zeroDigit, afterZero), (nonzeroDigit, whole)] c)
    (fraction : ReadsField afterZero (inClass S) fractionPart (classWalk ends) ∧
      ReadsField whole (inClass S) (fun w => fractionPart (w.dropWhile (inClass digit)))
        (classWalk ends)) :
    ReadsField entry (inClass S) floatValue (classWalk ends) := by
  refine readsField_of_step (fun b _ => ?_) (fun c stops => ?_)
  · rw [entryRow, classWalk_cons, classWalk_cons, classWalk_cons, classWalk_nil]
    split
    · exact ⟨_, readsField_unsignedFloat clear signRow fraction, fun w => by simp [floatValue, *]⟩
    · split
      · exact ⟨_, fraction.1, fun w => by simp [floatValue, unsignedFloat, *]⟩
      · split
        · exact ⟨_, fraction.2, fun w => by simp [floatValue, unsignedFloat, *]⟩
        · exact fun w => by simp [floatValue, unsignedFloat, *]
  · obtain ⟨-, -, -, -, minusOut, zeroOut, nonzeroOut⟩ := number_clear clear stops
    simp [entryRow, minusOut, zeroOut, nonzeroOut, floatValue]

end

end VcfValidator
