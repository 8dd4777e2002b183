import VcfValidator.BodyColumns

/-!
# The `INFO` column

`INFO` is read entry by entry, each entry up to a `;`, a tab or a newline. An entry's key is read
by the trie of `VcfValidator.InfoKeys`, woven into the key states: after a reserved key `=` leads
into the key's own value state, after any other key with a letter or digit into the generic value
state 437, and a key that needs a value may not end without one. Each value state is an instance
of a block of `VcfValidator.ValueReads`, with the kind `reservedInfoKinds` gives the key. The
first entry starts in state 416, which reads as the entry after `;` does but for a `.` that is
the whole column, the missing `INFO`.
-/

namespace VcfValidator

open Scanner

set_option autoImplicit false

/-- The bytes that end an `INFO` entry: a tab, a newline and `;`. -/
def entryStop : List (Nat × Nat) := columnStop ++ semicolon

/-- Where the table goes on after an `INFO` entry: into the next entry after `;`, into `FORMAT`
after a tab, into the next line after a newline. -/
def entryEnds : List (List (Nat × Nat) × Nat) :=
  [(semicolon, 432), (tabByte, 419), (newlineByte, 624)]

/-! ## The values of each kind -/

section

variable {entry : Nat}

theorem readsField_flagValue {done : Nat}
    (entryRow : ∀ c, (label entry c).walksTo = classWalk [(flagDigit, done)] c)
    (doneRow : ∀ c, (label done c).walksTo = classWalk entryEnds c) :
    ReadsField entry (inClass entryStop) InfoKind.flag.accepts (classWalk entryEnds) :=
  readsField_single (by decide) (by decide) entryRow doneRow

theorem readsField_sequenceValue {dot more : Nat}
    (entryRow : ∀ c, (label entry c).walksTo = classWalk [(period, dot), (bases, more)] c)
    (dotRow : ∀ c, (label dot c).walksTo = classWalk entryEnds c)
    (moreRow : ∀ c, (label more c).walksTo = classWalk ((bases, more) :: entryEnds) c) :
    ReadsField entry (inClass entryStop) InfoKind.sequence.accepts (classWalk entryEnds) :=
  readsField_missingOr (by decide) (by decide) (by decide) entryRow dotRow moreRow

theorem readsField_integerValue {sign digits : Nat}
    (entryRow : ∀ c, (label entry c).walksTo = classWalk [(minusSign, sign), (digit, digits)] c)
    (signRow : ∀ c, (label sign c).walksTo = classWalk [(digit, digits)] c)
    (digitsRow : ∀ c, (label digits c).walksTo = classWalk ((digit, digits) :: entryEnds) c) :
    ReadsField entry (inClass entryStop) InfoKind.integer.accepts (classWalk entryEnds) :=
  readsField_intValue (by decide) (by decide) entryRow signRow digitsRow

/-- Integers between commas: each item is read from `entry` again, as the digits lead back to it
by `,`. -/
theorem readsField_integersValue {sign digits : Nat}
    (entryRow : ∀ c, (label entry c).walksTo = classWalk [(minusSign, sign), (digit, digits)] c)
    (signRow : ∀ c, (label sign c).walksTo = classWalk [(digit, digits)] c)
    (digitsRow : ∀ c, (label digits c).walksTo =
      classWalk ((digit, digits) :: (comma, entry) :: entryEnds) c) :
    ReadsField entry (inClass entryStop) InfoKind.integers.accepts (classWalk entryEnds) :=
  have items : ReadsField entry (inClass (entryStop ++ comma)) intValue
      (classWalk ((comma, entry) :: entryEnds)) :=
    readsField_intValue (by decide) rfl entryRow signRow digitsRow
  readsField_itemsOn_classes (by decide) items items

theorem readsField_realValue {sign afterZero whole dot frac mark expSign exp : Nat}
    (entryRow : ∀ c, (label entry c).walksTo =
      classWalk [(minusSign, sign), (zeroDigit, afterZero), (nonzeroDigit, whole)] c)
    (signRow : ∀ c, (label sign c).walksTo =
      classWalk [(zeroDigit, afterZero), (nonzeroDigit, whole)] c)
    (zeroRow : ∀ c, (label afterZero c).walksTo =
      classWalk ((period, dot) :: (exponentMark, mark) :: entryEnds) c)
    (wholeRow : ∀ c, (label whole c).walksTo =
      classWalk ((digit, whole) :: (period, dot) :: (exponentMark, mark) :: entryEnds) c)
    (dotRow : ∀ c, (label dot c).walksTo = classWalk [(digit, frac)] c)
    (fracRow : ∀ c, (label frac c).walksTo =
      classWalk ((digit, frac) :: (exponentMark, mark) :: entryEnds) c)
    (markRow : ∀ c, (label mark c).walksTo = classWalk [(exponentSign, expSign), (digit, exp)] c)
    (expSignRow : ∀ c, (label expSign c).walksTo = classWalk [(digit, exp)] c)
    (expRow : ∀ c, (label exp c).walksTo = classWalk ((digit, exp) :: entryEnds) c) :
    ReadsField entry (inClass entryStop) InfoKind.real.accepts (classWalk entryEnds) :=
  readsField_floatValue (by decide) entryRow signRow
    (readsField_fraction (by decide) (by decide) zeroRow wholeRow dotRow fracRow markRow
      expSignRow expRow)

/-- Numbers between commas, each read from `entry` again. -/
theorem readsField_realsValue {sign afterZero whole dot frac mark expSign exp : Nat}
    (entryRow : ∀ c, (label entry c).walksTo =
      classWalk [(minusSign, sign), (zeroDigit, afterZero), (nonzeroDigit, whole)] c)
    (signRow : ∀ c, (label sign c).walksTo =
      classWalk [(zeroDigit, afterZero), (nonzeroDigit, whole)] c)
    (zeroRow : ∀ c, (label afterZero c).walksTo =
      classWalk ((period, dot) :: (exponentMark, mark) :: (comma, entry) :: entryEnds) c)
    (wholeRow : ∀ c, (label whole c).walksTo = classWalk
      ((digit, whole) :: (period, dot) :: (exponentMark, mark) :: (comma, entry) :: entryEnds) c)
    (dotRow : ∀ c, (label dot c).walksTo = classWalk [(digit, frac)] c)
    (fracRow : ∀ c, (label frac c).walksTo =
      classWalk ((digit, frac) :: (exponentMark, mark) :: (comma, entry) :: entryEnds) c)
    (markRow : ∀ c, (label mark c).walksTo = classWalk [(exponentSign, expSign), (digit, exp)] c)
    (expSignRow : ∀ c, (label expSign c).walksTo = classWalk [(digit, exp)] c)
    (expRow : ∀ c, (label exp c).walksTo =
      classWalk ((digit, exp) :: (comma, entry) :: entryEnds) c) :
    ReadsField entry (inClass entryStop) InfoKind.reals.accepts (classWalk entryEnds) :=
  have items : ReadsField entry (inClass (entryStop ++ comma)) floatValue
      (classWalk ((comma, entry) :: entryEnds)) :=
    readsField_floatValue (by decide) entryRow signRow
      (readsField_fraction (by decide) rfl zeroRow wholeRow dotRow fracRow markRow
        expSignRow expRow)
  readsField_itemsOn_classes (by decide) items items

theorem readsField_wordValue {more : Nat}
    (entryRow : ∀ c, (label entry c).walksTo = classWalk [(alnum, more)] c)
    (moreRow : ∀ c, (label more c).walksTo = classWalk ((alnum, more) :: entryEnds) c) :
    ReadsField entry (inClass entryStop) InfoKind.word.accepts (classWalk entryEnds) :=
  readsField_plusOf (by decide) (by decide) entryRow moreRow

end

/-- The value of a key that is not reserved, from state 437. -/
theorem readsField_genericValue :
    ReadsField 437 (inClass entryStop) (plusOf idByte) (classWalk entryEnds) :=
  readsField_plusOf (by decide) (by decide) (label_classes rfl) (label_classes rfl)

/-! ## The reserved keys and their kinds -/

/-- A reserved key, looked up by the table's value states: its kind, whether it is a flag, a
letter in it, and its value state, which reads the values of its kind. -/
theorem reservedValueState_reads {key : List UInt8} {value : Nat}
    (reserved : reservedValueState key = some value) :
    ∃ kind, infoKind key = some kind ∧ isInfoFlag key = (kind == .flag) ∧
      key.any (inClass alnum) = true ∧
      ReadsField value (inClass entryStop) kind.accepts (classWalk entryEnds) := by
  obtain ⟨entry, found, rfl⟩ := Option.map_eq_some'.mp reserved
  have same : bytesOf entry.1 = key := by simpa using List.find?_some found
  subst same
  have member := List.mem_of_find?_eq_some found
  simp only [reservedInfoKeys, List.mem_cons, List.mem_singleton, List.not_mem_nil,
    or_false] at member
  rcases member with rfl | rfl | rfl | rfl | rfl | rfl | rfl | rfl | rfl | rfl | rfl | rfl |
    rfl | rfl | rfl | rfl | rfl | rfl
  · exact ⟨.flag, by decide, by decide, by decide,
      readsField_flagValue (label_classes rfl) (label_classes rfl)⟩
  · exact ⟨.sequence, by decide, by decide, by decide,
      readsField_sequenceValue (label_classes rfl) (label_classes rfl) (label_classes rfl)⟩
  · exact ⟨.integers, by decide, by decide, by decide,
      readsField_integersValue (label_classes rfl) (label_classes rfl) (label_classes rfl)⟩
  · exact ⟨.reals, by decide, by decide, by decide,
      readsField_realsValue (label_classes rfl) (label_classes rfl) (label_classes rfl)
        (label_classes rfl) (label_classes rfl) (label_classes rfl) (label_classes rfl)
        (label_classes rfl) (label_classes rfl)⟩
  · exact ⟨.integer, by decide, by decide, by decide,
      readsField_integerValue (label_classes rfl) (label_classes rfl) (label_classes rfl)⟩
  · exact ⟨.real, by decide, by decide, by decide,
      readsField_realValue (label_classes rfl) (label_classes rfl) (label_classes rfl)
        (label_classes rfl) (label_classes rfl) (label_classes rfl) (label_classes rfl)
        (label_classes rfl) (label_classes rfl)⟩
  · exact ⟨.word, by decide, by decide, by decide,
      readsField_wordValue (label_classes rfl) (label_classes rfl)⟩
  · exact ⟨.flag, by decide, by decide, by decide,
      readsField_flagValue (label_classes rfl) (label_classes rfl)⟩
  · exact ⟨.integer, by decide, by decide, by decide,
      readsField_integerValue (label_classes rfl) (label_classes rfl) (label_classes rfl)⟩
  · exact ⟨.integer, by decide, by decide, by decide,
      readsField_integerValue (label_classes rfl) (label_classes rfl) (label_classes rfl)⟩
  · exact ⟨.flag, by decide, by decide, by decide,
      readsField_flagValue (label_classes rfl) (label_classes rfl)⟩
  · exact ⟨.flag, by decide, by decide, by decide,
      readsField_flagValue (label_classes rfl) (label_classes rfl)⟩
  · exact ⟨.real, by decide, by decide, by decide,
      readsField_realValue (label_classes rfl) (label_classes rfl) (label_classes rfl)
        (label_classes rfl) (label_classes rfl) (label_classes rfl) (label_classes rfl)
        (label_classes rfl) (label_classes rfl)⟩
  · exact ⟨.integer, by decide, by decide, by decide,
      readsField_integerValue (label_classes rfl) (label_classes rfl) (label_classes rfl)⟩
  · exact ⟨.integer, by decide, by decide, by decide,
      readsField_integerValue (label_classes rfl) (label_classes rfl) (label_classes rfl)⟩
  · exact ⟨.real, by decide, by decide, by decide,
      readsField_realValue (label_classes rfl) (label_classes rfl) (label_classes rfl)
        (label_classes rfl) (label_classes rfl) (label_classes rfl) (label_classes rfl)
        (label_classes rfl) (label_classes rfl)⟩
  · exact ⟨.flag, by decide, by decide, by decide,
      readsField_flagValue (label_classes rfl) (label_classes rfl)⟩
  · exact ⟨.flag, by decide, by decide, by decide,
      readsField_flagValue (label_classes rfl) (label_classes rfl)⟩

/-- A key the table does not reserve has no kind. -/
theorem infoKind_of_unreserved {key : List UInt8} (unreserved : reservedValueState key = none) :
    infoKind key = none := by
  cases kind : infoKind key with
  | none => rfl
  | some k =>
      obtain ⟨entry, found, -⟩ := Option.map_eq_some'.mp kind
      have same : bytesOf entry.1 = key := by simpa using List.find?_some found
      subst same
      have member := List.mem_of_find?_eq_some found
      simp only [reservedInfoKinds, List.mem_cons, List.mem_singleton, List.not_mem_nil,
        or_false] at member
      rcases member with rfl | rfl | rfl | rfl | rfl | rfl | rfl | rfl | rfl | rfl | rfl | rfl |
        rfl | rfl | rfl | rfl | rfl | rfl
      all_goals exact absurd unreserved (by decide)

/-! ## The end of a key -/

theorem st418_walksAs : st418.walksAs
    [(keyByte, 418), (equalsSign, 437), (semicolon, 432), (tabByte, 419), (newlineByte, 624)] =
      true := by
  decide

theorem st417_walksAs : st417.walksAs [(keyPunct, 417), (alnum, 418)] = true := by decide

/-- A byte that ends a key, in the generic key states: after a letter or digit, `=` into the
generic value and the bytes that end an entry out of it; after punctuation only, nowhere. -/
theorem label_genericKeyState_end (key : List UInt8) {c : UInt8} (ends : inClass keyByte c = false) :
    (label (genericKeyState key) c).walksTo =
      if key.any (inClass alnum) then classWalk ((equalsSign, 437) :: entryEnds) c else none := by
  unfold genericKeyState
  split
  · rw [label_walksAs (by rw [row_genericKey]; exact st418_walksAs), classWalk_cons,
      if_neg (by simp [ends])]
    rfl
  · rw [label_walksAs (by rw [row_punctKey]; exact st417_walksAs)]
    refine classWalk_none fun entry member => ?_
    simp only [List.mem_cons, List.mem_singleton, List.not_mem_nil, or_false] at member
    rcases member with rfl | rfl
    · exact inClass_false_of_subClass (show subClass keyPunct keyByte = true by decide) ends
    · exact inClass_false_of_subClass (show subClass alnum keyByte = true by decide) ends

/-- A run of key bytes from the entry state leaves the table where `keyState` says. -/
theorem tableWalk_key {key : List UInt8} (keyBytes : key.all (inClass keyByte) = true)
    (more : List UInt8) : tableWalk 432 (key ++ more) = tableWalk (keyState key) more := by
  have trie := tableWalk_follows label_keyState [] key keyBytes
  rw [List.nil_append, show keyState [] = 432 from rfl] at trie
  exact tableWalk_append_of_walk trie more

/-! ## An entry, cut at the end of its key -/

theorem toNat_of_point {n : Nat} {b : UInt8} (inside : inClass [(n, n)] b = true) : b.toNat = n := by
  simp only [inClass, inRanges, List.any_cons, List.any_nil, Bool.or_false, Bool.and_eq_true,
    decide_eq_true_eq] at inside
  omega

theorem eq_61_of_equalsSign {b : UInt8} (equals : inClass equalsSign b = true) : b = 61 :=
  byte_eq_of_toNat (toNat_of_point equals)

theorem ne_61_of_equalsSign {b : UInt8} (other : inClass equalsSign b = false) : b ≠ 61 := by
  rintro rfl
  cases other

theorem keyBytes_kept {key : List UInt8} (keyBytes : key.all (inClass keyByte) = true) :
    ∀ b ∈ key, (!inClass equalsSign b) = true := fun b member => by
  simp [inClass_of_classesApart (show classesApart keyByte equalsSign = true by decide)
    (List.all_eq_true.mp keyBytes b member)]

/-- A run of key bytes has a letter or digit exactly when it is an identifier. -/
theorem idValue_of_keyBytes {key : List UInt8} (keyBytes : key.all (inClass keyByte) = true) :
    idValue keyPunct key = key.any (inClass alnum) := by
  rw [idValue, List.all_eq_true.mpr fun b member => ?_, Bool.true_and]
  rcases keyByte_cases (List.all_eq_true.mp keyBytes b member) with letter | ⟨punct, -⟩
  · simp [letter]
  · simp [punct]

/-- An entry with no `=`: a key with a letter or digit that is not a reserved key needing a
value. -/
theorem infoEntry_of_key {key : List UInt8} (keyBytes : key.all (inClass keyByte) = true) :
    infoEntry key = (key.any (inClass alnum) && (infoKind key).all (· == .flag)) := by
  have whole := @List.takeWhile_append_of_pos _ _ key [] (keyBytes_kept keyBytes)
  have none := @List.dropWhile_append_of_pos _ _ key [] (keyBytes_kept keyBytes)
  rw [List.append_nil] at whole none
  simp only [infoEntry, whole, none, List.takeWhile_nil, List.dropWhile_nil, List.append_nil,
    idValue_of_keyBytes keyBytes]

/-- An entry with a value: the key, `=`, and a value of the key's kind, or for a key that is not
reserved a run of printable bytes. -/
theorem infoEntry_of_value {key : List UInt8} (keyBytes : key.all (inClass keyByte) = true)
    (value : List UInt8) :
    infoEntry (key ++ 61 :: value) = (key.any (inClass alnum) &&
      (infoKind key).elim (plusOf idByte value) (·.accepts value)) := by
  have cuts : (!inClass equalsSign (61 : UInt8)) = false := rfl
  simp only [infoEntry, List.takeWhile_append_of_pos (keyBytes_kept keyBytes),
    List.dropWhile_append_of_pos (keyBytes_kept keyBytes), List.takeWhile_cons, List.dropWhile_cons,
    cuts, Bool.false_eq_true, if_false, List.append_nil, idValue_of_keyBytes keyBytes]
  cases infoKind key <;> rfl

/-- An entry whose key runs into a byte that is neither a key byte nor `=`. -/
theorem infoEntry_of_stray {key : List UInt8} (keyBytes : key.all (inClass keyByte) = true)
    {d : UInt8} (stray : inClass keyByte d = false) (other : inClass equalsSign d = false)
    (after : List UInt8) : infoEntry (key ++ d :: after) = false := by
  have kept : (!inClass equalsSign d) = true := by simp [other]
  have strange : (inClass alnum d || inClass keyPunct d) = false := by
    simp [inClass_false_of_subClass (show subClass alnum keyByte = true by decide) stray,
      inClass_false_of_subClass (show subClass keyPunct keyByte = true by decide) stray]
  simp only [infoEntry, List.takeWhile_append_of_pos (keyBytes_kept keyBytes), List.takeWhile_cons,
    kept, if_true, idValue, List.all_append, List.all_cons, strange, Bool.false_and,
    Bool.and_false]

/-! ## An entry -/

/-- An `INFO` entry, from state 432 up to the `;`, tab or newline that ends it: the table accepts
it exactly when `infoEntry` holds, and goes on as `entryEnds` says. -/
theorem readsField_infoEntry :
    ReadsField 432 (inClass entryStop) infoEntry (classWalk entryEnds) := by
  intro v c rest clean stops
  have stopKey : inClass keyByte c = false :=
    inClass_of_classesApart (show classesApart entryStop keyByte = true by decide) stops
  have stopEquals : inClass equalsSign c = false :=
    inClass_of_classesApart (show classesApart entryStop equalsSign = true by decide) stops
  have exits : ∀ key, (label (genericKeyState key) c).walksTo =
      if key.any (inClass alnum) then classWalk entryEnds c else none := fun key => by
    rw [label_genericKeyState_end key stopKey, classWalk_cons,
      if_neg (show ¬inClass equalsSign c = true by simp [stopEquals])]
  by_cases strange : ∃ b ∈ v, (!inClass keyByte b) = true
  · obtain ⟨key, d, after, rfl, keyBytes, ends, -⟩ := split_at_first strange
    replace keyBytes : key.all (inClass keyByte) = true :=
      List.all_eq_true.mpr fun b member => by simpa using keyBytes b member
    replace ends : inClass keyByte d = false := by simpa using ends
    have valueClean : ∀ b ∈ after, inClass entryStop b = false := fun b member =>
      clean b (List.mem_append_right _ (List.mem_cons_of_mem _ member))
    rw [List.append_assoc, List.cons_append, tableWalk_key keyBytes, tableWalk_cons,
      label_keyState_end key ends]
    by_cases equals : inClass equalsSign d = true
    · obtain rfl := eq_61_of_equalsSign equals
      rw [infoEntry_of_value keyBytes]
      cases reserved : reservedValueState key with
      | some value =>
          obtain ⟨kind, kindOf, -, lettered, reads⟩ := reservedValueState_reads reserved
          dsimp only
          rw [if_pos rfl, Option.some_bind, kindOf, lettered, Bool.true_and]
          exact reads after c rest valueClean stops
      | none =>
          dsimp only
          rw [infoKind_of_unreserved reserved, label_genericKeyState_end key ends]
          cases key.any (inClass alnum)
          · rfl
          · exact readsField_genericValue after c rest valueClean stops
    · replace equals : inClass equalsSign d = false := by simpa using equals
      have inside : inClass entryStop d = false :=
        clean d (List.mem_append_right _ (List.mem_cons_self _ _))
      have dead : (label (genericKeyState key) d).walksTo = none := by
        rw [label_genericKeyState_end key ends]
        split
        · exact classWalk_of_endsWithin (S := equalsSign ++ entryStop) (by decide)
            (by simp [inClass_append, equals, inside])
        · rfl
      rw [infoEntry_of_stray keyBytes ends equals]
      cases reservedValueState key <;> simp [ne_61_of_equalsSign equals, dead]
  · have keyBytes : v.all (inClass keyByte) = true := List.all_eq_true.mpr fun b member => by
      cases byte : inClass keyByte b
      · exact absurd ⟨b, member, by simp [byte]⟩ strange
      · rfl
    rw [tableWalk_key keyBytes, tableWalk_cons, label_keyState_end v stopKey,
      infoEntry_of_key keyBytes]
    cases reserved : reservedValueState v with
    | some value =>
        obtain ⟨kind, kindOf, flagOf, lettered, -⟩ := reservedValueState_reads reserved
        dsimp only
        rw [if_neg (ne_61_of_equalsSign stopEquals), flagOf, kindOf, exits, lettered]
        cases kind <;> rfl
    | none =>
        dsimp only
        rw [infoKind_of_unreserved reserved, exits]
        cases v.any (inClass alnum) <;> rfl

/-! ## The column -/

/-- The entries of `INFO` between `;`, from state 432. -/
theorem readsField_infoEntries :
    ReadsField 432 (inClass columnStop) (itemsOn (inClass semicolon) infoEntry infoEntry)
      (classWalk [(tabByte, 419), (newlineByte, 624)]) :=
  readsField_itemsOn_classes (by decide) readsField_infoEntry readsField_infoEntry

set_option maxRecDepth 8000 in
/-- After a first `.`, the tab and the newline end the missing column. -/
theorem label_missingInfo_end :
    (label 554 9).walksTo = some 419 ∧ (label 554 10).walksTo = some 624 := by
  decide

theorem toNat_of_columnStop {b : UInt8} (stops : inClass columnStop b = true) :
    b.toNat = 9 ∨ b.toNat = 10 := by
  simp only [inClass, inRanges, columnStop, List.any_cons, List.any_nil, Bool.or_false,
    Bool.and_eq_true, decide_eq_true_eq] at stops
  omega

/-- A first entry other than a lone `.` is walked from state 416 as from 432. -/
theorem tableWalk_firstEntry_of_ne {v : List UInt8} (notMissing : v ≠ [46])
    (clean : ∀ b ∈ v, inClass columnStop b = false) {c : UInt8}
    (stops : inClass columnStop c = true) (rest : List UInt8) :
    tableWalk 416 (v ++ c :: rest) = tableWalk 432 (v ++ c :: rest) := by
  have notDot : ∀ {b : UInt8}, inClass columnStop b = true → b.toNat ≠ 46 := fun stops => by
    rcases toNat_of_columnStop stops with same | same <;> omega
  cases v with
  | nil => simp only [List.nil_append, tableWalk_cons, label_firstEntry (notDot stops)]
  | cons b w =>
      by_cases dot : b = 46
      · subst dot
        cases w with
        | nil => exact absurd rfl notMissing
        | cons b' w =>
            have notEnd : b'.toNat ∉ [9, 10] := fun member => by
              have inside : inClass columnStop b' = true := by
                simp only [List.mem_cons, List.mem_singleton, List.not_mem_nil, or_false] at member
                simp only [inClass, inRanges, columnStop, List.any_cons, List.any_nil,
                  Bool.or_false, Bool.and_eq_true, decide_eq_true_eq]
                omega
              rw [clean b' (List.mem_cons_of_mem _ (List.mem_cons_self _ _))] at inside
              cases inside
            exact tableWalk_firstEntry_dot notEnd (w ++ c :: rest)
      · have other : b.toNat ≠ 46 := fun same => dot (byte_eq_of_toNat same)
        simp only [List.cons_append, tableWalk_cons, label_firstEntry other]

theorem missingValue_of_ne {v : List UInt8} (notMissing : v ≠ [46]) : missingValue v = false := by
  match v, notMissing with
  | [], _ => rfl
  | [b], notMissing =>
      have other : b ≠ 46 := fun same => notMissing (by rw [same])
      simp only [missingValue, single_cons, List.isEmpty_nil, Bool.and_true]
      exact Bool.eq_false_iff.mpr fun dot => other (byte_eq_of_toNat (toNat_of_point dot))
  | _ :: _ :: _, _ => rfl

/-- `INFO`, from state 416, up to the tab or newline that ends it: the table accepts the column
exactly when `infoColumn` holds, and goes on into `FORMAT` after a tab and into the next line
after a newline. -/
theorem readsField_infoColumn :
    ReadsField 416 (inClass columnStop) infoColumn (classWalk [(tabByte, 419), (newlineByte, 624)]) := by
  intro v c rest clean stops
  by_cases missing : v = [46]
  · subst missing
    have byte : c = 9 ∨ c = 10 := by
      rcases toNat_of_columnStop stops with same | same
      · exact .inl (byte_eq_of_toNat same)
      · exact .inr (byte_eq_of_toNat same)
    have dot : (label 416 46).walksTo = some 554 := row_firstEntry.2
    rcases byte with rfl | rfl
    · rw [List.singleton_append, tableWalk_cons, dot, Option.some_bind, tableWalk_cons,
        label_missingInfo_end.1]
      rfl
    · rw [List.singleton_append, tableWalk_cons, dot, Option.some_bind, tableWalk_cons,
        label_missingInfo_end.2]
      rfl
  · rw [tableWalk_firstEntry_of_ne missing clean stops, readsField_infoEntries v c rest clean stops,
      infoColumn, missingValue_of_ne missing, Bool.false_or]

/-! ## The reserved keys, exactly -/

/-- The INFO keys of a body line, from the first entry (but for the missing column '.') and from
an entry after ';', up to the byte that ends the key: a reserved key is read into its own value
state by '=', and if it needs a value every other end is rejected; any other key, a prefix or
an extension of a reserved key among them, is read as the generic key states 417 and 418 read
it. No reserved key's value state is the generic value state 437, and each reads the values of
the key's kind in the INFO grammar. -/
theorem reserved_info_keys_exact :
    (∀ entry ∈ reservedInfoKeys, entry.2 ≠ 437) ∧
      (∀ key value, reservedValueState key = some value → ∃ kind, infoKind key = some kind ∧
        ReadsField value (inClass entryStop) kind.accepts (classWalk entryEnds)) ∧
      ∀ entry : Nat, (entry = 416 ∨ entry = 432) → ∀ key : List UInt8,
        key.all (inClass keyByte) = true → (entry = 416 → key ≠ bytesOf ".") →
        ∀ c : UInt8, inClass keyByte c = false → ∀ rest : List UInt8,
          tableWalk entry (key ++ c :: rest) =
            match reservedValueState key with
            | some value =>
                if c = 61 then tableWalk value rest
                else if isInfoFlag key then tableWalk 417 (key ++ c :: rest) else none
            | none => tableWalk 417 (key ++ c :: rest) := by
  refine ⟨by decide, fun _ _ reserved => ?_, fun entry start key keyBytes notMissing c ends rest => ?_⟩
  · obtain ⟨kind, kindOf, -, -, reads⟩ := reservedValueState_reads reserved
    exact ⟨kind, kindOf, reads⟩
  have trie := tableWalk_follows label_keyState [] key keyBytes
  have generic := tableWalk_follows label_genericKeyState [] key keyBytes
  rw [List.nil_append, show keyState [] = 432 from rfl] at trie
  rw [List.nil_append, show genericKeyState [] = 417 from rfl] at generic
  have entered : tableWalk entry (key ++ c :: rest) = tableWalk 432 (key ++ c :: rest) := by
    rcases start with rfl | rfl
    · exact tableWalk_firstEntry key keyBytes (notMissing rfl) ends rest
    · rfl
  rw [entered, tableWalk_append_of_walk trie, tableWalk_append_of_walk generic]
  simp only [tableWalk_cons]
  rw [label_keyState_end key ends]
  cases reservedValueState key with
  | none => rfl
  | some value =>
      by_cases equals : c = 61
      · simp [equals]
      · cases isInfoFlag key <;> simp [equals]

theorem mq0_needs_value_mq00_generic :
    tableWalk 432 (bytesOf "MQ0" ++ 9 :: bytesOf "x") = none ∧
      tableWalk 416 (bytesOf "MQ00" ++ 61 :: bytesOf "1") =
        tableWalk 417 (bytesOf "MQ00" ++ 61 :: bytesOf "1") :=
  ⟨reserved_info_keys_exact.2.2 432 (.inr rfl) _ (by decide) (by decide) 9 (by decide) _,
    reserved_info_keys_exact.2.2 416 (.inl rfl) _ (by decide) (by decide) 61 (by decide) _⟩

end VcfValidator
