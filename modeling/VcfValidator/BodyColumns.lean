import VcfValidator.BodyClasses
import VcfValidator.ValueReads

/-!
# The columns of a body line

Each column of a body line but `ALT` and `INFO` read from the state the table starts it in, up
to the tab or newline that ends it: the table accepts the column exactly when the column's
predicate of `VcfValidator.BodyGrammar` holds, and goes on in the state that starts the next
column, or, after the last one, in the state that starts the next line. Each is an instance of
the blocks of `VcfValidator.ValueReads` at the states `VcfValidator.BodyClasses` lists.
-/

namespace VcfValidator

set_option autoImplicit false

/-- `CHROM`, from the state at the start of a body line. -/
theorem readsField_chromColumn {start : Nat} (starts : start = 623 ∨ start = 624) :
    ReadsField start (inClass columnStop) chromValue (classWalk [(tabByte, 401)]) := by
  have startRow : ∀ c, (label start c).walksTo = classWalk [(alnum, 400), (openAngle, 423)] c := by
    rcases starts with rfl | rfl <;> exact label_classes rfl
  exact readsField_chromosome (by decide) (by decide) startRow (label_classes rfl)
    (label_classes rfl) (label_classes rfl) (label_classes rfl) (label_classes rfl)
    (label_classes rfl) (label_classes rfl) (label_classes rfl)

/-- `POS`. -/
theorem readsField_posColumn :
    ReadsField 401 (inClass columnStop) intValue (classWalk [(tabByte, 404)]) :=
  readsField_intValue (by decide) (by decide) (label_classes rfl) (label_classes rfl)
    (label_classes rfl)

/-- `ID`: identifiers between `;`. -/
theorem readsField_idColumn :
    ReadsField 404 (inClass columnStop) idColumn (classWalk [(tabByte, 406)]) :=
  have items : ReadsField 404 (inClass (columnStop ++ semicolon)) (plusOf idByte)
      (classWalk [(semicolon, 404), (tabByte, 406)]) :=
    readsField_plusOf (by decide) (by decide) (label_classes rfl) (label_classes rfl)
  readsField_itemsOn_classes (by decide) items items

/-- `REF`. -/
theorem readsField_refColumn :
    ReadsField 406 (inClass columnStop) refColumn (classWalk [(tabByte, 408)]) :=
  readsField_plusOf (by decide) (by decide) (label_classes rfl) (label_classes rfl)

/-- `QUAL`: the states of a number, and a first `.` into state 563, which ends the column. -/
theorem readsField_qualColumn :
    ReadsField 410 (inClass columnStop) qualColumn (classWalk [(tabByte, 413)]) := by
  have fraction : ReadsField 412 (inClass columnStop) fractionPart (classWalk [(tabByte, 413)]) ∧
      ReadsField 562 (inClass columnStop) (fun w => fractionPart (w.dropWhile (inClass digit)))
        (classWalk [(tabByte, 413)]) :=
    readsField_fraction (by decide) (by decide)
    (label_classes rfl) (label_classes rfl) (label_classes rfl) (label_classes rfl)
    (label_classes rfl) (label_classes rfl) (label_classes rfl)
  have entryRow : ∀ c, (label 410 c).walksTo = classWalk
      [(minusSign, 411), (zeroDigit, 412), (nonzeroDigit, 562), (period, 563)] c := label_classes rfl
  have point : ∀ b, inClass period b = false ∨ inClass minusSign b = false ∧
      inClass zeroDigit b = false ∧ inClass nonzeroDigit b = false := fun b => by
    simp only [inClass, inRanges, period, minusSign, zeroDigit, nonzeroDigit, List.any_cons,
      List.any_nil, Bool.or_false, Bool.and_eq_false_imp, decide_eq_true_eq, decide_eq_false_iff_not]
    omega
  refine readsField_of_step (fun b _ => ?_) (fun c stops => ?_)
  · rw [entryRow, classWalk_cons, classWalk_cons, classWalk_cons, classWalk_cons, classWalk_nil]
    rcases point b with pointOut | ⟨minusOut, zeroOut, nonzeroOut⟩
    · split
      · exact ⟨_, readsField_unsignedFloat (by decide) (label_classes rfl) fraction,
          fun w => by simp [qualColumn, missingValue, floatValue, pointOut, *]⟩
      · split
        · exact ⟨_, fraction.1, fun w => by
            simp [qualColumn, missingValue, floatValue, unsignedFloat, pointOut, *]⟩
        · split
          · exact ⟨_, fraction.2, fun w => by
              simp [qualColumn, missingValue, floatValue, unsignedFloat, pointOut, *]⟩
          · rw [if_neg (by simp [pointOut])]
            exact fun w => by simp [qualColumn, missingValue, floatValue, unsignedFloat, pointOut, *]
    · rw [if_neg (by simp [minusOut]), if_neg (by simp [zeroOut]), if_neg (by simp [nonzeroOut])]
      split
      · exact ⟨_, readsField_end (by decide) (label_classes rfl), fun w => by
          simp [qualColumn, missingValue, floatValue, unsignedFloat, minusOut, zeroOut, nonzeroOut, *]⟩
      · exact fun w => by simp [qualColumn, missingValue, floatValue, unsignedFloat, *]
  · obtain ⟨-, pointOut, -, -, minusOut, zeroOut, nonzeroOut⟩ :=
      number_clear (S := columnStop) (by decide) stops
    simp [entryRow, pointOut, minusOut, zeroOut, nonzeroOut, qualColumn, missingValue, single,
      floatValue]

/-- `FORMAT`: keys of letters and digits between `:`. -/
theorem readsField_formatColumn :
    ReadsField 419 (inClass columnStop) formatColumn (classWalk [(tabByte, 421)]) :=
  have items : ReadsField 419 (inClass (columnStop ++ colon)) (plusOf alnum)
      (classWalk [(colon, 419), (tabByte, 421)]) :=
    readsField_plusOf (by decide) (by decide) (label_classes rfl) (label_classes rfl)
  readsField_itemsOn_classes (by decide) items items

/-- A sample column: alleles between `/` or `|` from 421 and from 428, then subfields between `:`
from 430. The column ends the line at a newline, or goes on to the next sample at a tab. -/
theorem readsField_sampleColumn :
    ReadsField 421 (inClass columnStop) sampleColumn
      (classWalk [(tabByte, 421), (newlineByte, 624)]) := by
  have allele : ∀ entry, entry = 421 ∨ entry = 428 →
      ReadsField entry (inClass (columnStop ++ colon ++ alleleSep)) alleleValue
        (classWalk [(alleleSep, 428), (colon, 430), (tabByte, 421), (newlineByte, 624)]) := by
    rintro entry (rfl | rfl) <;>
      exact readsField_missingOr (by decide) (by decide) (by decide) (label_classes rfl)
        (label_classes rfl) (label_classes rfl)
  have subfield : ReadsField 430 (inClass (columnStop ++ colon)) (plusOf sampleFieldByte)
      (classWalk [(colon, 430), (tabByte, 421), (newlineByte, 624)]) :=
    readsField_plusOf (by decide) (by decide) (label_classes rfl) (label_classes rfl)
  exact readsField_itemsOn_classes (by decide)
    (readsField_itemsOn_classes (by decide) (allele 421 (.inl rfl)) (allele 428 (.inr rfl)))
    subfield

/-- `FILTER`: the missing value, or filters between `;`. State 413 reads a first `.` into 556,
which ends the column at once or reads on as 555, the state after a `;`, and every other byte as
555 does. -/
theorem readsField_filterColumn :
    ReadsField 413 (inClass columnStop) filterColumn (classWalk [(tabByte, 416)]) := by
  have unseenRow : ∀ c, (label 414 c).walksTo = classWalk [(filterPunct, 414), (alnum, 415)] c :=
    label_classes rfl
  have seenRow : ∀ c, (label 415 c).walksTo =
      classWalk [(alnum ++ filterPunct, 415), (semicolon, 555), (tabByte, 416)] c := label_classes rfl
  have startRow : ∀ c, (label 555 c).walksTo = classWalk [(filterPunct, 414), (alnum, 415)] c :=
    label_classes rfl
  have start : ReadsField 555 (inClass (columnStop ++ semicolon)) (idValue filterPunct)
      (classWalk [(semicolon, 555), (tabByte, 416)]) :=
    readsField_idStart (by decide) (by decide) (by decide) startRow unseenRow seenRow
  have filters := readsField_itemsOn_classes (by decide) start start
  have dot : ReadsField 556 (inClass columnStop)
      (fun w => w.isEmpty || itemsOn (inClass semicolon) (idValue filterPunct) (idValue filterPunct) w)
      (classWalk [(tabByte, 416)]) := by
    have dotRow : ∀ c, (label 556 c).walksTo =
        classWalk [(filterPunct, 414), (alnum, 415), (tabByte, 416)] c := label_classes rfl
    refine readsField_optional (fun b inner => ?_) (fun c stops => ?_) filters
    · simp [dotRow, startRow,
        inClass_false_of_subClass (show subClass tabByte columnStop = true by decide) inner]
    · have outside := inClass_of_classesApart
        (show classesApart columnStop (filterPunct ++ alnum) = true by decide) stops
      rw [inClass_append, Bool.or_eq_false_iff] at outside
      simp [dotRow, outside.1, outside.2]
  have entryRow : ∀ c, (label 413 c).walksTo =
      classWalk [(filterLead, 414), (alnum, 415), (period, 556)] c := label_classes rfl
  refine readsField_except (fun b notDot => ?_) (fun b dot => ?_)
    (fun c stops => inClass_of_classesApart (show classesApart columnStop period = true by decide)
      stops) filters dot rfl (fun b w => ?_)
  · have leadSame : inClass filterLead b = inClass filterPunct b := by
      cases lead : inClass filterLead b
      · refine (Bool.eq_false_iff.mpr fun punct => ?_).symm
        have either := inClass_of_coveredBy
          (show coveredBy filterPunct (filterLead ++ period) = true by decide) punct
        simp [inClass_append, lead, notDot] at either
      · exact (inClass_of_subClass (show subClass filterLead filterPunct = true by decide) lead).symm
    simp only [entryRow, startRow, classWalk_cons, classWalk_nil, leadSame, notDot,
      Bool.false_eq_true, if_false]
  · have other := inClass_of_classesApart
      (show classesApart period (filterLead ++ alnum) = true by decide) dot
    rw [inClass_append, Bool.or_eq_false_iff] at other
    simp [entryRow, classWalk_cons, other.1, other.2, dot]
  · by_cases dot : inClass period b = true
    · have punct := inClass_of_subClass (show subClass period filterPunct = true by decide) dot
      have notLetter := inClass_of_classesApart (show classesApart period alnum = true by decide) dot
      have notSemicolon := inClass_of_classesApart
        (show classesApart period semicolon = true by decide) dot
      simp only [filterColumn, missingValue, single_cons, itemsOn_cons, notSemicolon, dot,
        Bool.false_eq_true, if_false, if_true, Bool.true_and]
      exact congrArg _ (itemsOn_congr (fun field => by simp [idValue, punct, notLetter]) w)
    · simp [filterColumn, missingValue, dot]

end VcfValidator
