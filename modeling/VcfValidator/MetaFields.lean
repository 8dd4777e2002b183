import VcfValidator.TableWalk

/-!
# The fields of structured meta lines

The `ID`, `Number` and `Type` of an `INFO` or `FORMAT` line and the `ID` of an `ALT` line are
read by small loops of the table, each ended by the comma after the field. Three shapes cover
them all: a loop over a class of bytes (`loopsOn`), a field of a class with at least one byte of
a core class that punctuation may lead (`fieldStart`, the IDs and `Type`), and the `Number`
field (`numberStart`). Each loop's row is checked once against its shape over every byte; the
languages the loops accept are then proved by induction over the field, and `run_quiet_iff`
turns them into what a run of the scanner reports.

What the loops accept is less than the error texts name. `Type` is any non-empty run of ASCII
letters, not only `Integer`, `Float`, `Flag`, `Character` or `String`, and an `ALT` ID is any
run of letters, digits, `_` and `:` with a letter or digit in it, not only one that starts with
`DEL`, `INS`, `DUP`, `INV` or `CNV`: the texts of `infoTypeError` and `altIdPrefixError` are
raised only for a byte outside those classes.
-/

namespace VcfValidator

open Scanner

set_option autoImplicit false

/-! ## Byte classes and the fields they make -/

/-- `digit` of the grammar. -/
def digit : List (Nat × Nat) := [(48, 57)]

/-- `alpha` of the grammar: the ASCII letters. -/
def alpha : List (Nat × Nat) := [(65, 90), (97, 122)]

def alnum : List (Nat × Nat) := digit ++ alpha

/-- The comma that ends each field. -/
def comma : List (Nat × Nat) := [(44, 44)]

/-- The punctuation of a meta `ID` besides letters and digits: `-`, `.` and `_`. -/
def idPunct : List (Nat × Nat) := [(45, 46), (95, 95)]

/-- The punctuation of an `ALT` ID besides letters and digits: `:` and `_`. -/
def altPunct : List (Nat × Nat) := [(58, 58), (95, 95)]

/-- The bytes of an `ALT` ID after its first letter or digit, as state 78 tests them. -/
def altIdChar : List (Nat × Nat) := [(48, 58), (65, 90), (95, 95), (97, 122)]

/-- The one-byte values of `Number`: `A`, `R`, `G` and the dot. -/
def numberCodes : List (Nat × Nat) := [(65, 65), (82, 82), (71, 71), (46, 46)]

/-- An ID: bytes of `alnum` and `punct`, at least one of them of `alnum`. -/
def idValue (punct : List (Nat × Nat)) (v : List UInt8) : Bool :=
  v.all (fun c => inClass alnum c || inClass punct c) && v.any (inClass alnum)

/-- The `ID` of an `INFO` or `FORMAT` line. -/
def metaIdValue (v : List UInt8) : Bool := idValue idPunct v

/-- The `ID` of an `ALT` line. -/
def altIdValue (v : List UInt8) : Bool := idValue altPunct v

/-- The `Type` the scanner takes: a non-empty run of letters. -/
def typeValue (v : List UInt8) : Bool := !v.isEmpty && v.all (inClass alpha)

/-- The `Number` the scanner takes: a non-negative count in decimal digits, or one of `A`, `R`,
`G` and the dot. -/
def numberValue (v : List UInt8) : Bool :=
  (!v.isEmpty && v.all (inClass digit)) || v ∈ [bytesOf "A", bytesOf "R", bytesOf "G", bytesOf "."]

theorem classWalk_two (A B : List (Nat × Nat)) (a b : Nat) (c : UInt8) :
    classWalk [(A, a), (B, b)] c = if inClass A c then some a else if inClass B c then some b else none := by
  unfold classWalk
  cases inA : inClass A c <;> cases inB : inClass B c <;> simp [List.find?, inA, inB]

theorem inClass_comma (c : UInt8) : inClass comma c = true ↔ c = 44 := by
  simp only [inClass, inRanges, comma, List.any_cons, List.any_nil, Bool.or_false, Bool.and_eq_true,
    decide_eq_true_eq]
  exact ⟨fun bounds => byte_eq_of_toNat (show c.toNat = 44 by omega), fun same => by subst same; decide⟩

theorem inClass_append (A B : List (Nat × Nat)) (c : UInt8) :
    inClass (A ++ B) c = (inClass A c || inClass B c) := by
  simp [inClass, inRanges]

/-! ## What the loops accept -/

section

variable {exit : Nat}

theorem tableWalk_loop {q : Nat} {cls : List (Nat × Nat)}
    (loops : ∀ c, (label q c).walksTo = classWalk [(comma, exit), (cls, q)] c) (v rest : List UInt8)
    (ends : 44 ∉ v) : tableWalk q (v ++ 44 :: rest) = if v.all (inClass cls) then tableWalk exit rest else none := by
  induction v with
  | nil => simp [loops, classWalk_two, (inClass_comma 44).mpr rfl]
  | cons c v ih =>
      simp only [List.mem_cons, not_or] at ends
      have notComma : inClass comma c = false :=
        Bool.eq_false_iff.mpr fun inside => ends.1 ((inClass_comma c).mp inside).symm
      simp only [List.cons_append, tableWalk_cons, loops, classWalk_two, notComma, List.all_cons]
      by_cases inCls : inClass cls c <;> simp [inCls, ih ends.2]

/-- An ID or a `Type`: `punct` bytes loop in `lead` until a byte of `core` moves to `body`, which
loops over `cls`, the bytes of either class. -/
theorem tableWalk_field {entry lead body : Nat} {punct core cls : List (Nat × Nat)}
    (starts : ∀ c, (label entry c).walksTo = classWalk [(punct, lead), (core, body)] c)
    (leads : ∀ c, (label lead c).walksTo = classWalk [(punct, lead), (core, body)] c)
    (loops : ∀ c, (label body c).walksTo = classWalk [(comma, exit), (cls, body)] c)
    (either : ∀ c, inClass cls c = (inClass core c || inClass punct c))
    (apart : ∀ c, inClass punct c = true → inClass core c = false)
    (noComma : inClass cls 44 = false) (v rest : List UInt8) (ends : 44 ∉ v) :
    tableWalk entry (v ++ 44 :: rest) =
      if v.all (inClass cls) && v.any (inClass core) then tableWalk exit rest else none := by
  have fromLead : ∀ v, 44 ∉ v → tableWalk lead (v ++ 44 :: rest) =
      if v.all (inClass cls) && v.any (inClass core) then tableWalk exit rest else none := by
    intro v ends
    induction v with
    | nil =>
        rw [either, Bool.or_eq_false_iff] at noComma
        simp [leads, classWalk_two, noComma]
    | cons c v ih =>
        simp only [List.mem_cons, not_or] at ends
        simp only [List.cons_append, tableWalk_cons, leads, classWalk_two, List.all_cons,
          List.any_cons, either c]
        cases inPunct : inClass punct c
        · cases inCore : inClass core c
          · simp
          · simp [tableWalk_loop loops v rest ends.2]
        · simp [apart c inPunct, ih ends.2]
  obtain ⟨c, bytes, split⟩ : ∃ c bytes, v ++ 44 :: rest = c :: bytes := by
    cases v <;> exact ⟨_, _, rfl⟩
  rw [split, tableWalk_cons, starts, ← leads, ← tableWalk_cons, ← split]
  exact fromLead v ends

theorem tableWalk_number {entry code digits : Nat}
    (starts : ∀ c, (label entry c).walksTo = classWalk [(numberCodes, code), (digit, digits)] c)
    (coded : ∀ c, (label code c).walksTo = classWalk [(comma, exit), ([], code)] c)
    (loops : ∀ c, (label digits c).walksTo = classWalk [(comma, exit), (digit, digits)] c)
    (v rest : List UInt8) (ends : 44 ∉ v) :
    tableWalk entry (v ++ 44 :: rest) = if numberValue v then tableWalk exit rest else none := by
  have values : [bytesOf "A", bytesOf "R", bytesOf "G", bytesOf "."] = [[65], [82], [71], [46]] := rfl
  have codes (c : UInt8) : inClass numberCodes c = true ↔ c = 65 ∨ c = 82 ∨ c = 71 ∨ c = 46 := by
    simp only [inClass, inRanges, numberCodes, List.any_cons, List.any_nil, Bool.or_false,
      Bool.or_eq_true, Bool.and_eq_true, decide_eq_true_eq]
    constructor
    · intro inside
      rcases (by omega : c.toNat = 65 ∨ c.toNat = 82 ∨ c.toNat = 71 ∨ c.toNat = 46) with
        same | same | same | same
      · exact .inl (byte_eq_of_toNat same)
      · exact .inr (.inl (byte_eq_of_toNat same))
      · exact .inr (.inr (.inl (byte_eq_of_toNat same)))
      · exact .inr (.inr (.inr (byte_eq_of_toNat same)))
    · rintro (rfl | rfl | rfl | rfl) <;> decide
  cases v with
  | nil => simp [starts, classWalk_two, numberValue]; rfl
  | cons c w =>
      simp only [List.mem_cons, not_or] at ends
      simp only [List.cons_append, tableWalk_cons, starts, classWalk_two]
      by_cases code : inClass numberCodes c
      · have notDigit : inClass digit c = false := by
          rcases (codes c).mp code with rfl | rfl | rfl | rfl <;> rfl
        simp only [code, ite_true, Option.some_bind, tableWalk_loop coded w rest ends.2]
        cases w with
        | nil => simp [numberValue, values, notDigit, (codes c).mp code]
        | cons d w =>
            have empty : inClass [] d = false := rfl
            simp [numberValue, values, notDigit, empty]
      · have notCode := mt (codes c).mpr code
        simp only [not_or] at notCode
        simp only [code, Bool.false_eq_true, ite_false]
        by_cases digits : inClass digit c
        · simp only [digits, ite_true, Option.some_bind, tableWalk_loop loops w rest ends.2]
          simp [numberValue, values, digits, notCode]
        · simp [numberValue, values, digits, notCode]

end

/-! ## The loops of the table -/

/-- The states of a definition line, `INFO` or `FORMAT`, from its `ID` to the comma after its
`Type`: the loops of the three fields and the fixed text between them. -/
structure DefinitionLoops where
  id : Nat
  idLead : Nat
  idBody : Nat
  idEnd : Nat
  number : Nat
  numberCode : Nat
  numberDigits : Nat
  numberEnd : Nat
  type : Nat
  typeBody : Nat
  typeEnd : Nat

/-- Whether the table reads a definition line through these loops. -/
def DefinitionLoops.fits (d : DefinitionLoops) : Bool :=
  (row d.id).walksBy [(idPunct, d.idLead), (alnum, d.idBody)] &&
    (row d.idLead).walksBy [(idPunct, d.idLead), (alnum, d.idBody)] &&
    (row d.idBody).walksBy [(comma, d.idEnd), (alnum ++ idPunct, d.idBody)] &&
    tableWalk d.idEnd (bytesOf "Number=") == some d.number &&
    (row d.number).walksBy [(numberCodes, d.numberCode), (digit, d.numberDigits)] &&
    (row d.numberCode).walksBy [(comma, d.numberEnd), ([], d.numberCode)] &&
    (row d.numberDigits).walksBy [(comma, d.numberEnd), (digit, d.numberDigits)] &&
    tableWalk d.numberEnd (bytesOf "Type=") == some d.type &&
    (row d.type).walksBy [([], d.type), (alpha, d.typeBody)] &&
    (row d.typeBody).walksBy [(comma, d.typeEnd), (alpha, d.typeBody)]

/-- `ID=...,Number=...,Type=...,` of an `INFO` line: states 193 to 212. -/
def infoLoops : DefinitionLoops := ⟨193, 194, 195, 196, 203, 204, 233, 205, 210, 211, 212⟩

/-- `ID=...,Number=...,Type=...,` of a `FORMAT` line: states 144 to 163. -/
def formatLoops : DefinitionLoops := ⟨144, 145, 146, 147, 154, 155, 184, 156, 161, 162, 163⟩

theorem infoLoops_fits : infoLoops.fits = true := by decide

theorem formatLoops_fits : formatLoops.fits = true := by decide

/-- `ID=...,` of an `ALT` line: state 77, the loop 100 over its leading `:` and `_`, and 78. -/
theorem rows_altId :
    (row 77).walksBy [(altPunct, 100), (alnum, 78)] = true ∧
      (row 100).walksBy [(altPunct, 100), (alnum, 78)] = true ∧
      (row 78).walksBy [(comma, 79), (altIdChar, 78)] = true := by
  decide

theorem idPunct_apart (c : UInt8) (punct : inClass idPunct c = true) : inClass alnum c = false := by
  simp only [inClass, inRanges, idPunct, alnum, digit, alpha, List.cons_append, List.nil_append,
    List.any_cons, List.any_nil] at punct ⊢
  simp only [Bool.or_false, Bool.or_eq_true, Bool.and_eq_true, decide_eq_true_eq] at punct
  simp only [Bool.or_false, Bool.or_eq_false_iff, Bool.and_eq_false_iff, decide_eq_false_iff_not]
  omega

theorem altPunct_apart (c : UInt8) (punct : inClass altPunct c = true) : inClass alnum c = false := by
  simp only [inClass, inRanges, altPunct, alnum, digit, alpha, List.cons_append, List.nil_append,
    List.any_cons, List.any_nil] at punct ⊢
  simp only [Bool.or_false, Bool.or_eq_true, Bool.and_eq_true, decide_eq_true_eq] at punct
  simp only [Bool.or_false, Bool.or_eq_false_iff, Bool.and_eq_false_iff, decide_eq_false_iff_not]
  omega

theorem altIdChar_either (c : UInt8) : inClass altIdChar c = (inClass alnum c || inClass altPunct c) := by
  simp only [inClass, inRanges, altIdChar, altPunct, alnum, digit, alpha, List.cons_append,
    List.nil_append, List.any_cons, List.any_nil, Bool.or_false]
  apply Bool.eq_iff_iff.mpr
  simp only [Bool.or_eq_true, Bool.and_eq_true, decide_eq_true_eq]
  omega

theorem typeValue_eq (v : List UInt8) :
    (v.all (inClass alpha) && v.any (inClass alpha)) = typeValue v := by
  cases v with
  | nil => rfl
  | cons c w => by_cases letter : inClass alpha c <;> simp [typeValue, letter]

theorem tableWalk_definition {d : DefinitionLoops} (fits : d.fits = true) (id number type : List UInt8)
    (ends : 44 ∉ id ++ number ++ type) :
    tableWalk d.id (id ++ bytesOf ",Number=" ++ number ++ bytesOf ",Type=" ++ type ++ bytesOf ",") =
      if metaIdValue id && numberValue number && typeValue type then some d.typeEnd else none := by
  simp only [DefinitionLoops.fits, Bool.and_eq_true, beq_iff_eq, and_assoc] at fits
  obtain ⟨idStart, idLead, idBody, toNumber, numberStart, numberCode, numberDigits, toType,
    typeStart, typeBody⟩ := fits
  simp only [List.mem_append, not_or] at ends
  have numberText : bytesOf ",Number=" = 44 :: bytesOf "Number=" := rfl
  have typeText : bytesOf ",Type=" = 44 :: bytesOf "Type=" := rfl
  have endText : bytesOf "," = [44] := rfl
  simp only [List.append_assoc, numberText, typeText, endText, List.cons_append]
  rw [tableWalk_field (label_walksBy idStart) (label_walksBy idLead) (label_walksBy idBody)
      (inClass_append _ _) idPunct_apart rfl id _ ends.1.1, tableWalk_append_of_walk toNumber,
    tableWalk_number (label_walksBy numberStart) (label_walksBy numberCode)
      (label_walksBy numberDigits) number _ ends.1.2, tableWalk_append_of_walk toType,
    tableWalk_field (label_walksBy typeStart) (label_walksBy typeStart) (label_walksBy typeBody)
      (fun c => (Bool.or_false _).symm) (fun _ never => absurd never Bool.false_ne_true) rfl type []
      ends.2, tableWalk_nil, typeValue_eq]
  simp only [metaIdValue, idValue, ← inClass_append]
  generalize (id.all (inClass (alnum ++ idPunct)) && id.any (inClass alnum)) = a
  generalize numberValue number = b
  generalize typeValue type = c
  cases a <;> cases b <;> cases c <;> rfl

theorem tableWalk_altId (id rest : List UInt8) (ends : 44 ∉ id) :
    tableWalk 77 (id ++ 44 :: rest) = if altIdValue id then tableWalk 79 rest else none := by
  obtain ⟨entry, lead, body⟩ := rows_altId
  rw [tableWalk_field (label_walksBy entry) (label_walksBy lead) (label_walksBy body)
    altIdChar_either altPunct_apart rfl id rest ends]
  simp only [altIdValue, idValue, ← altIdChar_either]

/-! ## Meta lines -/

/-- A meta line starts alike after the fileformat line and after a meta line. -/
theorem tableWalk_metaLineStart {cs : Nat} (start : cs = 16 ∨ cs = 20) (rest : List UInt8) :
    tableWalk cs (35 :: rest) = tableWalk 17 rest := by
  rcases start with rfl | rfl <;> rfl

section

variable {σ : Type} (P : ParsePolicy σ)

theorem definitionLine_quiet_iff {d : DefinitionLoops} (fits : d.fits = true) (head : List UInt8)
    (headLine : 10 ∉ head) (opens : tableWalk 17 head = some d.id) (s : Parser σ)
    (start : s.cs = 16 ∨ s.cs = 20) (alive : s.thrown = none) (id number type : List UInt8)
    (inLine : 10 ∉ id ++ number ++ type) (ends : 44 ∉ id ++ number ++ type) :
    (∀ e ∈ (s.run P (35 :: head ++ id ++ bytesOf ",Number=" ++ number ++ bytesOf ",Type=" ++ type ++
        bytesOf ",")).2, e.isError = false) ↔
      metaIdValue id = true ∧ numberValue number = true ∧ typeValue type = true := by
  have noNewline : 10 ∉ 35 :: head ++ id ++ bytesOf ",Number=" ++ number ++ bytesOf ",Type=" ++
      type ++ bytesOf "," := by
    simp only [List.mem_append, List.mem_cons, not_or] at inLine ⊢
    exact ⟨⟨⟨⟨⟨⟨⟨by decide, headLine⟩, inLine.1.1⟩, by decide⟩, inLine.1.2⟩, by decide⟩, inLine.2⟩,
      by decide⟩
  rw [run_quiet_iff P _ noNewline s alive]
  simp only [List.cons_append, List.append_assoc, tableWalk_metaLineStart start]
  rw [tableWalk_append_of_walk opens]
  simp only [← List.append_assoc]
  rw [tableWalk_definition fits id number type ends]
  split
  · next accepted => simpa [and_assoc] using accepted
  · next rejected => simpa [and_assoc] using rejected

theorem altLine_quiet_iff (s : Parser σ) (start : s.cs = 16 ∨ s.cs = 20) (alive : s.thrown = none)
    (id : List UInt8) (inLine : 10 ∉ id) (ends : 44 ∉ id) :
    (∀ e ∈ (s.run P (bytesOf "##ALT=<ID=" ++ id ++ bytesOf ",")).2, e.isError = false) ↔
      altIdValue id = true := by
  have noNewline : 10 ∉ bytesOf "##ALT=<ID=" ++ id ++ bytesOf "," := by
    simp only [List.mem_append, not_or]
    exact ⟨⟨by decide, inLine⟩, by decide⟩
  have opens : tableWalk 17 (bytesOf "#ALT=<ID=") = some 77 := by decide
  rw [run_quiet_iff P _ noNewline s alive, show bytesOf "##ALT=<ID=" = 35 :: bytesOf "#ALT=<ID=" from rfl]
  simp only [List.cons_append, List.append_assoc, tableWalk_metaLineStart start]
  rw [tableWalk_append_of_walk opens, show bytesOf "," = 44 :: [] from rfl, tableWalk_altId id [] ends]
  cases altIdValue id <;> rfl

/-- What the scanner enforces of a structured meta line, from the start of a meta line to the
comma after the field: the `ID`, `Number` and `Type` of an `INFO` or `FORMAT` line are read
without error exactly when the `ID` is letters, digits, `-`, `.` and `_` with a letter or digit,
the `Number` is digits or one of `A`, `R`, `G` and the dot, and the `Type` is any non-empty run of
letters; the `ID` of an `ALT` line exactly when it is letters, digits, `:` and `_` with a letter
or digit. -/
theorem structured_meta_fields :
    (∀ (s : Parser σ) (id number type : List UInt8), (s.cs = 16 ∨ s.cs = 20) → s.thrown = none →
      10 ∉ id ++ number ++ type → 44 ∉ id ++ number ++ type →
      ((∀ e ∈ (s.run P (bytesOf "##INFO=<ID=" ++ id ++ bytesOf ",Number=" ++ number ++
          bytesOf ",Type=" ++ type ++ bytesOf ",")).2, e.isError = false) ↔
        metaIdValue id = true ∧ numberValue number = true ∧ typeValue type = true)) ∧
    (∀ (s : Parser σ) (id number type : List UInt8), (s.cs = 16 ∨ s.cs = 20) → s.thrown = none →
      10 ∉ id ++ number ++ type → 44 ∉ id ++ number ++ type →
      ((∀ e ∈ (s.run P (bytesOf "##FORMAT=<ID=" ++ id ++ bytesOf ",Number=" ++ number ++
          bytesOf ",Type=" ++ type ++ bytesOf ",")).2, e.isError = false) ↔
        metaIdValue id = true ∧ numberValue number = true ∧ typeValue type = true)) ∧
    (∀ (s : Parser σ) (id : List UInt8), (s.cs = 16 ∨ s.cs = 20) → s.thrown = none →
      10 ∉ id → 44 ∉ id →
      ((∀ e ∈ (s.run P (bytesOf "##ALT=<ID=" ++ id ++ bytesOf ",")).2, e.isError = false) ↔
        altIdValue id = true)) :=
  ⟨fun s id number type start alive inLine ends =>
    definitionLine_quiet_iff P infoLoops_fits (bytesOf "#INFO=<ID=") (by decide) (by decide) s start
      alive id number type inLine ends,
  fun s id number type start alive inLine ends =>
    definitionLine_quiet_iff P formatLoops_fits (bytesOf "#FORMAT=<ID=") (by decide) (by decide) s
      start alive id number type inLine ends,
  fun s id start alive inLine ends => altLine_quiet_iff P s start alive id inLine ends⟩

end

/-- A `Type` outside the five of the error text, and an `ALT` ID with none of the five prefixes:
both lines reach `handle_meta_line` and no error is raised. -/
theorem unlisted_type_and_alt_id_accepted :
    (({ Parser.init () with cs := 20 } : Parser Unit).run acceptAll (bytesOf
      "##INFO=<ID=DP,Number=1,Type=Foo,Description=\"d\">\n##ALT=<ID=FOO,Description=\"d\">\n")).2.filter
        (fun e => e.isError || e == .metaLine) = [.metaLine, .metaLine] := by
  decide

theorem unlisted_fields_read_quietly :
    ((∀ e ∈ (({ Parser.init () with cs := 20 } : Parser Unit).run acceptAll
        (bytesOf "##INFO=<ID=" ++ bytesOf "DP" ++ bytesOf ",Number=" ++ bytesOf "1" ++
          bytesOf ",Type=" ++ bytesOf "Foo" ++ bytesOf ",")).2, e.isError = false) ↔
      metaIdValue (bytesOf "DP") = true ∧ numberValue (bytesOf "1") = true ∧
        typeValue (bytesOf "Foo") = true) ∧
    ((∀ e ∈ (({ Parser.init () with cs := 20 } : Parser Unit).run acceptAll
        (bytesOf "##FORMAT=<ID=" ++ bytesOf "GT" ++ bytesOf ",Number=" ++ bytesOf "A" ++
          bytesOf ",Type=" ++ bytesOf "Bar" ++ bytesOf ",")).2, e.isError = false) ↔
      metaIdValue (bytesOf "GT") = true ∧ numberValue (bytesOf "A") = true ∧
        typeValue (bytesOf "Bar") = true) ∧
    ((∀ e ∈ (({ Parser.init () with cs := 20 } : Parser Unit).run acceptAll
        (bytesOf "##ALT=<ID=" ++ bytesOf "FOO" ++ bytesOf ",")).2, e.isError = false) ↔
      altIdValue (bytesOf "FOO") = true) :=
  ⟨(structured_meta_fields acceptAll).1 _ _ _ _ (.inr rfl) rfl (by decide) (by decide),
    (structured_meta_fields acceptAll).2.1 _ _ _ _ (.inr rfl) rfl (by decide) (by decide),
    (structured_meta_fields acceptAll).2.2 _ _ (.inr rfl) rfl (by decide) (by decide)⟩

end VcfValidator
