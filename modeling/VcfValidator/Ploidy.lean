import VcfValidator.Columns

/-!
# The ploidy check and the genotype subfield

The ploidy loop of `optional_check_body_entry` counts the alleles of each sample as the fields of
its part before the first `:`, split at `|`, `,` and `/`. Its `ploidy` starts at the sentinel
`-1`, takes the count of the first sample, which is never below 1, and the first later sample of
another count throws the warning, named by its index from 0.

The `,` among the delimiters is never met in a sample the scanner accepts: the genotype subfield
of a sample column is alleles (`.` or digits) separated by `/` or `|`, and every other byte fails
there. So on the samples of an accepted line the loop counts exactly the `/`- or `|`-separated
alleles.
-/

namespace VcfValidator

open Scanner

set_option autoImplicit false

/-! ## Fields of `boost::split` -/

theorem splitFields_ne_nil (delimiters chars : List Char) : splitFields delimiters chars ≠ [] := by
  cases chars with
  | nil => simp [splitFields]
  | cons c rest =>
      unfold splitFields
      split
      · simp
      · split <;> simp

/-- Every delimiter closes one field, and the text after the last one is one more. -/
theorem splitFields_length (delimiters chars : List Char) :
    (splitFields delimiters chars).length = chars.countP (fun c => decide (c ∈ delimiters)) + 1 := by
  induction chars with
  | nil => rfl
  | cons c rest ih =>
      unfold splitFields
      by_cases member : c ∈ delimiters
      · simp [member, ih, List.countP_cons]
      · rw [if_neg member]
        cases fields : splitFields delimiters rest with
        | nil => exact absurd fields (splitFields_ne_nil _ _)
        | cons field more =>
            rw [fields, List.length_cons] at ih
            simp [List.countP_cons, member]
            omega

/-- The first field is the text up to the first delimiter. -/
theorem splitFields_headD (delimiters chars : List Char) :
    (splitFields delimiters chars).headD [] = chars.takeWhile fun c => !decide (c ∈ delimiters) := by
  induction chars with
  | nil => rfl
  | cons c rest ih =>
      unfold splitFields
      by_cases member : c ∈ delimiters
      · simp [member]
      · rw [if_neg member]
        cases fields : splitFields delimiters rest with
        | nil => exact absurd fields (splitFields_ne_nil _ _)
        | cons field more =>
            rw [fields] at ih
            simp only [List.headD_cons] at ih ⊢
            simp [member, ih]

/-- The allele count the ploidy loop computes for a sample. -/
def alleleCount (sample : String) : Nat :=
  (split ['|', ',', '/'] ((split [':'] sample).headD "")).length

/-- The genotype subfield of a sample: its part before the first `:`. -/
def genotypeOf (sample : String) : List Char := sample.toList.takeWhile fun c => c ≠ ':'

/-- The allele count in the words of the data model: the `/`- or `|`-separated items of the
genotype subfield. -/
def genotypeAlleles (sample : String) : Nat := (splitFields ['|', '/'] (genotypeOf sample)).length

theorem alleleCount_eq (sample : String) :
    alleleCount sample = (genotypeOf sample).countP (fun c => decide (c ∈ ['|', ',', '/'])) + 1 := by
  have first : (split [':'] sample).headD "" = String.mk (genotypeOf sample) := by
    have colon : (fun c : Char => decide (c ≠ ':')) = fun c => !decide (c ∈ [':']) := by
      funext c
      simp
    rw [split, genotypeOf, colon, ← splitFields_headD]
    cases splitFields [':'] sample.toList with
    | nil => rfl
    | cons field more => rfl
  rw [alleleCount, first, split, List.length_map, splitFields_length]
  rfl

theorem one_le_genotypeAlleles (sample : String) : 1 ≤ genotypeAlleles sample := by
  rw [genotypeAlleles, splitFields_length]
  omega

/-- Without `,` in the genotype subfield the loop counts the `/`- or `|`-separated alleles. -/
theorem alleleCount_eq_genotypeAlleles {sample : String} (clean : ',' ∉ genotypeOf sample) :
    alleleCount sample = genotypeAlleles sample := by
  rw [alleleCount_eq, genotypeAlleles, splitFields_length]
  congr 1
  refine List.countP_congr fun c member => ?_
  have comma : c ≠ ',' := fun same => clean (same ▸ member)
  simp [comma]

/-! ## The ploidy loop -/

/-- The first sample sets the ploidy to its count. -/
theorem ploidyWarning_unset (index : Nat) {ploidy : Int} (unset : ploidy ≤ 0) (sample : String)
    (samples : List String) :
    ploidyWarning index ploidy (sample :: samples) =
      ploidyWarning (index + 1) (alleleCount sample) samples := by
  simp only [ploidyWarning]
  rw [if_neg (by omega)]
  rfl

/-- Once the ploidy is set, a sample of another count throws, named by its index. -/
theorem ploidyWarning_set (index : Nat) {ploidy : Int} (set : 0 < ploidy) (sample : String)
    (samples : List String) :
    ploidyWarning index ploidy (sample :: samples) =
      if (alleleCount sample : Int) ≠ ploidy then
        some ("Sample #" ++ toString index ++ " has " ++ toString (alleleCount sample) ++
          " allele(s), but " ++ toString ploidy ++ " were found in others")
      else ploidyWarning (index + 1) ploidy samples := by
  simp only [ploidyWarning]
  rw [if_pos set]
  rfl

/-- Once the ploidy is set, the first sample of another count throws, named by its index. -/
theorem ploidyWarning_some (ploidy : Nat) (set : 0 < ploidy) (samples : List String)
    (index : Nat) (message : String) :
    ploidyWarning index ploidy samples = some message ↔
      ∃ pre sample post, samples = pre ++ sample :: post ∧ (∀ t ∈ pre, alleleCount t = ploidy) ∧
        alleleCount sample ≠ ploidy ∧
        message = "Sample #" ++ toString (index + pre.length) ++ " has " ++
          toString (alleleCount sample) ++ " allele(s), but " ++ toString ploidy ++
          " were found in others" := by
  induction samples generalizing index with
  | nil =>
      simp only [ploidyWarning, reduceCtorEq, false_iff, not_exists, not_and]
      intro pre sample post split
      exact absurd split.symm (List.append_ne_nil_of_right_ne_nil _ (List.cons_ne_nil _ _))
  | cons first rest ih =>
      rw [ploidyWarning_set index (by omega : (0 : Int) < ploidy)]
      simp only [List.cons_eq_append_iff]
      by_cases same : alleleCount first = ploidy
      · rw [if_neg (by omega), ih]
        constructor
        · rintro ⟨pre, sample, post, rfl, counts, differs, text⟩
          refine ⟨first :: pre, sample, post, .inr ⟨pre, rfl, rfl⟩, ?_, differs, ?_⟩
          · intro t member
            rcases List.mem_cons.mp member with rfl | later
            · exact same
            · exact counts t later
          · rw [text, List.length_cons, Nat.add_assoc, Nat.add_comm 1]
        · rintro ⟨pre, sample, post, ⟨rfl, split⟩ | ⟨pre', rfl, split⟩, counts, differs, text⟩
          · cases split
            exact absurd same differs
          · refine ⟨pre', sample, post, split, fun t member => counts t (List.mem_cons_of_mem _ member),
              differs, ?_⟩
            rw [text, List.length_cons, Nat.add_assoc, Nat.add_comm 1]
      · rw [if_pos (by omega)]
        constructor
        · intro found
          cases found
          exact ⟨[], first, rest, .inl ⟨rfl, rfl⟩, fun _ member => absurd member (List.not_mem_nil _),
            same, rfl⟩
        · rintro ⟨pre, sample, post, ⟨rfl, split⟩ | ⟨pre', rfl, split⟩, counts, differs, text⟩
          · cases split
            rw [text]
            rfl
          · exact absurd (counts first (List.mem_cons_self _ _)) same

/-- Once the ploidy is set, the loop throws nothing exactly when every sample has that count. -/
theorem ploidyWarning_none (ploidy : Nat) (set : 0 < ploidy) (samples : List String)
    (index : Nat) :
    ploidyWarning index ploidy samples = none ↔ ∀ sample ∈ samples, alleleCount sample = ploidy := by
  induction samples generalizing index with
  | nil => simp [ploidyWarning]
  | cons first rest ih =>
      rw [ploidyWarning_set index (by omega : (0 : Int) < ploidy), List.forall_mem_cons]
      by_cases same : alleleCount first = ploidy
      · rw [if_neg (by omega), ih]
        exact ⟨fun counts => ⟨same, counts⟩, And.right⟩
      · rw [if_pos (by omega)]
        exact ⟨Option.noConfusion, fun counts => absurd counts.1 same⟩

/-- From the sentinel, on samples with no `,` in their genotype, the loop throws nothing exactly
when every `/`- or `|`-separated count is the first sample's. -/
theorem ploidyWarning_clean_none {samples : List String}
    (clean : ∀ sample ∈ samples, ',' ∉ genotypeOf sample) :
    ploidyWarning 0 (-1) samples = none ↔
      ∀ sample ∈ samples, genotypeAlleles sample = genotypeAlleles (samples.headD "") := by
  cases samples with
  | nil => simp [ploidyWarning]
  | cons first rest =>
      have counts : ∀ t ∈ first :: rest, alleleCount t = genotypeAlleles t :=
        fun t member => alleleCount_eq_genotypeAlleles (clean t member)
      rw [ploidyWarning_unset 0 (by decide), counts first (List.mem_cons_self _ _),
        ploidyWarning_none _ (one_le_genotypeAlleles first), List.headD_cons, List.forall_mem_cons,
        eq_self, true_and]
      exact forall₂_congr fun t member => by rw [counts t (List.mem_cons_of_mem _ member)]

/-- From the sentinel, on samples with no `,` in their genotype, the loop names the first sample
whose `/`- or `|`-separated count differs from the first sample's, by its index from 0. -/
theorem ploidyWarning_clean_some {samples : List String}
    (clean : ∀ sample ∈ samples, ',' ∉ genotypeOf sample) (message : String) :
    ploidyWarning 0 (-1) samples = some message ↔
      ∃ first pre sample post, samples = first :: pre ++ sample :: post ∧
        (∀ t ∈ pre, genotypeAlleles t = genotypeAlleles first) ∧
        genotypeAlleles sample ≠ genotypeAlleles first ∧
        message = "Sample #" ++ toString (pre.length + 1) ++ " has " ++
          toString (genotypeAlleles sample) ++ " allele(s), but " ++
          toString (genotypeAlleles first) ++ " were found in others" := by
  cases samples with
  | nil => simp [ploidyWarning]
  | cons first rest =>
      have counts : ∀ t ∈ first :: rest, alleleCount t = genotypeAlleles t :=
        fun t member => alleleCount_eq_genotypeAlleles (clean t member)
      rw [ploidyWarning_unset 0 (by decide), counts first (List.mem_cons_self _ _),
        ploidyWarning_some _ (one_le_genotypeAlleles first)]
      simp only [List.cons_append, List.cons.injEq, and_assoc, exists_and_left, exists_eq_left']
      refine exists_congr fun pre => exists_congr fun sample => exists_congr fun post =>
        and_congr_right fun split => ?_
      have inRest : ∀ t ∈ pre ++ sample :: post, alleleCount t = genotypeAlleles t :=
        fun t member => counts t (List.mem_cons_of_mem _ (split ▸ member))
      rw [inRest sample (by simp), Nat.zero_add, Nat.add_comm 1]
      exact and_congr_left' (forall₂_congr fun t member => by
        rw [inRest t (List.mem_append_left _ member)])

/-! ## The genotype subfield in the scanner -/

/-- Which subfield of a sample column a state reads: the genotype before the first `:` (`false`)
or the subfields after it (`true`); `none` outside the sample column. -/
def sampleStage (cs : Nat) : Option Bool :=
  if cs = 421 ∨ cs = 422 ∨ cs = 428 ∨ cs = 429 then some false
  else if cs = 430 ∨ cs = 431 then some true
  else none

/-- Whether the label of the byte `c`, neither a tab nor a newline, read in a sample state of
stage `after`, keeps the sample column: an error, or a move within the column that takes no `,`
in the genotype and leaves the genotype exactly on `:`. -/
def Scanner.Tr.keepsGenotype (after : Bool) (c : Nat) (tr : Tr) : Bool :=
  match tr.actions with
  | .error _ _ :: _ => true
  | _ =>
      match sampleStage tr.target with
      | none => false
      | some next => if after then next else c != 44 && next == (c == 58)

set_option maxRecDepth 8000 in
/-- The six sample states keep the sample column on every byte but the tab and the newline. -/
theorem rows_keepGenotype :
    [421, 422, 428, 429, 430, 431].all (fun cs => (List.range 256).all fun c =>
      c == 9 || c == 10 || (label cs c.toUInt8).keepsGenotype (cs == 430 || cs == 431) c) = true := by
  decide

theorem label_keepsGenotype {cs : Nat} {after : Bool} (stage : sampleStage cs = some after)
    {c : UInt8} (notTab : c ≠ 9) (notNewline : c ≠ 10) :
    (label cs c).keepsGenotype after c.toNat = true := by
  have byte : c.toNat.toUInt8 = c := UInt8.eq_of_val_eq (Fin.ext (Nat.mod_eq_of_lt c.val.isLt))
  have other : c.toNat ≠ 9 ∧ c.toNat ≠ 10 :=
    ⟨fun same => notTab (byte ▸ same ▸ rfl), fun same => notNewline (byte ▸ same ▸ rfl)⟩
  have listed : cs ∈ [421, 422, 428, 429, 430, 431] ∧ (cs == 430 || cs == 431) = after := by
    unfold sampleStage at stage
    split at stage
    · cases stage
      simp only [List.mem_cons, List.mem_singleton, Bool.or_eq_false_iff, beq_eq_false_iff_ne]
      omega
    · split at stage
      · cases stage
        simp only [List.mem_cons, List.mem_singleton, Bool.or_eq_true, beq_iff_eq]
        omega
      · cases stage
  have fits := List.all_eq_true.mp (List.all_eq_true.mp rows_keepGenotype cs listed.1) c.toNat
    (List.mem_range.mpr c.val.isLt)
  simp only [Bool.or_eq_true, beq_iff_eq, other, false_or, byte, listed.2] at fits
  exact fits

/-- Where a sample column is after the bytes `column` read from its start: in a sample state,
the column a genotype with neither `:` nor `,`, followed, once a `:` has been read, by that `:`
and the rest. -/
def SamplePos (cs : Nat) (column : List UInt8) : Prop :=
  ∃ after genotype rest, sampleStage cs = some after ∧ column = genotype ++ rest ∧
    58 ∉ genotype ∧ 44 ∉ genotype ∧ (after = false → rest = []) ∧
    (after = true → rest.head? = some 58)

/-- The part of a sample column before its first `:` is its genotype. -/
theorem SamplePos.genotype {cs : Nat} {column : List UInt8} (pos : SamplePos cs column) :
    44 ∉ column.takeWhile (· != 58) := by
  obtain ⟨after, genotype, rest, -, rfl, noColon, noComma, before, past⟩ := pos
  have inside : ∀ b ∈ genotype, (b != 58) = true := fun b member => by
    simp only [bne_iff_ne, ne_eq]
    exact fun same => noColon (same ▸ member)
  rw [List.takeWhile_append_of_pos inside]
  have stops : rest.takeWhile (· != 58) = [] := by
    cases after
    · rw [before rfl]
      rfl
    · cases rest with
      | nil => rfl
      | cons b more =>
          cases (Option.some.inj (past rfl) : b = 58)
          rfl
  rw [stops, List.append_nil]
  exact noComma

theorem SamplePos.extend {cs : Nat} {column : List UInt8} (pos : SamplePos cs column) {after : Bool}
    (stage : sampleStage cs = some after) {c : UInt8} {target : Nat} {next : Bool}
    (stage₁ : sampleStage target = some next)
    (keeps : (if after then next else c.toNat != 44 && next == (c.toNat == 58)) = true) :
    SamplePos target (column ++ [c]) := by
  have toNat : ∀ b : UInt8, c = b ↔ c.toNat = b.toNat :=
    fun b => ⟨fun same => by rw [same], fun same => UInt8.eq_of_val_eq (Fin.ext same)⟩
  obtain ⟨after₀, genotype, rest, stage₀, rfl, noColon, noComma, before, past⟩ := pos
  cases stage.symm.trans stage₀
  cases after
  · simp only [Bool.false_eq_true, ite_false, Bool.and_eq_true, bne_iff_ne, ne_eq,
      beq_iff_eq] at keeps
    rw [before rfl, List.append_nil]
    have comma : c ≠ 44 := fun same => keeps.1 ((toNat 44).mp same)
    by_cases colon : c = 58
    · have : next = true := keeps.2.trans (by simp [(toNat 58).mp colon])
      subst this
      exact ⟨true, genotype, [c], stage₁, rfl, noColon, noComma, Bool.noConfusion,
        fun _ => by rw [colon]; rfl⟩
    · have : next = false :=
        keeps.2.trans (beq_eq_false_iff_ne.mpr fun same => colon ((toNat 58).mpr same))
      subst this
      refine ⟨false, genotype ++ [c], [], stage₁, (List.append_nil _).symm, ?_, ?_,
        fun _ => rfl, Bool.noConfusion⟩
      · simp only [List.mem_append, List.mem_singleton, not_or]
        exact ⟨noColon, Ne.symm colon⟩
      · simp only [List.mem_append, List.mem_singleton, not_or]
        exact ⟨noComma, Ne.symm comma⟩
  · simp only [ite_true] at keeps
    subst keeps
    obtain ⟨b, more, rfl⟩ : ∃ b more, rest = b :: more := by
      cases rest with
      | nil => cases past rfl
      | cons b more => exact ⟨b, more, rfl⟩
    exact ⟨true, genotype, b :: more ++ [c], stage₁, by simp, noColon, noComma, Bool.noConfusion,
      fun _ => past rfl⟩

theorem sampleStage_body {cs : Nat} {after : Bool} (stage : sampleStage cs = some after) :
    isBodyState cs = true := by
  unfold sampleStage at stage
  split at stage
  · simp only [isBodyState, Bool.or_eq_true, Bool.and_eq_true, decide_eq_true_eq, beq_iff_eq]
    omega
  · split at stage
    · simp only [isBodyState, Bool.or_eq_true, Bool.and_eq_true, decide_eq_true_eq, beq_iff_eq]
      omega
    · cases stage

set_option maxRecDepth 8000 in
/-- Every tab read in the `FORMAT` column or a sample column fails or starts a sample column in
state 421. -/
theorem rows_tabStartsSample :
    (List.range 625).all (fun cs => !(isBodyState cs && 9 ≤ columnOf cs) ||
      match (label cs 9).actions with
      | .error _ _ :: _ => true
      | _ => (label cs 9).target == 421) = true := by
  decide

section

variable {σ : Type} (P : ParsePolicy σ)

/-- A byte of a sample column other than the tab and the newline, read with no error, keeps the
column's position. -/
theorem samplePos_step {s : Parser σ} {column : List UInt8} (pos : SamplePos s.cs column)
    (alive : s.thrown = none) {c : UInt8} (notTab : c ≠ 9) (notNewline : c ≠ 10)
    (quiet : ∀ e ∈ (s.step P c).2, e.isError = false) :
    SamplePos (s.step P c).1.cs (column ++ [c]) ∧ (s.step P c).1.thrown = none := by
  have ⟨after, _, _, stage, _⟩ := pos
  obtain ⟨calls, -, -, -, -, same⟩ :=
    label_body_byte P (sampleStage_body stage) alive notNewline quiet
  obtain ⟨-, cs, alive₁, -⟩ := runActions_allCalls P calls (label s.cs c).target s c alive
  have keeps := label_keepsGenotype stage notTab notNewline
  unfold Tr.keepsGenotype at keeps
  split at keeps
  · next sec message rest failing =>
      exact absurd (calls _ (failing ▸ List.mem_cons_self _ _)) (by simp [Action.isCall])
  split at keeps
  · cases keeps
  next next stage₁ =>
  rw [same]
  exact ⟨by rw [cs]; exact pos.extend stage stage₁ keeps, alive₁⟩

end


/-- The text a policy builds from the bytes of a token, one character per byte, as the store
policy does. -/
def textOf (bytes : List UInt8) : String := String.mk (bytes.map fun c => Char.ofNat c.toNat)

theorem charOfByte_eq (c b : UInt8) (ch : Char) (code : ch.toNat = b.toNat) :
    Char.ofNat c.toNat = ch ↔ c = b := by
  have valid : c.toNat.isValidChar := Or.inl (Nat.lt_trans c.val.isLt (by decide))
  constructor
  · intro same
    have toNat := congrArg Char.toNat same
    rw [Char.ofNat, dif_pos valid] at toNat
    exact UInt8.eq_of_val_eq (Fin.ext (toNat.trans code))
  · rintro rfl
    rw [← code, Char.ofNat_toNat]

/-- The genotype of a column's text is the text of its bytes before the first `:`. -/
theorem genotypeOf_textOf (bytes : List UInt8) :
    genotypeOf (textOf bytes) = (bytes.takeWhile (· != 58)).map fun c => Char.ofNat c.toNat := by
  have colon : (fun c : UInt8 => decide (Char.ofNat c.toNat ≠ ':')) = (· != 58) := by
    funext c
    rw [Bool.eq_iff_iff, decide_eq_true_iff, bne_iff_ne, ne_eq, ne_eq,
      charOfByte_eq c 58 ':' rfl]
  rw [genotypeOf, textOf, String.toList, List.takeWhile_map]
  exact congrArg _ (congrArg (List.takeWhile · bytes) colon)

end VcfValidator
