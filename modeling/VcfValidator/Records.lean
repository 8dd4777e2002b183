import VcfValidator.Step

/-!
# Records across `parse` calls

`Parser::parse` calls `clear_records()` before it reads its buffer, and the order check of
`optional_check_body_entry` compares a body line with `ParsingState::records->back()`. The scanner
itself does not see where one buffer ends and the next begins: when clearing the records changes
nothing, a run in any chunks makes the calls of one run over the whole input. With a policy that
stores records, as the store policy of the spec does, a buffer boundary between two records of one
chromosome loses the order warning; and a position of ten digits or more, which the scanner
accepts, makes `std::stoi` throw past the end-of-line action.
-/

namespace VcfValidator

open Scanner

set_option autoImplicit false

section

variable {σ : Type} (P : ParsePolicy σ)

theorem run_thrown (s : Parser σ) (bytes : List UInt8) (thrown : s.thrown.isSome) :
    s.run P bytes = (s, []) := by
  induction bytes with
  | nil => rfl
  | cons c bytes ih => simp [Parser.run, Parser.step, thrown, ih]

theorem parse_thrown (s : Parser σ) (text : List UInt8) (thrown : s.thrown.isSome) :
    s.parse P text = (s, []) := by
  simp [Parser.parse, thrown]

section Keep

variable (keep : ∀ p, P.clearRecords p = p)
include keep

theorem clearRecords_eq (s : Parser σ) : { s with policy := P.clearRecords s.policy } = s := by
  rw [keep]

/-- When clearing the records changes nothing, one `parse` of two buffers' bytes makes the calls
of two `parse` calls, and reaches their state unless an exception is thrown: each `parse`
restores the `cs` it started with. -/
theorem parse_append (s : Parser σ) (first rest : List UInt8) :
    (s.parse P (first ++ rest)).2 = (s.parse P first).2 ++ ((s.parse P first).1.parse P rest).2 ∧
      ((s.parse P (first ++ rest)).1.thrown = none →
        (s.parse P (first ++ rest)).1 = ((s.parse P first).1.parse P rest).1) := by
  have parse_alive (s : Parser σ) (text : List UInt8) (alive : s.thrown = none) :
      s.parse P text = (if (s.run P text).1.thrown.isSome then { (s.run P text).1 with cs := s.cs }
        else (s.run P text).1, (s.run P text).2) := by
    unfold Parser.parse
    rw [if_neg (by simp [alive]), clearRecords_eq P keep]
  by_cases alive : s.thrown = none
  · rw [parse_alive s _ alive, parse_alive s first alive, run_append]
    by_cases broke : (s.run P first).1.thrown.isSome
    · rw [parse_thrown P _ rest (by simp [broke]), run_thrown P _ rest broke]
      simp [broke]
    · rw [if_neg broke, parse_alive _ rest (by simpa using broke)]
      refine ⟨rfl, fun unbroken => ?_⟩
      by_cases broke₂ : ((s.run P first).1.run P rest).1.thrown.isSome
      · simp only [broke₂, ite_true] at unbroken
        simp [unbroken] at broke₂
      · simp only [broke₂, Bool.false_eq_true, ite_false]
  · simp [parse_thrown P s _ (Option.ne_none_iff_isSome.mp alive)]

/-- When clearing the records changes nothing, the buffers make the calls of one buffer holding
all of them, and reach its state unless an exception is thrown. -/
theorem parseChunks_flatten (s : Parser σ) (chunks : List (List UInt8)) :
    (s.parseChunks P chunks).2 = (s.parse P chunks.flatten).2 ∧
      ((s.parse P chunks.flatten).1.thrown = none →
        (s.parseChunks P chunks).1 = (s.parse P chunks.flatten).1) := by
  induction chunks generalizing s with
  | nil =>
      unfold Parser.parse
      split <;> simp [Parser.parseChunks, Parser.run, clearRecords_eq P keep]
  | cons chunk chunks ih =>
      obtain ⟨events, state⟩ := parse_append P keep s chunk chunks.flatten
      obtain ⟨events₁, state₁⟩ := ih (s.parse P chunk).1
      refine ⟨by simp [Parser.parseChunks, events, events₁], fun alive => ?_⟩
      rw [List.flatten_cons] at alive ⊢
      rw [state alive]
      exact state₁ (state alive ▸ alive)

end Keep

end

/-- What a store policy keeps while it reads: the token being read, the column it is in, the
tokens of the line so far with their columns, and `ParsingState::records`. -/
structure StoreState where
  token : String
  column : Nat
  tokens : List (Nat × String)
  records : List Record
  deriving DecidableEq, Repr

def StoreState.init : StoreState := ⟨"", 1, [], []⟩

/-- The columns `column_tokens` is asked for, by their number in the line; the samples are the
columns from the tenth on. -/
def columnNumber : String → Nat
  | "CHROM" => 1
  | "POS" => 2
  | "ID" => 3
  | "REF" => 4
  | "ALT" => 5
  | "QUAL" => 6
  | "FILTER" => 7
  | "INFO" => 8
  | "FORMAT" => 9
  | _ => 0

def StoreState.columnTokens (st : StoreState) (name : String) : List String :=
  (st.tokens.filter fun token =>
    if name = "SAMPLES" then 10 ≤ token.1 else token.1 = columnNumber name).map (·.2)

def StoreState.handle (st : StoreState) : Event → StoreState
  | .tokenBegin => { st with token := "" }
  | .tokenChar c => { st with token := st.token.push (Char.ofNat c.toNat) }
  | .tokenEnd => { st with tokens := st.tokens ++ [(st.column, st.token)] }
  | .columnEnd _ => { st with column := st.column + 1 }
  | .newline => { st with column := 1, tokens := [] }
  | _ => st

/-- Modelled from the spec: the store policy, whose source is not part of the repository. Its
token handlers assemble the fields of the line; `end_of_body_line` appends a `Record` of the
chromosome and the position to `ParsingState::records`; `clear_records` empties them. No handler
fails, and the source holds no `contig` entry, so the check warns once about each chromosome. -/
def storePolicy : ParsePolicy StoreState where
  handle := StoreState.handle
  handleMetaLine st := (st, none)
  handleBodyLine st :=
    ({ st with records := st.records ++ [⟨(st.columnTokens "CHROM").headD "",
      digitsValue ((st.columnTokens "POS").headD "").toList⟩] }, none)
  columnTokens := StoreState.columnTokens
  records := StoreState.records
  clearRecords st := { st with records := [] }
  contigs _ := []

def Event.isWarning : Event → Bool
  | .warning _ _ => true
  | _ => false

set_option maxRecDepth 20000 in
/-- Two records of chromosome `1`, the second at a smaller position. Read in one buffer, the
second line gets the order warning; read with a buffer boundary between the two lines, it does
not, as `parse` has emptied the records. -/
theorem order_warning_lost_at_buffer_boundary :
    ((Parser.init StoreState.init).validate storePolicy
      [bytesOf "##fileformat=VCFv4.1\n#CHROM\tPOS\tID\tREF\tALT\tQUAL\tFILTER\tINFO\n1\t10\t.\tA\tC\t.\t.\t.\n1\t5\t.\tA\tC\t.\t.\t.\n"]).2.filter
        Event.isWarning =
      [.warning (contigWarning "1") 3, .warning "Genomic position 1:5 is listed after 1:10" 4] ∧
    ((Parser.init StoreState.init).validate storePolicy
      [bytesOf "##fileformat=VCFv4.1\n#CHROM\tPOS\tID\tREF\tALT\tQUAL\tFILTER\tINFO\n1\t10\t.\tA\tC\t.\t.\t.\n",
        bytesOf "1\t5\t.\tA\tC\t.\t.\t.\n"]).2.filter Event.isWarning =
      [.warning (contigWarning "1") 3] := by
  decide

set_option maxRecDepth 20000 in
/-- A second record at position 2147483648: the scanner accepts the line, and `std::stoi` throws
`std::out_of_range` out of the end-of-line action, past `parse`. -/
theorem long_position_escapes :
    ((Parser.init StoreState.init).validate storePolicy
      [bytesOf "##fileformat=VCFv4.1\n#CHROM\tPOS\tID\tREF\tALT\tQUAL\tFILTER\tINFO\n1\t10\t.\tA\tC\t.\t.\t.\n1\t2147483648\t.\tA\tC\t.\t.\t.\n"]).1.thrown = some .outOfRange ∧
    ((Parser.init StoreState.init).validate storePolicy
      [bytesOf "##fileformat=VCFv4.1\n#CHROM\tPOS\tID\tREF\tALT\tQUAL\tFILTER\tINFO\n1\t10\t.\tA\tC\t.\t.\t.\n1\t2147483648\t.\tA\tC\t.\t.\t.\n"]).2.countP Event.isError = 0 := by
  decide

end VcfValidator
