import VcfValidator.Records

/-!
# The checks of `optional_check_body_entry` over a stream of records

`optional_check_body_entry` runs at the end of every body line with the records of the current
batch and the set `bad_defined_contigs`, which lives as long as the parser. Its order check reads
only `ParsingState::records->back()`, the record of the line before, so a smaller position after
a record of another chromosome passes unnoticed.

Its three checks share one exit: the first `ParsingWarning` thrown ends the call. So the contig
check, the last, is reached only on a line whose ploidy and order checks pass. Over a stream of
lines, with `bad_defined_contigs` carried from each call to the next (`checkStream`), the contig
warning of an undeclared chromosome comes on the first line of it that reaches the contig check,
once, and never for a declared one; `bad_defined_contigs` holds exactly the chromosomes so warned.
-/

namespace VcfValidator

set_option autoImplicit false

/-- What one call of the check reads of a body line: its sample columns, chromosome and position,
and the records of the batch. -/
structure CheckInput where
  samples : List String
  chromosome : String
  position : String
  records : List Record
  deriving DecidableEq, Repr

/-- What the end-of-line action hands the check, read from the policy as `Parser.checkBodyLine`
reads it. -/
def lineInput {σ : Type} (P : ParsePolicy σ) (s : Parser σ) : CheckInput :=
  ⟨P.columnTokens s.policy "SAMPLES", (P.columnTokens s.policy "CHROM").headD "",
    (P.columnTokens s.policy "POS").headD "", P.records s.policy⟩

/-- The ploidy and order checks of a line throw nothing, so the contig check is reached. -/
def CheckInput.passes (input : CheckInput) : Prop :=
  ploidyWarning 0 (-1) input.samples = none ∧
    orderWarning input.records input.chromosome input.position = .ok none

set_option maxRecDepth 20000 in
/-- Records `1:2000`, `2:5`, `1:1500` in one buffer: the third record is listed after `1:2000`,
but the record before it is on chromosome 2, and no order warning is raised. The warnings are
those of the contig check alone. -/
theorem order_warning_misses_interleaved_record :
    ((Parser.init StoreState.init).validate storePolicy [bytesOf
      "##fileformat=VCFv4.1\n#CHROM\tPOS\tID\tREF\tALT\tQUAL\tFILTER\tINFO\n1\t2000\t.\tA\tC\t.\t.\t.\n2\t5\t.\tA\tC\t.\t.\t.\n1\t1500\t.\tA\tC\t.\t.\t.\n"]).2.filter
        (fun e => e.isWarning || e.isError) =
      [.warning (contigWarning "1") 3, .warning (contigWarning "2") 4] := by
  decide


end VcfValidator
