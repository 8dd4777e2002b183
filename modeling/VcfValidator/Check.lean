/-!
# The semantic check of a body line

A pure transcription of `Parser::optional_check_body_entry` (the end of `validator_detail.hpp`).
It reads three things the scanner does not own: the tokens the `ParsePolicy` kept for the columns
of the current line, the records of the current batch (`ParsingState::records`) and the `contig`
entries of the source. They are arguments here. The function either returns, or throws a
`ParsingWarning` (caught by the end-of-line action), or lets an exception of `std::stoi` or
`boost::get` escape.
-/

namespace VcfValidator

set_option autoImplicit false

/-- The part of a stored `Record` the check reads; its `position` is a `size_t`. -/
structure Record where
  chromosome : String
  position : Nat
  deriving DecidableEq, Repr

/-- The value of a meta entry: the freeform string of `##KEY=VALUE`, or the attribute map of
`##KEY=<...>`, as its list of pairs. -/
inductive MetaValue
  | plain (value : String)
  | pairs (attributes : List (String × String))
  deriving DecidableEq, Repr

/-- The exceptions that leave `optional_check_body_entry` uncaught: `std::stoi` throws
`std::invalid_argument` or `std::out_of_range`, `boost::get` throws `boost::bad_get`. -/
inductive Escape
  | invalidArgument
  | outOfRange
  | badGet
  deriving DecidableEq, Repr

/-- The fields of `chars` between delimiters: every delimiter closes a field, empty fields
included, and the text after the last delimiter is the last field. -/
def splitFields (delimiters : List Char) : List Char → List (List Char)
  | [] => [[]]
  | c :: rest =>
      if c ∈ delimiters then [] :: splitFields delimiters rest
      else
        match splitFields delimiters rest with
        | field :: fields => (c :: field) :: fields
        | [] => [[c]]

/-- `boost::split(out, text, boost::is_any_of(delimiters))` with the default
`token_compress_off`: every delimiter closes a field, empty fields included. -/
def split (delimiters : List Char) (text : String) : List String :=
  (splitFields delimiters text.toList).map String.mk

/-- The characters `std::isspace` accepts in the "C" locale. -/
def isSpace (c : Char) : Bool :=
  c = ' ' || c = '\t' || c = '\n' || c = '\x0B' || c = '\x0C' || c = '\r'

def digitsValue (digits : List Char) : Nat :=
  digits.foldl (fun value c => 10 * value + (c.toNat - '0'.toNat)) 0

/-- `std::stoi`: leading white space, an optional sign and the longest run of decimal digits;
`std::invalid_argument` when there is no digit, `std::out_of_range` when the value does not fit
an `int`. -/
def stoi (text : String) : Except Escape Int :=
  let rest := text.toList.dropWhile isSpace
  let (negative, rest) := match rest with
    | '-' :: rest => (true, rest)
    | '+' :: rest => (false, rest)
    | rest => (false, rest)
  let digits := rest.takeWhile Char.isDigit
  let value : Int := if negative then -(digitsValue digits : Int) else digitsValue digits
  if digits.isEmpty then .error .invalidArgument
  else if value < -2147483648 ∨ 2147483647 < value then .error .outOfRange
  else .ok value

/-- The ploidy loop: `ploidy` starts at `-1` and takes the allele count of the first sample;
each later sample whose count differs throws the warning, naming its index. -/
def ploidyWarning : Nat → Int → List String → Option String
  | _, _, [] => none
  | index, ploidy, sample :: samples =>
      let alleles := (split ['|', ',', '/'] ((split [':'] sample).headD "")).length
      if 0 < ploidy then
        if (alleles : Int) ≠ ploidy then
          some ("Sample #" ++ toString index ++ " has " ++ toString alleles ++
            " allele(s), but " ++ toString ploidy ++ " were found in others")
        else ploidyWarning (index + 1) ploidy samples
      else ploidyWarning (index + 1) alleles samples

/-- The usual arithmetic conversion of an `int` compared with a `size_t`: the value modulo 2^64,
so that a negative value compares as a large one. -/
def toSizeT (value : Int) : Nat := (value % 18446744073709551616).toNat

/-- The order check against the last record of the batch: `std::stoi` of the position may throw,
and a smaller position on the same chromosome throws the warning. The `int` position is compared
with the record's `size_t` one as `size_t`. -/
def orderWarning (records : List Record) (chromosome position : String) :
    Except Escape (Option String) :=
  match records.getLast? with
  | none => .ok none
  | some previous => do
      let current ← stoi position
      if previous.chromosome = chromosome ∧ toSizeT current < previous.position then
        return some ("Genomic position " ++ chromosome ++ ":" ++ toString current ++
          " is listed after " ++ previous.chromosome ++ ":" ++ toString previous.position)
      else return none

/-- Whether a `contig` entry declares `chromosome`: `boost::get` of its map throws when the value
is a plain string. -/
def declaresContig (chromosome : String) : MetaValue → Except Escape Bool
  | .plain _ => .error .badGet
  | .pairs attributes => .ok (attributes.lookup "ID" == some chromosome)

/-- The loop over the `contig` entries, left at the first one that declares the chromosome. -/
def foundInHeader (chromosome : String) : List MetaValue → Except Escape Bool
  | [] => .ok false
  | entry :: entries => do
      if ← declaresContig chromosome entry then return true
      foundInHeader chromosome entries

def contigWarning (chromosome : String) : String :=
  "Chromosome/contig '" ++ chromosome ++ "' is not described in a 'contig' meta description"

/-- `optional_check_body_entry`: the set `bad_defined_contigs` after the call and the
`ParsingWarning` it throws, if any. The three checks share one exit: the first warning stops
the call, and only the contig check adds to `bad_defined_contigs`. -/
def optionalCheckBodyEntry (samples : List String) (chromosome position : String)
    (records : List Record) (contigs : List MetaValue) (badDefinedContigs : List String) :
    Except Escape (List String × Option String) := do
  if let some warning := ploidyWarning 0 (-1) samples then
    return (badDefinedContigs, some warning)
  if let some warning ← orderWarning records chromosome position then
    return (badDefinedContigs, some warning)
  if chromosome ∈ badDefinedContigs then return (badDefinedContigs, none)
  if ← foundInHeader chromosome contigs then return (badDefinedContigs, none)
  return (badDefinedContigs ++ [chromosome], some (contigWarning chromosome))

end VcfValidator
