import VcfValidator.FieldWalks

/-!
# The body line the scanner accepts

The grammar of a body line, written apart from the table: one predicate per column, over the
bytes of the column, in the words of the format. `VcfValidator.BodyColumns`,
`VcfValidator.AltColumn`, `VcfValidator.InfoColumn` and `VcfValidator.BodyLine` prove that the
table's body automaton accepts exactly the lines `validBodyLine` holds of.

The grammar is what the table does, not what the VCF 4.1 text says. Some of it is narrower than
the text: a chromosome name of two or more bytes needs a letter or digit after its first byte
(`1_` is rejected, `1a_` is not), a number has no leading zero and no bare fraction (`01`, `1.`
and `.5` are rejected), and `.` is a whole `ALT`, `FILTER` or `INFO` column, never one of its
items. Some is wider: a position may be negative, an unreserved `INFO` value is any run of
printable bytes but `;`, and the chromosome of a breakend mate may hold commas and brackets, so
the alleles of `ALT` are cut only at the commas outside a mate (`altFields`).
-/

namespace VcfValidator

set_option autoImplicit false

/-! ## Byte classes of a body line -/

def tabByte : List (Nat × Nat) := [(9, 9)]

def newlineByte : List (Nat × Nat) := [(10, 10)]

/-- The two bytes that end a column: the tab and the newline. -/
def columnStop : List (Nat × Nat) := [(9, 10)]

def semicolon : List (Nat × Nat) := [(59, 59)]

def colon : List (Nat × Nat) := [(58, 58)]

def period : List (Nat × Nat) := [(46, 46)]

def minusSign : List (Nat × Nat) := [(45, 45)]

def asterisk : List (Nat × Nat) := [(42, 42)]

def openAngle : List (Nat × Nat) := [(60, 60)]

def closeAngle : List (Nat × Nat) := [(62, 62)]

def equalsSign : List (Nat × Nat) := [(61, 61)]

def openBracket : List (Nat × Nat) := [(91, 91)]

def closeBracket : List (Nat × Nat) := [(93, 93)]

def zeroDigit : List (Nat × Nat) := [(48, 48)]

def nonzeroDigit : List (Nat × Nat) := [(49, 57)]

/-- The value of a flag set with `=`: `0` or `1`. -/
def flagDigit : List (Nat × Nat) := [(48, 49)]

def exponentSign : List (Nat × Nat) := [(43, 43), (45, 45)]

def exponentMark : List (Nat × Nat) := [(69, 69), (101, 101)]

/-- The bases `A`, `C`, `G`, `N`, `T` in either case. -/
def bases : List (Nat × Nat) :=
  [(65, 65), (67, 67), (71, 71), (78, 78), (84, 84), (97, 97), (99, 99), (103, 103), (110, 110),
    (116, 116)]

/-- The bytes of a chromosome name besides letters and digits: printable but `:`, `<` and `>`. -/
def chromPunct : List (Nat × Nat) :=
  [(33, 47), (59, 59), (61, 61), (63, 64), (91, 96), (123, 126)]

/-- A printable byte but `;`: the bytes of an `ID` and of an unreserved `INFO` value. -/
def idByte : List (Nat × Nat) := [(33, 58), (60, 126)]

/-- The bytes of a `FILTER` item besides letters and digits: printable but `;`. -/
def filterPunct : List (Nat × Nat) := [(33, 47), (58, 58), (60, 64), (91, 96), (123, 126)]

/-- `filterPunct` but `.`, which begins a `FILTER` column on its own. -/
def filterLead : List (Nat × Nat) := [(33, 45), (47, 47), (58, 58), (60, 64), (91, 96), (123, 126)]

/-- A printable byte but `:`: the bytes of a sample subfield after the genotype. -/
def sampleFieldByte : List (Nat × Nat) := [(33, 57), (59, 126)]

/-- The separators of a genotype's alleles: `/` and `|`. -/
def alleleSep : List (Nat × Nat) := [(47, 47), (124, 124)]

/-! ## Values -/

/-- A non-empty run of bytes of a class. -/
def plusOf (cls : List (Nat × Nat)) (v : List UInt8) : Bool := !v.isEmpty && v.all (inClass cls)

/-- A single byte of a class. -/
def single (cls : List (Nat × Nat)) : List UInt8 → Bool
  | [b] => inClass cls b
  | _ => false

@[simp] theorem single_cons (cls : List (Nat × Nat)) (b : UInt8) (w : List UInt8) :
    single cls (b :: w) = (inClass cls b && w.isEmpty) := by
  cases w <;> simp [single]

/-- The missing value: `.` alone. -/
def missingValue (v : List UInt8) : Bool := single period v

/-- A chromosome name: a letter or digit, then nothing, or name bytes with a letter or digit
among them. -/
def chromName : List UInt8 → Bool
  | [] => false
  | b :: rest => inClass alnum b && (rest.isEmpty || idValue chromPunct rest)

/-- `CHROM`, and the chromosome of a breakend mate: a chromosome name, bare or between `<` and
`>`. -/
def chromValue : List UInt8 → Bool
  | [] => false
  | b :: rest =>
      if inClass openAngle b then thenOn (inClass closeAngle) chromName List.isEmpty rest
      else chromName (b :: rest)

/-- `POS` and every integer of a line: an optional minus, then digits. -/
def intValue : List UInt8 → Bool
  | [] => false
  | b :: rest => if inClass minusSign b then plusOf digit rest else plusOf digit (b :: rest)

/-- The digits of an exponent, with an optional sign. -/
def signedDigits : List UInt8 → Bool
  | [] => false
  | b :: rest => if inClass exponentSign b then plusOf digit rest else plusOf digit (b :: rest)

/-- An optional exponent: nothing, or `e` or `E` and signed digits. -/
def exponentPart : List UInt8 → Bool
  | [] => true
  | b :: rest => inClass exponentMark b && signedDigits rest

/-- What follows the whole part of a number: an optional fraction, `.` and digits, then an
optional exponent. -/
def fractionPart : List UInt8 → Bool
  | [] => true
  | b :: rest =>
      if inClass period b then
        plusOf digit (rest.takeWhile (inClass digit)) && exponentPart (rest.dropWhile (inClass digit))
      else exponentPart (b :: rest)

/-- A number without its sign: a whole part of digits with no leading zero, then
`fractionPart`. -/
def unsignedFloat : List UInt8 → Bool
  | [] => false
  | b :: rest =>
      if inClass zeroDigit b then fractionPart rest
      else inClass nonzeroDigit b && fractionPart (rest.dropWhile (inClass digit))

/-- A number as `QUAL` and the real values of `INFO` take it: an optional minus, then
`unsignedFloat`. -/
def floatValue : List UInt8 → Bool
  | [] => false
  | b :: rest => if inClass minusSign b then unsignedFloat rest else unsignedFloat (b :: rest)

/-! ## The columns -/

/-- `ID`: identifiers between `;`, each a non-empty run of printable bytes but `;`. -/
def idColumn (v : List UInt8) : Bool := itemsOn (inClass semicolon) (plusOf idByte) (plusOf idByte) v

/-- `REF`: a non-empty run of bases. -/
def refColumn (v : List UInt8) : Bool := plusOf bases v

/-- A breakend mate `chrom:pos`, then the bracket `close` and what `after` takes. The chromosome
holds no `:`, but it may hold brackets, so the mate is split at its colon first. -/
def mateThen (close : List (Nat × Nat)) (after : List UInt8 → Bool) (v : List UInt8) : Bool :=
  thenOn (inClass colon) chromValue (thenOn (inClass close) intValue after) v

/-- What may follow the bases an allele begins with: nothing, a `.`, or a mate between `[`s or
between `]`s. -/
def basesTail (v : List UInt8) : Bool :=
  match v.dropWhile (inClass bases) with
  | [] => true
  | b :: rest =>
      if inClass period b then rest.isEmpty
      else if inClass openBracket b then mateThen openBracket List.isEmpty rest
      else if inClass closeBracket b then mateThen closeBracket List.isEmpty rest
      else false

/-- One alternate allele: `*`; a symbolic allele `<ID>`; a `.` and bases; a mate between `[`s or
between `]`s, then bases; or bases, then what `basesTail` takes. -/
def altAllele : List UInt8 → Bool
  | [] => false
  | b :: rest =>
      if inClass asterisk b then rest.isEmpty
      else if inClass openAngle b then thenOn (inClass closeAngle) (idValue altPunct) List.isEmpty rest
      else if inClass period b then plusOf bases rest
      else if inClass openBracket b then mateThen openBracket (plusOf bases) rest
      else if inClass closeBracket b then mateThen closeBracket (plusOf bases) rest
      else inClass bases b && basesTail rest

/-- Where a byte of `ALT` stands: outside any breakend mate, in a mate's chromosome, from the
bracket that opens the mate up to its colon, or in a mate's position, from the colon up to the
bracket that closes the mate. -/
inductive MatePart
  | outside
  | chromosome
  | position
  deriving DecidableEq, Repr

/-- The part the byte after `b` stands in. -/
def MatePart.next : MatePart → UInt8 → MatePart
  | .outside, b => if inClass openBracket b || inClass closeBracket b then .chromosome else .outside
  | .chromosome, b => if inClass colon b then .position else .chromosome
  | .position, b => if inClass openBracket b || inClass closeBracket b then .outside else .position

/-- The alleles of `ALT`: the column cut at each comma outside a mate, read from `part`. A mate's
chromosome may hold commas, and brackets, which the table reads as bytes of the name. -/
def altFields : MatePart → List UInt8 → List (List UInt8)
  | _, [] => [[]]
  | part, b :: v =>
      if part == .outside && inClass comma b then [] :: altFields .outside v
      else
        match altFields (part.next b) v with
        | field :: fields => (b :: field) :: fields
        | [] => [[b]]

/-- Alleles between commas. -/
def altAlleles (v : List UInt8) : Bool := (altFields .outside v).all altAllele

/-- `ALT`: the missing value, or alleles between commas. -/
def altColumn (v : List UInt8) : Bool := missingValue v || altAlleles v

/-- `QUAL`: the missing value or a number. -/
def qualColumn (v : List UInt8) : Bool := missingValue v || floatValue v

/-- `FILTER`: the missing value, or filters between `;`, each of printable bytes but `;` with a
letter or digit among them. -/
def filterColumn (v : List UInt8) : Bool :=
  missingValue v || itemsOn (inClass semicolon) (idValue filterPunct) (idValue filterPunct) v

/-- The value types of the reserved `INFO` keys, as the table reads their values. -/
inductive InfoKind
  | flag
  | sequence
  | integer
  | integers
  | real
  | reals
  | word
  deriving DecidableEq, Repr

/-- The values of a kind: `0` or `1` for a flag; the missing value or bases; an integer or
integers between commas; a number or numbers between commas; letters and digits. -/
def InfoKind.accepts : InfoKind → List UInt8 → Bool
  | .flag, v => single flagDigit v
  | .sequence, v => missingValue v || plusOf bases v
  | .integer, v => intValue v
  | .integers, v => itemsOn (inClass comma) intValue intValue v
  | .real, v => floatValue v
  | .reals, v => itemsOn (inClass comma) floatValue floatValue v
  | .word, v => plusOf alnum v

/-- The reserved `INFO` keys and the kinds of their values. -/
def reservedInfoKinds : List (String × InfoKind) :=
  [("1000G", .flag), ("AA", .sequence), ("AC", .integers), ("AF", .reals), ("AN", .integer),
    ("BQ", .real), ("CIGAR", .word), ("DB", .flag), ("DP", .integer), ("END", .integer),
    ("H2", .flag), ("H3", .flag), ("MQ", .real), ("MQ0", .integer), ("NS", .integer),
    ("SB", .real), ("SOMATIC", .flag), ("VALIDATED", .flag)]

def infoKind (key : List UInt8) : Option InfoKind :=
  (reservedInfoKinds.find? fun entry => bytesOf entry.1 == key).map (·.2)

/-- One `INFO` entry: a key of key bytes with a letter or digit among them; then, for a reserved
key, `=` and a value of its kind, the `=` optional only for a flag; for any other key, nothing, or
`=` and a non-empty run of printable bytes but `;`. -/
def infoEntry (entry : List UInt8) : Bool :=
  let key := entry.takeWhile fun b => !inClass equalsSign b
  idValue keyPunct key &&
    match entry.dropWhile fun b => !inClass equalsSign b with
    | [] => (infoKind key).all (· == .flag)
    | _ :: value =>
        match infoKind key with
        | some kind => kind.accepts value
        | none => plusOf idByte value

/-- `INFO`: the missing value, or entries between `;`. -/
def infoColumn (v : List UInt8) : Bool :=
  missingValue v || itemsOn (inClass semicolon) infoEntry infoEntry v

/-- `FORMAT`: keys of letters and digits between `:`. -/
def formatColumn (v : List UInt8) : Bool := itemsOn (inClass colon) (plusOf alnum) (plusOf alnum) v

/-- An allele of a genotype: the missing value or digits. -/
def alleleValue (v : List UInt8) : Bool := missingValue v || plusOf digit v

/-- A genotype: alleles between `/` or `|`. -/
def genotypeValue (v : List UInt8) : Bool := itemsOn (inClass alleleSep) alleleValue alleleValue v

/-- A sample column: a genotype, then subfields after `:`, each a non-empty run of printable bytes
but `:`. -/
def sampleColumn (v : List UInt8) : Bool :=
  itemsOn (inClass colon) genotypeValue (plusOf sampleFieldByte) v

/-! ## The line -/

/-- A body line, without its newline, that the scanner accepts: the eight mandatory columns
between tabs, and after them either nothing, or `FORMAT` and at least one sample column. -/
def validBodyLine (line : List UInt8) : Bool :=
  match fieldsOn (inClass tabByte) line with
  | chrom :: pos :: id :: ref :: alt :: qual :: filter :: info :: rest =>
      chromValue chrom && intValue pos && idColumn id && refColumn ref && altColumn alt &&
        qualColumn qual && filterColumn filter && infoColumn info &&
        match rest with
        | [] => true
        | format :: samples => formatColumn format && !samples.isEmpty && samples.all sampleColumn
  | _ => false

example : validBodyLine (bytesOf "1\t-5\trs1;rs2\tA\tC,<DEL>,A[c,h:5[\t1e5\t.\tDP=3;DB\tGT\t0|1") = true := by
  decide

end VcfValidator
