import VcfValidator.Scanner.Table
import VcfValidator.Check

/-!
# The parser as a step function

`Parser::parse_buffer` keeps its state in the program counter while it reads a buffer and stores
it in `cs` when the buffer runs out, so reading one byte is a function of `cs`: pick the label of
the state's `case`, run its actions, go on in the label's state. An error action reports,
decrements `p` and jumps to a skip state, which reads the same byte again. The callbacks go to
two policies: the `ParsePolicy`, abstract here but for the calls that may throw and what the
semantic check reads through it, and the `ErrorPolicy`, whose calls are recorded as they are
made. The progress message printed every 10000 lines is output only and is left out.
-/

namespace VcfValidator

open Scanner

set_option autoImplicit false

/-- The calls `parse_buffer` makes, in order: the `ParsePolicy` handlers with the byte or the
column number they receive, and the `ErrorPolicy` handlers with their message and the value of
`n_lines` when they are called. -/
inductive Event
  | tokenBegin
  | tokenChar (c : UInt8)
  | tokenEnd
  | newline
  | columnEnd (column : Nat)
  | fileformat
  | metaTypeid (typeid : Option String)
  | metaKey (key : Option String)
  | metaLine
  | sampleName
  | headerLine
  | bodyLine
  | error (sec : Section) (message : Option String) (line : Nat)
  | warning (message : String) (line : Nat)
  deriving DecidableEq, Repr

/-- A `ParsePolicy` as the scanner sees it: a state, changed by every callback; the
`ParsingError` message of `handle_meta_line` and `handle_body_line`, when they throw one; and
what `optional_check_body_entry` reads: the column tokens, `ParsingState::records` (emptied by
`clear_records`) and the values of the `contig` entries of the source. -/
structure ParsePolicy (σ : Type) where
  handle : σ → Event → σ
  handleMetaLine : σ → σ × Option String
  handleBodyLine : σ → σ × Option String
  columnTokens : σ → String → List String
  records : σ → List Record
  clearRecords : σ → σ
  contigs : σ → List MetaValue

/-- The scanner's part of `Parser` and `ParsingState`, with the policy's state. `thrown` is set
when an exception has left `parse_buffer`; nothing is read after it. -/
structure Parser (σ : Type) where
  cs : Nat
  nLines : Nat
  nColumns : Nat
  badDefinedContigs : List String
  policy : σ
  thrown : Option Escape

/-- A new parser: `cs = vcf_start`, and the two counters at 1 as `ParsingState` starts them. -/
def Parser.init {σ : Type} (policy : σ) : Parser σ := ⟨1, 1, 1, [], policy, none⟩

section Step

variable {σ : Type} (P : ParsePolicy σ)

/-- The row of the `case` for `cs`; there is none for 0. -/
def row (cs : Nat) : Row := rows.toList.getD cs st0

/-- The label `case cs:` jumps to on the byte `c`. -/
def label (cs : Nat) (c : UInt8) : Tr := (row cs).pick (charOf c)

def Parser.messageText {σ : Type} (s : Parser σ) : Message → Option String
  | .none => none
  | .text message => some message
  | .sampleInvalid => some ("Sample #" ++ toString (s.nColumns - 9) ++ " is not a valid string")
  | .sampleGenotype =>
      some ("Sample #" ++ toString (s.nColumns - 9) ++ " does not start with a valid genotype")

def Parser.call (s : Parser σ) (event : Event) : Parser σ × List Event :=
  ({ s with policy := P.handle s.policy event }, [event])

/-- `handle_meta_line` in its `try`: a `ParsingError` goes to the meta handler. -/
def Parser.metaLine (s : Parser σ) : Parser σ × List Event :=
  let handled := P.handleMetaLine s.policy
  ({ s with policy := handled.1 },
    .metaLine :: (handled.2.map (fun message => .error .meta (some message) s.nLines)).toList)

/-- `if (n_columns > 9) handle_column_end(*this, n_columns);`: the last sample column, which
no tab closes. -/
def Parser.lastColumn (s : Parser σ) : Parser σ × List Event :=
  if 9 < s.nColumns then s.call P (.columnEnd s.nColumns) else (s, [])

/-- The two `try` blocks of the end-of-line action: the semantic check, whose `ParsingWarning`
goes to the body warning handler and whose other exceptions escape, and `handle_body_line`, whose
`ParsingError` goes to the body handler. -/
def Parser.checkBodyLine (s : Parser σ) : Parser σ × List Event :=
  let column name := (P.columnTokens s.policy name).headD ""
  match optionalCheckBodyEntry (P.columnTokens s.policy "SAMPLES") (column "CHROM")
      (column "POS") (P.records s.policy) (P.contigs s.policy) s.badDefinedContigs with
  | .error escape => ({ s with thrown := some escape }, [])
  | .ok (bad, warning) =>
      let warned := (warning.map (fun message => Event.warning message s.nLines)).toList
      let handled := P.handleBodyLine s.policy
      ({ s with badDefinedContigs := bad, policy := handled.1 },
        warned ++
          .bodyLine :: (handled.2.map (fun message => .error .body (some message) s.nLines)).toList)

/-- The end-of-line action of a body line. -/
def Parser.bodyLine (s : Parser σ) : Parser σ × List Event :=
  let last := s.lastColumn P
  let checked := last.1.checkBodyLine P
  (checked.1, last.2 ++ checked.2)

/-- One action on the byte `c`. An error action only reports here; its jump is `Action.jump`. -/
def Parser.exec (c : UInt8) (s : Parser σ) : Action → Parser σ × List Event
  | .tokenBegin => s.call P .tokenBegin
  | .tokenChar => s.call P (.tokenChar c)
  | .tokenEnd => s.call P .tokenEnd
  | .newline =>
      let called := s.call P .newline
      ({ called.1 with nLines := s.nLines + 1, nColumns := 1 }, called.2)
  | .columnEnd =>
      let called := s.call P (.columnEnd s.nColumns)
      ({ called.1 with nColumns := s.nColumns + 1 }, called.2)
  | .fileformat => s.call P .fileformat
  | .metaTypeid typeid => s.call P (.metaTypeid typeid)
  | .metaKey key => s.call P (.metaKey key)
  | .metaLine => s.metaLine P
  | .sampleName => s.call P .sampleName
  | .headerLine => s.call P .headerLine
  | .bodyLine => s.bodyLine P
  | .error sec message => (s, [.error sec (s.messageText message) s.nLines])
  | .gotoMetaSection => (s, [])
  | .gotoBodySection => (s, [])

/-- The actions of a label, then its `goto`: the state to go on in, the calls made, and whether
the same byte is read again there. -/
def Parser.runActions (c : UInt8) : Parser σ → List Action → Nat → Parser σ × List Event × Bool
  | s, [], target => ({ s with cs := target }, [], false)
  | s, action :: actions, target =>
      let done := s.exec P c action
      match action.jump with
      | some (cs, again) => ({ done.1 with cs := cs }, done.2, again)
      | none =>
          if done.1.thrown.isSome then (done.1, done.2, false)
          else
            let rest := done.1.runActions c actions target
            (rest.1, done.2 ++ rest.2.1, rest.2.2)

/-- Reads one byte. After an error action the byte is read again in the skip state, whose labels
never jump. -/
def Parser.step (s : Parser σ) (c : UInt8) : Parser σ × List Event :=
  if s.thrown.isSome then (s, [])
  else
    let first := s.runActions P c (label s.cs c).actions (label s.cs c).target
    if first.2.2 then
      let second := first.1.runActions P c (label first.1.cs c).actions (label first.1.cs c).target
      (second.1, first.2.1 ++ second.2.1)
    else (first.1, first.2.1)

def Parser.run : Parser σ → List UInt8 → Parser σ × List Event
  | s, [] => (s, [])
  | s, c :: text =>
      let first := s.step P c
      let rest := first.1.run text
      (rest.1, first.2 ++ rest.2)

/-- `Parser::parse`: `clear_records()`, then `parse_buffer` with no end of input. An exception
leaves `cs` as it was before the call, since the generated code stores it only when the buffer
runs out. -/
def Parser.parse (s : Parser σ) (text : List UInt8) : Parser σ × List Event :=
  if s.thrown.isSome then (s, [])
  else
    let read := { s with policy := P.clearRecords s.policy }.run P text
    (if read.1.thrown.isSome then { read.1 with cs := s.cs } else read.1, read.2)

/-- The end-of-input actions of state `cs`: the `switch ( cs )` under `if ( p == eof )`. -/
def eofActions (cs : Nat) : List Action :=
  ((eofGroups.find? (fun group => cs ∈ group.1)).map (·.2)).getD []

/-- `Parser::end`: `clear_records()`, then `parse_buffer` on an empty buffer that is the end of
input. The state's end-of-input actions run; their error action's `p--` does not read again, as
`++p == pe` sends the scanner to `_test_eof621` (or 622) with no action there. No action of
these lists reads the byte, so `0` stands for it. -/
def Parser.finish (s : Parser σ) : Parser σ × List Event :=
  if s.thrown.isSome then (s, [])
  else
    let done := { s with policy := P.clearRecords s.policy }.runActions P 0 (eofActions s.cs) s.cs
    (done.1, done.2.1)

def Parser.parseChunks : Parser σ → List (List UInt8) → Parser σ × List Event
  | s, [] => (s, [])
  | s, chunk :: chunks =>
      let first := s.parse P chunk
      let rest := first.1.parseChunks chunks
      (rest.1, first.2 ++ rest.2)

/-- A whole run: `parse` on each chunk, then `end()`. -/
def Parser.validate (s : Parser σ) (chunks : List (List UInt8)) : Parser σ × List Event :=
  let parsed := s.parseChunks P chunks
  let ended := parsed.1.finish P
  (ended.1, parsed.2 ++ ended.2)

end Step

/-- `Parser::is_valid`: `cs >= vcf_first_final`. -/
def Parser.isValid {σ : Type} (s : Parser σ) : Bool := 623 ≤ s.cs

/-- The bytes `parse(std::string const &)` hands to `parse_buffer`, for the ASCII texts used
here. -/
def bytesOf (text : String) : List UInt8 := text.toList.map fun c => c.toNat.toUInt8

/-- The policy that keeps nothing and accepts every line: under it the events are the scanner's
own calls, with no handler failing. -/
def acceptAll : ParsePolicy Unit where
  handle _ _ := ()
  handleMetaLine _ := ((), none)
  handleBodyLine _ := ((), none)
  columnTokens _ _ := []
  records _ := []
  clearRecords _ := ()
  contigs _ := []

end VcfValidator
