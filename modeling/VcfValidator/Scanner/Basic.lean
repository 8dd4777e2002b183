/-!
# The vocabulary of the generated scanner

`Parser::parse_buffer` in `validator_detail.hpp` is the goto program that Ragel generated from
`vcf_v41.ragel`. Each `case N:` block dispatches on the byte `(*p)` to a label: `stM`, which
only moves to state `M`, or `trK`, which runs a list of actions and ends in `goto stM`. The
actions are the blocks of `vcf_v41.ragel`, each copied under its `#line`. This module names
them; the transcribed table is in `VcfValidator.Scanner.Table`.
-/

namespace VcfValidator.Scanner

set_option autoImplicit false

/-- The four `ErrorPolicy` handlers, one per section of the file. -/
inductive Section
  | fileformat
  | meta
  | header
  | body
  deriving DecidableEq, Repr

/-- What an error action hands its handler: no message (the handler's own default), a literal,
or one of the two sample messages that print `n_columns - 9`. -/
inductive Message
  | none
  | text (message : String)
  | sampleInvalid
  | sampleGenotype
  deriving DecidableEq, Repr

/-- The action blocks of `vcf_v41.ragel`. `metaTypeid` and `metaKey` carry the literal argument
of `handle_meta_typeid(*this, "ALT")` and its siblings, `none` for the one-argument call. An
`error` calls the handler of its section, then `p--` and jumps to the section's skip state;
`gotoMetaSection` and `gotoBodySection` are the `fgoto` of the two skip states. -/
inductive Action
  | tokenBegin
  | tokenChar
  | tokenEnd
  | newline
  | columnEnd
  | fileformat
  | metaTypeid (typeid : Option String)
  | metaKey (key : Option String)
  | metaLine
  | sampleName
  | headerLine
  | bodyLine
  | error (sec : Section) (message : Message)
  | gotoMetaSection
  | gotoBodySection
  deriving DecidableEq, Repr

/-- A label of the goto program: the actions of `trK` and the state of its final `goto stM`. A
plain `goto stM` is the label with no action. -/
structure Tr where
  actions : List Action
  target : Nat
  deriving DecidableEq, Repr

def go (target : Nat) : Tr := ⟨[], target⟩

/-- One leaf of a `case N:` block: the bytes with `lo <= (*p) && (*p) <= hi` go to `tr`. A
`switch` case and an equality test are the leaves with `lo = hi`. -/
structure Edge where
  lo : Int
  hi : Int
  tr : Tr

/-- A `case N:` block: its leaves in source order, and the `goto` that ends it. -/
structure Row where
  edges : List Edge
  other : Tr

/-- `(*p)`: `char` is signed, so the bytes from 128 on compare as negative numbers. -/
def charOf (byte : UInt8) : Int :=
  if byte.toNat < 128 then byte.toNat else byte.toNat - 256

def Edge.admits (edge : Edge) (c : Int) : Bool :=
  decide (edge.lo ≤ c) && decide (c ≤ edge.hi)

/-- The label a `case` block jumps to: the first leaf whose test holds, or the final `goto`. -/
def Row.pick (row : Row) (c : Int) : Tr :=
  match row.edges.find? (·.admits c) with
  | some edge => edge.tr
  | none => row.other

/-- The skip state an error handler's action jumps to: `p--; {goto st621;}` for the fileformat and
meta handlers, `p--; {goto st622;}` for the header and body handlers. -/
def skipState : Section → Nat
  | .fileformat => 621
  | .meta => 621
  | .header => 622
  | .body => 622

/-- The jump an action makes out of its label, and whether the byte is read again there: the
error actions' `p--; {goto st621;}`, and the skip states' `{goto st20;}` and `{goto st624;}`. -/
def Action.jump : Action → Option (Nat × Bool)
  | .error sec _ => some (skipState sec, true)
  | .gotoMetaSection => some (20, false)
  | .gotoBodySection => some (624, false)
  | _ => none

end VcfValidator.Scanner
