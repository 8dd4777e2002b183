import VcfValidator.MetaFields

/-!
# The INFO keys

The INFO column of a body line is read key by key from state 416, its first entry, and from
state 432, the entry after each ';'. A generic key is a run of printable ASCII bytes other than
';' and '=' with a letter or a digit in it: state 417 has read punctuation only, state 418 a letter
or a digit, and '=' leads from 418 into the generic value state 437. The reserved keys of VCF 4.1
have value grammars of their own, and the table recognises them by a trie woven into the key
states: one state for each prefix of a reserved key, each a copy of state 418 (of state 443 for a
key that needs a value) but for the leaves of the bytes that lead on in the trie. `KeyTrie` is
that trie, written out as the table has it.

The lemmas here say that the trie recognises exactly the reserved keys, against a plain lookup
of the whole key: after a key that is not reserved the table is where the generic key states are
after it, and after a reserved key '=' leads into the key's own value state and, for a key that
needs a value, every other end of the key is rejected. The rows of the trie are checked once, by
one certificate that walks to them in order; the induction over the key reads them through
`keyState` and never unfolds a row. `VcfValidator.InfoColumn` joins this to the value states.
-/

namespace VcfValidator

open Scanner

set_option autoImplicit false

/-- The bytes of a generic key: the printable ASCII bytes but ';' and '='. -/
def keyByte : List (Nat × Nat) := [(33, 58), (60, 60), (62, 126)]

/-- The key bytes that are neither letters nor digits. -/
def keyPunct : List (Nat × Nat) := [(33, 47), (58, 58), (60, 60), (62, 64), (91, 96), (123, 126)]

/-- The bytes that end a key. -/
def keyEnd : List (Nat × Nat) := [(0, 32), (59, 59), (61, 61), (127, 127), (128, 255)]

/-- The state of the generic key states after `key`: 417 until the key has a letter or a digit,
418 from then on. -/
def genericKeyState (key : List UInt8) : Nat := if key.any (inClass alnum) then 418 else 417

/-- The reserved INFO keys of VCF 4.1, in the order the table's trie has them, each with the
state its value is read in. -/
def reservedInfoKeys : List (String × Nat) :=
  [("1000G", 440), ("AA", 444), ("AC", 448), ("AF", 452), ("AN", 462), ("BQ", 467),
    ("CIGAR", 481), ("DB", 485), ("DP", 488), ("END", 494), ("H2", 499), ("H3", 502), ("MQ", 510),
    ("MQ0", 507), ("NS", 521), ("SB", 526), ("SOMATIC", 541), ("VALIDATED", 552)]

/-- The reserved keys that are flags: they may stand without a value. -/
def infoFlags : List String := ["DB", "H2", "H3", "SOMATIC", "VALIDATED", "1000G"]

/-- The value state of a reserved key, by a plain lookup of the whole key. -/
def reservedValueState (key : List UInt8) : Option Nat :=
  (reservedInfoKeys.find? fun entry => bytesOf entry.1 == key).map (·.2)

def isInfoFlag (key : List UInt8) : Bool := infoFlags.any fun flag => bytesOf flag == key

theorem keyByte_cases {b : UInt8} (byte : inClass keyByte b = true) :
    inClass alnum b = true ∨ inClass keyPunct b = true ∧ inClass alnum b = false := by
  simp only [inClass, inRanges, keyByte, keyPunct, alnum, digit, alpha, List.cons_append,
    List.nil_append, List.any_cons, List.any_nil, Bool.or_false, Bool.or_eq_true,
    Bool.and_eq_true, decide_eq_true_eq, Bool.or_eq_false_iff, Bool.and_eq_false_iff,
    decide_eq_false_iff_not] at byte ⊢
  omega

theorem keyEnd_of_not_keyByte {c : UInt8} (ends : inClass keyByte c = false) :
    inClass keyEnd c = true := by
  have bound : c.toNat < 256 := c.val.isLt
  simp only [inClass, inRanges, keyByte, keyEnd, List.any_cons, List.any_nil, Bool.or_false,
    Bool.or_eq_true, Bool.and_eq_true, decide_eq_true_eq, Bool.or_eq_false_iff,
    Bool.and_eq_false_iff, decide_eq_false_iff_not] at ends ⊢
  omega

/-! ## The trie -/

/-- A trie of keys as the table weaves it into its key states: the state of a node, the value
state of the reserved key that ends there with whether it is a flag, and the nodes its next bytes
lead to. -/
inductive KeyTrie where
  | node (state : Nat) (reserved : Option (Nat × Bool)) (children : List (Char × KeyTrie))

namespace KeyTrie

def state : KeyTrie → Nat
  | node state _ _ => state

def reserved : KeyTrie → Option (Nat × Bool)
  | node _ reserved _ => reserved

def children : KeyTrie → List (Char × KeyTrie)
  | node _ _ children => children

/-- The node the byte `b` leads to. -/
def next (t : KeyTrie) (b : UInt8) : Option KeyTrie :=
  (t.children.find? fun child => child.1.toNat.toUInt8 == b).map (·.2)

/-- The node a run of bytes leads to, if it stays in the trie. -/
def walk : KeyTrie → List UInt8 → Option KeyTrie
  | t, [] => some t
  | t, b :: bytes => (t.next b).bind fun child => child.walk bytes

mutual
/-- The nodes of a trie, each before the nodes under it. -/
def nodes : KeyTrie → List KeyTrie
  | t@(node _ _ children) => t :: childNodes children

def childNodes : List (Char × KeyTrie) → List KeyTrie
  | [] => []
  | (_, t) :: rest => t.nodes ++ childNodes rest
end

mutual
/-- The keys of the reserved nodes of a trie whose root the key `path` leads to. -/
def reservedKeys (path : List UInt8) : KeyTrie → List (List UInt8)
  | node _ reserved children =>
      (if reserved.isSome then [path] else []) ++ childReservedKeys path children

def childReservedKeys (path : List UInt8) : List (Char × KeyTrie) → List (List UInt8)
  | [] => []
  | (c, t) :: rest => t.reservedKeys (path ++ [c.toNat.toUInt8]) ++ childReservedKeys path rest
end

theorem next_some {t child : KeyTrie} {b : UInt8} (leads : t.next b = some child) :
    ∃ c, (c, child) ∈ t.children ∧ c.toNat.toUInt8 = b := by
  obtain ⟨entry, found, rfl⟩ := Option.map_eq_some'.mp leads
  exact ⟨entry.1, List.mem_of_find?_eq_some found, by simpa using List.find?_some found⟩

/-- A byte that leaves the trie is none of the bytes that lead on in it. -/
theorem next_none {t : KeyTrie} {b : UInt8} (missing : t.next b = none) :
    b.toNat ∉ t.children.map (·.1.toNat.toUInt8.toNat) := by
  simp only [List.mem_map, not_exists, not_and]
  intro child member same
  have none := List.find?_eq_none.mp (Option.map_eq_none'.mp missing) child member
  simp [byte_eq_of_toNat same] at none

theorem walk_append (t : KeyTrie) (pre : List UInt8) (b : UInt8) :
    t.walk (pre ++ [b]) = (t.walk pre).bind (·.next b) := by
  induction pre generalizing t with
  | nil => simp [walk]
  | cons a pre ih =>
      simp only [List.cons_append, walk]
      cases t.next a <;> simp [ih]

theorem mem_childNodes {children : List (Char × KeyTrie)} {c : Char} {t : KeyTrie}
    (member : (c, t) ∈ children) {u : KeyTrie} (inside : u ∈ t.nodes) : u ∈ childNodes children := by
  induction children with
  | nil => cases member
  | cons first rest ih =>
      rw [childNodes, List.mem_append]
      rcases List.mem_cons.mp member with rfl | later
      · exact .inl inside
      · exact .inr (ih later)

theorem walk_mem_nodes {t u : KeyTrie} {key : List UInt8} (walks : t.walk key = some u) :
    u ∈ t.nodes := by
  induction key generalizing t with
  | nil =>
      cases walks
      cases u
      exact List.mem_cons_self _ _
  | cons b key ih =>
      obtain ⟨child, leads, rest⟩ := Option.bind_eq_some.mp walks
      obtain ⟨c, member, -⟩ := next_some leads
      cases t
      exact List.mem_cons_of_mem _ (mem_childNodes member (ih rest))

/-- A node that a key leads to below the root is one of the nodes under the root's children. -/
theorem walk_cons_mem_childNodes {t u : KeyTrie} {b : UInt8} {key : List UInt8}
    (walks : t.walk (b :: key) = some u) : u ∈ childNodes t.children := by
  obtain ⟨child, leads, rest⟩ := Option.bind_eq_some.mp walks
  obtain ⟨c, member, -⟩ := next_some leads
  exact mem_childNodes member (walk_mem_nodes rest)

theorem mem_childReservedKeys {children : List (Char × KeyTrie)} {c : Char} {t : KeyTrie}
    (member : (c, t) ∈ children) {path key : List UInt8}
    (inside : key ∈ t.reservedKeys (path ++ [c.toNat.toUInt8])) :
    key ∈ childReservedKeys path children := by
  induction children with
  | nil => cases member
  | cons first rest ih =>
      rw [childReservedKeys, List.mem_append]
      rcases List.mem_cons.mp member with rfl | later
      · exact .inl inside
      · exact .inr (ih later)

/-- The key that leads to a reserved node is one of the reserved keys the trie lists. -/
theorem walk_mem_reservedKeys {t u : KeyTrie} {key : List UInt8} (walks : t.walk key = some u)
    (marked : u.reserved.isSome = true) (path : List UInt8) : path ++ key ∈ t.reservedKeys path := by
  induction key generalizing t path with
  | nil =>
      cases walks
      cases u
      simp_all [reservedKeys, reserved]
  | cons b key ih =>
      obtain ⟨child, leads, rest⟩ := Option.bind_eq_some.mp walks
      obtain ⟨c, member, byte⟩ := next_some leads
      have inside := ih rest (path ++ [c.toNat.toUInt8])
      rw [byte, List.append_assoc, List.singleton_append] at inside
      cases t
      exact List.mem_append_right _ (mem_childReservedKeys member (byte ▸ inside))

end KeyTrie

/-- The trie of the reserved INFO keys, as the table's states 432 to 551 weave it. -/
def infoKeyTrie : KeyTrie :=
  .node 432 none
    [('1', .node 433 none [('0', .node 434 none [('0', .node 435 none [('0', .node 436 none
        [('G', .node 439 (some (440, true)) [])])])])]),
      ('A', .node 442 none
        [('A', .node 443 (some (444, false)) []), ('C', .node 447 (some (448, false)) []),
          ('F', .node 451 (some (452, false)) []), ('N', .node 461 (some (462, false)) [])]),
      ('B', .node 465 none [('Q', .node 466 (some (467, false)) [])]),
      ('C', .node 476 none [('I', .node 477 none [('G', .node 478 none [('A', .node 479 none
        [('R', .node 480 (some (481, false)) [])])])])]),
      ('D', .node 483 none
        [('B', .node 484 (some (485, true)) []), ('P', .node 487 (some (488, false)) [])]),
      ('E', .node 491 none [('N', .node 492 none [('D', .node 493 (some (494, false)) [])])]),
      ('H', .node 497 none
        [('2', .node 498 (some (499, true)) []), ('3', .node 501 (some (502, true)) [])]),
      ('M', .node 504 none
        [('Q', .node 505 (some (510, false)) [('0', .node 506 (some (507, false)) [])])]),
      ('N', .node 519 none [('S', .node 520 (some (521, false)) [])]),
      ('S', .node 524 none
        [('B', .node 525 (some (526, false)) []),
          ('O', .node 535 none [('M', .node 536 none [('A', .node 537 none [('T', .node 538 none
            [('I', .node 539 none [('C', .node 540 (some (541, true)) [])])])])])])]),
      ('V', .node 543 none [('A', .node 544 none [('L', .node 545 none [('I', .node 546 none
        [('D', .node 547 none [('A', .node 548 none [('T', .node 549 none [('E', .node 550 none
          [('D', .node 551 (some (552, true)) [])])])])])])])])])]

/-- The letters and digits the trie starts with. -/
theorem infoKeyTrie_rootAlnum :
    infoKeyTrie.children.all (fun child => inClass alnum child.1.toNat.toUInt8) = true := by
  decide

/-- Every byte that leads on in the trie is a key byte. -/
theorem infoKeyTrie_keyBytes :
    infoKeyTrie.nodes.all (fun t => t.children.all fun child =>
      inClass keyByte child.1.toNat.toUInt8) = true := by
  decide

/-- The reserved nodes of the trie are the nodes of the reserved keys and no others. -/
theorem infoKeyTrie_reservedKeys : infoKeyTrie.reservedKeys [] = reservedInfoKeys.map (bytesOf ·.1) := by
  decide

/-- Each reserved key leads to a node that carries its value state and whether it is a flag. -/
theorem infoKeyTrie_reservedWalks :
    reservedInfoKeys.all (fun entry => (infoKeyTrie.walk (bytesOf entry.1)).bind KeyTrie.reserved ==
      some (entry.2, isInfoFlag (bytesOf entry.1))) = true := by
  decide

/-- Where state 432 is after a key: in the trie while the key is a prefix of a reserved key, in
the generic key states once it has left the trie. -/
def keyState (key : List UInt8) : Nat :=
  ((infoKeyTrie.walk key).map KeyTrie.state).getD (genericKeyState key)

theorem walk_cons_alnum {b : UInt8} {key : List UInt8} {t : KeyTrie}
    (walks : infoKeyTrie.walk (b :: key) = some t) : (b :: key).any (inClass alnum) = true := by
  obtain ⟨child, leads, -⟩ := Option.bind_eq_some.mp walks
  obtain ⟨c, member, rfl⟩ := KeyTrie.next_some leads
  simp [List.all_eq_true.mp infoKeyTrie_rootAlnum _ member]

/-- A byte that ends a key leads nowhere in the trie. -/
theorem next_none_of_not_keyByte {key : List UInt8} {t : KeyTrie}
    (walks : infoKeyTrie.walk key = some t) {c : UInt8} (ends : inClass keyByte c = false) :
    t.next c = none := by
  cases leads : t.next c with
  | none => rfl
  | some child =>
      obtain ⟨b, member, rfl⟩ := KeyTrie.next_some leads
      have inside := List.all_eq_true.mp (List.all_eq_true.mp infoKeyTrie_keyBytes t
        (KeyTrie.walk_mem_nodes walks)) _ member
      rw [inside] at ends
      cases ends

theorem reservedValueState_walk {key : List UInt8} {value : Nat}
    (reserved : reservedValueState key = some value) :
    ∃ t, infoKeyTrie.walk key = some t ∧ t.reserved = some (value, isInfoFlag key) := by
  obtain ⟨entry, found, rfl⟩ := Option.map_eq_some'.mp reserved
  have same : bytesOf entry.1 = key := by simpa using List.find?_some found
  have carries := List.all_eq_true.mp infoKeyTrie_reservedWalks entry (List.mem_of_find?_eq_some found)
  rw [same, beq_iff_eq] at carries
  exact Option.bind_eq_some.mp carries

/-- The node a key leads to is reserved exactly when the key is one of the reserved keys, with
the key's value state and flag. -/
theorem walk_reserved {key : List UInt8} {t : KeyTrie} (walks : infoKeyTrie.walk key = some t) :
    t.reserved = (reservedValueState key).map fun value => (value, isInfoFlag key) := by
  cases lookup : reservedValueState key with
  | some value =>
      obtain ⟨t', walks', marked⟩ := reservedValueState_walk lookup
      rw [walks, Option.some.injEq] at walks'
      rw [walks', marked]
      rfl
  | none =>
      cases marked : t.reserved with
      | none => rfl
      | some r =>
          have inside := KeyTrie.walk_mem_reservedKeys walks (by rw [marked]; rfl) []
          rw [List.nil_append, infoKeyTrie_reservedKeys] at inside
          obtain ⟨entry, member, same⟩ := List.mem_map.mp inside
          have : (reservedInfoKeys.find? fun entry => bytesOf entry.1 == key).isSome :=
            List.find?_isSome.mpr ⟨entry, member, by simp [same]⟩
          simp [reservedValueState, Option.map_eq_none'.mp lookup] at this

/-! ## The rows of the key states -/

/-- The next bytes of a node lead on to their nodes. -/
def Scanner.Row.leadsOn (row : Row) (children : List (Char × KeyTrie)) : Bool :=
  children.all fun child => (row.pick (charOf child.1.toNat.toUInt8)).walksTo == some child.2.state

/-- What the proof needs of the row of a node of the trie below the root: its next bytes lead on,
'=' after a reserved key leads into the key's value state, and every other byte is read as in
the row it copies: state 443 for a key that needs a value, state 418 otherwise. -/
def KeyTrie.fitsRow (t : KeyTrie) (row : Row) : Bool :=
  row.leadsOn t.children && t.reserved.all (fun r => (row.pick 61).walksTo == some r.1) &&
    row.like (if t.reserved.any (!·.2) then st443 else st418)
      (t.children.map (·.1.toNat.toUInt8.toNat) ++ if t.reserved.isSome then [61] else [])

/-- The rows the proof reads, from state 416 to 554: the first entry, the nodes of the trie below
its root, and the state after a first entry '.'. -/
def infoKeyRowChecks : List (Nat × (Row → Bool)) :=
  (416, fun row => row.like st432 [46] && (row.pick 46).walksTo == some 554) ::
    (KeyTrie.childNodes infoKeyTrie.children).map (fun t => (t.state, t.fitsRow)) ++
    [(554, fun row => row.like st417 [9, 10])]

set_option maxRecDepth 20000 in
theorem rows_infoKeys : rowsFit 416 (rows.toList.drop 416) infoKeyRowChecks = true := by
  decide

/-- The letters and digits that start no reserved key. -/
def rootLetters : List (Nat × Nat) :=
  [(48, 48), (50, 57), (70, 71), (73, 76), (79, 82), (84, 85), (87, 90), (97, 122)]

/-- The root of the trie, besides its next bytes, reads punctuation into 417 and the other
letters and digits into 418. -/
def rootSpec : List (List (Nat × Nat) × Option Nat) :=
  [(keyPunct, some 417), (rootLetters, some 418), (keyEnd, none)]

theorem st432_leadsOn : st432.leadsOn infoKeyTrie.children = true := by decide

theorem st432_walksOn : st432.walksOn rootSpec = true := by decide

theorem st417_walksOn :
    st417.walksOn [(keyPunct, some 417), (alnum, some 418), (keyEnd, none)] = true := by decide

theorem st418_walksOn : st418.walksOn [(keyByte, some 418)] = true := by decide

theorem st443_walksOn :
    st443.walksOn [(keyByte, some 418), ([(0, 32), (59, 59), (127, 127), (128, 255)], none)] =
      true := by
  decide

section

set_option maxRecDepth 8000

theorem row_punctKey : row 417 = st417 := rfl

theorem row_genericKey : row 418 = st418 := rfl

theorem row_keyEntry : row 432 = st432 := rfl

end

theorem row_node {b : UInt8} {key : List UInt8} {t : KeyTrie}
    (walks : infoKeyTrie.walk (b :: key) = some t) : t.fitsRow (row t.state) = true :=
  row_of_rowsFit rows_infoKeys (List.mem_cons_of_mem _ (List.mem_append_left _
    (List.mem_map_of_mem _ (KeyTrie.walk_cons_mem_childNodes walks))))

theorem row_firstEntry :
    (row 416).like st432 [46] = true ∧ ((row 416).pick 46).walksTo = some 554 := by
  simpa only [Bool.and_eq_true, beq_iff_eq] using
    row_of_rowsFit rows_infoKeys (List.mem_cons_self _ _)

theorem row_missingInfo : (row 554).like st417 [9, 10] = true := by
  have missingInfo := row_of_rowsFit rows_infoKeys
    (List.mem_cons_of_mem _ (List.mem_append_right _ (List.mem_singleton_self _)))
  exact missingInfo

theorem row_leadsOn {key : List UInt8} {t : KeyTrie} (walks : infoKeyTrie.walk key = some t) :
    (row t.state).leadsOn t.children = true := by
  cases key with
  | nil =>
      cases walks
      rw [show infoKeyTrie.state = 432 from rfl, row_keyEntry]
      exact st432_leadsOn
  | cons b key =>
      have fits := row_node walks
      simp only [KeyTrie.fitsRow, Bool.and_eq_true] at fits
      exact fits.1.1

/-- A key byte that leads nowhere from a trie state is none of the bytes the state reads
otherwise than the row it copies. -/
theorem not_mem_except {t : KeyTrie} {b : UInt8} (missing : t.next b = none) (other : b.toNat ≠ 61) :
    b.toNat ∉ t.children.map (·.1.toNat.toUInt8.toNat) ++ if t.reserved.isSome then [61] else [] := by
  rw [List.mem_append, not_or]
  refine ⟨KeyTrie.next_none missing, ?_⟩
  split <;> simp [other]

theorem keyByte_ne_61 {b : UInt8} (byte : inClass keyByte b = true) : b.toNat ≠ 61 := by
  simp only [inClass, inRanges, keyByte, List.any_cons, List.any_nil, Bool.or_false,
    Bool.or_eq_true, Bool.and_eq_true, decide_eq_true_eq] at byte
  omega

/-- A letter or digit that does not lead on from the root is one of `rootLetters`. -/
theorem rootLetters_of_alnum {b : UInt8} (letter : inClass alnum b = true)
    (missing : infoKeyTrie.next b = none) : inClass rootLetters b = true := by
  have outside := KeyTrie.next_none missing
  simp only [show infoKeyTrie.children.map (·.1.toNat.toUInt8.toNat) =
    [49, 65, 66, 67, 68, 69, 72, 77, 78, 83, 86] from rfl, List.mem_cons,
    List.mem_singleton, not_or] at outside
  simp only [inClass, inRanges, rootLetters, alnum, digit, alpha, List.cons_append,
    List.nil_append, List.any_cons, List.any_nil, Bool.or_false, Bool.or_eq_true,
    Bool.and_eq_true, decide_eq_true_eq] at letter ⊢
  rcases letter with digit | upper | lower <;> omega

/-! ## Reading a key -/

theorem label_genericKeyState (pre : List UInt8) {b : UInt8} (byte : inClass keyByte b = true) :
    (label (genericKeyState pre) b).walksTo = some (genericKeyState (pre ++ [b])) := by
  cases seen : pre.any (inClass alnum)
  · have stays : genericKeyState (pre ++ [b]) = if inClass alnum b then 418 else 417 := by
      simp [genericKeyState, seen]
    rw [show genericKeyState pre = 417 by simp [genericKeyState, seen], stays, label, row_punctKey]
    rcases keyByte_cases byte with letter | ⟨punct, notLetter⟩
    · rw [if_pos letter]
      exact Row.pick_walksOn st417_walksOn (by simp) letter
    · rw [if_neg (by simp [notLetter])]
      exact Row.pick_walksOn st417_walksOn (by simp) punct
  · rw [show genericKeyState pre = 418 by simp [genericKeyState, seen],
      show genericKeyState (pre ++ [b]) = 418 by simp [genericKeyState, seen], label, row_genericKey]
    exact Row.pick_walksOn st418_walksOn (by simp) byte

/-- A key byte that leaves the trie leads into the generic key states: from the root by its
class, from a node below it into 418, as the row the node copies does. -/
theorem label_leaves {key : List UInt8} {t : KeyTrie} (walks : infoKeyTrie.walk key = some t)
    {b : UInt8} (missing : t.next b = none) (byte : inClass keyByte b = true) :
    (label t.state b).walksTo = some (genericKeyState (key ++ [b])) := by
  cases key with
  | nil =>
      cases walks
      rw [label, show infoKeyTrie.state = 432 from rfl, row_keyEntry]
      rcases keyByte_cases byte with letter | ⟨punct, notLetter⟩
      · rw [show genericKeyState ([] ++ [b]) = 418 by simp [genericKeyState, letter]]
        exact Row.pick_walksOn st432_walksOn (by simp [rootSpec])
          (rootLetters_of_alnum letter missing)
      · rw [show genericKeyState ([] ++ [b]) = 417 by simp [genericKeyState, notLetter]]
        exact Row.pick_walksOn st432_walksOn (by simp [rootSpec]) punct
  | cons a key =>
      have fits := row_node walks
      simp only [KeyTrie.fitsRow, Bool.and_eq_true] at fits
      have seen : (a :: key ++ [b]).any (inClass alnum) = true := by
        rw [List.any_append, walk_cons_alnum walks]
        rfl
      rw [label, Row.pick_like fits.2 (charOf_ne_of_not_mem (not_mem_except missing (keyByte_ne_61 byte))),
        genericKeyState, if_pos seen]
      split
      · exact Row.pick_walksOn st443_walksOn (List.mem_cons_self _ _) byte
      · exact Row.pick_walksOn st418_walksOn (List.mem_cons_self _ _) byte

/-- One key byte from the state after `pre`: on in the trie, or out of it into the generic key
states. -/
theorem label_keyState (pre : List UInt8) {b : UInt8} (byte : inClass keyByte b = true) :
    (label (keyState pre) b).walksTo = some (keyState (pre ++ [b])) := by
  unfold keyState
  rw [KeyTrie.walk_append]
  cases walks : infoKeyTrie.walk pre with
  | none => exact label_genericKeyState pre byte
  | some t =>
      simp only [Option.map_some', Option.getD_some, Option.some_bind]
      cases leads : t.next b with
      | some child =>
          obtain ⟨c, member, rfl⟩ := KeyTrie.next_some leads
          simpa using List.all_eq_true.mp (row_leadsOn walks) _ member
      | none => exact label_leaves walks leads byte

/-- A run of key bytes from a state that follows the key read so far stays on it. -/
theorem tableWalk_follows {follow : List UInt8 → Nat}
    (step : ∀ pre b, inClass keyByte b = true →
      (label (follow pre) b).walksTo = some (follow (pre ++ [b])))
    (pre key : List UInt8) (keyBytes : key.all (inClass keyByte) = true) :
    tableWalk (follow pre) key = some (follow (pre ++ key)) := by
  induction key generalizing pre with
  | nil => simp
  | cons b key ih =>
      simp only [List.all_cons, Bool.and_eq_true] at keyBytes
      rw [tableWalk_cons, step pre b keyBytes.1, Option.some_bind, ih _ keyBytes.2,
        List.append_assoc, List.singleton_append]

/-- A byte that ends a key before anything was read is rejected, at the root as in 417. -/
theorem label_root_end {c : UInt8} (final : inClass keyEnd c = true) :
    (label 432 c).walksTo = none ∧ (label 417 c).walksTo = none := by
  rw [label, label, row_keyEntry, row_punctKey]
  exact ⟨Row.pick_walksOn st432_walksOn (by simp [rootSpec]) final,
    Row.pick_walksOn st417_walksOn (by simp) final⟩

/-- The byte that ends a key at a node below the root: '=' into the value state of a reserved
key, for a key that needs a value nothing else, and otherwise what state 418 does with it. -/
theorem label_node_end {a : UInt8} {key : List UInt8} {t : KeyTrie}
    (walks : infoKeyTrie.walk (a :: key) = some t) {c : UInt8} (ends : inClass keyByte c = false) :
    (label t.state c).walksTo =
      match t.reserved with
      | some r => if c = 61 then some r.1 else if r.2 then (label 418 c).walksTo else none
      | none => (label 418 c).walksTo := by
  have fits := row_node walks
  have outside := KeyTrie.next_none (next_none_of_not_keyByte walks ends)
  simp only [KeyTrie.fitsRow, Bool.and_eq_true] at fits
  rw [label, label, row_genericKey]
  cases marked : t.reserved with
  | none =>
      simp only [marked, Option.any_none, Option.isSome_none, Bool.false_eq_true, if_false,
        List.append_nil] at fits
      exact Row.pick_like fits.2 (charOf_ne_of_not_mem outside)
  | some r =>
      obtain ⟨value, flag⟩ := r
      simp only [marked, Option.all_some, Option.any_some, Option.isSome_some, if_true,
        beq_iff_eq] at fits
      dsimp only
      by_cases equals : c = 61
      · subst equals
        rw [if_pos rfl]
        exact fits.1.2
      · have other : c.toNat ∉ t.children.map (·.1.toNat.toUInt8.toNat) ++ [61] := by
          rw [List.mem_append, not_or]
          exact ⟨outside, by simpa using fun same => equals (byte_eq_of_toNat same)⟩
        rw [Row.pick_like fits.2 (charOf_ne_of_not_mem other), if_neg equals]
        cases flag
        · have final := keyEnd_of_not_keyByte ends
          have rejected : inClass [(0, 32), (59, 59), (127, 127), (128, 255)] c = true := by
            have other : c.toNat ≠ 61 := fun same => equals (byte_eq_of_toNat same)
            simp only [inClass, inRanges, keyEnd, List.any_cons, List.any_nil, Bool.or_false,
              Bool.or_eq_true, Bool.and_eq_true, decide_eq_true_eq] at final ⊢
            omega
          exact Row.pick_walksOn st443_walksOn (by simp) rejected
        · rfl

/-- The byte that ends a key, from the state after the key: '=' into the value state of a
reserved key, and for a key that needs a value nothing else; otherwise as the generic key states
read it. -/
theorem label_keyState_end (key : List UInt8) {c : UInt8} (ends : inClass keyByte c = false) :
    (label (keyState key) c).walksTo =
      match reservedValueState key with
      | some value =>
          if c = 61 then some value
          else if isInfoFlag key then (label (genericKeyState key) c).walksTo else none
      | none => (label (genericKeyState key) c).walksTo := by
  unfold keyState
  cases walks : infoKeyTrie.walk key with
  | none =>
      cases reserved : reservedValueState key with
      | none => rfl
      | some value =>
          obtain ⟨t, found, -⟩ := reservedValueState_walk reserved
          rw [walks] at found
          cases found
  | some t =>
      have marked := walk_reserved walks
      simp only [Option.map_some', Option.getD_some]
      cases key with
      | nil =>
          cases walks
          have root := label_root_end (keyEnd_of_not_keyByte ends)
          rw [show reservedValueState [] = none from Option.map_eq_none'.mp marked.symm]
          exact root.1.trans root.2.symm
      | cons a key =>
          rw [label_node_end walks ends, marked, genericKeyState, if_pos (walk_cons_alnum walks)]
          cases reservedValueState (a :: key) <;> rfl

/-- The first entry reads a byte other than '.' as the entry after ';' does. -/
theorem label_firstEntry {b : UInt8} (other : b.toNat ≠ 46) :
    (label 416 b).walksTo = (label 432 b).walksTo := by
  rw [label, label, row_keyEntry]
  exact Row.pick_like row_firstEntry.1 (charOf_ne_of_not_mem (by simpa using other))

/-- After a first '.', a byte other than a tab or a newline is read as after any other
punctuation: the '.' is the missing INFO column only where the column ends. -/
theorem tableWalk_firstEntry_dot {b : UInt8} (notEnd : b.toNat ∉ [9, 10]) (rest : List UInt8) :
    tableWalk 416 (46 :: b :: rest) = tableWalk 432 (46 :: b :: rest) := by
  have dot : (label 416 46).walksTo = some 554 := row_firstEntry.2
  have punct : (label 432 46).walksTo = some 417 := by
    rw [label, row_keyEntry]
    exact Row.pick_walksOn st432_walksOn (by simp [rootSpec]) (show inClass keyPunct 46 = true from rfl)
  have same : (label 554 b).walksTo = (label 417 b).walksTo := by
    rw [label, label, row_punctKey]
    exact Row.pick_like row_missingInfo (charOf_ne_of_not_mem notEnd)
  simp only [tableWalk_cons, dot, punct, Option.some_bind, same]

/-- The first entry reads like the entry after ';', but for a '.' alone, the missing INFO
column. -/
theorem tableWalk_firstEntry (key : List UInt8) (keyBytes : key.all (inClass keyByte) = true)
    (notMissing : key ≠ bytesOf ".") {c : UInt8} (ends : inClass keyByte c = false)
    (rest : List UInt8) : tableWalk 416 (key ++ c :: rest) = tableWalk 432 (key ++ c :: rest) := by
  cases key with
  | nil =>
      have other : c.toNat ≠ 46 := fun same => by
        rw [byte_eq_of_toNat (show c.toNat = (46 : UInt8).toNat from same)] at ends
        cases ends
      simp only [List.nil_append, tableWalk_cons, label_firstEntry other]
  | cons b key =>
      by_cases dot : b = 46
      · subst dot
        cases key with
        | nil => exact absurd rfl notMissing
        | cons b' key =>
            simp only [List.all_cons, Bool.and_eq_true] at keyBytes
            have byte := keyBytes.2.1
            have notEnd : b'.toNat ∉ [9, 10] := by
              intro member
              simp only [inClass, inRanges, keyByte, List.any_cons, List.any_nil, Bool.or_false,
                Bool.or_eq_true, Bool.and_eq_true, decide_eq_true_eq] at byte
              simp only [List.mem_cons, List.mem_singleton, List.not_mem_nil, or_false] at member
              omega
            exact tableWalk_firstEntry_dot notEnd (key ++ c :: rest)
      · have other : b.toNat ≠ 46 := fun same => dot (byte_eq_of_toNat same)
        simp only [List.cons_append, tableWalk_cons, label_firstEntry other]

end VcfValidator
