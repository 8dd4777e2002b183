import VcfValidator.Scanner.Table

/-!
# What the labels of the table do

Every label of the generated table has one of five forms: an error action first (the actions
after it never run); calls of `ParsePolicy` handlers only; such calls followed by
`handle_meta_line` and the newline, into state 20; the same with the end-of-body-line action,
into state 624; and the newline and `fgoto` of a skip state. A label that makes a newline, or
ends a meta or a body line, is reached only from the one-byte leaf of `'\n'`. Both facts are
checked once over the whole table by `decide`; the step lemmas cite them and never unfold a row.
-/

namespace VcfValidator.Scanner

set_option autoImplicit false

/-- An action that only calls a `ParsePolicy` handler: it neither fails, throws nor jumps. -/
def Action.isCall : Action → Bool
  | .tokenBegin | .tokenChar | .tokenEnd | .newline | .columnEnd | .fileformat
  | .metaTypeid _ | .metaKey _ | .sampleName | .headerLine => true
  | .metaLine | .bodyLine | .error _ _ | .gotoMetaSection | .gotoBodySection => false

/-- Whether an action list is calls followed by `last` and the newline. -/
def endsLineWith (last : Action) (actions : List Action) : Bool :=
  match actions.reverse with
  | .newline :: action :: rest => action == last && rest.all Action.isCall
  | _ => false

def Tr.wellFormed (tr : Tr) : Bool :=
  match tr.actions with
  | .error _ _ :: _ => true
  | actions =>
      actions.all Action.isCall ||
        (endsLineWith .metaLine actions && tr.target == 20) ||
        (endsLineWith .bodyLine actions && tr.target == 624) ||
        actions == [.newline, .gotoMetaSection] || actions == [.newline, .gotoBodySection]

/-- Whether a label makes a newline or ends a line. -/
def Tr.endsLine (tr : Tr) : Bool :=
  tr.actions.any fun action => action == .newline || action == .metaLine || action == .bodyLine

def Row.wellFormed (row : Row) : Bool :=
  row.edges.all (fun edge =>
    edge.tr.wellFormed && (!edge.tr.endsLine || (edge.lo == 10 && edge.hi == 10))) &&
    row.other.wellFormed && !row.other.endsLine

/-- Whether every label of a row has the property `p`: the shape of the table certificates of
the later modules. -/
def Row.labelsAll (p : Tr → Bool) (row : Row) : Bool :=
  row.edges.all (fun edge => p edge.tr) && p row.other

set_option maxRecDepth 8000 in
theorem rows_wellFormed : rows.toList.all Row.wellFormed = true := by decide

/-- Every label hands its byte to `handle_token_char` at most once and counts at most one line. -/
def Tr.readsOnce (tr : Tr) : Bool :=
  decide (tr.actions.count .tokenChar ≤ 1) && decide (tr.actions.count .newline ≤ 1)

set_option maxRecDepth 8000 in
theorem rows_readsOnce : rows.toList.all (Row.labelsAll Tr.readsOnce) = true := by decide

theorem endsLineWith_spec {last : Action} {actions : List Action}
    (ends : endsLineWith last actions = true) :
    ∃ pre, actions = pre ++ [last, .newline] ∧ ∀ action ∈ pre, action.isCall = true := by
  unfold endsLineWith at ends
  split at ends
  · next action rest reversed =>
      simp only [Bool.and_eq_true, beq_iff_eq, List.all_eq_true] at ends
      refine ⟨rest.reverse, ?_, fun a member => ends.2 a (List.mem_reverse.mp member)⟩
      rw [← List.reverse_reverse actions, reversed, ends.1]
      simp
  · contradiction

theorem Tr.wellFormed_cases {tr : Tr} (fits : tr.wellFormed = true) :
    (∃ sec message rest, tr.actions = .error sec message :: rest) ∨
      (∀ action ∈ tr.actions, action.isCall = true) ∨
      (∃ pre, tr.actions = pre ++ [.metaLine, .newline] ∧
        (∀ action ∈ pre, action.isCall = true) ∧ tr.target = 20) ∨
      (∃ pre, tr.actions = pre ++ [.bodyLine, .newline] ∧
        (∀ action ∈ pre, action.isCall = true) ∧ tr.target = 624) ∨
      tr.actions = [.newline, .gotoMetaSection] ∨ tr.actions = [.newline, .gotoBodySection] := by
  unfold Tr.wellFormed at fits
  split at fits
  · next sec message rest failing => exact .inl ⟨sec, message, rest, failing⟩
  · simp only [Bool.or_eq_true, Bool.and_eq_true, List.all_eq_true, beq_iff_eq] at fits
    rcases fits with (((calls | ⟨ends, target⟩) | ⟨ends, target⟩) | skip) | skip
    · exact .inr (.inl calls)
    · obtain ⟨pre, same, calls⟩ := endsLineWith_spec ends
      exact .inr (.inr (.inl ⟨pre, same, calls, target⟩))
    · obtain ⟨pre, same, calls⟩ := endsLineWith_spec ends
      exact .inr (.inr (.inr (.inl ⟨pre, same, calls, target⟩)))
    · exact .inr (.inr (.inr (.inr (.inl skip))))
    · exact .inr (.inr (.inr (.inr (.inr skip))))

/-- A label that does not start with an error has no error action at all. -/
theorem Tr.wellFormed_error {tr : Tr} (fits : tr.wellFormed = true) :
    (∃ sec message rest, tr.actions = .error sec message :: rest) ∨
      ∀ sec message, .error sec message ∉ tr.actions := by
  have notCall (sec : Section) (message : Message) (pre : List Action)
      (calls : ∀ action ∈ pre, action.isCall = true) : .error sec message ∉ pre :=
    fun member => by simpa [Action.isCall] using calls _ member
  rcases Tr.wellFormed_cases fits with failing | calls | ⟨pre, same, calls, -⟩ |
    ⟨pre, same, calls, -⟩ | skip | skip
  · exact .inl failing
  · exact .inr fun sec message => notCall sec message _ calls
  · exact .inr fun sec message => by simpa [same] using notCall sec message pre calls
  · exact .inr fun sec message => by simpa [same] using notCall sec message pre calls
  · exact .inr fun sec message => by simp [skip]
  · exact .inr fun sec message => by simp [skip]

end VcfValidator.Scanner
