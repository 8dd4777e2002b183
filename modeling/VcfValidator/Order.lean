import VcfValidator.Sections
import VcfValidator.Recovery

/-!
# The scanner keeps the section order

Each state of the scanner lies in one section of the file, the states of the header line in the
meta section until a sample name is read; a skip state lies in the sections its handlers serve.
One certificate, checked over the whole table by `decide`, says that every label, read from any
section its state lies in, makes calls the section automaton takes and ends in a state that lies
in the section reached. A second says the same of the end-of-input actions. So every run, however
its input is cut into buffers, makes calls in section order.
-/

namespace VcfValidator

open Scanner

set_option autoImplicit false

/-- The sections the file may be in while the scanner is in state `cs`. -/
def sections (cs : Nat) : List Section :=
  if cs = 0 then []
  else if cs ≤ 15 then [.fileformat]
  else if cs ≤ 353 then [.meta]
  else if cs ≤ 399 then [.meta, .header]
  else if cs = 621 then [.fileformat, .meta]
  else if cs ≤ 624 then [.body]
  else []

/-- The section after the calls an action makes, whatever the policy and the byte: one call for
the actions that call a handler, and for `handle_meta_line` and the end of a body line the calls
of their own section. Jumps make no call. -/
def Scanner.Section.act (sec : Section) : Action → Option Section
  | .tokenBegin => sec.next .tokenBegin
  | .tokenChar => sec.next (.tokenChar 0)
  | .tokenEnd => sec.next .tokenEnd
  | .newline => sec.next .newline
  | .columnEnd => sec.next (.columnEnd 0)
  | .fileformat => sec.next .fileformat
  | .metaTypeid typeid => sec.next (.metaTypeid typeid)
  | .metaKey key => sec.next (.metaKey key)
  | .metaLine => if sec = .meta then some .meta else none
  | .sampleName => sec.next .sampleName
  | .headerLine => sec.next .headerLine
  | .bodyLine => if sec = .body then some .body else none
  | .error errorSec _ => sec.next (.error errorSec none 0)
  | .gotoMetaSection => some sec
  | .gotoBodySection => some sec

/-- Whether a label's actions, run from section `sec`, make calls in order and stop in a state
that lies in the section reached: the state of the first jump, or the label's target. -/
def Scanner.Section.walk (sec : Section) (target : Nat) : List Action → Bool
  | [] => decide (sec ∈ sections target)
  | a :: actions =>
      match sec.act a with
      | none => false
      | some next =>
          match a.jump with
          | some (cs, _) => decide (next ∈ sections cs)
          | none => next.walk target actions

/-- Whether the end-of-input actions, run from section `sec`, leave the file out of the header
line: they are an error, or nothing. -/
def Scanner.Section.closes (sec : Section) : List Action → Bool
  | [] => sec != .header
  | .error errorSec _ :: _ =>
      match sec.next (.error errorSec none 0) with
      | some next => next != .header
      | none => false
  | _ => false

/-- Whether a label walks from every section its state `cs` lies in. -/
def Scanner.Tr.walks (cs : Nat) (tr : Tr) : Bool := (sections cs).all fun sec => sec.walk tr.target tr.actions

set_option maxRecDepth 20000 in
theorem rows_walk : rows.toList.enum.all (fun entry => entry.2.labelsAll (Tr.walks entry.1)) = true := by
  decide

set_option maxRecDepth 20000 in
theorem eofGroups_close :
    eofGroups.all (fun group => group.1.all fun cs => (sections cs).all fun sec => sec.closes group.2) =
      true := by
  decide

theorem Scanner.Section.next_error (sec errorSec : Section) (message : Option String) (line : Nat) :
    sec.next (.error errorSec message line) = sec.next (.error errorSec none 0) := by
  cases sec <;> cases errorSec <;> rfl

theorem eofActions_group {cs : Nat} (some : eofActions cs ≠ []) :
    ∃ group ∈ eofGroups, cs ∈ group.1 ∧ eofActions cs = group.2 := by
  unfold eofActions at some ⊢
  cases found : eofGroups.find? (fun group => cs ∈ group.1) with
  | none => simp [found] at some
  | some group =>
      exact ⟨group, List.mem_of_find?_eq_some found, by simpa using List.find?_some found,
        by simp⟩

theorem sections_bound {cs : Nat} {sec : Section} (member : sec ∈ sections cs) :
    1 ≤ cs ∧ cs ≤ 624 := by
  refine Classical.byContradiction fun far => ?_
  have none : sections cs = [] := by
    unfold sections
    by_cases zero : cs = 0
    · rw [if_pos zero]
    · rw [if_neg zero, if_neg (by omega), if_neg (by omega), if_neg (by omega), if_neg (by omega),
        if_neg (by omega)]
  simp [none] at member

theorem header_mem_sections {cs : Nat} (member : Section.header ∈ sections cs) :
    354 ≤ cs ∧ cs ≤ 399 := by
  unfold sections at member
  split at member
  · simp at member
  split at member
  · simp at member
  split at member
  · simp at member
  split at member
  · omega
  split at member <;> (try split at member) <;> simp at member

theorem label_walk {cs : Nat} {sec : Section} (member : sec ∈ sections cs) (c : UInt8) :
    sec.walk (label cs c).target (label cs c).actions = true :=
  List.all_eq_true.mp (label_of_enum rows_walk (by have := sections_bound member; omega) c) sec member

theorem Scanner.Section.follow_stay (sec : Section) (events : List Event)
    (stay : ∀ e ∈ events, sec.next e = some sec) : sec.follow events = some sec := by
  induction events with
  | nil => rfl
  | cons e events ih =>
      simp only [follow, stay e (List.mem_cons_self _ _), Option.some_bind]
      exact ih fun e' member => stay e' (List.mem_cons_of_mem _ member)

section

variable {σ : Type} (P : ParsePolicy σ)

theorem exec_follow {sec next : Section} {a : Action} (acts : sec.act a = some next)
    (s : Parser σ) (c : UInt8) : sec.follow (s.exec P c a).2 = some next := by
  have single (e : Event) : sec.follow [e] = sec.next e := by
    simp only [Section.follow]
    cases sec.next e <;> rfl
  cases a
  case metaLine =>
    by_cases inMeta : sec = .meta
    · simp only [Section.act, inMeta, ite_true, Option.some.injEq] at acts
      subst inMeta acts
      exact Section.follow_stay _ _ fun e member => by
        rcases metaLine_events P s member with rfl | ⟨_, rfl⟩ <;> rfl
    · simp [Section.act, inMeta] at acts
  case bodyLine =>
    by_cases inBody : sec = .body
    · simp only [Section.act, inBody, ite_true, Option.some.injEq] at acts
      subst inBody acts
      exact Section.follow_stay _ _ fun e member => by
        rcases bodyLine_events P s member with rfl | rfl | ⟨_, _, rfl⟩ | ⟨_, _, rfl⟩ <;> rfl
    · simp [Section.act, inBody] at acts
  case error errorSec message =>
    simp only [Parser.exec, single, ← acts]
    cases sec <;> cases errorSec <;> rfl
  case gotoMetaSection => simpa [Section.act, Parser.exec, Section.follow] using acts
  case gotoBodySection => simpa [Section.act, Parser.exec, Section.follow] using acts
  all_goals
    simp only [Parser.exec, Parser.call, single, ← acts]
    cases sec <;> rfl

/-- The scanner lies in the section the automaton is in, or an exception stopped it in the body
section. -/
def Ordered (s : Parser σ) (sec : Section) : Prop :=
  (s.thrown.isSome ∧ sec = .body) ∨ (s.thrown = none ∧ sec ∈ sections s.cs)

theorem runActions_follow (s : Parser σ) (c : UInt8) (actions : List Action) (target : Nat)
    (sec : Section) (alive : s.thrown = none) (walks : sec.walk target actions = true) :
    ∃ next, sec.follow (s.runActions P c actions target).2.1 = some next ∧
      Ordered (s.runActions P c actions target).1 next ∧
      ((s.runActions P c actions target).2.2 = true →
        (s.runActions P c actions target).1.thrown = none) := by
  induction actions generalizing s sec with
  | nil => exact ⟨sec, rfl, .inr ⟨alive, of_decide_eq_true walks⟩, fun _ => alive⟩
  | cons a actions ih =>
      cases acts : sec.act a with
      | none => simp [Section.walk, acts] at walks
      | some next =>
          have events := exec_follow P acts s c
          cases jumps : a.jump with
          | some jump =>
              obtain ⟨cs, again⟩ := jump
              simp only [Section.walk, acts, jumps] at walks
              have same : (s.exec P c a).1.thrown = s.thrown := by
                rcases exec_thrown P s c a with same | rfl
                · exact same
                · simp [Action.jump] at jumps
              simp only [Parser.runActions, jumps]
              exact ⟨next, events, .inr ⟨same.trans alive, of_decide_eq_true walks⟩,
                fun _ => same.trans alive⟩
          | none =>
              simp only [Section.walk, acts, jumps] at walks
              simp only [Parser.runActions, jumps]
              split
              · next thrown =>
                  have body : next = .body := by
                    rcases exec_thrown P s c a with same | rfl
                    · simp [same, alive] at thrown
                    · simp only [Section.act, Option.ite_none_right_eq_some, Option.some.injEq] at acts
                      exact acts.2.symm
                  exact ⟨next, events, .inl ⟨thrown, body⟩, by simp⟩
              · next alive₁ =>
                  obtain ⟨last, rest, ordered, again⟩ :=
                    ih (s.exec P c a).1 next (by simpa using alive₁) walks
                  refine ⟨last, ?_, ordered, again⟩
                  rw [Section.follow_append, events]
                  exact rest

theorem step_follow (s : Parser σ) (sec : Section) (ordered : Ordered s sec) (c : UInt8) :
    ∃ next, sec.follow (s.step P c).2 = some next ∧ Ordered (s.step P c).1 next := by
  rcases ordered with ⟨thrown, body⟩ | ⟨alive, member⟩
  · have idle : s.step P c = (s, []) := by simp [Parser.step, thrown]
    rw [idle]
    exact ⟨sec, rfl, .inl ⟨thrown, body⟩⟩
  · obtain ⟨first, events, ordered, again⟩ := runActions_follow P s c (label s.cs c).actions
      (label s.cs c).target sec alive (label_walk member c)
    unfold Parser.step
    rw [if_neg (by simp [alive])]
    generalize s.runActions P c (label s.cs c).actions (label s.cs c).target = r at events ordered again ⊢
    dsimp only
    split
    · next reread =>
        have alive₁ := again reread
        rcases ordered with ⟨thrown, -⟩ | ⟨-, member₁⟩
        · simp [alive₁] at thrown
        · obtain ⟨second, events₂, ordered₂, -⟩ := runActions_follow P r.1 c
            (label r.1.cs c).actions (label r.1.cs c).target first alive₁ (label_walk member₁ c)
          generalize r.1.runActions P c (label r.1.cs c).actions (label r.1.cs c).target = r₂
            at events₂ ordered₂ ⊢
          exact ⟨second, by rw [Section.follow_append, events]; exact events₂, ordered₂⟩
    · exact ⟨first, events, ordered⟩

theorem run_follow (bytes : List UInt8) (s : Parser σ) (sec : Section) (ordered : Ordered s sec) :
    ∃ next, sec.follow (s.run P bytes).2 = some next ∧ Ordered (s.run P bytes).1 next := by
  induction bytes generalizing s sec with
  | nil => exact ⟨sec, rfl, ordered⟩
  | cons c bytes ih =>
      obtain ⟨first, events, ordered₁⟩ := step_follow P s sec ordered c
      obtain ⟨last, rest, ordered₂⟩ := ih _ first ordered₁
      refine ⟨last, ?_, ordered₂⟩
      simp only [Parser.run]
      rw [Section.follow_append, events]
      exact rest

theorem parseChunks_follow (chunks : List (List UInt8)) (s : Parser σ) (sec : Section)
    (ordered : Ordered s sec) :
    ∃ next, sec.follow (s.parseChunks P chunks).2 = some next ∧
      Ordered (s.parseChunks P chunks).1 next := by
  induction chunks generalizing s sec with
  | nil => exact ⟨sec, rfl, ordered⟩
  | cons chunk chunks ih =>
      have first : ∃ next, sec.follow (s.parse P chunk).2 = some next ∧
          Ordered (s.parse P chunk).1 next := by
        unfold Parser.parse
        split
        · exact ⟨sec, rfl, ordered⟩
        · obtain ⟨next, events, read⟩ :=
            run_follow P chunk { s with policy := P.clearRecords s.policy } sec ordered
          refine ⟨next, events, ?_⟩
          dsimp only
          split
          · next thrown =>
              rcases read with ⟨-, body⟩ | ⟨alive, -⟩
              · exact .inl ⟨thrown, body⟩
              · simp [alive] at thrown
          · exact read
      obtain ⟨next, events, ordered₁⟩ := first
      obtain ⟨last, rest, ordered₂⟩ := ih _ next ordered₁
      refine ⟨last, ?_, ordered₂⟩
      simp only [Parser.parseChunks]
      rw [Section.follow_append, events]
      exact rest

theorem finish_follow (s : Parser σ) (sec : Section) (ordered : Ordered s sec) :
    ∃ final, sec.follow (s.finish P).2 = some final ∧ final ≠ .header := by
  rcases ordered with ⟨thrown, rfl⟩ | ⟨alive, member⟩
  · exact ⟨.body, by simp [Parser.finish, thrown, Section.follow], by decide⟩
  · unfold Parser.finish
    rw [if_neg (by simp [alive])]
    dsimp only
    rcases eofActions_cases s.cs with empty | ⟨errorSec, message, rest, failing⟩
    · refine ⟨sec, by rw [empty, runActions_nil]; rfl, fun header => ?_⟩
      subst header
      obtain ⟨low, high⟩ := header_mem_sections member
      exact eofActions_ne_nil (by omega) (by omega) empty
    · obtain ⟨group, grouped, inGroup, same⟩ := eofActions_group (failing ▸ List.cons_ne_nil _ _)
      have closes := List.all_eq_true.mp (List.all_eq_true.mp (List.all_eq_true.mp eofGroups_close
        group grouped) s.cs inGroup) sec member
      rw [← same, failing] at closes
      rw [failing, runActions_error]
      simp only [Section.closes] at closes
      split at closes
      · next next reached =>
          refine ⟨next, ?_, by simpa using closes⟩
          simp only [Section.follow, Option.bind]
          rw [Section.next_error, reached]
      · contradiction

/-- Every run, however its input is cut into buffers, makes calls the section automaton follows
to the end, and does not end inside a header line. -/
theorem validate_follow (chunks : List (List UInt8)) (s : Parser σ) (sec : Section)
    (ordered : Ordered s sec) :
    ∃ final, sec.follow (s.validate P chunks).2 = some final ∧ final ≠ .header := by
  obtain ⟨next, events, ordered₁⟩ := parseChunks_follow P chunks s sec ordered
  obtain ⟨final, ended, outside⟩ := finish_follow P _ next ordered₁
  refine ⟨final, ?_, outside⟩
  simp only [Parser.validate]
  rw [Section.follow_append, events]
  exact ended

end

/-- Along every run, in any chunks: `handle_fileformat` only in the first line; no meta entry
after `handle_header_line` or a header or body error; `handle_header_line` at most once; sample
names only in the line that the header line or a header error ends; columns and body lines only
after `handle_header_line` or a header or body error; nothing added to the source after a body
line. -/
theorem section_order {σ : Type} (P : ParsePolicy σ) (p : σ) (chunks : List (List UInt8)) :
    SectionOrdered ((Parser.init p).validate P chunks).2 := by
  obtain ⟨final, run, ended⟩ :=
    validate_follow P chunks (Parser.init p) .fileformat (.inr ⟨rfl, by simp [Parser.init, sections]⟩)
  exact sectionOrdered_of_follow run ended

end VcfValidator
