import VcfValidator.Step

/-!
# The order of the sections

What a reader of the calls may expect of a VCF file: the fileformat line, then meta lines, then
the header line with its sample names, then body lines. `Section.next` reads one call and says in
which section the file is after it, or that the call is out of place; `Section.follow` reads a
list of calls. A header line begun (a sample name read) must be ended, by `handle_header_line` or
by a header error, before any newline. The facts the section order promises are proved here of
every list of calls the automaton follows; the scanner's calls are shown to be such lists in
`VcfValidator.Order`.
-/

namespace VcfValidator

open Scanner

set_option autoImplicit false

/-- The sections in file order. -/
def Scanner.Section.rank : Section → Nat
  | .fileformat => 0
  | .meta => 1
  | .header => 2
  | .body => 3

/-- The section after one call, or `none` when the call is out of place there. Tokens may come in
any section; the header section is the header line after its first sample name. -/
def Scanner.Section.next : Section → Event → Option Section
  | sec, .tokenBegin => some sec
  | sec, .tokenChar _ => some sec
  | sec, .tokenEnd => some sec
  | .fileformat, .fileformat => some .fileformat
  | .fileformat, .error .fileformat _ _ => some .fileformat
  | .fileformat, .newline => some .meta
  | .meta, .newline => some .meta
  | .meta, .metaTypeid _ => some .meta
  | .meta, .metaKey _ => some .meta
  | .meta, .metaLine => some .meta
  | .meta, .error .fileformat _ _ => some .meta
  | .meta, .error .meta _ _ => some .meta
  | .meta, .sampleName => some .header
  | .header, .sampleName => some .header
  | .meta, .headerLine => some .body
  | .header, .headerLine => some .body
  | .meta, .error .header _ _ => some .body
  | .header, .error .header _ _ => some .body
  | .body, .newline => some .body
  | .body, .columnEnd _ => some .body
  | .body, .bodyLine => some .body
  | .body, .warning _ _ => some .body
  | .body, .error .header _ _ => some .body
  | .body, .error .body _ _ => some .body
  | _, _ => none

def Scanner.Section.follow : Section → List Event → Option Section
  | sec, [] => some sec
  | sec, e :: events => (sec.next e).bind fun next => next.follow events

/-- `handle_meta_typeid`, `handle_meta_key` and `handle_meta_line`: what adds a meta entry. -/
def Event.isMetaEntry : Event → Bool
  | .metaTypeid _ | .metaKey _ | .metaLine => true
  | _ => false

/-- An error of the header or the body section. -/
def Event.isLateError : Event → Bool
  | .error .header _ _ | .error .body _ _ => true
  | _ => false

theorem Scanner.Section.follow_append (sec : Section) (first rest : List Event) :
    sec.follow (first ++ rest) = (sec.follow first).bind fun next => next.follow rest := by
  induction first generalizing sec with
  | nil => rfl
  | cons e first ih =>
      simp only [List.cons_append, Section.follow]
      cases sec.next e <;> simp [ih]

theorem Scanner.Section.next_rank {sec next : Section} {e : Event} (step : sec.next e = some next) :
    sec.rank ≤ next.rank := by
  cases e
  case error errorSec _ _ =>
    cases sec <;> cases errorSec <;> simp only [Section.next, Option.some.injEq, reduceCtorEq] at step <;>
      subst step <;> decide
  all_goals
    cases sec <;> simp only [Section.next, Option.some.injEq, reduceCtorEq] at step <;> subst step <;>
      decide

/-- The calls that move a file into the body section from an earlier one. -/
theorem Scanner.Section.next_body {sec : Section} {e : Event} (earlier : sec ≠ .body)
    (step : sec.next e = some .body) : e = .headerLine ∨ e.isLateError = true := by
  cases e
  case error errorSec _ _ =>
    cases sec <;> cases errorSec <;> simp_all [Section.next, Event.isLateError]
  all_goals cases sec <;> simp_all [Section.next]

/-- The calls after which a file is in the body section. -/
theorem Scanner.Section.next_late {sec next : Section} {e : Event}
    (late : e = .headerLine ∨ e.isLateError = true) (step : sec.next e = some next) :
    next = .body := by
  rcases late with rfl | late
  · cases sec <;> simp_all [Section.next]
  · cases e <;> simp only [Event.isLateError, reduceCtorEq] at late
    rename_i errorSec _ _
    cases sec <;> cases errorSec <;> simp_all [Section.next, Event.isLateError]

theorem Scanner.Section.follow_rank {sec final : Section} {events : List Event}
    (run : sec.follow events = some final) : sec.rank ≤ final.rank := by
  induction events generalizing sec with
  | nil =>
      simp only [Section.follow, Option.some.injEq] at run
      subst run
      exact Nat.le_refl _
  | cons e events ih =>
      simp only [Section.follow, Option.bind_eq_some] at run
      obtain ⟨next, step, rest⟩ := run
      exact Nat.le_trans (next_rank step) (ih rest)

/-- Following a list of calls through one of them. -/
theorem Scanner.Section.follow_split {sec final : Section} {pre post : List Event} {e : Event}
    (run : sec.follow (pre ++ e :: post) = some final) :
    ∃ before after, sec.follow pre = some before ∧ before.next e = some after ∧
      after.follow post = some final := by
  rw [follow_append] at run
  simp only [Option.bind_eq_some, follow] at run
  obtain ⟨before, first, after, step, rest⟩ := run
  exact ⟨before, after, first, step, rest⟩

/-- A call that only comes into sections of rank `k` or more leaves the file there. -/
theorem Scanner.Section.rank_after_mem {sec before : Section} {pre : List Event} {x : Event}
    (run : sec.follow pre = some before) (member : x ∈ pre) (k : Nat)
    (raises : ∀ y z : Section, y.next x = some z → k ≤ z.rank) : k ≤ before.rank := by
  obtain ⟨first, rest, rfl⟩ := List.append_of_mem member
  obtain ⟨y, z, -, step, later⟩ := follow_split run
  exact Nat.le_trans (raises y z step) (follow_rank later)

/-- A file is in the body section only after `handle_header_line` or a late error. -/
theorem Scanner.Section.follow_body {sec : Section} {events : List Event} (earlier : sec ≠ .body)
    (run : sec.follow events = some .body) :
    .headerLine ∈ events ∨ ∃ x ∈ events, x.isLateError = true := by
  induction events generalizing sec with
  | nil => simp_all [follow]
  | cons e events ih =>
      simp only [follow, Option.bind_eq_some] at run
      obtain ⟨next, step, rest⟩ := run
      by_cases body : next = .body
      · subst body
        rcases next_body earlier step with rfl | late
        · exact .inl (List.mem_cons_self _ _)
        · exact .inr ⟨e, List.mem_cons_self _ _, late⟩
      · rcases ih body rest with member | ⟨x, member, late⟩
        · exact .inl (List.mem_cons_of_mem _ member)
        · exact .inr ⟨x, List.mem_cons_of_mem _ member, late⟩

/-- A header line once begun goes on with tokens and sample names only, until
`handle_header_line` or a header error moves the file to the body section. -/
theorem Scanner.Section.follow_header_ends {final : Section} {events : List Event}
    (run : Section.header.follow events = some final) (left : final ≠ .header) :
    ∃ mid e rest, events = mid ++ e :: rest ∧ (∀ x ∈ mid, Section.header.next x = some .header) ∧
      (e = .headerLine ∨ ∃ message line, e = .error .header message line) ∧
      Section.body.follow rest = some final := by
  induction events with
  | nil => simp_all [follow]
  | cons e events ih =>
      simp only [follow, Option.bind_eq_some] at run
      obtain ⟨after, step, rest⟩ := run
      cases e
      case headerLine =>
        simp only [Section.next, Option.some.injEq] at step
        subst step
        exact ⟨[], _, events, rfl, by simp, .inl rfl, rest⟩
      case error errorSec message line =>
        cases errorSec <;> simp only [Section.next, reduceCtorEq, Option.some.injEq] at step
        subst step
        exact ⟨[], _, events, rfl, by simp, .inr ⟨message, line, rfl⟩, rest⟩
      all_goals simp only [Section.next, Option.some.injEq, reduceCtorEq] at step
      all_goals
        subst step
        obtain ⟨mid, e, later, same, stays, ends, body⟩ := ih rest
        exact ⟨_ :: mid, e, later, by rw [same]; rfl,
          fun x member => (List.mem_cons.mp member).elim (fun same => by subst same; rfl) (stays x),
          ends, body⟩

/-- A header line once begun is ended, by `handle_header_line` or a header error, before any
newline. -/
theorem Scanner.Section.follow_header {final : Section} {events : List Event}
    (run : Section.header.follow events = some final) (left : final ≠ .header) :
    ∃ mid e rest, events = mid ++ e :: rest ∧ .newline ∉ mid ∧
      (e = .headerLine ∨ ∃ message line, e = .error .header message line) := by
  obtain ⟨mid, e, rest, same, stays, ends, -⟩ := follow_header_ends run left
  exact ⟨mid, e, rest, same, fun member => by simpa [Section.next] using stays _ member, ends⟩

/-- The body section takes no sample name. -/
theorem Scanner.Section.body_follow {final : Section} {events : List Event}
    (run : Section.body.follow events = some final) : .sampleName ∉ events := by
  intro member
  obtain ⟨pre, post, rfl⟩ := List.append_of_mem member
  obtain ⟨before, after, reached, step, -⟩ := follow_split run
  have := follow_rank reached
  cases before <;> simp_all [Section.next, Section.rank]

/-- The facts the section order promises of a list of calls. -/
structure SectionOrdered (events : List Event) : Prop where
  /-- `handle_fileformat` comes before the first newline. -/
  fileformat_first_line : ∀ pre post, events = pre ++ .fileformat :: post → .newline ∉ pre
  /-- No meta entry after `handle_header_line` or a late error. -/
  meta_before_header : ∀ pre e post, events = pre ++ e :: post → e.isMetaEntry = true →
    .headerLine ∉ pre ∧ ∀ x ∈ pre, x.isLateError = false
  headerLine_once : events.count .headerLine ≤ 1
  /-- Sample names come before the header ends, and within the line that ends it. -/
  sampleName_in_header_line : ∀ pre post, events = pre ++ .sampleName :: post →
    (.headerLine ∉ pre ∧ ∀ x ∈ pre, x.isLateError = false) ∧
      ∃ mid e rest, post = mid ++ e :: rest ∧ .newline ∉ mid ∧
        (e = .headerLine ∨ ∃ message line, e = .error .header message line)
  /-- Columns and body lines come after `handle_header_line` or a late error. -/
  body_after_header : ∀ pre e post, events = pre ++ e :: post →
    (e = .bodyLine ∨ ∃ column, e = .columnEnd column) →
      .headerLine ∈ pre ∨ ∃ x ∈ pre, x.isLateError = true
  /-- Nothing is added to the source after a body line. -/
  source_before_body : ∀ pre e post, events = pre ++ e :: post →
    (e.isMetaEntry = true ∨ e = .sampleName) → .bodyLine ∉ pre

section Ordered

variable {events : List Event} {final : Section}

theorem Scanner.Section.rank_three_after_late {sec before : Section} {pre : List Event}
    (run : sec.follow pre = some before)
    (late : .headerLine ∈ pre ∨ ∃ x ∈ pre, x.isLateError = true) : 3 ≤ before.rank := by
  rcases late with member | ⟨x, member, late⟩
  · exact rank_after_mem run member 3 fun _ _ step => by rw [next_late (.inl rfl) step]; decide
  · exact rank_after_mem run member 3 fun _ _ step => by rw [next_late (.inr late) step]; decide

/-- What comes before a call that only a section of rank two or less takes. -/
theorem Scanner.Section.early_before {before : Section} {pre : List Event}
    (run : Section.fileformat.follow pre = some before) (early : before.rank ≤ 2) :
    .headerLine ∉ pre ∧ ∀ x ∈ pre, x.isLateError = false := by
  refine ⟨fun member => ?_, fun x member => ?_⟩
  · have := rank_three_after_late run (.inl member)
    omega
  · cases late : x.isLateError
    · rfl
    · have := rank_three_after_late run (.inr ⟨x, member, late⟩)
      omega

theorem Scanner.Section.headerLine_after {pre post : List Event}
    (run : Section.fileformat.follow (pre ++ .headerLine :: post) = some final) :
    .headerLine ∉ post := by
  obtain ⟨before, after, -, step, rest⟩ := follow_split run
  rw [next_late (.inl rfl) step] at rest
  intro member
  obtain ⟨first, later, rfl⟩ := List.append_of_mem member
  obtain ⟨y, z, reached, again, -⟩ := follow_split rest
  have late := follow_rank reached
  cases y <;> simp_all [Section.next, Section.rank]

theorem sectionOrdered_of_follow (run : Section.fileformat.follow events = some final)
    (ended : final ≠ .header) : SectionOrdered events where
  fileformat_first_line pre post split := by
    subst split
    obtain ⟨before, after, first, step, -⟩ := Section.follow_split run
    intro member
    have raised := Section.rank_after_mem first member 1 fun y z step => by
      cases y <;> simp only [Section.next, Option.some.injEq, reduceCtorEq] at step <;> subst step <;>
        decide
    cases before <;> simp_all [Section.next, Section.rank]
  meta_before_header pre e post split entry := by
    subst split
    obtain ⟨before, after, first, step, -⟩ := Section.follow_split run
    refine Section.early_before first ?_
    cases e <;> simp only [Event.isMetaEntry, reduceCtorEq] at entry <;>
      cases before <;> simp_all [Section.next, Section.rank]
  headerLine_once := by
    by_cases member : .headerLine ∈ events
    · obtain ⟨pre, post, rfl⟩ := List.append_of_mem member
      have notPre : .headerLine ∉ pre := fun inPre => by
        obtain ⟨first, later, rfl⟩ := List.append_of_mem inPre
        have again : Section.fileformat.follow
            (first ++ .headerLine :: (later ++ .headerLine :: post)) = some final := by
          simpa using run
        exact Section.headerLine_after again (by simp)
      simp [List.count_eq_zero.mpr notPre, List.count_eq_zero.mpr (Section.headerLine_after run)]
    · simp [List.count_eq_zero.mpr member]
  sampleName_in_header_line pre post split := by
    subst split
    obtain ⟨before, after, first, step, rest⟩ := Section.follow_split run
    have header : after = .header ∧ before.rank ≤ 2 := by
      cases before <;> simp_all [Section.next, Section.rank]
    rw [header.1] at rest
    exact ⟨Section.early_before first header.2, Section.follow_header rest ended⟩
  body_after_header pre e post split body := by
    subst split
    obtain ⟨before, after, first, step, -⟩ := Section.follow_split run
    have inBody : before = .body := by
      rcases body with rfl | ⟨column, rfl⟩ <;> cases before <;> simp_all [Section.next]
    exact Section.follow_body (by decide) (inBody ▸ first)
  source_before_body pre e post split source := by
    subst split
    obtain ⟨before, after, first, step, -⟩ := Section.follow_split run
    have early : before.rank ≤ 2 := by
      rcases source with entry | rfl
      · cases e <;> simp only [Event.isMetaEntry, reduceCtorEq] at entry <;>
          cases before <;> simp_all [Section.next, Section.rank]
      · cases before <;> simp_all [Section.next, Section.rank]
    intro member
    have := Section.rank_after_mem first member 3 fun y z step => by
      cases y <;> simp only [Section.next, Option.some.injEq, reduceCtorEq] at step
      subst step
      decide
    omega

end Ordered

end VcfValidator
