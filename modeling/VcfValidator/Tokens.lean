import VcfValidator.Recovery

/-!
# The bytes handed to `handle_token_char`

Every label of the table calls `handle_token_char` at most once, with the byte being read, and a
label that starts with an error calls nothing before it. So along any run, however the input is
cut into buffers, the bytes passed to `handle_token_char` are input bytes, each passed at most
once and in input order. That they are all the bytes of the fields is another matter: the value
of a `##KEY=VALUE` line loses its first byte.
-/

namespace VcfValidator

open Scanner

set_option autoImplicit false

/-- The byte an event hands to `handle_token_char`. -/
def Event.tokenByte : Event → Option UInt8
  | .tokenChar c => some c
  | _ => none

section

variable {σ : Type} (P : ParsePolicy σ)

theorem exec_tokenBytes (s : Parser σ) (c : UInt8) (a : Action) :
    (s.exec P c a).2.filterMap Event.tokenByte = if a = .tokenChar then [c] else [] := by
  have none {events : List Event} (other : ∀ e ∈ events, e.tokenByte = none) :
      events.filterMap Event.tokenByte = [] := List.filterMap_eq_nil_iff.mpr other
  cases a
  case metaLine =>
    exact none fun e member => by
      rcases metaLine_events P s member with rfl | ⟨_, rfl⟩ <;> rfl
  case bodyLine =>
    exact none fun e member => by
      rcases bodyLine_events P s member with rfl | rfl | ⟨_, _, rfl⟩ | ⟨_, _, rfl⟩ <;> rfl
  all_goals rfl

theorem runActions_tokenBytes (s : Parser σ) (c : UInt8) (actions : List Action) (target : Nat) :
    List.Sublist ((s.runActions P c actions target).2.1.filterMap Event.tokenByte)
      (List.replicate (actions.count .tokenChar) c) := by
  induction actions generalizing s with
  | nil => simp [Parser.runActions]
  | cons a actions ih =>
      have split : (if a = .tokenChar then [c] else []) ++
          List.replicate (actions.count .tokenChar) c =
            List.replicate ((a :: actions).count .tokenChar) c := by
        rw [List.count_cons]
        by_cases token : a = .tokenChar <;> simp [token, List.replicate_succ]
      have own : List.Sublist ((s.exec P c a).2.filterMap Event.tokenByte)
          (List.replicate ((a :: actions).count .tokenChar) c) := by
        rw [exec_tokenBytes, ← split]
        exact List.sublist_append_left _ _
      simp only [Parser.runActions]
      split
      · exact own
      · split
        · exact own
        · rw [List.filterMap_append, exec_tokenBytes, ← split]
          exact (ih _).append_left _

/-- One byte hands at most itself to `handle_token_char`. -/
theorem step_tokenBytes (s : Parser σ) (c : UInt8) :
    List.Sublist ((s.step P c).2.filterMap Event.tokenByte) [c] := by
  cases thrown : s.thrown with
  | some _ => simp [Parser.step, thrown]
  | none =>
      rcases step_error_or_run P s c thrown with ⟨sec, message, rest, -, -, -, events⟩ | ⟨-, same⟩
      · rw [events]
        split <;> simp [Event.tokenByte]
      · have bound := (runActions_tokenBytes P s c (label s.cs c).actions (label s.cs c).target).trans
          ((List.replicate_sublist_replicate c).mpr (label_readsOnce s.cs c).1)
        rw [List.replicate_one] at bound
        rw [same]
        dsimp only
        exact bound

theorem run_tokenBytes (s : Parser σ) (bytes : List UInt8) :
    List.Sublist ((s.run P bytes).2.filterMap Event.tokenByte) bytes := by
  induction bytes generalizing s with
  | nil => simp [Parser.run]
  | cons c bytes ih =>
      simp only [Parser.run, List.filterMap_append]
      exact (step_tokenBytes P s c).append (ih _)

theorem parseChunks_tokenBytes (s : Parser σ) (chunks : List (List UInt8)) :
    List.Sublist ((s.parseChunks P chunks).2.filterMap Event.tokenByte) chunks.flatten := by
  induction chunks generalizing s with
  | nil => simp [Parser.parseChunks]
  | cons chunk chunks ih =>
      have first : List.Sublist ((s.parse P chunk).2.filterMap Event.tokenByte) chunk := by
        unfold Parser.parse
        split
        · simp
        · exact run_tokenBytes P _ chunk
      simp only [Parser.parseChunks, List.filterMap_append, List.flatten]
      exact first.append (ih _)

theorem finish_tokenBytes (s : Parser σ) : (s.finish P).2.filterMap Event.tokenByte = [] := by
  unfold Parser.finish
  split
  · rfl
  · rcases eofActions_cases s.cs with empty | ⟨sec, message, rest, failing⟩
    · simp [empty, runActions_nil]
    · simp [failing, runActions_error, Event.tokenByte]

/-- Along a whole run, however the input is cut into buffers, the bytes handed to
`handle_token_char` are input bytes, each handed over at most once, in input order. -/
theorem validate_tokenBytes (s : Parser σ) (chunks : List (List UInt8)) :
    List.Sublist ((s.validate P chunks).2.filterMap Event.tokenByte) chunks.flatten := by
  simp only [Parser.validate, List.filterMap_append, finish_tokenBytes, List.append_nil]
  exact parseChunks_tokenBytes P s chunks

end

set_option maxRecDepth 20000 in
/-- A valid file whose `reference` value `file.fa` reaches `handle_token_char` as `ile.fa`:
states 22 to 24 begin the token on the second byte of the value. The calls kept are the errors
and the bytes handed to `handle_token_char`. -/
theorem reference_value_loses_first_byte :
    ((Parser.init ()).validate acceptAll [bytesOf
      "##fileformat=VCFv4.1\n##reference=file.fa\n#CHROM\tPOS\tID\tREF\tALT\tQUAL\tFILTER\tINFO\n"]).2.filter
        (fun e => e.isError || e.tokenByte.isSome) =
      (bytesOf "VCFv4.1referenceile.fa").map Event.tokenChar := by
  decide

end VcfValidator
