import Mathlib.Data.List.ReduceOption
import GoFabric8.Prog
import GoFabric8.Fmt

/-!
# Retrying a check

`RetryAfter` (service.go:301-312) calls a callback up to `attempts` times, sleeping
`d` after each failure, and stops at the first success.  The failures are collected
in a `MultiError`, whose `ToError` is nil when it holds none, and otherwise the
error `fmt.Errorf` makes of the messages joined by newlines.

The callback is a program.  Taken as one step whose answer the environment picks
(`request .callback`), the runs of `retryAfter` range over every sequence of
outcomes.  `retryLoop_run` is the loop's run lemma, and
`retryAfter_stops_at_first_success` what follows for `RetryAfter`: the calls are
failures and then at most one success, no more than `attempts` of them, and the
result is nil exactly when one call succeeded or `attempts ≤ 0`.  With no attempts
the loop body never runs and the empty `MultiError` gives nil:
`retryAfter_zero_attempts_succeeds`.  For a callback that is any program,
`retryLoop_returned_none` says that a loop with attempts left that returns nil
ended on a run of the callback that returned nil, and `retryLoop_returns` that the
loop returns when the callback does.

After any sequence of `Collect` calls on an empty `MultiError`, `ToError` is nil
exactly when every error was nil, and otherwise `fmt.Errorf` of the joined messages
(`MultiError.toError_foldl_collect`).  The join is the format, not an operand: the
message is the join only when no message has a `%`
(`MultiError.toError_foldl_collect_of_no_percent`), and a `%` in a message is read
as a verb (`toError_rewrites_percent`).
-/

namespace GoFabric8
namespace Service

open Prog hiding pure bind

/-- `MultiError`: the messages of the errors collected. -/
structure MultiError where
  errors : List String
  deriving DecidableEq, Repr

/-- `(*MultiError).Collect`: a nil error is not collected. -/
def MultiError.collect (m : MultiError) : Option String → MultiError
  | some err => ⟨m.errors ++ [err]⟩
  | none => m

/-- `MultiError.ToError`: nil without errors, else `fmt.Errorf` with the joined
messages as the format. -/
def MultiError.toError (m : MultiError) : Option String :=
  if m.errors.length = 0 then none
  else some (Fmt.sprintf ("\n".intercalate m.errors))

/-- The loop of `RetryAfter` with `n` iterations left. -/
def retryLoop (callback : Prog (Option String)) (d : Int) :
    Nat → MultiError → Prog (Option String)
  | 0, m => pure m.toError
  | n + 1, m => do
    match ← callback with
    | none => pure none
    | some err =>
      request (.sleep d)
      retryLoop callback d n (m.collect (some err))

/-- `RetryAfter`: `for i := 0; i < attempts; i++` runs `attempts` times when it is
positive and never otherwise. -/
def retryAfter (attempts : Int) (callback : Prog (Option String)) (d : Int) :
    Prog (Option String) :=
  retryLoop callback d attempts.toNat ⟨[]⟩

/-- `Retry`. -/
def retry (attempts : Int) (callback : Prog (Option String)) : Prog (Option String) :=
  retryAfter attempts callback 0

@[simp] theorem MultiError.toError_eq_none (m : MultiError) : m.toError = none ↔ m.errors = [] := by
  simp [MultiError.toError]

/-! ## The collected messages -/

/-- `Collect` of each error of a sequence keeps the non-nil ones, in order. -/
theorem MultiError.foldl_collect :
    ∀ (m : MultiError) (errs : List (Option String)),
      errs.foldl MultiError.collect m = ⟨m.errors ++ errs.reduceOption⟩
  | ⟨_⟩, [] => by simp
  | m, some e :: errs => by
    simp [MultiError.collect, List.reduceOption_cons_of_some, MultiError.foldl_collect _ errs]
  | m, none :: errs => by
    simp [MultiError.collect, List.reduceOption_cons_of_none, MultiError.foldl_collect m errs]

/-- `ToError` after any sequence of `Collect` calls on an empty `MultiError`: nil
when no error was collected, else the error `fmt.Errorf` makes of the messages
joined by newlines. -/
theorem MultiError.toError_foldl_collect (errs : List (Option String)) :
    (errs.foldl MultiError.collect ⟨[]⟩).toError =
      if errs.reduceOption = [] then none
      else some (Fmt.sprintf ("\n".intercalate errs.reduceOption)) := by
  rw [MultiError.foldl_collect, MultiError.toError]
  simp

theorem MultiError.toError_foldl_collect_eq_none_iff (errs : List (Option String)) :
    (errs.foldl MultiError.collect ⟨[]⟩).toError = none ↔ ∀ e ∈ errs, e = none := by
  rw [MultiError.toError_eq_none, MultiError.foldl_collect, List.nil_append, List.reduceOption,
    List.filterMap_eq_nil_iff]
  rfl

theorem not_mem_intercalate_go {c : Char} {sep : String} (hsep : c ∉ sep.toList) :
    ∀ (acc : String) (l : List String), c ∉ acc.toList → (∀ s ∈ l, c ∉ s.toList) →
      c ∉ (String.intercalate.go acc sep l).toList
  | _, [], hacc, _ => hacc
  | acc, s :: l, hacc, hl =>
    not_mem_intercalate_go hsep (acc ++ sep ++ s) l
      (by simpa [String.toList] using ⟨hacc, hsep, hl s (List.mem_cons_self _ _)⟩)
      fun t ht => hl t (List.mem_cons_of_mem _ ht)

/-- A character in neither the separator nor the parts is not in their join. -/
theorem not_mem_intercalate {c : Char} {sep : String} (hsep : c ∉ sep.toList) :
    ∀ {l : List String}, (∀ s ∈ l, c ∉ s.toList) → c ∉ (sep.intercalate l).toList
  | [], _ => List.not_mem_nil c
  | s :: l, hl =>
    not_mem_intercalate_go hsep s l (hl s (List.mem_cons_self _ _))
      fun t ht => hl t (List.mem_cons_of_mem _ ht)

/-- When no collected message has a `%`, the message of `ToError` is the messages
joined by newlines. -/
theorem MultiError.toError_foldl_collect_of_no_percent {errs : List (Option String)}
    (h : ∀ msg, some msg ∈ errs → '%' ∉ msg.toList) (hne : errs.reduceOption ≠ []) :
    (errs.foldl MultiError.collect ⟨[]⟩).toError = some ("\n".intercalate errs.reduceOption) := by
  rw [MultiError.toError_foldl_collect, if_neg hne, Fmt.sprintf_of_not_mem]
  exact not_mem_intercalate (by decide) fun msg hm => h msg (List.reduceOption_mem_iff.mp hm)

theorem toError_foldl_collect_of_no_percent_timeouts :
    (∀ msg, some msg ∈ [some "i/o timeout", none, some "connection refused"] →
      '%' ∉ msg.toList) ∧
    [some "i/o timeout", none, some "connection refused"].reduceOption ≠ [] ∧
    ([some "i/o timeout", none, some "connection refused"].foldl MultiError.collect ⟨[]⟩).toError =
      some ("\n".intercalate [some "i/o timeout", none, some "connection refused"].reduceOption) :=
  have h : ∀ msg, some msg ∈ [some "i/o timeout", none, some "connection refused"] →
      '%' ∉ msg.toList := fun msg hm => by
    simp only [List.mem_cons, Option.some.injEq, reduceCtorEq, false_or, List.not_mem_nil,
      or_false] at hm
    rcases hm with rfl | rfl <;> decide
  have hne : [some "i/o timeout", none, some "connection refused"].reduceOption ≠ [] := by decide
  ⟨h, hne, MultiError.toError_foldl_collect_of_no_percent h hne⟩

/-- The error `url.Parse` gives for a bad escape, collected and turned into an
error: the formatter reads each `%z` as a verb without operand, so the message is
not the one collected. -/
theorem toError_rewrites_percent :
    let m : MultiError := [some "parse \"http://10.0.0.1/%zz\": invalid URL escape \"%zz\""].foldl
      MultiError.collect ⟨[]⟩
    m.toError =
        some "parse \"http://10.0.0.1/%!z(MISSING)z\": invalid URL escape \"%!z(MISSING)z\"" ∧
      m.toError ≠ some ("\n".intercalate m.errors) := by
  intro m
  decide

/-- The loop takes only the callback's steps and its sleeps. -/
theorem allEvents_retryLoop {P : Event → Prop} {callback : Prog (Option String)} {d : Int}
    (hc : AllEvents P callback) (hsleep : P ⟨.sleep d, ()⟩) :
    ∀ (n : Nat) (m : MultiError), AllEvents P (retryLoop callback d n m)
  | 0, _ => allEvents_pure _
  | n + 1, _ => allEvents_bind hc fun
    | none => allEvents_pure _
    | some _ => allEvents_bind (allEvents_request fun _ => hsleep) fun _ =>
      allEvents_retryLoop hc hsleep n _

/-- A loop that returns nil while it has iterations left or errors collected ends
on a call of the callback that returned nil. -/
theorem retryLoop_returned_none {callback : Prog (Option String)} {d : Int} (E : Env) :
    ∀ (n : Nat) (m : MultiError) (hist t : List Event), (0 < n ∨ m.errors ≠ []) →
      (retryLoop callback d n m).run E hist = (t, .returned none) →
      ∃ pre t₂, t = pre ++ t₂ ∧ callback.run E (hist ++ pre) = (t₂, .returned none)
  | 0, m, hist, t, hm, hr => by
    obtain ⟨-, h⟩ := pure_returned E hr
    exact absurd ((MultiError.toError_eq_none m).mp h) (by simpa using hm)
  | n + 1, m, hist, t, _, hr => by
    obtain ⟨t₁, t₂, r, rfl, h₁, h₂⟩ := run_bind_returned E hr
    cases r with
    | none => exact ⟨[], t₁, by simp [(pure_returned E h₂).1], by simpa using h₁⟩
    | some err =>
      obtain ⟨t₃, t₄, _, rfl, -, h₄⟩ := run_bind_returned E h₂
      obtain ⟨pre, t₅, rfl, h₅⟩ :=
        retryLoop_returned_none E n _ _ _ (.inr (by simp [MultiError.collect])) h₄
      exact ⟨t₁ ++ t₃ ++ pre, t₅, by simp, by simpa using h₅⟩

/-- The callback's answers in a trace. -/
def Event.callbackResult? : Event → Option (Option String)
  | ⟨.callback, r⟩ => some r
  | _ => none

/-- The answers of the callback calls of a trace, in order. -/
def callbackResults (t : List Event) : List (Option String) :=
  t.filterMap Event.callbackResult?

/-- What a run of the loop with `k` iterations left, started from `m`, did: `errs`
failed and then one call succeeded, or all `k` calls failed. -/
def RetryRun (k : Nat) (m : MultiError) (r : List Event × Outcome (Option String)) : Prop :=
  ∃ errs : List String,
    (callbackResults r.1 = errs.map some ++ [none] ∧ errs.length < k ∧ r.2 = .returned none) ∨
    (callbackResults r.1 = errs.map some ∧ errs.length = k ∧
      r.2 = .returned (MultiError.mk (m.errors ++ errs)).toError)

/-- Run lemma of the loop, by induction on the iterations left. -/
theorem retryLoop_run (d : Int) (E : Env) :
    ∀ (k : Nat) (m : MultiError) (hist : List Event),
      RetryRun k m ((retryLoop (request .callback) d k m).run E hist)
  | 0, m, hist => ⟨[], .inr ⟨rfl, rfl, by simp [retryLoop]⟩⟩
  | k + 1, m, hist => by
    simp only [retryLoop, bind_eq, request, Prog.bind, run_call]
    generalize E hist .callback = r
    rcases r with _ | err
    · exact ⟨[], .inl ⟨rfl, Nat.succ_pos k, rfl⟩⟩
    · obtain ⟨errs, ⟨h₁, h₂, h₃⟩ | ⟨h₁, h₂, h₃⟩⟩ :=
        retryLoop_run d E k (m.collect (some err)) (hist ++ [⟨.callback, some err⟩] ++ [⟨.sleep d, ()⟩])
      · exact ⟨err :: errs, .inl ⟨congrArg (some err :: ·) h₁, by simp [h₂], h₃⟩⟩
      · exact ⟨err :: errs, .inr ⟨congrArg (some err :: ·) h₁, by simp [h₂],
          by simpa [MultiError.collect] using h₃⟩⟩

/-- `RetryAfter` over every sequence of callback outcomes: failures and then at
most one success, no more than `n` calls, and nil exactly when a call succeeded or
`n ≤ 0`. -/
theorem retryAfter_stops_at_first_success (n d : Int) (E : Env) (hist : List Event) :
    let r := (retryAfter n (request .callback) d).run E hist
    (∃ errs : List String,
      (callbackResults r.1 = errs.map some ++ [none] ∧ errs.length < n.toNat) ∨
      (callbackResults r.1 = errs.map some ∧ errs.length = n.toNat)) ∧
    ∃ res, r.2 = .returned res ∧ (res = none ↔ none ∈ callbackResults r.1 ∨ n ≤ 0) := by
  dsimp only [retryAfter]
  obtain ⟨errs, ⟨h₁, h₂, h₃⟩ | ⟨h₁, h₂, h₃⟩⟩ := retryLoop_run d E n.toNat ⟨[]⟩ hist
  · exact ⟨⟨errs, .inl ⟨h₁, h₂⟩⟩, none, h₃, by simp [h₁]⟩
  · refine ⟨⟨errs, .inr ⟨h₁, h₂⟩⟩, _, h₃, ?_⟩
    rw [h₁, MultiError.toError_eq_none, List.nil_append, ← List.length_eq_zero, h₂]
    simp only [List.mem_map, reduceCtorEq, and_false, exists_false, false_or]
    omega

/-- With no attempts a callback that would fail is never called, and the result is
nil. -/
theorem retryAfter_zero_attempts_succeeds :
    (retryAfter 0 (request .callback) 10000000000).run
      (fun _ op => match op with
        | .callback => some "Service has no external ip or hostname yet\n"
        | op => op.quiet) [] = ([], .returned none) :=
  rfl

end Service
end GoFabric8
