import BearerAuth.SigningContext.Latch
import Mathlib.Data.List.DropRight
import Mathlib.Data.List.Induction

/-! The shared context over whole runs. The latch holds what the first attempt since the last reset
asked for, and later attempts leave no trace. What one call keeps is that the latch matches the
calls made so far; the rest is an induction on the calls. -/

namespace BearerAuth

/-! ## Lifetimes -/

namespace SigningContext

theorem lifetimes_withOptions (context : SigningContext) (options : List SigningOption) :
    (context.withOptions options).accessLifetime = context.accessLifetime ∧
      (context.withOptions options).refreshLifetime = context.refreshLifetime := by
  induction options generalizing context with
  | nil => exact ⟨rfl, rfl⟩
  | cons option options ih =>
      have hstep : (context.withOption option).accessLifetime = context.accessLifetime ∧
          (context.withOption option).refreshLifetime = context.refreshLifetime := by
        cases option <;> exact ⟨rfl, rfl⟩
      rw [withOptions, List.foldl_cons, ← withOptions, ← hstep.1, ← hstep.2]
      exact ih (context.withOption option)

end SigningContext

namespace Latch

/-! ## Runs -/

/-- An attempt to set the shared context. -/
structure Attempt where
  secret : List UInt8
  access : Span
  refresh : Span
  options : List SigningOption

/-- A call that can change the shared context. -/
inductive Call where
  | init (attempt : Attempt)
  | reset

/-- The answer to a call, if it has one, and the latch that the call leaves. -/
def step (latch : Latch) : Call → Option Bool × Latch
  | .init attempt =>
      let outcome := latch.init attempt.secret attempt.access attempt.refresh attempt.options
      (some outcome.1, outcome.2)
  | .reset => (none, latch.reset)

/-- What each of several calls gives. -/
def run (latch : Latch) : List Call → List (Option Bool × Latch)
  | [] => []
  | call :: calls => latch.step call :: run (latch.step call).2 calls

/-- The latch that several calls leave. -/
def after (latch : Latch) (calls : List Call) : Latch :=
  calls.foldl (fun latch call => (latch.step call).2) latch

/-- A call in a run is made on the latch that the calls before it leave. -/
theorem getElem?_run (latch : Latch) (before : List Call) (call : Call) (rest : List Call) :
    (latch.run (before ++ call :: rest))[before.length]? =
      some ((latch.after before).step call) := by
  induction before generalizing latch with
  | nil => rfl
  | cons first before ih => exact ih (latch.step first).2

/-! ## Attempts -/

def Call.attempt? : Call → Option Attempt
  | .init attempt => some attempt
  | .reset => none

/-- The attempts made since the last reset, in the order made. -/
def attemptsSinceReset (calls : List Call) : List Attempt :=
  (calls.rtakeWhile (·.attempt?.isSome)).filterMap Call.attempt?

theorem attemptsSinceReset_init (calls : List Call) (attempt : Attempt) :
    attemptsSinceReset (calls ++ [.init attempt]) = attemptsSinceReset calls ++ [attempt] := by
  rw [attemptsSinceReset, List.rtakeWhile_concat_pos _ _ _ rfl, List.filterMap_append]
  rfl

theorem attemptsSinceReset_reset (calls : List Call) :
    attemptsSinceReset (calls ++ [.reset]) = [] := by
  rw [attemptsSinceReset, List.rtakeWhile_concat_neg _ _ _ (by simp [Call.attempt?])]
  rfl

/-- The context that an attempt asks for. -/
def Attempt.context (attempt : Attempt) : SigningContext :=
  (SigningContext.ofSecret attempt.secret
    (if attempt.access.nanos ≤ 0 then SigningContext.defaultAccessLifetime else attempt.access)
    (if attempt.refresh.nanos ≤ 0 then SigningContext.defaultRefreshLifetime
      else attempt.refresh)).withOptions attempt.options

theorem forwardOr_eq (fallback span : Span) :
    forwardOr fallback span = if span.nanos ≤ 0 then fallback else span := by
  unfold forwardOr Span.isPositive
  by_cases h : span.nanos ≤ 0
  · rw [if_pos h, if_neg (by simpa using h)]
  · rw [if_neg h, if_pos (by simpa using h)]

theorem prepared_eq_context (attempt : Attempt) :
    prepared attempt.secret attempt.access attempt.refresh attempt.options = attempt.context := by
  rw [prepared, forwardOr_eq, forwardOr_eq, Attempt.context]

theorem Attempt.forward_context (attempt : Attempt) :
    0 < attempt.context.accessLifetime.nanos ∧ 0 < attempt.context.refreshLifetime.nanos := by
  have hforward {fallback span : Span} (h : 0 < fallback.nanos) :
      0 < (if span.nanos ≤ 0 then fallback else span).nanos := by
    by_cases hspan : span.nanos ≤ 0
    · rwa [if_pos hspan]
    · rw [if_neg hspan]
      omega
  obtain ⟨haccess, hrefresh⟩ := SigningContext.lifetimes_withOptions
    (SigningContext.ofSecret attempt.secret _ _) attempt.options
  rw [Attempt.context, haccess, hrefresh]
  exact ⟨hforward (by decide), hforward (by decide)⟩

/-! ## What a call keeps -/

/-- A latch holds what the first attempt since the last reset asked for. -/
def Follows (latch : Latch) (calls : List Call) : Prop :=
  latch.held = (attemptsSinceReset calls).head?.map Attempt.context

theorem follows_pristine : pristine.Follows [] := rfl

/-- An attempt succeeds exactly if it is the first one since the last reset. -/
def expectedAnswer (before : List Call) : Call → Option Bool
  | .init _ => some (attemptsSinceReset before).isEmpty
  | .reset => none

theorem Follows.step {latch : Latch} {before : List Call} (h : latch.Follows before) (call : Call) :
    (latch.step call).1 = expectedAnswer before call ∧
      (latch.step call).2.Follows (before ++ [call]) := by
  cases call with
  | reset =>
      rw [Follows, attemptsSinceReset_reset]
      exact ⟨rfl, rfl⟩
  | init attempt =>
      rw [Follows, attemptsSinceReset_init]
      cases hattempts : attemptsSinceReset before with
      | nil =>
          have hheld : latch.held = none := by rw [h, hattempts]; rfl
          simp only [Latch.step, init, hheld, expectedAnswer, hattempts]
          exact ⟨rfl, congrArg some (prepared_eq_context attempt)⟩
      | cons first others =>
          have hheld : latch.held = some first.context := by rw [h, hattempts]; rfl
          simp only [Latch.step, init, hheld, expectedAnswer, hattempts]
          exact ⟨rfl, rfl⟩

theorem follows_after (calls : List Call) : (pristine.after calls).Follows calls := by
  induction calls using List.reverseRecOn with
  | nil => exact follows_pristine
  | append_singleton calls call ih =>
      rw [after, List.foldl_append]
      exact (ih.step call).2

/-! ## What a process sees -/

/-- The context that a process has to see after some calls. -/
def contextAfter (calls : List Call) : SigningContext :=
  match (attemptsSinceReset calls).head? with
  | none => .unset
  | some first => first.context

theorem forward_contextAfter (calls : List Call) :
    0 < (contextAfter calls).accessLifetime.nanos ∧
      0 < (contextAfter calls).refreshLifetime.nanos := by
  unfold contextAfter
  cases (attemptsSinceReset calls).head? with
  | none => decide
  | some first => exact first.forward_context

/-- A latch shows a context to all who ask, and its lifetimes go forward. -/
structure Shows (latch : Latch) (context : SigningContext) : Prop where
  current : latch.current = context
  accessLifetime : latch.accessLifetime = context.accessLifetime
  refreshLifetime : latch.refreshLifetime = context.refreshLifetime
  isIdentityRequired : latch.isIdentityRequired = context.isIdentityRequired
  skipPatterns : latch.skipPatterns = context.skipPatterns
  isPathSkipped : ∀ path, latch.isPathSkipped path = context.isPathSkipped path
  forward : 0 < context.accessLifetime.nanos ∧ 0 < context.refreshLifetime.nanos

theorem Follows.shows {latch : Latch} {calls : List Call} (h : latch.Follows calls) :
    latch.Shows (contextAfter calls) := by
  have hcurrent : latch.current = contextAfter calls := by
    rw [Latch.current, h, contextAfter]
    cases (attemptsSinceReset calls).head? <;> rfl
  exact
    { current := hcurrent
      accessLifetime := congrArg SigningContext.accessLifetime hcurrent
      refreshLifetime := congrArg SigningContext.refreshLifetime hcurrent
      isIdentityRequired := congrArg SigningContext.isIdentityRequired hcurrent
      skipPatterns := congrArg SigningContext.skipPatterns hcurrent
      isPathSkipped := fun path => congrArg (SigningContext.isPathSkipped · path) hcurrent
      forward := forward_contextAfter calls }

/-- After every call of every run the process sees the context of the first attempt since the last
reset, or the one without a secret if there was none; of all attempts just these first ones
succeed. -/
theorem run_shows_first (before : List Call) (call : Call) (rest : List Call) :
    ∃ latch, (pristine.run (before ++ call :: rest))[before.length]? =
        some (expectedAnswer before call, latch) ∧
      latch.Shows (contextAfter (before ++ [call])) := by
  obtain ⟨hanswer, hfollows⟩ := (follows_after before).step call
  refine ⟨((pristine.after before).step call).2, ?_, hfollows.shows⟩
  rw [getElem?_run, ← hanswer]

end Latch

end BearerAuth
