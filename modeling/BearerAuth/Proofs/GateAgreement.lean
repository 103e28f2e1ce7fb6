import BearerAuth.Proofs.Authentication

/-! The gates and the check behind them. The gate for web requests looks for exempt paths by itself
before it asks who sends the request, and the gate for calls asks about calls, which have no path;
both come to what the check for requests says. -/

namespace BearerAuth

namespace Gate

/-- Whatever handler stands behind a gate is run for a caller exactly if the gate admits the
caller. -/
theorem answer_eq_handler_iff {passage : Passage} {caller : Option Caller} :
    (∀ handler, passage.answer handler = handler caller) ↔ passage = .admitted caller := by
  constructor
  · intro h
    cases passage with
    | turnedAway error =>
        exact absurd (congrArg Http.Response.status (h fun _ => .empty 200))
          (status_rejection_ne error)
    | admitted found =>
        -- A handler that knows the caller tells this one from all others.
        have hknown := h fun other => .empty (if other = caller then 200 else 500)
        simp only [Passage.answer, if_true] at hknown
        by_cases hfound : found = caller
        · rw [hfound]
        · rw [if_neg hfound] at hknown
          contradiction
  · rintro rfl handler
    rfl

end Gate

namespace SigningContext

open SkipPath (Exempts)

variable {context : SigningContext} {now : Instant} {source : BearerSource} {path : String}

theorem authenticateUnlessSkipped_of_exempts (h : Exempts context.skipPatterns path)
    (hpath : source.path = some path) : context.authenticateUnlessSkipped source now = .ok "" := by
  rw [authenticateUnlessSkipped, hpath, Option.any_some, isPathSkipped_iff.mpr h, if_pos rfl]

theorem authenticateUnlessSkipped_of_not_exempts
    (h : ∀ path ∈ source.path, ¬Exempts context.skipPatterns path) :
    context.authenticateUnlessSkipped source now = context.authenticate source now := by
  have hskipped : source.path.any context.isPathSkipped = false := by
    rw [Option.any_eq_false]
    intro path hpath
    rw [Bool.eq_false_iff]
    exact fun hskipped => h path hpath (isPathSkipped_iff.mp hskipped)
  rw [authenticateUnlessSkipped, hskipped, if_neg Bool.false_ne_true]

theorem access_of_exempts {headers : List Http.Header} (h : Exempts context.skipPatterns path) :
    Gate.access context now headers path = .admitted none := by
  rw [Gate.access, isPathSkipped_iff.mpr h, if_pos rfl]

/-- Where no pattern exempts the path, the gate goes by the check for requests. -/
theorem access_of_not_exempts {headers : List Http.Header} (h : ¬Exempts context.skipPatterns path) :
    Gate.access context now headers path =
      Gate.passage .access (context.authenticateUnlessSkipped (.ofHttp headers path) now) := by
  have hskipped : ¬context.isPathSkipped path = true := fun hskipped =>
    h (isPathSkipped_iff.mp hskipped)
  have hsource : ∀ found ∈ (BearerSource.ofHttp headers path).path,
      ¬Exempts context.skipPatterns found := by
    rintro found ⟨⟩
    exact h
  rw [Gate.access, if_neg hskipped, authenticateUnlessSkipped_of_not_exempts hsource]

/-- How the gates agree with the check for requests at a time. Requests for exempt paths are let
through without a caller; all others are let through as whom the check says and turned away for the
reason that it gives. Calls are checked in all cases, whatever the patterns. -/
structure GatesAgree (context : SigningContext) (now : Instant) : Prop where
  exempt : ∀ {headers path}, Exempts context.skipPatterns path →
    context.authenticateUnlessSkipped (.ofHttp headers path) now = .ok "" ∧
      ∀ handler, (Gate.access context now headers path).answer handler = handler none
  admitted : ∀ {headers path}, ¬Exempts context.skipPatterns path → ∀ identity,
    (∀ handler, (Gate.access context now headers path).answer handler =
        handler (some ⟨identity, .access⟩)) ↔
      context.authenticateUnlessSkipped (.ofHttp headers path) now = .ok identity
  turnedAway : ∀ {headers path}, ¬Exempts context.skipPatterns path → ∀ error,
    (Gate.access context now headers path = .turnedAway error ↔
      context.authenticateUnlessSkipped (.ofHttp headers path) now = .error error) ∧
    (context.authenticateUnlessSkipped (.ofHttp headers path) now = .error error →
      ∀ handler, (Gate.access context now headers path).answer handler = Gate.rejection error)
  call : ∀ patterns metadata,
    ({ context with skipPatterns := patterns } : SigningContext).authenticateUnlessSkipped
      (.ofRpc metadata) now = context.authenticate (.ofRpc metadata) now
  callAdmitted : ∀ patterns metadata caller,
    Gate.intercept { context with skipPatterns := patterns } now metadata = .ok caller ↔
      ∃ identity, context.authenticate (.ofRpc metadata) now = .ok identity ∧
        caller = ⟨identity, .access⟩
  callTurnedAway : ∀ patterns metadata status,
    Gate.intercept { context with skipPatterns := patterns } now metadata = .error status ↔
      ∃ error, context.authenticate (.ofRpc metadata) now = .error error ∧
        status = .ofError error

/-- In every context and at every time the gates agree with the check for requests. -/
theorem gatesAgree (context : SigningContext) (now : Instant) : context.GatesAgree now where
  exempt h := by
    constructor
    · exact authenticateUnlessSkipped_of_exempts h rfl
    · rw [access_of_exempts h]
      exact fun handler => rfl
  admitted h identity := by
    rw [Gate.answer_eq_handler_iff, access_of_not_exempts h, Gate.passage_eq_admitted_iff]
  turnedAway h error := by
    rw [access_of_not_exempts h, Gate.passage_eq_turnedAway_iff]
    constructor
    · rfl
    · intro herror handler
      rw [herror]
      rfl
  call patterns metadata := Gate.authenticateUnlessSkipped_ofRpc _ metadata now
  callAdmitted patterns metadata caller := Gate.intercept_eq_ok_iff
  callTurnedAway patterns metadata status := Gate.intercept_eq_error_iff

end SigningContext

end BearerAuth
