import BearerAuth.SkipPath
import BearerAuth.Text.Quoted
import BearerAuth.Time.Basic

/-! What tokens are signed and checked with: the secret, the name of the identity claim, the
lifetimes of both token types and the paths that need no token. Options are applied in
order; a later identity key replaces an earlier one and exempt paths add up. -/

namespace BearerAuth

structure SigningContext where
  secret : List UInt8
  identityKey : Option String
  accessLifetime : Span
  refreshLifetime : Span
  skipPatterns : List String
deriving DecidableEq

inductive SigningOption where
  | identityKey (key : String)
  | skipPaths (patterns : List String)
  | commonSkipPaths

namespace SigningContext

/-- Two hours. -/
def defaultAccessLifetime : Span := ⟨7200 * 1000000000, by decide⟩

/-- A week. -/
def defaultRefreshLifetime : Span := ⟨604800 * 1000000000, by decide⟩

/-- A context with a secret and lifetimes and nothing else. -/
def ofSecret (secret : List UInt8) (access refresh : Span) : SigningContext :=
  ⟨secret, none, access, refresh, []⟩

def unset : SigningContext := ofSecret [] defaultAccessLifetime defaultRefreshLifetime

/-- The context with an option; an empty identity key removes the key. -/
def withOption (context : SigningContext) : SigningOption → SigningContext
  | .identityKey key =>
      { context with identityKey := if key.isEmpty then none else some key }
  | .skipPaths patterns => { context with skipPatterns := context.skipPatterns ++ patterns }
  | .commonSkipPaths =>
      { context with skipPatterns := context.skipPatterns ++ SkipPath.commonPatterns }

def withOptions (context : SigningContext) (options : List SigningOption) : SigningContext :=
  options.foldl withOption context

/-- Whether there is a secret to sign with. -/
def hasSecret (context : SigningContext) : Bool := !context.secret.isEmpty

/-- Whether tokens have to name their holder. -/
def isIdentityRequired (context : SigningContext) : Bool := context.identityKey.isSome

def isPathSkipped (context : SigningContext) (path : String) : Bool :=
  SkipPath.anyCovers context.skipPatterns path

/-- No option changes the secret. -/
theorem secret_withOptions (context : SigningContext) (options : List SigningOption) :
    (context.withOptions options).secret = context.secret := by
  induction options generalizing context with
  | nil => rfl
  | cons option options ih =>
      rw [withOptions, List.foldl_cons, ← withOptions, ih]
      cases option <;> rfl

/-! ## Descriptions -/

def describeSpan (span : Span) : String :=
  "TimeDelta \x7b secs: " ++ toString span.floorSeconds ++ ", nanos: " ++
    toString span.floorNanos ++ " \x7d"

def describeOption : Option String → String
  | none => "None"
  | some text => "Some(" ++ Text.quoted text ++ ")"

/-- The description of a context, which never shows the secret. -/
def describe (context : SigningContext) : String :=
  "SigningContext \x7b secret: \"<redacted>\", identity_key: " ++
    describeOption context.identityKey ++ ", access_expiration: " ++
    describeSpan context.accessLifetime ++ ", refresh_expiration: " ++
    describeSpan context.refreshLifetime ++ ", skip_paths: " ++
    Text.quotedList context.skipPatterns ++ " \x7d"

end SigningContext

end BearerAuth
