import BearerAuth.SigningContext.Basic

/-! The context shared by a whole process. It is set once; later attempts change nothing
until it is reset. Lifetimes that do not go forward give way to the default ones. -/

namespace BearerAuth

/-- The shared context, once it is set. -/
structure Latch where
  held : Option SigningContext

namespace Latch

/-- The latch before anything is set. -/
def pristine : Latch := ⟨none⟩

/-- A lifetime that goes forward, or a default one. -/
def forwardOr (fallback span : Span) : Span := if span.isPositive then span else fallback

/-- The context that a first attempt sets. -/
def prepared (secret : List UInt8) (access refresh : Span) (options : List SigningOption) :
    SigningContext :=
  (SigningContext.ofSecret secret (forwardOr SigningContext.defaultAccessLifetime access)
    (forwardOr SigningContext.defaultRefreshLifetime refresh)).withOptions options

/-- Sets the shared context unless it is set; tells whether it did. -/
def init (latch : Latch) (secret : List UInt8) (access refresh : Span)
    (options : List SigningOption) : Bool × Latch :=
  match latch.held with
  | some _ => (false, latch)
  | none => (true, ⟨some (prepared secret access refresh options)⟩)

def reset (_ : Latch) : Latch := pristine

/-- The shared context; before it is set, the one without a secret. -/
def current (latch : Latch) : SigningContext := latch.held.getD .unset

/-! ## Settings in force -/

def accessLifetime (latch : Latch) : Span := latch.current.accessLifetime

def refreshLifetime (latch : Latch) : Span := latch.current.refreshLifetime

def isIdentityRequired (latch : Latch) : Bool := latch.current.isIdentityRequired

def skipPatterns (latch : Latch) : List String := latch.current.skipPatterns

def isPathSkipped (latch : Latch) (path : String) : Bool := latch.current.isPathSkipped path

end Latch

end BearerAuth
