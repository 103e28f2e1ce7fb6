import BearerAuth.Text.Utf8

/-! Tokens in compact form: three segments with dots between them. A token that comes in is
cut in two ways, at its first two dots and at its last two; for a token with two dots the
cuts agree. -/

namespace BearerAuth.Token

def dot : UInt8 := 46

/-- What lies before and behind the first dot. -/
def cutFirst? : List UInt8 → Option (List UInt8 × List UInt8)
  | [] => none
  | b :: bs => if b = dot then some ([], bs) else (cutFirst? bs).map fun cut => (b :: cut.1, cut.2)

/-- What lies before and behind the last dot. -/
def cutLast? : List UInt8 → Option (List UInt8 × List UInt8)
  | [] => none
  | b :: bs =>
      match cutLast? bs with
      | some cut => some (b :: cut.1, cut.2)
      | none => if b = dot then some ([], bs) else none

structure Compact where
  header : List UInt8
  claims : List UInt8
  signature : List UInt8
deriving DecidableEq

namespace Compact

/-- The octets that the signature is for. -/
def message (token : Compact) : List UInt8 := token.header ++ dot :: token.claims

def bytes (token : Compact) : List UInt8 := token.message ++ dot :: token.signature

/-- The token cut at its last two dots. -/
def ofLastDots? (bytes : List UInt8) : Option Compact := do
  let (message, signature) ← cutLast? bytes
  let (header, claims) ← cutLast? message
  return ⟨header, claims, signature⟩

/-- The token cut at its first two dots, or the number of segments if there are fewer. -/
def ofFirstDots (bytes : List UInt8) : Except Nat Compact :=
  match cutFirst? bytes with
  | none => .error 1
  | some (header, rest) =>
      match cutFirst? rest with
      | none => .error 2
      | some (claims, signature) => .ok ⟨header, claims, signature⟩

end Compact

theorem cutFirst?_spec {bytes before behind : List UInt8}
    (h : cutFirst? bytes = some (before, behind)) : bytes = before ++ dot :: behind ∧ dot ∉ before := by
  induction bytes generalizing before with
  | nil => contradiction
  | cons b bs ih =>
      simp only [cutFirst?] at h
      split at h
      · simp_all
      · obtain ⟨cut, hc, hp⟩ := Option.map_eq_some_iff.mp h
        simp only [Prod.mk.injEq] at hp
        have := @ih cut.1 (by simp [hc, ← hp.2])
        rw [← hp.1]
        simp_all [eq_comm]

theorem cutLast?_eq_none {bytes : List UInt8} : cutLast? bytes = none ↔ dot ∉ bytes := by
  induction bytes with
  | nil => simp [cutLast?]
  | cons b bs ih =>
      simp only [cutLast?, List.mem_cons, not_or]
      split
      · rename_i cut hc
        simp only [reduceCtorEq, false_iff, not_and, Decidable.not_not]
        exact fun _ => Decidable.not_not.mp fun hn => by simp [ih.mpr hn] at hc
      · rename_i hc
        have := ih.mp hc
        by_cases hb : b = dot
        · simp [hb]
        · simp [hb, this, Ne.symm hb]

theorem cutLast?_spec {bytes before behind : List UInt8}
    (h : cutLast? bytes = some (before, behind)) : bytes = before ++ dot :: behind ∧ dot ∉ behind := by
  induction bytes generalizing before with
  | nil => contradiction
  | cons b bs ih =>
      simp only [cutLast?] at h
      split at h
      · rename_i cut hc
        simp only [Option.some.injEq, Prod.mk.injEq] at h
        have := @ih cut.1 (by simp [hc, ← h.2])
        exact ⟨by rw [← h.1, this.1]; rfl, this.2⟩
      · rename_i hc
        have hn := cutLast?_eq_none.mp hc
        split at h
        · simp_all
        · contradiction

end BearerAuth.Token
