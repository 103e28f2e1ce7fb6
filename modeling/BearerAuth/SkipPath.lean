import BearerAuth.Text.Pieces

/-! Exempt paths. A pattern without an asterisk names one path; one that ends with an
asterisk names every path that starts with the rest of it; any other pattern fixes the
start and the end of a path and the pieces found, one after the other, after its start.
The end may overlap what came before it. -/

namespace BearerAuth.SkipPath

open BearerAuth.Text

/-! ## Scanning a path -/

/-- A place in a path: what lies before it and what lies after it. -/
structure Cursor where
  before : List Char
  after : List Char

/-- The whole path that a cursor stands in. -/
def Cursor.path (cursor : Cursor) : List Char := cursor.before ++ cursor.after

/-- The number of UTF-8 octets before the cursor. -/
def Cursor.offset (cursor : Cursor) : Nat := cursor.before.foldr (fun c n => c.utf8Size + n) 0

/-- A text cut just behind the first occurrence of a piece. -/
def behindFirst? (piece : List Char) : List Char → Option (List Char × List Char)
  | [] => if piece.isEmpty then some ([], []) else none
  | c :: cs =>
      if piece.isPrefixOf (c :: cs) then some (piece, (c :: cs).drop piece.length)
      else (behindFirst? piece cs).map fun cut => (c :: cut.1, cut.2)

/-- The cursor moved behind the first occurrence of a piece ahead of it. -/
def Cursor.advance? (cursor : Cursor) (piece : List Char) : Option Cursor :=
  (behindFirst? piece cursor.after).map fun cut => ⟨cursor.before ++ cut.1, cut.2⟩

/-- The cursor moved behind each piece in turn. -/
def Cursor.advanceAll? (cursor : Cursor) (pieces : List (List Char)) : Option Cursor :=
  pieces.foldlM Cursor.advance? cursor

/-- The cursor just behind a text that the path starts with. -/
def Cursor.behindStart? (path start : List Char) : Option Cursor :=
  if start.isPrefixOf path then some ⟨start, path.drop start.length⟩ else none

theorem behindFirst?_append {piece text : List Char} {cut : List Char × List Char}
    (h : behindFirst? piece text = some cut) : cut.1 ++ cut.2 = text := by
  induction text generalizing cut with
  | nil =>
      simp only [behindFirst?] at h
      split at h
      · cases h; rfl
      · contradiction
  | cons c cs ih =>
      simp only [behindFirst?] at h
      split at h
      · rename_i hp
        obtain ⟨rest, hr⟩ := List.isPrefixOf_iff_prefix.mp hp
        cases h
        simp [← hr]
      · obtain ⟨inner, hi, rfl⟩ := Option.map_eq_some_iff.mp h
        simp [ih hi]

/-- Moving keeps the path. -/
theorem Cursor.path_advance? {cursor next : Cursor} {piece : List Char}
    (h : cursor.advance? piece = some next) : next.path = cursor.path := by
  obtain ⟨cut, hc, rfl⟩ := Option.map_eq_some_iff.mp h
  simp [Cursor.path, behindFirst?_append hc]

theorem Cursor.path_behindStart? {path start : List Char} {cursor : Cursor}
    (h : Cursor.behindStart? path start = some cursor) : cursor.path = path := by
  unfold Cursor.behindStart? at h
  split at h
  · rename_i hp
    obtain ⟨rest, hr⟩ := List.isPrefixOf_iff_prefix.mp hp
    cases h
    simp [Cursor.path, ← hr]
  · contradiction

/-! ## Patterns -/

/-- The sign that stands for any text. -/
def isAsterisk (c : Char) : Bool := c == '*'

/-- Whether a path fits a pattern given by the pieces around its asterisks: `start` before
the first one and `others` behind each. -/
def fitsPieces (path start : List Char) (others : List (List Char)) : Bool :=
  match Cursor.behindStart? path start with
  | none => false
  | some cursor =>
      (others.getLastD []).isSuffixOf path &&
        (cursor.advanceAll? (others.dropLast.filter (!·.isEmpty))).isSome

/-- Whether a pattern exempts a path. -/
def fits (path pattern : List Char) : Bool :=
  if path = pattern then true
  else if pattern.getLast?.any isAsterisk then pattern.dropLast.isPrefixOf path
  else if pattern.any isAsterisk then
    fitsPieces path (piecesBy isAsterisk pattern).1 (piecesBy isAsterisk pattern).2
  else false

/-- Whether a pattern exempts a path. -/
def covers (pattern path : String) : Bool := fits path.toList pattern.toList

/-- Whether one of the patterns exempts a path. -/
def anyCovers (patterns : List String) (path : String) : Bool :=
  patterns.any fun pattern => covers pattern path

/-- One of the patterns exempts a path. -/
def Exempts (patterns : List String) (path : String) : Prop :=
  ∃ pattern ∈ patterns, covers pattern path = true

theorem anyCovers_iff {patterns : List String} {path : String} :
    anyCovers patterns path = true ↔ Exempts patterns path :=
  List.any_eq_true

/-- The paths of probes and of files that are fetched without credentials. -/
def commonPatterns : List String :=
  ["/health", "/healthz", "/health/*", "/ready", "/readiness", "/live", "/liveness",
    "/metrics", "/prometheus", "/status", "/ping", "/version", "/info", "/favicon.ico",
    "/robots.txt"]

/-- A pattern exempts the path it is written as. -/
theorem covers_self (path : String) : covers path path = true := by simp [covers, fits]

end BearerAuth.SkipPath
