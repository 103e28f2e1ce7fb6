/-! Request targets. A target is a path with an optional query, a whole address, an authority
alone, or an asterisk; only the path counts, taken as it is written. An authority alone has
the empty path. -/

namespace BearerAuth.Http

/-! ## Paths -/

def isPathChar (c : Char) : Bool :=
  '!' ≤ c && c != '\x7f' && !("#<>?\x60".toList.contains c)

def isQueryChar (c : Char) : Bool :=
  '!' ≤ c && c != '\x7f' && !("\"#<>".toList.contains c)

/-- The path at the start of a text, which a query or a fragment may follow. -/
def pathOf? (cs : List Char) : Option (List Char) :=
  let path := cs.takeWhile fun c => c != '?' && c != '#'
  let query := (cs.drop path.length).takeWhile (· != '#')
  if path.all isPathChar && query.all isQueryChar then some path else none

/-! ## Authorities -/

/-- The characters of an authority that stand for themselves. -/
def isAuthorityChar (c : Char) : Bool :=
  c.isAlphanum || "!$&'()*+,-.;=_~".toList.contains c

/-- The greatest number of colons in a host or a user's name. -/
def maxColons : Nat := 8

/-- What has been read of an authority. A user's name may hold colons and percent signs, and
a host in brackets may too, so both are forgotten where one of these ends. -/
structure AuthorityReading where
  colons : Nat
  isPercentSeen : Bool
  isOpened : Bool
  isClosed : Bool

namespace AuthorityReading

def start : AuthorityReading := ⟨0, false, false, false⟩

def step (reading : AuthorityReading) (c : Char) : Option AuthorityReading :=
  match c with
  | ':' =>
      if reading.colons < maxColons then some { reading with colons := reading.colons + 1 }
      else none
  | '%' => some { reading with isPercentSeen := true }
  | '@' => some { reading with colons := 0, isPercentSeen := false }
  | '[' =>
      if reading.isPercentSeen || reading.isOpened then none
      else some { reading with isOpened := true }
  | ']' =>
      if !reading.isOpened || reading.isClosed then none
      else some { reading with colons := 0, isPercentSeen := false, isClosed := true }
  | c => if isAuthorityChar c then some reading else none

/-- Whether an authority can end here: brackets are closed, and the host has no percent sign
and at most the colon before its port. -/
def isComplete (reading : AuthorityReading) : Bool :=
  reading.isOpened == reading.isClosed && reading.colons ≤ 1 && !reading.isPercentSeen

end AuthorityReading

/-- Whether a text is an authority. It is not empty, and a host follows a user's name. -/
def isAuthority (cs : List Char) : Bool :=
  !cs.isEmpty && cs.getLast? != some '@' &&
    (cs.foldlM AuthorityReading.step .start).any AuthorityReading.isComplete

/-! ## Targets -/

def isSchemeChar (c : Char) : Bool := c.isAlphanum || "+-.~".toList.contains c

def maxSchemeLength : Nat := 64

def maxTargetLength : Nat := 65534

/-- A scheme and what follows its two slashes, in a text of at least four characters. -/
def schemeOf? (cs : List Char) : Option (List Char × List Char) :=
  let scheme := cs.takeWhile isSchemeChar
  match cs.drop scheme.length with
  | ':' :: '/' :: '/' :: rest =>
      if scheme.isEmpty && rest.isEmpty then none else some (scheme, rest)
  | _ => none

/-- The path of an address behind its scheme; an empty path is the root. -/
def addressPath? (cs : List Char) : Option (List Char) := do
  let authority := cs.takeWhile fun c => c != '/' && c != '?' && c != '#'
  guard (isAuthority authority)
  let path ← pathOf? (cs.drop authority.length)
  return if path.isEmpty then ['/'] else path

/-- The path of a target that is not too long. -/
def targetChars? : List Char → Option (List Char)
  | ['*'] => some ['*']
  | '/' :: cs => pathOf? ('/' :: cs)
  | cs =>
      match schemeOf? cs with
      | some (scheme, rest) =>
          if scheme.length ≤ maxSchemeLength then addressPath? rest else none
      | none => if isAuthority cs then some [] else none

def targetPath? (target : String) : Option String :=
  if target.utf8ByteSize ≤ maxTargetLength then (targetChars? target.toList).map String.ofList
  else none

end BearerAuth.Http
