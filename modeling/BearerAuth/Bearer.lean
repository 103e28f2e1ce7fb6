import BearerAuth.AuthError
import BearerAuth.Http.Header
import BearerAuth.Text.Blank

/-! Bearer tokens in requests. A web request and a remote call carry the token in the same
field but under rules of their own; a source is what the rest of the service needs of
either. -/

namespace BearerAuth

def authorizationField : String := "authorization"

/-- The word before a token. -/
def bearerScheme : List Char := "Bearer".toList

/-! ## Web requests -/

/-- The token in the text of an authorization field: the scheme, blanks and one word, which
blanks may follow. -/
def authorizationToken (cs : List Char) : Except AuthError (List Char) :=
  if bearerScheme.isPrefixOf cs then
    let rest := cs.drop bearerScheme.length
    if rest.head?.any Text.isBlank then
      match Text.words rest with
      | [token] => .ok token
      | _ => .error .malformedAuthHeader
    else .error .malformedAuthHeader
  else .error .malformedAuthHeader

def parseAuthorization (value : String) : Except AuthError String :=
  (authorizationToken value.toList).map String.ofList

def httpToken (headers : List Http.Header) : Except AuthError String :=
  match (Http.firstValue? headers authorizationField).filter (!·.isEmpty) with
  | none => .error .emptyAuthHeader
  | some value =>
      match Http.valueText? value with
      | none => .error .malformedAuthHeader
      | some cs => (authorizationToken cs).map String.ofList

/-! ## Remote calls -/

/-- What lies before and behind the first space. -/
def cutSpace? : List Char → Option (List Char × List Char)
  | [] => none
  | c :: cs => if c = ' ' then some ([], cs) else (cutSpace? cs).map fun cut => (c :: cut.1, cut.2)

/-- Why a call without a usable scheme is turned away. -/
def noBearer : AuthError := .unauthenticated "Request unauthenticated with bearer"

/-- The token in the metadata of a remote call: everything behind the first space, where the
scheme may be written in any case. -/
def rpcToken (metadata : List Http.Header) : Except AuthError String :=
  match ((Http.firstValue? metadata authorizationField).bind Http.valueText?).filter (!·.isEmpty) with
  | none => .error noBearer
  | some cs =>
      match cutSpace? cs with
      | none => .error (.unauthenticated "Bad authorization string")
      | some (scheme, token) =>
          if scheme.map Char.toLower = bearerScheme.map Char.toLower then
            .ok (String.ofList token)
          else .error noBearer

/-! ## Sources -/

/-- What a request offers to be authenticated by. -/
structure BearerSource where
  /-- The path, where there is one. -/
  path : Option String
  token : Except AuthError String

def BearerSource.ofHttp (headers : List Http.Header) (path : String) : BearerSource :=
  ⟨some path, httpToken headers⟩

/-- A remote call as a source; it has no path. -/
def BearerSource.ofRpc (metadata : List Http.Header) : BearerSource := ⟨none, rpcToken metadata⟩

end BearerAuth
