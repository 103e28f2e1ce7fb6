import BearerAuth.Http.Header

/-! Web requests. Methods depend on case; paths are taken as they are written. -/

namespace BearerAuth.Http

/-- A request, as far as the service looks at it. -/
structure Request where
  method : String
  path : String
  headers : List Header
deriving DecidableEq

end BearerAuth.Http
