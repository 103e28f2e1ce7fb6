import BearerAuth.Json.Text

/-! Answers to web requests: a status, header fields and a text. -/

namespace BearerAuth.Http

structure Response where
  status : Nat
  headers : List (String × String)
  body : String
deriving DecidableEq

namespace Response

def empty (status : Nat) : Response := ⟨status, [], ""⟩

def json (status : Nat) (value : Json) : Response :=
  ⟨status, [("content-type", "application/json")], value.text⟩

/-- An answer that names an error and says what it is. -/
def error (status : Nat) (name message : String) : Response :=
  json status (.obj [("error", .str name), ("message", .str message)])

def withHeaders (response : Response) (headers : List (String × String)) : Response :=
  { response with headers := response.headers ++ headers }

def withoutBody (response : Response) : Response := { response with body := "" }

end Response

end BearerAuth.Http
