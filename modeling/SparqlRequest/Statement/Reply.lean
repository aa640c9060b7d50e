/-
# Statement.Reply -- what a reply body says

The reply to a statement is JSON.  A reply of nothing but white space, as updates bring
it, is `null`.
-/
import SparqlRequest.Error
import SparqlRequest.Json.Reader
import SparqlRequest.Text.Blank

set_option autoImplicit false

namespace SparqlRequest

def readReply (body : Text) : Except Error Json :=
  if Text.allBlank body then .ok .null
  else
    match Json.ofText? body with
    | some value => .ok value
    | none => .error .invalidResponse

end SparqlRequest
