import Downlink.Http.Message
import Downlink.Http.Target

/-! # Redirections

A redirection that keeps the method and the body leads to another target on the
same server, and whoever follows it sends the request again.
-/

namespace Downlink.Http

/-- Drops a semicolon that ends a path and is the only one of the last segment. -/
def dropEmptyParameters (path : List Char) : List Char :=
  match path.reverse with
  | ';' :: rest => if (rest.takeWhile (· != '/')).contains ';' then path else rest.reverse
  | _ => path

/-- The request to send after this response, if it redirects `request`. -/
def Response.redirection? (response : Response) (request : Request) : Option Request := do
  let location ← response.location
  if response.status = 307 ∨ response.status = 308 then
    some { request with target := String.ofList (dropEmptyParameters (pathOf location.toList)) }
  else none

/-- Follows at most `limit` redirections; one more is no answer. -/
def follow {m : Type → Type} [Monad m] (send : Request → m (Option Response)) (limit : Nat)
    (request : Request) : m (Option Response) := do
  match ← send request with
  | none => return none
  | some response =>
    match response.redirection? request with
    | none => return some response
    | some next =>
      match limit with
      | 0 => return none
      | limit + 1 => follow send limit next

def redirectionLimit : Nat := 30

end Downlink.Http
