import Downlink.Http.Message
import Downlink.Http.Url

/-! # Exchanges

A call to a server and how its reply is read. A dialogue is a finite course of
calls in which each call may depend on the replies so far.
-/

namespace Downlink

structure Call where
  method : String
  url : String
  json : Option Json
  timeout : Json

/-- What comes back: nothing, or a status and a body. -/
inductive Reply where
  | unreachable
  | answered (status : Nat) (body : Http.Body)

structure Exchange (ε α : Type) where
  call : Call
  read : Reply → Except ε α

inductive Dialogue (α : Type) where
  | done (result : α)
  | ask (call : Call) (next : Reply → Dialogue α)

namespace Dialogue

variable {α β : Type}

def hold {ε : Type} (e : Exchange ε α) (next : Except ε α → Dialogue β) : Dialogue β :=
  ask e.call fun reply => next (e.read reply)

def answeredBy {m : Type → Type} [Monad m] (party : Call → m Reply) : Dialogue α → m α
  | done result => pure result
  | ask call next => do answeredBy party (next (← party call))

end Dialogue

/-- The request that a call makes a server see. There is none if the URL names no server or the JSON
is not standard. -/
def Call.request? (c : Call) : Option Http.Request := do
  let url ← Http.Url.ofText? c.url
  match c.json with
  | none => return ⟨c.method, url.target, .absent⟩
  | some v => if v.isStandard then return ⟨c.method, url.target, .json v⟩ else none

end Downlink
