import Downlink.ControlPlane.Resource
import Downlink.Coordinator.Request
import Downlink.Coordinator.Update
import Downlink.Encoding
import Downlink.Http.Message
import Downlink.Settings.Load

/-! # Serving requests

The coordinator behind HTTP. Conflicts wait in a queue until they are fetched; a
bounded queue drops the oldest. Bodies and answers are JSON, and the server fails
on a body that is nested too deep.
-/

namespace Downlink

/-- The control plane is the only listener of its coordinator. -/
inductive Subscriber where
  | queue
  deriving DecidableEq, Repr

structure ControlPlane where
  coordinator : Coordinator Subscriber
  pending : List Conflict
  capacity : Option Nat
  room : Json.Room

namespace ControlPlane

open Http

def defaultCapacity : Nat := 1024

def start (coordinator : Coordinator Subscriber) (capacity : Option Nat) (room : Json.Room) :
    ControlPlane :=
  ⟨coordinator.addListener .queue, [], capacity, room⟩

/-- The newest entries, as many as the capacity admits. -/
def newest {α : Type} (capacity : Option Nat) (entries : List α) : List α :=
  match capacity with
  | none => entries
  | some n => entries.drop (entries.length - n)

def delivered (events : List (Event Subscriber)) : List Conflict :=
  events.filterMap fun
    | .delivered .queue c => some c
    | _ => none

/-- Runs an action of the coordinator and queues what it delivers. -/
def run {α : Type} (s : ControlPlane) (action : Act Subscriber α) :
    Except Failure α × ControlPlane :=
  let outcome := action s.coordinator
  (outcome.result, { s with
    coordinator := outcome.state
    pending := newest s.capacity (s.pending ++ delivered outcome.events) })

/-- The queue itself does nothing to the coordinator. -/
def react (_ : Subscriber) (_ : Conflict) : Act Subscriber Unit :=
  Act.done ()

def page (status : Nat) (title text : String) : Response :=
  .plain status (.text ("<!doctype html>\n<html lang=en>\n<title>" ++ toString status ++ " " ++
    title ++ "</title>\n<h1>" ++ title ++ "</h1>\n<p>" ++ text ++ "</p>\n"))

def missingPage : Response :=
  page 404 "Not Found" ("The requested URL was not found on the server. If you entered the URL " ++
    "manually please check your spelling and try again.")

def methodPage : Response :=
  page 405 "Method Not Allowed" "The method is not allowed for the requested URL."

def failurePage : Response :=
  page 500 "Internal Server Error" ("The server encountered an internal error and was unable to " ++
    "complete your request. Either the server is overloaded or there is an error in the " ++
    "application.")

/-- Answers have their keys sorted. -/
def answer (status : Nat) (value : Json) : Response :=
  .plain status (.json value.sorted)

def refuse (status : Nat) (message : String) : Response :=
  answer status (.obj [("error", .str message)])

/-- A body that is absent, damaged or not true counts as the empty object. -/
def given (room : Json.Room) (payload : Payload) : Except Json.TooDeep Json :=
  (payload.json? room).map fun v => (v.filter Json.isTruthy).getD (.obj [])

/-- Whether the last address is wanted; the answer has to be a truth value. -/
def wantsLast? : Json → Option Bool
  | .obj fields =>
    match valueAt? "reuse_last" fields with
    | none => some false
    | some (.bool b) => some b
    | some _ => none
  | _ => none

def requestAddress (role : Role) (payload : Payload) (s : ControlPlane) : Response × ControlPlane :=
  match given s.room payload with
  | .error _ => (failurePage, s)
  | .ok v =>
    match wantsLast? v with
    | none => (refuse 400 "'reuse_last' must be a boolean", s)
    | some reuseLast =>
      let (result, s) := s.run (Coordinator.request role reuseLast)
      match result with
      | .ok a => (answer 200 (Reservation.mk role a).toJson, s)
      | .error (.exhausted role) => (refuse 503 (Failure.exhausted role).message, s)
      | .error _ => (failurePage, s)

def releaseAddress (role : Role) (s : ControlPlane) : Response × ControlPlane :=
  let held := (s.coordinator.reservations.get? role).isSome
  let (_, s) := s.run (Coordinator.release role)
  (answer 200 (.obj [("released", .bool held)]), s)

def refuseReport : Snapshot.Fault → Response
  | .tooHigh => failurePage
  | fault => refuse 400 fault.message

/-- The texts of a report are made where there is no less room than for reading it, so what has been
read can be shown. -/
def updateUplink (network : String) (payload : Payload) (s : ControlPlane) :
    Response × ControlPlane :=
  match given s.room payload with
  | .error _ => (failurePage, s)
  | .ok v =>
    match Snapshot.ofJson? (fun _ => s.room.levels) v (.str network) with
    | .error fault => (refuseReport fault, s)
    | .ok snapshot =>
      let (result, s) := s.run (Coordinator.update react snapshot)
      match result with
      | .ok roles => (answer 200 (.obj [("conflicts", .ofStrings (roles.map Role.name))]), s)
      | .error _ => (failurePage, s)

def removeUplink (network : String) (s : ControlPlane) : Response × ControlPlane :=
  let known := s.coordinator.uplinks.knows network
  let (_, s) := s.run (Coordinator.forget network)
  (answer 200 (.obj [("removed", .bool known)]), s)

def listReservations (s : ControlPlane) : Response :=
  let rows := s.coordinator.reservations.toList.map Reservation.toJson
  answer 200 (.obj [("reservations", .arr rows)])

def listUplinks (s : ControlPlane) : Response :=
  let rows := s.coordinator.uplinkTexts.map fun e => (e.1, Json.ofStrings e.2)
  answer 200 (.obj [("upstreams", .obj rows)])

def drainConflicts (s : ControlPlane) : Response × ControlPlane :=
  let rows := s.pending.map Conflict.toJson
  (answer 200 (.obj [("conflicts", .arr rows)]), { s with pending := [] })

/-- A role in a path, which has to be a known one. -/
def withRole (role : String) (s : ControlPlane) (action : Role → Response × ControlPlane) :
    Response × ControlPlane :=
  match Role.ofJson? (.str role) with
  | .ok r => action r
  | .error e => (refuse 400 e.message, s)

def apply (method : String) (payload : Payload) (s : ControlPlane) :
    Resource → Response × ControlPlane
  | .downstreams => (s.listReservations, s)
  | .downstream role =>
    withRole role s fun r =>
      if method = "POST" then s.requestAddress r payload else s.releaseAddress r
  | .uplinks => (s.listUplinks, s)
  | .uplink network =>
    if method = "PUT" then s.updateUplink network payload else s.removeUplink network
  | .conflicts => s.drainConflicts
  | .file _ => (missingPage, s)

/-- The method counts in any case, but only `HEAD` itself leaves the body out. -/
def serve (request : Request) (s : ControlPlane) : Response × ControlPlane :=
  let method := request.method.map Char.toUpper
  match route method (decodedPath request.target) with
  | .missing => (missingPage, s)
  | .methodNotAllowed => (methodPage, s)
  | .moved path => (⟨308, some (encodedPath path), .text ""⟩, s)
  | .found resource =>
    if method = "OPTIONS" then (.plain 200 (.text ""), s)
    else
      let (response, s) := s.apply method request.payload resource
      (if request.method = "HEAD" then { response with body := .text "" } else response, s)

end ControlPlane

end Downlink
