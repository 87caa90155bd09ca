import Downlink.Client.Basic
import Downlink.CommandLine.Command

/-! # Running commands

A command holds its exchanges with the server and ends with an exit code. What
it prints and logs on the way is its report.
-/

namespace Downlink.CommandLine

inductive Level where
  | info
  | warning
  | error
  deriving DecidableEq, Repr

def Level.name : Level → String
  | info => "INFO"
  | warning => "WARNING"
  | error => "ERROR"

/-- Why a command breaks: a reply of the wrong shape, or a switch that is given nothing. -/
inductive Fault where
  | reply (fault : Client.Fault)
  | transport (fault : UnknownTransport)
  | noUrl

def Fault.message : Fault → String
  | reply fault => fault.message
  | transport fault => fault.message
  | noUrl => "the server has no URL"

inductive Ending where
  | exit (code : Nat)
  | broken (fault : Fault)

structure Report where
  output : String
  log : List (Level × String)
  ending : Ending

def succeed (output : String) (log : List (Level × String)) : Report :=
  ⟨output, log, .exit 0⟩

def defaultUrl : String := "http://localhost:8790"

/-- A failed exchange ends the command with code 1, and so does a reply that is nested too deep; one
of the wrong shape breaks it. -/
def giveUp (task : String) (fault : Client.Fault) : Report :=
  match fault with
  | .exhausted _ | .failed _ _ | .tooDeep _ | .reservation ⟨.tooHigh⟩ | .conflict ⟨.tooHigh⟩ =>
    ⟨"", [(.error, task ++ ": " ++ fault.message)], .exit 1⟩
  | _ => ⟨"", [], .broken (.reply fault)⟩

/-- An exhausted pool ends a request with code 2. -/
def giveUpRequest (fault : Client.Fault) : Report :=
  match fault with
  | .exhausted message => ⟨"", [(.error, "No free prefix: " ++ message)], .exit 2⟩
  | _ => giveUp "Request Failed" fault

def lines (texts : List String) : String :=
  String.join (texts.map (· ++ "\n"))

def padded (s : String) : String :=
  s ++ String.ofList (List.replicate (10 - s.length) ' ')

def conflictLine (c : Conflict) : String :=
  c.role.name ++ "\t" ++ c.block.text ++ "\t" ++ c.network

def reservationLine (r : Reservation) : String :=
  "  " ++ padded r.role.name ++ " " ++ r.address.text

def textMembers? (v : Json) : Option (List String) :=
  v.members?.bind fun members => members.mapM fun
    | .str s => some s
    | _ => none

def uplinkLine? (row : String × Json) : Option String :=
  (textMembers? row.2).map fun texts => "  " ++ padded row.1 ++ " " ++ ", ".intercalate texts

def uplinkReport (before : String) : List (String × Json) → Report
  | [] => succeed before []
  | row :: rest =>
    match uplinkLine? row with
    | some line => uplinkReport (before ++ line ++ "\n") rest
    | none => ⟨before, [], .broken (.reply .notIterable)⟩

def statusReport (reservations : List Reservation) (uplinks : Json) : Report :=
  let head := lines (["Downstreams:"] ++ reservations.map reservationLine ++ ["Upstreams:"])
  match uplinks with
  | .obj rows => uplinkReport head rows
  | _ => ⟨head, [], .broken (.reply .notAnObject)⟩

def dialogue (client : Client) : Command → Dialogue Report
  | .request role reuseLast =>
    .hold (client.requestAddress role (.bool reuseLast)) fun
      | .ok a => .done (succeed (lines [a.text]) [])
      | .error e => .done (giveUpRequest e)
  | .release role =>
    .hold (client.release role) fun
      | .ok true => .done (succeed "" [])
      | .ok false => .done (succeed "" [(.info, role.name ++ " held no reservation")])
      | .error e => .done (giveUp "Release Failed" e)
  | .uplink network transport addresses =>
    match Transport.ofJson? ((transport.map Value.toJson).getD .null) with
    | .error e => .done ⟨"", [], .broken (.transport e)⟩
    | .ok transport =>
      .hold (client.report (.str network) transport (addresses.map Value.toJson)) fun
        | .ok roles =>
          .done (succeed "" (roles.map fun r => (.warning, "Prefix conflict on " ++ r.name)))
        | .error e => .done (giveUp "Upstream Update Failed" e)
  | .dropUplink network =>
    .hold (client.removeUplink network) fun
      | .ok _ => .done (succeed "" [])
      | .error e => .done (giveUp "Upstream Removal Failed" e)
  | .conflicts =>
    .hold client.drainConflicts fun
      | .ok conflicts => .done (succeed (lines (conflicts.map conflictLine)) [])
      | .error e => .done (giveUp "Fetching Conflicts Failed" e)
  | .status =>
    .hold client.reservations fun
      | .error e => .done (giveUp "Status Failed" e)
      | .ok reservations =>
        .hold client.uplinks fun
          | .error e => .done (giveUp "Status Failed" e)
          | .ok uplinks => .done (statusReport reservations uplinks)

/-- Asking for help ends well; words that do not fit end with code 2. -/
def run (room : Json.Room) (defaultUrl : String) (args : List String) : Dialogue Report :=
  match invocation? defaultUrl args with
  | .ok ⟨.word url, command⟩ => dialogue (.ofUrl url Client.defaultTimeout room) command
  | .ok ⟨.nothing, _⟩ => .done ⟨"", [], .broken .noUrl⟩
  | .error .help => .done (succeed "" [])
  | .error .usage => .done ⟨"", [], .exit 2⟩

end Downlink.CommandLine
