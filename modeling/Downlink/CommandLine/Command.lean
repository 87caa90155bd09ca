import Downlink.CommandLine.Grammar
import Downlink.Conflict

/-! # Commands

The commands of the command line and their arguments.
-/

namespace Downlink.CommandLine

inductive Command where
  | request (role : Role) (reuseLast : Bool)
  | release (role : Role)
  | uplink (network : String) (transport : Option Value) (addresses : List Value)
  | dropUplink (network : String)
  | conflicts
  | status
  deriving DecidableEq, Repr

/-- A command and the URL of the server it is for. -/
structure Invocation where
  url : Value
  command : Command
  deriving DecidableEq, Repr

def helpSwitch : Switch :=
  ⟨["-h", "--help"], .help, []⟩

def roleOperand : Operand :=
  ⟨"role", Role.all.map Role.name, false⟩

def networkOperand : Operand :=
  ⟨"network", [], false⟩

def commandNames : List String :=
  ["request", "release", "upstream", "drop-upstream", "conflicts", "status"]

def outerGrammar : Grammar :=
  ⟨[helpSwitch, ⟨["--url"], .store, []⟩], [⟨"command", commandNames, true⟩]⟩

def innerGrammar (command : String) : Grammar :=
  if command = "request" then ⟨[helpSwitch, ⟨["--reuse-last"], .mark, []⟩], [roleOperand]⟩
  else if command = "release" then ⟨[helpSwitch], [roleOperand]⟩
  else if command = "upstream" then
    ⟨[helpSwitch, ⟨["--transport"], .store, Transport.all.map Transport.name⟩,
      ⟨["--address", "-a"], .store, []⟩], [networkOperand]⟩
  else if command = "drop-upstream" then ⟨[helpSwitch], [networkOperand]⟩
  else ⟨[helpSwitch], []⟩

def command? (name : String) (p : Parsed) : Option Command :=
  if name = "request" then do
    return .request (← Role.ofName? (← p.word? "role")) (p.has "--reuse-last")
  else if name = "release" then do
    return .release (← Role.ofName? (← p.word? "role"))
  else if name = "upstream" then do
    return .uplink (← p.word? "network") (p.last? "--transport") (p.all "--address")
  else if name = "drop-upstream" then do
    return .dropUplink (← p.word? "network")
  else if name = "conflicts" then some .conflicts
  else if name = "status" then some .status
  else none

/-- Reads the arguments; without a switch for it the server is the default one. -/
def invocation? (defaultUrl : String) (args : List String) : Except Stop Invocation := do
  let outer ← outerGrammar.parse? args
  let name := (outer.word? "command").getD ""
  let inner ← (innerGrammar name).parse? outer.command
  if !outer.extras.isEmpty || !inner.extras.isEmpty then throw .usage
  match command? name inner with
  | some command => return ⟨(outer.last? "--url").getD (.word defaultUrl), command⟩
  | none => throw .usage

end Downlink.CommandLine
