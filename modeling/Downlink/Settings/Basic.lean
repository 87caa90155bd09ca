import Downlink.Ipv4.Parser
import Downlink.Json.Integer
import Downlink.Json.Nesting
import Downlink.Ledger

/-! # Settings

The block of length 16 that addresses are taken from, how many subnets of it a
request may try, and the flag for the dedicated peer-to-peer address.
-/

namespace Downlink

structure Settings where
  base : Nat
  base_lt : base < 1 <<< 16
  baseText : String
  dedicatedP2p : Json
  maxAttempts : Nat
  maxAttempts_pos : 0 < maxAttempts

namespace Settings

inductive Fault where
  | unknownField (name : String)
  | invalidBase (given : Json)
  | baseLength (given : Json)
  | attempts (fault : Json.IntegerFault)
  | noAttempts
  | tooDeep (fault : Json.TooDeep)
  | tooHigh

def baseKey : String := "base_prefix"

def dedicatedKey : String := "wifi_p2p_dedicated_ip"

def attemptsKey : String := "max_attempts"

def isKnown (key : String) : Bool :=
  key = baseKey || key = dedicatedKey || key = attemptsKey

/-- As many subnets of length 24 as a block of length 16 has. -/
def subnetCount : Nat := 256

def defaultBase : String := "192.168.0.0/16"

/-- The leading bits of the base block, which is read from its text. -/
def base? (height : Nat) (given : Json) : Except Fault { n : Nat // n < 1 <<< 16 } := do
  match Ipv4.Block.ofJson? (← given.showable? height .tooHigh) with
  | .error _ => .error (.invalidBase given)
  | .ok b => if h : b.length = 16 then .ok ⟨b.bits, h ▸ b.bits_lt⟩ else .error (.baseLength given)

def attempts? (given : Json) : Except Fault { n : Nat // 0 < n } :=
  match given.toInteger? with
  | .error e => .error (.attempts e)
  | .ok n => if h : 0 < n.toNat then .ok ⟨n.toNat, h⟩ else .error .noAttempts

/-- Settings from named values; a value that is not given has its default. There is room for the
text of a base block of this height. -/
def ofFields? (height : Nat) (fields : List (String × Json)) : Except Fault Settings :=
  match fields.find? fun f => !isKnown f.1 with
  | some f => .error (.unknownField f.1)
  | none => do
    let given := (valueAt? baseKey fields).getD (.str defaultBase)
    let base ← base? height given
    let attempts ← attempts? ((valueAt? attemptsKey fields).getD (.int subnetCount))
    return {
      base := base.val
      base_lt := base.property
      baseText := given.text
      dedicatedP2p := (valueAt? dedicatedKey fields).getD (.bool false)
      maxAttempts := attempts.val
      maxAttempts_pos := attempts.property }

def standard : Settings where
  base := 192 * 256 + 168
  base_lt := by decide
  baseText := defaultBase
  dedicatedP2p := .bool false
  maxAttempts := subnetCount
  maxAttempts_pos := by decide

def toJson (s : Settings) : Json :=
  .obj [(baseKey, .str s.baseText), (dedicatedKey, s.dedicatedP2p),
    (attemptsKey, .int s.maxAttempts)]

def Fault.message : Fault → String
  | unknownField name => "unknown field " ++ name
  | invalidBase given => "Invalid base prefix: " ++ given.text
  | baseLength given => "Base prefix must be a /16: " ++ given.text
  | attempts fault => fault.message
  | noAttempts => "max_attempts must be at least 1"
  | tooDeep fault => fault.message
  | tooHigh => Json.heightMessage

end Settings

end Downlink
