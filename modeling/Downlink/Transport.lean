import Downlink.Json.Display
import Downlink.Text.Blank

/-! # Transports

What carries an uplink network. A network whose transport is not known yet has
none.
-/

namespace Downlink

inductive Transport where
  | cellular
  | wifi
  | bluetooth
  | ethernet
  | vpn
  | usb
  deriving DecidableEq, Repr

structure UnknownTransport where
  given : Json

namespace Transport

def all : List Transport :=
  [cellular, wifi, bluetooth, ethernet, vpn, usb]

theorem mem_all (t : Transport) : t ∈ all := by
  cases t <;> decide

def name : Transport → String
  | cellular => "cellular"
  | wifi => "wifi"
  | bluetooth => "bluetooth"
  | ethernet => "ethernet"
  | vpn => "vpn"
  | usb => "usb"

def ofName? (s : String) : Option Transport :=
  all.find? fun t => t.name = s

theorem ofName?_name (t : Transport) : ofName? t.name = some t := by
  cases t <;> decide

/-- Reads the text of a value, in any case; null is no transport. -/
def ofJson? : Json → Except UnknownTransport (Option Transport)
  | .null => .ok none
  | v =>
    match ofName? (Text.lower v.text) with
    | some t => .ok (some t)
    | none => .error ⟨v⟩

end Transport

def UnknownTransport.message (e : UnknownTransport) : String :=
  "Unknown transport: " ++ e.given.text

end Downlink
