import Downlink.Json.Display
import Downlink.Text.Blank

/-! # Roles

The functional role of a downstream link. At most one link of each role is up,
and roles keep their names across sessions.
-/

namespace Downlink

inductive Role where
  | wifi
  | usb
  | bluetooth
  | wifiP2p
  | ncm
  | ethernet
  deriving DecidableEq, Repr

structure UnknownRole where
  given : Json

namespace Role

def all : List Role :=
  [wifi, usb, bluetooth, wifiP2p, ncm, ethernet]

theorem mem_all (r : Role) : r ∈ all := by
  cases r <;> decide

def name : Role → String
  | wifi => "wifi"
  | usb => "usb"
  | bluetooth => "bluetooth"
  | wifiP2p => "wifi_p2p"
  | ncm => "ncm"
  | ethernet => "ethernet"

def ofName? (s : String) : Option Role :=
  all.find? fun r => r.name = s

theorem ofName?_name (r : Role) : ofName? r.name = some r := by
  cases r <;> decide

/-- Reads the text of a value, in any case. -/
def ofJson? (v : Json) : Except UnknownRole Role :=
  match ofName? (Text.lower v.text) with
  | some r => .ok r
  | none => .error ⟨v⟩

end Role

def UnknownRole.message (e : UnknownRole) : String :=
  "Unknown downstream role: " ++ e.given.text

end Downlink
