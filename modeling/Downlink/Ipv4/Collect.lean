import Downlink.Ipv4.Parser
import Downlink.Text.Blank

/-! # Blocks of a list of addresses

Each text that reads as an address gives its block. All other texts, such as
addresses of another family, are passed over.
-/

namespace Downlink.Ipv4

def blockOf? (text : String) : Option Block :=
  (Interface.ofText? (Text.strip text)).toOption.map Interface.block

/-- The blocks of some texts, each once, in the order in which they first appear. -/
def blocksOf (texts : List String) : List Block :=
  (texts.filterMap blockOf?).eraseDups

end Downlink.Ipv4
