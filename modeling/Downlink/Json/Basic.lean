import Downlink.Binary64.Basic

/-! # JSON values

Integers and other numbers are kept apart, and an object keeps the order in
which its keys were written.
-/

namespace Downlink

inductive Json where
  | null
  | bool (b : Bool)
  | int (n : Int)
  | float (x : Binary64)
  | str (s : String)
  | arr (items : List Json)
  | obj (fields : List (String × Json))
  deriving Inhabited, Repr

namespace Json

/-- Null, false, zero and the empty text, list and object are not true; all else is. -/
def isTruthy : Json → Bool
  | null => false
  | bool b => b
  | int n => n != 0
  | float x => !x.isZero
  | str s => !s.isEmpty
  | arr items => !items.isEmpty
  | obj fields => !fields.isEmpty

/-- The members of a collection: the items of a list, the characters of a string, the keys of an
object. -/
def members? : Json → Option (List Json)
  | arr items => some items
  | str s => some (s.toList.map fun c => str (String.singleton c))
  | obj fields => some (fields.map fun f => str f.1)
  | _ => none

def ofStrings (texts : List String) : Json :=
  arr (texts.map str)

def ofOption (text : Option String) : Json :=
  (text.map str).getD null

end Json

end Downlink
