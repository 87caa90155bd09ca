import Downlink.Binary64.Layout
import Downlink.Json.Basic
import Downlink.Text.Quoted

/-! # JSON values as plain text

The text of a value as it appears in messages: a string is itself when it stands
alone and quoted inside a list or an object.
-/

namespace Downlink.Json

open Downlink.Text

mutual

def shown : Json → String
  | null => "None"
  | bool b => if b then "True" else "False"
  | int n => toString n
  | float x => x.text
  | str s => quoted s
  | arr items => "[" ++ ", ".intercalate (shownItems items) ++ "]"
  | obj fields => "\x7b" ++ ", ".intercalate (shownFields fields) ++ "\x7d"

def shownItems : List Json → List String
  | [] => []
  | v :: rest => shown v :: shownItems rest

def shownFields : List (String × Json) → List String
  | [] => []
  | (k, v) :: rest => (quoted k ++ ": " ++ shown v) :: shownFields rest

end

def text : Json → String
  | str s => s
  | v => shown v

/-- The members of a collection as texts; what is not true has none. -/
def memberTexts? (v : Json) : Option (List String) :=
  if v.isTruthy then v.members?.map (List.map text) else some []

end Downlink.Json
