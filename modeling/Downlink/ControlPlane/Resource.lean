import Downlink.Http.Target
import Downlink.Text.Split

/-! # Resources

What the paths of the control plane name, and the methods that each resource
admits.
-/

namespace Downlink.ControlPlane

open Downlink.Text

inductive Resource where
  | downstreams
  | downstream (role : String)
  | uplinks
  | uplink (network : String)
  | conflicts
  | file (name : String)
  deriving DecidableEq, Repr

namespace Resource

def methods : Resource → List String
  | downstreams => ["GET", "HEAD", "OPTIONS"]
  | downstream _ => ["POST", "DELETE", "OPTIONS"]
  | uplinks => ["GET", "HEAD", "OPTIONS"]
  | uplink _ => ["PUT", "DELETE", "OPTIONS"]
  | conflicts => ["GET", "HEAD", "OPTIONS"]
  | file _ => ["GET", "HEAD", "OPTIONS"]

/-- A file in the static folder; its name may hold slashes, but not as its first character, and
line feeds only there. -/
def file? (folder : List Char) (name : List Char) : Option Resource :=
  if folder = "static".toList ∧ name ≠ [] ∧ name.head? ≠ some '/' ∧ '\n' ∉ name.tail then
    some (file (String.ofList name))
  else none

/-- The resource that a path names, which stands here without its first slash. -/
def ofPath? (path : List Char) : Option Resource :=
  match splitList '/' path with
  | [] => none
  | [collection] =>
    if collection = "downstreams".toList then some downstreams
    else if collection = "upstreams".toList then some uplinks
    else if collection = "conflicts".toList then some conflicts
    else none
  | [collection, item] =>
    if item.isEmpty then none
    else if collection = "downstreams".toList then some (downstream (String.ofList item))
    else if collection = "upstreams".toList then some (uplink (String.ofList item))
    else file? collection item
  | folder :: segments => file? folder (['/'].intercalate segments)

end Resource

/-- Each run of slashes becomes one. -/
def mergeSlashes : List Char → List Char
  | [] => []
  | c :: rest =>
    let merged := mergeSlashes rest
    if c = '/' ∧ merged.head? = some '/' then merged else c :: merged

inductive Route where
  | found (resource : Resource)
  | moved (path : List Char)
  | methodNotAllowed
  | missing
  deriving DecidableEq, Repr

/-- A path that names a resource only after its slashes are merged has moved to the merged path. -/
def route (method : String) (path : List Char) : Route :=
  let relative := path.dropWhile (· == '/')
  match Resource.ofPath? relative with
  | some r => if method ∈ r.methods then .found r else .methodNotAllowed
  | none =>
    match Resource.ofPath? (mergeSlashes relative) with
    | some r =>
      if method ∈ r.methods then .moved ('/' :: mergeSlashes relative) else .methodNotAllowed
    | none => .missing

end Downlink.ControlPlane
