import Downlink.Http.Authority
import Downlink.Http.Target
import Downlink.Text.Blank

/-! # Web addresses

The server that a URL names and the target that is asked for there. Dot segments
of the path are resolved and its escapes are completed.
-/

namespace Downlink.Http

open Downlink.Text

/-- Resolves `.` and `..` segments; the segments kept so far are in `kept`, last first. -/
def resolveSegments (kept : List (List Char)) : List (List Char) → List (List Char)
  | [] => kept.reverse
  | segment :: rest =>
    if segment = ['.'] then resolveSegments kept rest
    else if segment = ['.', '.'] then resolveSegments kept.tail rest
    else resolveSegments (segment :: kept) rest

/-- The path without dot segments; one that ended in a dot segment ends in a slash. -/
def resolveDots (path : List Char) : List Char :=
  let segments := splitList '/' path
  let kept := resolveSegments [] segments
  let rooted :=
    if path.head? = some '/' ∧ (kept.isEmpty ∨ kept.head? ≠ some []) then [] :: kept else kept
  let closed :=
    if segments.length > 1 ∧
        (segments.getLast? = some ['.'] ∨ segments.getLast? = some ['.', '.']) then rooted ++ [[]]
    else rooted
  ['/'].intercalate closed

/-- Whether a scheme asks for an encrypted connection, and what follows its two slashes. -/
def afterScheme? (cs : List Char) : Option (Bool × List Char) :=
  let lowered := cs.map Char.toLower
  if "http://".toList.isPrefixOf lowered then some (false, cs.drop 7)
  else if "https://".toList.isPrefixOf lowered then some (true, cs.drop 8)
  else none

def endsAuthority (c : Char) : Bool :=
  c == '/' || c == '?' || c == '#' || c == '\\'

structure Url where
  secure : Bool
  authority : Authority
  target : String

namespace Url

/-- Where a host with a zone looks like a broken escape, all escapes of the path are taken for text
and escaped once more. -/
def targetOf (authority : Authority) (path : List Char) : String :=
  let done := completeEscapes isPathChar (resolveDots path)
  let rooted := if done.head? = some '/' then done else '/' :: done
  String.ofList (if authority.looksBroken then escape (· != '%') rooted else rooted)

def ofText? (url : String) : Option Url := do
  let (secure, rest) ← afterScheme? (url.toList.dropWhile isBlank)
  let front := rest.takeWhile fun c => !endsAuthority c
  let authority ← Authority.ofText? front
  return ⟨secure, authority, targetOf authority (pathOf (rest.drop front.length))⟩

def service (u : Url) : Nat :=
  u.authority.service.getD (if u.secure then 443 else 80)

end Url

end Downlink.Http
