import Downlink.Http.Escape
import Downlink.Text.Utf8

/-! # Request targets

The path of a target is what stands before its query. Percent escapes in it are
bytes, and all its bytes together are UTF-8.
-/

namespace Downlink.Http

open Downlink.Text

def pathOf (cs : List Char) : List Char :=
  cs.takeWhile fun c => c != '?' && c != '#'

/-- A target without tabulators, line ends and the authority that two slashes introduce. -/
def withoutAuthority (target : List Char) : List Char :=
  match target.filter fun c => c != '\t' && c != '\r' && c != '\n' with
  | '/' :: '/' :: rest => rest.dropWhile fun c => c != '/' && c != '?' && c != '#'
  | cs => cs

def decodedPath (target : String) : List Char :=
  (decodeLossy (unescape (pathOf (withoutAuthority target.toList)))).toList

def encodedPath (path : List Char) : String :=
  String.ofList (escape isPathChar path)

end Downlink.Http
