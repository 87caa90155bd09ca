import Downlink.Binary64.Layout
import Downlink.Json.Basic
import Downlink.Text.Quoted

/-! # Writing JSON

The compact form: no blanks, and ASCII characters only. What is written is
standard JSON if all numbers are finite.
-/

namespace Downlink.Json

open Downlink.Text

def unitEscape (n : Nat) : List Char :=
  '\\' :: 'u' :: hexDigits 4 n

def writtenChar (c : Char) : List Char :=
  if c = '"' then ['\\', '"']
  else if c = '\\' then ['\\', '\\']
  else if c = '\n' then ['\\', 'n']
  else if c = '\r' then ['\\', 'r']
  else if c = '\t' then ['\\', 't']
  else if c = '\x08' then ['\\', 'b']
  else if c = '\x0c' then ['\\', 'f']
  else if 0x20 ≤ c.toNat ∧ c.toNat < 0x7f then [c]
  else if c.toNat < 0x10000 then unitEscape c.toNat
  else
    let n := c.toNat - 0x10000
    unitEscape (0xd800 + n / 0x400) ++ unitEscape (0xdc00 + n % 0x400)

def writtenString (s : String) : String :=
  String.ofList ('"' :: s.toList.flatMap writtenChar ++ ['"'])

def writtenNumber : Binary64 → String
  | .nan => "NaN"
  | .infinity negative => if negative then "-Infinity" else "Infinity"
  | x => x.text

mutual

def written : Json → String
  | null => "null"
  | bool b => if b then "true" else "false"
  | int n => toString n
  | float x => writtenNumber x
  | str s => writtenString s
  | arr items => "[" ++ ",".intercalate (writtenItems items) ++ "]"
  | obj fields => "\x7b" ++ ",".intercalate (writtenFields fields) ++ "\x7d"

def writtenItems : List Json → List String
  | [] => []
  | v :: rest => written v :: writtenItems rest

def writtenFields : List (String × Json) → List String
  | [] => []
  | (k, v) :: rest => (writtenString k ++ ":" ++ written v) :: writtenFields rest

end

mutual

/-- Whether all its numbers are finite, so that its written form is standard JSON. -/
def isStandard : Json → Bool
  | float x => x.isFinite
  | arr items => areStandard items
  | obj fields => haveStandardValues fields
  | _ => true

def areStandard : List Json → Bool
  | [] => true
  | v :: rest => isStandard v && areStandard rest

def haveStandardValues : List (String × Json) → Bool
  | [] => true
  | (_, v) :: rest => isStandard v && haveStandardValues rest

end

/-- Puts a field where its key belongs among sorted ones. -/
def insertSorted (key : String) (value : Json) : List (String × Json) → List (String × Json)
  | [] => [(key, value)]
  | (k, v) :: rest =>
    if key ≤ k then (key, value) :: (k, v) :: rest else (k, v) :: insertSorted key value rest

mutual

/-- The same value with the keys of every object in code point order. -/
def sorted : Json → Json
  | arr items => arr (sortedItems items)
  | obj fields => obj (sortedFields fields)
  | v => v

def sortedItems : List Json → List Json
  | [] => []
  | v :: rest => sorted v :: sortedItems rest

def sortedFields : List (String × Json) → List (String × Json)
  | [] => []
  | (k, v) :: rest => insertSorted k (sorted v) (sortedFields rest)

end

end Downlink.Json
