import Downlink.Http.Escape
import Downlink.Text.HostLetter
import Downlink.Text.Split

/-! # Authorities

The part of a web address that says which server is meant: a host, which is a
name or an address in brackets, and perhaps the number of a service. Information
about a user before it does not count.
-/

namespace Downlink.Http

open Downlink.Text

/-- A host as it is written, without brackets. An address may name a zone. -/
structure Authority where
  host : String
  zone : Option (List Char)
  service : Option Nat

/-- Whether nothing in a text needs an escape, not even what its escapes stand for. -/
def isPlain (keep : Char → Bool) : List Char → Bool
  | [] => true
  | '%' :: a :: b :: rest =>
    ((escapedByte? a b).elim false fun n => isUnreserved (Char.ofNat n.toNat)) && isPlain keep rest
  | c :: rest => keep c && isPlain keep rest

/-- A label with letters of other scripts, which has an ASCII form of its own. -/
def isForeignLabel (label : List Char) : Bool :=
  label.all isHostLetter && label.head? != some '-' && label.getLast? != some '-' &&
    (label.drop 2).take 2 != ['-', '-']

def isLabel (label : List Char) : Bool :=
  if label.all (·.toNat < 0x80) then isPlain (fun c => isUnreserved c || isSubDelimiter c) label
  else isForeignLabel label

def isHostName (name : List Char) : Bool :=
  !name.isEmpty && name.head? != some '*' && name.head? != some '.' &&
    (splitList '.' name).all isLabel

/-- Sixteen bits of an address. -/
def isGroup (cs : List Char) : Bool :=
  1 ≤ cs.length && cs.length ≤ 4 && cs.all fun c => (hexValue? c).isSome

/-- Thirty-two bits of an address in decimal. -/
def isDottedQuad (cs : List Char) : Bool :=
  let octets := splitList '.' cs
  octets.length == 4 &&
    octets.all fun o => 1 ≤ o.length && o.length ≤ 3 && o.all isDecimalDigit

/-- The number of groups in a row; a dotted quad at the end counts for two. -/
def groupCount? : List (List Char) → Option Nat
  | [] => some 0
  | [last] => if isGroup last then some 1 else if isDottedQuad last then some 2 else none
  | group :: rest => if isGroup group then (groupCount? rest).map (· + 1) else none

/-- What stands before the first pair of colons, and what stands behind it if there is one. -/
def cutAtGap : List Char → List Char × Option (List Char)
  | ':' :: ':' :: rest => ([], some rest)
  | c :: rest => (c :: (cutAtGap rest).1, (cutAtGap rest).2)
  | [] => ([], none)

def groups (cs : List Char) : List (List Char) :=
  if cs.isEmpty then [] else splitList ':' cs

/-- Eight groups, or fewer around one gap. -/
def isHostAddress (cs : List Char) : Bool :=
  match cutAtGap cs with
  | (all, none) => groupCount? (groups all) == some 8
  | (front, some back) =>
    (groups front).all isGroup &&
      (groupCount? (groups back)).elim false fun n => (groups front).length + n ≤ 7

/-- The zone of an address; a percent sign opens it, which may itself be escaped. -/
def zone? : List Char → Option (List Char)
  | '%' :: '2' :: '5' :: c :: rest => if isZone (c :: rest) then some (c :: rest) else none
  | '%' :: c :: rest => if isZone (c :: rest) then some (c :: rest) else none
  | _ => none
where
  isZone (cs : List Char) : Bool := isEscaped cs && cs.all fun c => isUnreserved c || c == '%'

/-- The number after a host, which is optional; a line feed may end it. -/
def service? (cs : List Char) : Option (Option Nat) :=
  match if cs.getLast? = some '\n' then cs.dropLast else cs with
  | [] => some none
  | ':' :: digits =>
    if digits.all isDecimalDigit && decimalValue digits ≤ 65535 then
      some (if digits.isEmpty then none else some (decimalValue digits))
    else none
  | _ => none

namespace Authority

/-- An address in brackets, from the first one on. -/
def ofAddress? (cs : List Char) : Option Authority := do
  let inner := cs.takeWhile (· != ']')
  let address := inner.takeWhile (· != '%')
  let zone := inner.drop address.length
  if isHostAddress address && (zone.isEmpty || (zone? zone).isSome) then
    match cs.drop inner.length with
    | _ :: rest => return ⟨String.ofList inner, zone? zone, ← service? rest⟩
    | [] => none
  else none

def ofName? (cs : List Char) : Option Authority := do
  let name := cs.takeWhile (· != ':')
  if isHostName name then return ⟨String.ofList name, none, ← service? (cs.drop name.length)⟩
  else none

def ofText? (cs : List Char) : Option Authority :=
  match (cs.reverse.takeWhile (· != '@')).reverse with
  | '[' :: rest => ofAddress? rest
  | rest => ofName? rest

/-- Whether the zone begins with two letters or digits that are no pair of hexadecimal digits, which
reads like a broken escape. -/
def looksBroken (a : Authority) : Bool :=
  match a.zone with
  | some (x :: y :: _) => x.isAlphanum && y.isAlphanum && (escapedByte? x y).isNone
  | _ => false

end Authority

end Downlink.Http
