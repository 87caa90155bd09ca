import Downlink.Ipv4.Printer
import Downlink.Json.Display
import Downlink.Text.Digits
import Downlink.Text.Split

/-! # Reading addresses and blocks

A text is an address, alone or with the length of its block, a netmask or a
hostmask behind a slash. A number is the address it denotes, in a block of its
own. Of several faults the leftmost is reported.
-/

namespace Downlink.Ipv4

open Downlink.Text

inductive OctetFault where
  | empty
  | notDecimal (part : List Char)
  | tooLong (part : List Char)
  | leadingZero (part : List Char)
  | tooLarge (value : Nat)
  deriving DecidableEq, Repr

inductive Fault where
  | negative (n : Int)
  | outOfRange (n : Int)
  | manySlashes (shown : String)
  | emptyAddress
  | octetCount (address : List Char)
  | octet (fault : OctetFault) (address : List Char)
  | mask (mask : List Char)
  | hostBits (given : Interface)
  deriving DecidableEq, Repr

def octet? (part : List Char) : Except OctetFault (Fin 256) :=
  if part.isEmpty then .error .empty
  else if !part.all isDecimalDigit then .error (.notDecimal part)
  else if part.length > 3 then .error (.tooLong part)
  else if part.head? = some '0' ∧ part.length > 1 then .error (.leadingZero part)
  else if h : decimalValue part < 256 then .ok ⟨decimalValue part, h⟩
  else .error (.tooLarge (decimalValue part))

def Address.ofChars? (cs : List Char) : Except Fault Address :=
  if cs.isEmpty then .error .emptyAddress
  else
    match splitList '.' cs with
    | [a, b, c, d] => do
      let read (part : List Char) := (octet? part).mapError (Fault.octet · cs)
      return .ofOctets (← read a) (← read b) (← read c) (← read d)
    | _ => .error (.octetCount cs)

/-- The length of the netmask with this value: ones, then zeros. -/
def netmaskLength? (value : Nat) : Option (Fin 33) :=
  (List.finRange 33).find? fun n => value = 0x100000000 - 1 <<< (32 - n.val)

/-- The length of the hostmask with this value: zeros, then ones. -/
def hostmaskLength? (value : Nat) : Option (Fin 33) :=
  (List.finRange 33).find? fun n => value = 1 <<< (32 - n.val) - 1

/-- A block length: digits up to 32, or else a mask. Zeros only and ones only are netmasks. -/
def length? (mask : List Char) : Except Fault (Fin 33) :=
  if h : (!mask.isEmpty && mask.all isDecimalDigit && mask.length ≤ maxDigits) ∧
      decimalValue mask < 33 then
    .ok ⟨decimalValue mask, h.2⟩
  else
    match Address.ofChars? mask with
    | .error _ => .error (.mask mask)
    | .ok x =>
      match netmaskLength? x.value <|> hostmaskLength? x.value with
      | some n => .ok n
      | none => .error (.mask mask)

/-- Reads a text; `shown` stands for it in a message about its slashes. -/
def Interface.ofChars? (shown : String) (cs : List Char) : Except Fault Interface :=
  match splitList '/' cs with
  | [address] => do
    return ⟨← Address.ofChars? address, 32, Nat.le_refl _⟩
  | [address, mask] => do
    let x ← Address.ofChars? address
    let n ← length? mask
    return ⟨x, n.val, by omega⟩
  | _ => .error (.manySlashes shown)

def Interface.ofInt? (n : Int) : Except Fault Interface :=
  if n < 0 then .error (.negative n)
  else if h : n.toNat < 0x100000000 then .ok ⟨⟨n.toNat, h⟩, 32, Nat.le_refl _⟩
  else .error (.outOfRange n)

def Interface.ofText? (s : String) : Except Fault Interface :=
  ofChars? (quoted s) s.toList

def Interface.ofJson? : Json → Except Fault Interface
  | .int n => ofInt? n
  | .bool b => ofInt? (if b then 1 else 0)
  | v => ofChars? v.shown v.text.toList

/-- A block is the address it starts with. -/
def Interface.strictBlock? (i : Interface) : Except Fault Block :=
  if i.block.first = i.address then .ok i.block else .error (.hostBits i)

def Block.ofText? (s : String) : Except Fault Block := do
  (← Interface.ofText? s).strictBlock?

def Block.ofJson? (v : Json) : Except Fault Block := do
  (← Interface.ofJson? v).strictBlock?

def OctetFault.message : OctetFault → String
  | empty => "Empty octet not permitted"
  | notDecimal part => "Only decimal digits permitted in " ++ quoted (.ofList part)
  | tooLong part => "At most 3 characters permitted in " ++ quoted (.ofList part)
  | leadingZero part => "Leading zeros are not permitted in " ++ quoted (.ofList part)
  | tooLarge value => s!"Octet {value} (> 255) not permitted"

def Fault.message : Fault → String
  | negative n => s!"{n} (< 0) is not permitted as an IPv4 address"
  | outOfRange n => s!"{n} (>= 2**32) is not permitted as an IPv4 address"
  | manySlashes shown => "Only one '/' permitted in " ++ shown
  | emptyAddress => "Address cannot be empty"
  | octetCount address => "Expected 4 octets in " ++ quoted (.ofList address)
  | octet fault address => fault.message ++ " in " ++ quoted (.ofList address)
  | mask text => quoted (.ofList text) ++ " is not a valid netmask"
  | hostBits given => given.text ++ " has host bits set"

end Downlink.Ipv4
