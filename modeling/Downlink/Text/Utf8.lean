/-! # UTF-8 with replacement

Decoding of bytes that may not be UTF-8. The longest start of a character that
cannot be completed becomes one replacement character, and decoding goes on
behind it.
-/

namespace Downlink.Text

def replacement : Char := '\ufffd'

/-- The number of bytes after a lead byte, or none if no character starts with it. -/
def tailCount? (lead : UInt8) : Option Nat :=
  if lead < 0x80 then some 0
  else if 0xc2 ≤ lead ∧ lead ≤ 0xdf then some 1
  else if 0xe0 ≤ lead ∧ lead ≤ 0xef then some 2
  else if 0xf0 ≤ lead ∧ lead ≤ 0xf4 then some 3
  else none

/-- Whether `b` may follow `lead` directly; the limits exclude overlong forms, surrogates and values
above 10FFFF. -/
def isFirstTail (lead b : UInt8) : Bool :=
  (if lead = 0xe0 then 0xa0 else if lead = 0xf0 then 0x90 else 0x80) ≤ b &&
    b ≤ (if lead = 0xed then 0x9f else if lead = 0xf4 then 0x8f else 0xbf)

def isTail (b : UInt8) : Bool :=
  0x80 ≤ b && b ≤ 0xbf

/-- A character whose lead bits and tail bits so far are `value` and which lacks `missing` bytes. -/
structure Partial where
  value : Nat
  missing : Nat
  lead : UInt8
  fresh : Bool

def Partial.admits (p : Partial) (b : UInt8) : Bool :=
  if p.fresh then isFirstTail p.lead b else isTail b

def leadBits (lead : UInt8) (tails : Nat) : Nat :=
  lead.toNat % 1 <<< (6 - tails)

/-- What a byte at the start of a character gives: a character, or one to be completed. -/
def startByte (b : UInt8) : List Char × Option Partial :=
  match tailCount? b with
  | none => ([replacement], none)
  | some 0 => ([Char.ofNat b.toNat], none)
  | some n => ([], some ⟨leadBits b n, n, b, true⟩)

def decodeFrom : Option Partial → List UInt8 → List Char
  | none, [] => []
  | some _, [] => [replacement]
  | none, b :: bs => (startByte b).1 ++ decodeFrom (startByte b).2 bs
  | some p, b :: bs =>
    if p.admits b then
      let value := p.value * 64 + b.toNat % 64
      if p.missing = 1 then Char.ofNat value :: decodeFrom none bs
      else decodeFrom (some ⟨value, p.missing - 1, p.lead, false⟩) bs
    else replacement :: (startByte b).1 ++ decodeFrom (startByte b).2 bs

def decodeLossy (bytes : List UInt8) : String :=
  String.ofList (decodeFrom none bytes)

end Downlink.Text
