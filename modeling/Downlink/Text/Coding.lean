import Downlink.Text.Surrogate

/-! # Codings of text

Bytes that are text in one of the codings of Unicode. A mark at their beginning
tells which; without one the zeros among the first bytes do, which is how text
that begins with ASCII shows its coding.
-/

namespace Downlink.Text

/-- Whether `b` goes on with the half of a pair, which is written in three bytes like a character.
-/
def Partial.admitsHalf (p : Partial) (b : UInt8) : Bool :=
  p.fresh && p.lead = 0xed && isTail b

inductive Coding where
  | utf8
  | utf16 (bigEndian : Bool)
  | utf32 (bigEndian : Bool)
  deriving DecidableEq, Repr

namespace Coding

def marks : List (List UInt8 × Coding) :=
  [([0, 0, 0xfe, 0xff], utf32 true), ([0xff, 0xfe, 0, 0], utf32 false), ([0xfe, 0xff], utf16 true),
    ([0xff, 0xfe], utf16 false), ([0xef, 0xbb, 0xbf], utf8)]

def ofZeros : List UInt8 → Coding
  | [a, b] => if a = 0 then utf16 true else if b = 0 then utf16 false else utf8
  | a :: b :: c :: d :: _ =>
    if a = 0 then if b = 0 then utf32 true else utf16 true
    else if b = 0 then if c = 0 ∧ d = 0 then utf32 false else utf16 false
    else utf8
  | _ => utf8

/-- The coding of some bytes, and the bytes without the mark. -/
def detect (bytes : List UInt8) : Coding × List UInt8 :=
  match marks.find? fun m => m.1.isPrefixOf bytes with
  | some m => (m.2, bytes.drop m.1.length)
  | none => (ofZeros bytes, bytes)

def utf8From? : Option Partial → List UInt8 → Option (List Char)
  | none, [] => some []
  | some _, [] => none
  | none, b :: bs =>
    match tailCount? b with
    | none => none
    | some 0 => (utf8From? none bs).map (Char.ofNat b.toNat :: ·)
    | some n => utf8From? (some ⟨leadBits b n, n, b, true⟩) bs
  | some p, b :: bs =>
    if p.admits b || p.admitsHalf b then
      let value := p.value * 64 + b.toNat % 64
      if p.missing = 1 then (utf8From? none bs).map (charOf value :: ·)
      else utf8From? (some ⟨value, p.missing - 1, p.lead, false⟩) bs
    else none

def number (bigEndian : Bool) (bytes : List UInt8) : Nat :=
  (if bigEndian then bytes else bytes.reverse).foldl (fun n b => n * 256 + b.toNat) 0

def units? (bigEndian : Bool) : List UInt8 → Option (List Nat)
  | [] => some []
  | a :: b :: rest => (units? bigEndian rest).map (number bigEndian [a, b] :: ·)
  | _ => none

/-- The characters that are written in four bytes each. -/
def wideChars? (bigEndian : Bool) : List UInt8 → Option (List Char)
  | [] => some []
  | a :: b :: c :: d :: rest =>
    let n := number bigEndian [a, b, c, d]
    if n < 0x110000 then (wideChars? bigEndian rest).map (charOf n :: ·) else none
  | _ => none

def chars? : Coding → List UInt8 → Option (List Char)
  | utf8, bytes => utf8From? none bytes
  | utf16 bigEndian, bytes =>
    (units? bigEndian bytes).map fun units => joinPieces (units.map .unit)
  | utf32 bigEndian, bytes => wideChars? bigEndian bytes

end Coding

def decode? (bytes : List UInt8) : Option (List Char) :=
  let (coding, rest) := Coding.detect bytes
  coding.chars? rest

end Downlink.Text
