import Downlink.Text.Utf8

/-! # Code units of sixteen bits

A character above FFFF is written as a pair of halves. A half that stands alone
is no character and is replaced.
-/

namespace Downlink.Text

def isHighHalf (n : Nat) : Bool :=
  0xd800 ≤ n && n < 0xdc00

def isLowHalf (n : Nat) : Bool :=
  0xdc00 ≤ n && n < 0xe000

def charOf (n : Nat) : Char :=
  if isHighHalf n || isLowHalf n then replacement else Char.ofNat n

/-- A piece of a text: a character, or a code unit. -/
inductive Piece where
  | plain (c : Char)
  | unit (n : Nat)

/-- Joins the halves that stand side by side. -/
def joinPieces : List Piece → List Char
  | [] => []
  | .plain c :: rest => c :: joinPieces rest
  | .unit high :: .unit low :: rest =>
    if isHighHalf high && isLowHalf low then
      Char.ofNat (0x10000 + (high - 0xd800) * 0x400 + (low - 0xdc00)) :: joinPieces rest
    else charOf high :: joinPieces (.unit low :: rest)
  | .unit n :: rest => charOf n :: joinPieces rest

end Downlink.Text
