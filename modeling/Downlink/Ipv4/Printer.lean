import Downlink.Ipv4.Block

/-! # Addresses and blocks as text

An address is written as `a.b.c.d`, and with the length of its block as
`a.b.c.d/len`.
-/

namespace Downlink.Ipv4

def decimal (n : Nat) : List Char :=
  Nat.toDigits 10 n

def Address.chars (x : Address) : List Char :=
  decimal (x.octet 3) ++ '.' :: decimal (x.octet 2) ++ '.' :: decimal (x.octet 1) ++
    '.' :: decimal (x.octet 0)

def Interface.chars (i : Interface) : List Char :=
  i.address.chars ++ '/' :: decimal i.length

def Address.text (x : Address) : String :=
  String.ofList x.chars

def Interface.text (i : Interface) : String :=
  String.ofList i.chars

def Block.text (b : Block) : String :=
  b.interface.text

def sortedTexts (blocks : List Block) : List String :=
  (blocks.map Block.text).mergeSort

end Downlink.Ipv4
