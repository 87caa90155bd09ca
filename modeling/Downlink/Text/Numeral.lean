import Downlink.Text.Blank
import Downlink.Text.Digits
import Downlink.Text.Split

/-! # Decimal integers in text

A decimal integer may use the digits of any script, with one optional sign, with
single underscores between digits and with blanks around it. The number of its
digits is limited.
-/

namespace Downlink.Text

/-- The zeros of the Unicode decimal digits; the ten digits of a script are consecutive. -/
def decimalZeros : List Nat := [
  0x30, 0x660, 0x6f0, 0x7c0, 0x966, 0x9e6, 0xa66, 0xae6, 0xb66, 0xbe6, 0xc66, 0xce6, 0xd66, 0xde6,
  0xe50, 0xed0, 0xf20, 0x1040, 0x1090, 0x17e0, 0x1810, 0x1946, 0x19d0, 0x1a80, 0x1a90, 0x1b50,
  0x1bb0, 0x1c40, 0x1c50, 0xa620, 0xa8d0, 0xa900, 0xa9d0, 0xa9f0, 0xaa50, 0xabf0, 0xff10, 0x104a0,
  0x10d30, 0x11066, 0x110f0, 0x11136, 0x111d0, 0x112f0, 0x11450, 0x114d0, 0x11650, 0x116c0,
  0x11730, 0x118e0, 0x11950, 0x11c50, 0x11d50, 0x11da0, 0x16a60, 0x16ac0, 0x16b50, 0x1d7ce,
  0x1d7d8, 0x1d7e2, 0x1d7ec, 0x1d7f6, 0x1e140, 0x1e2f0, 0x1e950, 0x1fbf0]

def digitValue? (c : Char) : Option Nat :=
  (decimalZeros.find? fun first => first ≤ c.toNat && c.toNat < first + 10).map (c.toNat - ·)

/-- Around an integer the separators 001C to 001F are not skipped. -/
def isNumeralBlank (c : Char) : Bool :=
  isBlank c && !(0x1c ≤ c.toNat && c.toNat ≤ 0x1f)

inductive NumeralFault where
  | malformed
  | tooManyDigits (fault : TooManyDigits)
  deriving DecidableEq, Repr

def isDigitOrUnderscore (c : Char) : Bool :=
  c == '_' || (digitValue? c).isSome

def valueOf (digits : List Char) : Nat :=
  digits.foldl (fun n c => 10 * n + (digitValue? c).getD 0) 0

/-- A numeral without a sign. Its digits are counted before what follows them is looked at. -/
def natural? (cs : List Char) : Except NumeralFault Nat :=
  let run := cs.takeWhile isDigitOrUnderscore
  let groups := splitList '_' run
  if groups.any List.isEmpty then .error .malformed
  else if groups.flatten.length > maxDigits then .error (.tooManyDigits ⟨groups.flatten.length⟩)
  else if run.length < cs.length then .error .malformed
  else .ok (valueOf groups.flatten)

def integer? (s : String) : Except NumeralFault Int :=
  match trimList isNumeralBlank s.toList with
  | '-' :: cs => (natural? cs).map fun n => -(n : Int)
  | '+' :: cs => (natural? cs).map Int.ofNat
  | cs => (natural? cs).map Int.ofNat

end Downlink.Text
