/-! # Double-precision numbers

The numbers of the binary64 format, exactly: a finite one is a sign, a natural
significand and a power of two. Decimal numerals are read to the nearest of
them, a tie going to the even significand.
-/

namespace Downlink

inductive Binary64 where
  | nan
  | infinity (negative : Bool)
  | finite (negative : Bool) (significand : Nat) (exponent : Int)
  deriving DecidableEq, Repr

namespace Binary64

def powerOfTen (k : Nat) : Nat :=
  Nat.pow 10 k

def minExponent : Int := -1074

def maxExponent : Int := 971

def roundHalfEven (num den : Nat) : Nat :=
  let q := num / den
  let r := num % den
  if 2 * r < den then q
  else if 2 * r > den then q + 1
  else if q % 2 = 0 then q else q + 1

def unscale (num den : Nat) (e : Int) : Nat × Nat :=
  (num <<< (-e).toNat, den <<< e.toNat)

/-- The exponent at which `num / den` has a significand of 53 bits, or the least one. -/
def exponentFor (num den : Nat) : Int :=
  let guess : Int := (Nat.log2 num : Int) - Nat.log2 den - 52
  let (n, d) := unscale num den guess
  max (if n / d < 1 <<< 52 then guess - 1 else guess) minExponent

/-- The number nearest to `num / den`. -/
def ofRatio (negative : Bool) (num den : Nat) : Binary64 :=
  let e := exponentFor num den
  let (n, d) := unscale num den e
  let m := roundHalfEven n d
  let (m, e) := if m = 1 <<< 53 then (1 <<< 52, e + 1) else (m, e)
  if e > maxExponent then infinity negative else finite negative m e

/-- The number nearest to `coefficient * 10 ^ scale`. Beyond the range of the format the power of
ten is not computed. -/
def ofDecimal (negative : Bool) (coefficient : Nat) (scale : Int) : Binary64 :=
  let magnitude := ((Nat.toDigits 10 coefficient).length : Int) + scale
  if coefficient = 0 ∨ magnitude < -330 then finite negative 0 minExponent
  else if magnitude > 310 then infinity negative
  else ofRatio negative (coefficient * powerOfTen scale.toNat) (powerOfTen (-scale).toNat)

def isZero : Binary64 → Bool
  | finite _ 0 _ => true
  | _ => false

def isFinite : Binary64 → Bool
  | finite _ _ _ => true
  | _ => false

/-- The integer part of a finite number. -/
def truncate (negative : Bool) (significand : Nat) (exponent : Int) : Int :=
  let size := significand <<< exponent.toNat >>> (-exponent).toNat
  if negative then -(size : Int) else size

end Binary64

end Downlink
