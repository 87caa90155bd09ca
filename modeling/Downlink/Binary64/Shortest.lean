import Downlink.Binary64.Basic

/-! # The shortest decimal of a number

The fewest digits that read back as the same number, and of those the nearest.
They are found by trying each count of digits on exact integers.
-/

namespace Downlink.Binary64

/-- Compares `c * 10 ^ k` with `x * 2 ^ e`. -/
def compareDecimal (c : Nat) (k : Int) (x : Nat) (e : Int) : Ordering :=
  compare ((c * powerOfTen k.toNat) <<< (-e).toNat) ((x * powerOfTen (-k).toNat) <<< e.toNat)

/-- Whether `c * 10 ^ k` is read as the number `m * 2 ^ e`. The bounds lie half way to the
neighbours and belong to a number with an even significand. -/
def readsAs (m : Nat) (e : Int) (c : Nat) (k : Int) : Bool :=
  let below := if m = 1 <<< 52 ∧ e > minExponent then 4 * m - 1 else 4 * m - 2
  let lower := compareDecimal c k below (e - 2)
  let upper := compareDecimal c k (4 * m + 2) (e - 2)
  if m % 2 = 0 then lower != .lt && upper != .gt else lower == .gt && upper == .lt

/-- The integer part of `m * 2 ^ e / 10 ^ k`. -/
def floorScaled (m : Nat) (e k : Int) : Nat :=
  (m * powerOfTen (-k).toNat) <<< e.toNat / powerOfTen k.toNat <<< (-e).toNat

/-- The power of ten of the leading digit of `m * 2 ^ e`. -/
def leadingPower (m : Nat) (e : Int) : Int :=
  ((Nat.toDigits 10 (floorScaled m e (-400))).length : Int) - 401

/-- The better of the two neighbours of `m * 2 ^ e` on the grid of multiples of `10 ^ k`. -/
def onGrid? (m : Nat) (e k : Int) : Option (Nat × Int) :=
  let c := floorScaled m e k
  match readsAs m e c k, readsAs m e (c + 1) k with
  | true, true =>
    match compareDecimal (2 * c + 1) k (2 * m) e with
    | .lt => some (c + 1, k)
    | .gt => some (c, k)
    | .eq => some (if c % 2 = 0 then c else c + 1, k)
  | true, false => some (c, k)
  | false, true => some (c + 1, k)
  | false, false => none

/-- Coefficient and power of ten of the shortest decimal of `m * 2 ^ e`, for positive `m`. -/
def shortest (m : Nat) (e : Int) : Nat × Int :=
  let top := leadingPower m e
  ((List.range 17).findSome? fun n => onGrid? m e (top - (n : Nat))).getD (m, 0)

end Downlink.Binary64
