import Downlink.Binary64.Shortest

/-! # Numbers as text

Digits are laid out positionally while the decimal point stays near them, and
with an exponent otherwise.
-/

namespace Downlink.Binary64

/-- Where the point may stand, counted from the first digit, for a positional layout. -/
structure PointRange where
  first : Int
  last : Int

/-- Positional from 0.0001 up to sixteen digits before the point. -/
def pointRange : PointRange := ⟨-3, 16⟩

def dropTrailingZeros (digits : List Char) : List Char :=
  (digits.reverse.dropWhile (· == '0')).reverse

/-- Digits with the point after the first `point` of them; one digit stands on either side. -/
def positional (digits : List Char) (point : Int) : List Char :=
  if point ≤ 0 then '0' :: '.' :: List.replicate (-point).toNat '0' ++ digits
  else
    let whole := digits.take point.toNat
    let fraction := digits.drop point.toNat
    whole ++ List.replicate (point.toNat - whole.length) '0' ++
      '.' :: (if fraction.isEmpty then ['0'] else fraction)

/-- One digit before the point, and an exponent of at least two digits. -/
def scientific (digits : List Char) (point : Int) : List Char :=
  let power := point - 1
  let exponent := Nat.toDigits 10 power.natAbs
  let mark := 'e' :: (if power < 0 then '-' else '+') ::
    List.replicate (2 - exponent.length) '0' ++ exponent
  match digits with
  | [] => mark
  | [d] => d :: mark
  | d :: rest => d :: '.' :: rest ++ mark

def layout (m : Nat) (e : Int) : List Char :=
  if m = 0 then ['0', '.', '0']
  else
    let (coefficient, k) := shortest m e
    let digits := Nat.toDigits 10 coefficient
    let point := (digits.length : Int) + k
    let digits := dropTrailingZeros digits
    if pointRange.first ≤ point ∧ point ≤ pointRange.last then positional digits point
    else scientific digits point

def text : Binary64 → String
  | nan => "nan"
  | infinity negative => if negative then "-inf" else "inf"
  | finite negative m e => String.ofList (if negative then '-' :: layout m e else layout m e)

end Downlink.Binary64
