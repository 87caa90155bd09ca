import Downlink.Json.Display
import Downlink.Text.Numeral

/-! # Values as integers

Integers stand for themselves, truth values for 0 and 1, other numbers for their
integer part, and texts for the integer they write.
-/

namespace Downlink.Json

inductive IntegerFault where
  | notNumeral (given : String)
  | tooManyDigits (fault : Text.TooManyDigits)
  | nan
  | infinite
  | notNumber
  deriving DecidableEq, Repr

def toInteger? : Json → Except IntegerFault Int
  | int n => .ok n
  | bool b => .ok (if b then 1 else 0)
  | float .nan => .error .nan
  | float (.infinity _) => .error .infinite
  | float (.finite negative m e) => .ok (Binary64.truncate negative m e)
  | str s =>
    (Text.integer? s).mapError fun
      | .malformed => .notNumeral s
      | .tooManyDigits e => .tooManyDigits e
  | _ => .error .notNumber

/-- A text that is no numeral is shown by the first two hundred characters of its quoted form. -/
def IntegerFault.message : IntegerFault → String
  | notNumeral given =>
    "invalid literal for int() with base 10: " ++
      String.ofList ((Text.quotedList given.toList).take 200)
  | tooManyDigits e => e.message
  | nan => "cannot convert float NaN to integer"
  | infinite => "cannot convert float infinity to integer"
  | notNumber => "not a number"

end Downlink.Json
