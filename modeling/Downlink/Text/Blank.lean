/-! # Blank characters

The characters that count as space around a text, and trimming them from both
ends.
-/

namespace Downlink.Text

/-- A character with the Unicode property White_Space, or one of the separators 001C to 001F. -/
def isBlank (c : Char) : Bool :=
  let n := c.toNat
  (9 ≤ n && n ≤ 13) || (0x1c ≤ n && n ≤ 0x20) || n == 0x85 || n == 0xa0 || n == 0x1680 ||
    (0x2000 ≤ n && n ≤ 0x200a) || n == 0x2028 || n == 0x2029 || n == 0x202f || n == 0x205f ||
    n == 0x3000

def trimList (blank : Char → Bool) (cs : List Char) : List Char :=
  ((cs.dropWhile blank).reverse.dropWhile blank).reverse

def strip (s : String) : String :=
  String.ofList (trimList isBlank s.toList)

/-- Lower-cases the letters A to Z and keeps everything else. -/
def lower (s : String) : String :=
  String.ofList (s.toList.map Char.toLower)

end Downlink.Text
