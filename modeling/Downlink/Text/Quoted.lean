import Downlink.Text.Digits
import Downlink.Text.Printable

/-! # Quoted text

A text between quotes on one line. Single quotes are used unless the text holds
a single quote and no double quote. The quote in use and the backslash are
escaped, and a character that is not printable is written by its code point.
-/

namespace Downlink.Text

def escaped (quote c : Char) : List Char :=
  if c = quote ∨ c = '\\' then ['\\', c]
  else if c = '\n' then ['\\', 'n']
  else if c = '\r' then ['\\', 'r']
  else if c = '\t' then ['\\', 't']
  else if isPrintable c then [c]
  else if c.toNat < 0x100 then '\\' :: 'x' :: hexDigits 2 c.toNat
  else if c.toNat < 0x10000 then '\\' :: 'u' :: hexDigits 4 c.toNat
  else '\\' :: 'U' :: hexDigits 8 c.toNat

def quoteFor (cs : List Char) : Char :=
  if cs.contains '\'' && !cs.contains '"' then '"' else '\''

def quotedList (cs : List Char) : List Char :=
  quoteFor cs :: cs.flatMap (escaped (quoteFor cs)) ++ [quoteFor cs]

def quoted (s : String) : String :=
  String.ofList (quotedList s.toList)

end Downlink.Text
