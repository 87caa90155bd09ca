import Downlink.Text.Digits

/-! # Percent escapes

A byte may be written as a percent sign with two hexadecimal digits. Writing a
path escapes every byte that may not stand there, and unescaping it gives the
same bytes back.
-/

namespace Downlink.Http

open Downlink.Text

def isUnreserved (c : Char) : Bool :=
  c.isAlphanum || c == '-' || c == '.' || c == '_' || c == '~'

def isSubDelimiter (c : Char) : Bool :=
  "!$&'()*+,;=".toList.contains c

def isPathChar (c : Char) : Bool :=
  isUnreserved c || isSubDelimiter c || c == ':' || c == '@' || c == '/'

/-- The byte that two hexadecimal digits write. -/
def escapedByte? (a b : Char) : Option UInt8 := do
  return UInt8.ofNat ((← hexValue? a) * 16 + (← hexValue? b))

/-- The bytes of a text with escapes; a percent sign without two digits stands for itself. -/
def unescape : List Char → List UInt8
  | [] => []
  | '%' :: a :: b :: rest =>
    match escapedByte? a b with
    | some byte => byte :: unescape rest
    | none => String.utf8EncodeChar '%' ++ unescape (a :: b :: rest)
  | c :: rest => String.utf8EncodeChar c ++ unescape rest

def escapeByte (b : UInt8) : List Char :=
  '%' :: (hexDigits 2 b.toNat).map Char.toUpper

def escape (keep : Char → Bool) (cs : List Char) : List Char :=
  cs.flatMap fun c => if keep c then [c] else (String.utf8EncodeChar c).flatMap escapeByte

def isEscaped : List Char → Bool
  | [] => true
  | '%' :: a :: b :: rest => (escapedByte? a b).isSome && isEscaped rest
  | c :: rest => c != '%' && isEscaped rest

/-- Writes the digits of every escape in upper case. -/
def raiseEscapes : List Char → List Char
  | '%' :: a :: b :: rest =>
    if (escapedByte? a b).isSome then '%' :: a.toUpper :: b.toUpper :: raiseEscapes rest
    else '%' :: raiseEscapes (a :: b :: rest)
  | c :: rest => c :: raiseEscapes rest
  | [] => []

/-- Escapes what is not to be kept. Escapes that are there already stand if all percent signs begin
one; else every percent sign is escaped itself. -/
def completeEscapes (keep : Char → Bool) (cs : List Char) : List Char :=
  let escapes := isEscaped cs
  escape (fun c => keep c || (escapes && c == '%')) (raiseEscapes cs)

end Downlink.Http
