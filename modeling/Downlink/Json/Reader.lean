import Downlink.Json.Nesting
import Downlink.Ledger
import Downlink.Text.Coding
import Downlink.Text.Digits

/-! # Reading JSON

A text is read as one value with blanks around it. Besides the standard grammar
the numbers `NaN`, `Infinity` and `-Infinity` are read, and of a key written
twice the last value counts. Collections may be nested as deep as there is room
for. The first fault from the left is reported.
-/

namespace Downlink.Json

inductive ReadFault where
  | malformed
  | tooManyDigits (fault : Text.TooManyDigits)
  | tooDeep (fault : TooDeep)
  deriving DecidableEq, Repr

namespace Reader

open Downlink.Text

def skipBlanks (cs : List Char) : List Char :=
  cs.dropWhile fun c => c == ' ' || c == '\t' || c == '\n' || c == '\r'

def hexUnit? (a b c d : Char) : Option Nat := do
  return (((← hexValue? a) * 16 + (← hexValue? b)) * 16 + (← hexValue? c)) * 16 + (← hexValue? d)

def escapeValue? : Char → Option Char
  | '"' => some '"'
  | '\\' => some '\\'
  | '/' => some '/'
  | 'b' => some '\x08'
  | 'f' => some '\x0c'
  | 'n' => some '\n'
  | 'r' => some '\r'
  | 't' => some '\t'
  | _ => none

/-- The pieces up to the closing quote, last first in `done`, and what follows the quote. -/
def pieces? (done : List Piece) : List Char → Option (List Piece × List Char)
  | [] => none
  | '"' :: rest => some (done.reverse, rest)
  | '\\' :: 'u' :: a :: b :: c :: d :: rest =>
    (hexUnit? a b c d).bind fun n => pieces? (.unit n :: done) rest
  | '\\' :: e :: rest => (escapeValue? e).bind fun c => pieces? (.plain c :: done) rest
  | c :: rest => if c.toNat < 0x20 then none else pieces? (.plain c :: done) rest

/-- What has been read from the head of a text, and the rest of it. -/
abbrev Read (α : Type) :=
  Except ReadFault (α × List Char)

/-- The rest of a string whose opening quote has been read. -/
def string? (cs : List Char) : Read String :=
  match pieces? [] cs with
  | some (ps, rest) => .ok (String.ofList (joinPieces ps), rest)
  | none => .error .malformed

/-- A point and the digits after it, if there is one digit at least. -/
def fraction (cs : List Char) : List Char × List Char :=
  match cs with
  | '.' :: rest => if (rest.takeWhile isDecimalDigit).isEmpty then ([], cs)
      else (rest.takeWhile isDecimalDigit, rest.dropWhile isDecimalDigit)
  | _ => ([], cs)

def exponentDigits (negative : Bool) (cs rest : List Char) : Option Int × List Char :=
  let digits := rest.takeWhile isDecimalDigit
  if digits.isEmpty then (none, cs)
  else
    let n : Int := decimalValue digits
    (some (if negative then -n else n), rest.dropWhile isDecimalDigit)

def exponent (cs : List Char) : Option Int × List Char :=
  match cs with
  | e :: rest =>
    if e = 'e' ∨ e = 'E' then
      match rest with
      | '+' :: more => exponentDigits false cs more
      | '-' :: more => exponentDigits true cs more
      | _ => exponentDigits false cs rest
    else (none, cs)
  | [] => (none, cs)

def unsigned? (negative : Bool) (cs : List Char) : Read Json :=
  let whole := match cs with
    | '0' :: _ => ['0']
    | _ => cs.takeWhile isDecimalDigit
  if whole.isEmpty then .error .malformed
  else
    let (places, afterFraction) := fraction (cs.drop whole.length)
    let (power, rest) := exponent afterFraction
    if places.isEmpty && power.isNone then
      if whole.length > maxDigits then .error (.tooManyDigits ⟨whole.length⟩)
      else
        let n : Int := decimalValue whole
        .ok (int (if negative then -n else n), rest)
    else
      .ok (float (.ofDecimal negative (decimalValue (whole ++ places))
        (power.getD 0 - places.length)), rest)

def wordValue? (word : List Char) (value : Json) (cs : List Char) : Read Json :=
  if word.isPrefixOf cs then .ok (value, cs.drop word.length) else .error .malformed

def scalar? (cs : List Char) : Read Json :=
  match cs with
  | 'n' :: _ => wordValue? "null".toList null cs
  | 't' :: _ => wordValue? "true".toList (bool true) cs
  | 'f' :: _ => wordValue? "false".toList (bool false) cs
  | 'N' :: _ => wordValue? "NaN".toList (float .nan) cs
  | 'I' :: _ => wordValue? "Infinity".toList (float (.infinity false)) cs
  | '-' :: 'I' :: _ => wordValue? "-Infinity".toList (float (.infinity true)) cs
  | '-' :: rest => unsigned? true rest
  | _ => unsigned? false cs

/-- Goes into a collection, which takes one of the levels that there is room for. -/
def enter {α : Type} (opened : Collection) (room : Nat) (inside : Nat → Read α) : Read α :=
  match room with
  | 0 => .error (.tooDeep ⟨opened⟩)
  | room + 1 => inside room

mutual

/-- The value at the head of a text; every call of the three readers passes on less fuel. -/
def value? : Nat → Nat → List Char → Read Json
  | 0, _, _ => .error .malformed
  | fuel + 1, room, cs =>
    match cs with
    | '"' :: rest => (string? rest).map fun (s, rest) => (str s, rest)
    | '[' :: rest =>
      enter .array room fun room =>
        match skipBlanks rest with
        | ']' :: rest => .ok (arr [], rest)
        | rest => items? fuel room [] rest
    | '\x7b' :: rest =>
      enter .object room fun room =>
        match skipBlanks rest with
        | '\x7d' :: rest => .ok (obj [], rest)
        | rest => fields? fuel room [] rest
    | _ => scalar? cs

def items? : Nat → Nat → List Json → List Char → Read Json
  | 0, _, _, _ => .error .malformed
  | fuel + 1, room, done, cs =>
    (value? fuel room cs).bind fun (v, rest) =>
      match skipBlanks rest with
      | ',' :: rest => items? fuel room (v :: done) (skipBlanks rest)
      | ']' :: rest => .ok (arr (v :: done).reverse, rest)
      | _ => .error .malformed

def fields? : Nat → Nat → List (String × Json) → List Char → Read Json
  | 0, _, _, _ => .error .malformed
  | fuel + 1, room, done, cs =>
    match cs with
    | '"' :: rest =>
      (string? rest).bind fun (key, rest) =>
        match skipBlanks rest with
        | ':' :: rest =>
          (value? fuel room (skipBlanks rest)).bind fun (v, rest) =>
            match skipBlanks rest with
            | ',' :: rest => fields? fuel room (putEntry key v done) (skipBlanks rest)
            | '\x7d' :: rest => .ok (obj (putEntry key v done), rest)
            | _ => .error .malformed
        | _ => .error .malformed
    | _ => .error .malformed

end

end Reader

/-- Reads a text, given the levels of nesting that there is room for. No character takes more than
two calls. -/
def readChars? (room : Nat) (cs : List Char) : Except ReadFault Json :=
  (Reader.value? (2 * cs.length + 1) room (Reader.skipBlanks cs)).bind fun (v, rest) =>
    if (Reader.skipBlanks rest).isEmpty then .ok v else .error .malformed

def read? (room : Nat) (s : String) : Except ReadFault Json :=
  readChars? room s.toList

/-- Reads bytes, which must be UTF-8 without a mark. -/
def readUtf8? (room : Nat) (bytes : ByteArray) : Except ReadFault Json :=
  match String.fromUTF8? bytes with
  | some s => read? room s
  | none => .error .malformed

/-- Reads bytes in the coding that they show. -/
def readBytes? (room : Nat) (bytes : ByteArray) : Except ReadFault Json :=
  match Text.decode? bytes.toList with
  | some cs => readChars? room cs
  | none => .error .malformed

end Downlink.Json
