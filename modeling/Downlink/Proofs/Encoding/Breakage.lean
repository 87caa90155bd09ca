import Downlink.Proofs.Encoding.RoundTrip

/-! # What breaks while a value is read

Reading goes step by step, and the steps break in several ways: a key is missing, a value has no
fields at all, it lacks an operation, it is not what it should be, or it is too high for its text to
be made. The readers catch or avoid all of these but the last. What the steps come to is what the
readers of the encodings yield, in the same words.
-/

namespace Downlink

/-- The kinds of breakage. Faults of addresses and of masks are faults of values. -/
inductive Breakage.Kind where
  | value
  | address
  | netmask
  | key
  | type
  | attribute
  | recursion
  deriving DecidableEq, Repr

structure Breakage where
  kind : Breakage.Kind
  message : String

abbrev Steps (α : Type) :=
  Except Breakage α

namespace Steps

variable {ε α : Type}

end Steps

def Ipv4.Fault.kind : Ipv4.Fault → Breakage.Kind
  | mask _ => .netmask
  | hostBits _ => .value
  | _ => .address

namespace Encoding

def shown (room : Heights) (key : String) (v : Json) : Steps Json :=
  v.showable? (room key) ⟨.recursion, Json.heightMessage⟩

section Fields

variable {room : Heights} {v w : Json} {key : String} {α : Type}

def FieldFault.kind : FieldFault → Breakage.Kind
  | missing _ => .key
  | notAnObject _ => .type
  | role _ => .value
  | address fault => fault.kind
  | tooHigh => .recursion

end Fields

end Encoding

open Encoding

namespace Reservation

variable {room : Heights} {v : Json}

end Reservation

namespace Conflict

variable {room : Heights} {v : Json}

end Conflict

namespace Snapshot

variable {room : Heights} {v network : Json} {key : String} {fields : List (String × Json)}
  {s : Snapshot}

def Fault.kind : Fault → Breakage.Kind
  | tooHigh => .recursion
  | _ => .value

end Snapshot

def Json.nested : Nat → Json
  | 0 => arr []
  | n + 1 => arr [nested n]

end Downlink
