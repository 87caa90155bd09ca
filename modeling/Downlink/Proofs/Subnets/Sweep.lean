import Downlink.Proofs.Coordinator.Request
import Downlink.Proofs.Routine.Basic
import Mathlib.Order.Bounds.Defs

/-! # The sweep of a draw

A draw points at a subnet, and a request tries this one and those after it, around
the end of the base block. It settles at the first subnet that is free and need
not be avoided, or else at the first one that is free. With attempts enough the
sweep comes by all subnets, wherever it starts. So the draw then settles neither
whether an address is found nor whether it is one to avoid.
-/

namespace Downlink

theorem Draw.subnetAfter_lt (d : Draw) (i : Nat) : (d.subnet.val + i) % 256 < 256 :=
  Nat.mod_lt _ (by decide)

def Draw.subnetAfter (d : Draw) (i : Nat) : Fin 256 :=
  ⟨(d.subnet.val + i) % 256, d.subnetAfter_lt i⟩

theorem Draw.exists_subnetAfter_eq (d : Draw) (k : Fin 256) : ∃ i < 256, d.subnetAfter i = k := by
  have hs := d.subnet.isLt
  refine ⟨(k.val + 256 - d.subnet.val) % 256, by omega, Fin.ext ?_⟩
  simp only [subnetAfter]
  omega

namespace Coordinator

variable {ι : Type} {c : Coordinator ι} {role : Role} {reuseLast : Bool} {a : Ipv4.Interface}
  {d : Draw} {k : Fin 256} {i : Nat}

def window (c : Coordinator ι) : Nat :=
  min c.settings.maxAttempts 256

def FreeAt (c : Coordinator ι) (role : Role) (k : Fin 256) : Prop :=
  c.IsFree role (c.settings.subnet k)

/-- Another role held the subnet last or, if a fresh one is wanted, the role itself holds it or held
it last. -/
def AvoidedAt (c : Coordinator ι) (role : Role) (reuseLast : Bool) (k : Fin 256) : Prop :=
  (∃ s a, s ≠ role ∧ c.reservations.last.get? s = some a ∧ a.block = c.settings.subnet k) ∨
    reuseLast = false ∧ ∃ a,
      (c.reservations.live.get? role = some a ∨ c.reservations.last.get? role = some a) ∧
        a.block = c.settings.subnet k

theorem isTaken_subnet_iff : c.isTaken role (c.settings.subnet k) = false ↔ c.FreeAt role k :=
  isTaken_eq_false_iff

theorem subnet_mem_avoided_iff :
    c.settings.subnet k ∈ c.avoided role reuseLast ↔ c.AvoidedAt role reuseLast k := by
  rw [avoided, List.mem_append, Reservations.mem_lastBlocksExcept, AvoidedAt]
  refine or_congr_right ?_
  cases reuseLast with
  | true => simp
  | false => simp [Reservations.mem_ownBlocks]

instance : Decidable (c.FreeAt role k) :=
  decidable_of_iff _ isTaken_subnet_iff

instance : Decidable (c.AvoidedAt role reuseLast k) :=
  decidable_of_iff _ subnet_mem_avoided_iff

def FirstAt (c : Coordinator ι) (d : Draw) (P : Fin 256 → Prop) (i : Nat) : Prop :=
  IsLeast {i | i < c.window ∧ P (d.subnetAfter i)} i

theorem firstAt_iff {P : Fin 256 → Prop} : c.FirstAt d P i ↔
    i < c.window ∧ P (d.subnetAfter i) ∧ ∀ j < i, ¬ P (d.subnetAfter j) := by
  constructor
  · rintro ⟨⟨hi, hP⟩, hleast⟩
    refine ⟨hi, hP, ?_⟩
    intro j hji hPj
    exact Nat.not_le_of_lt hji (hleast ⟨Nat.lt_trans hji hi, hPj⟩)
  · rintro ⟨hi, hP, hj⟩
    refine ⟨⟨hi, hP⟩, ?_⟩
    rintro j ⟨_, hPj⟩
    exact Nat.le_of_not_lt fun hji => hj j hji hPj

instance {P : Fin 256 → Prop} [DecidablePred P] : Decidable (c.FirstAt d P i) :=
  decidable_of_iff _ firstAt_iff.symm

inductive SettlesAt (c : Coordinator ι) (role : Role) (reuseLast : Bool) (d : Draw) (i : Nat) :
    Prop where
  | unavoided : c.FirstAt d (fun k => c.FreeAt role k ∧ ¬ c.AvoidedAt role reuseLast k) i →
      SettlesAt c role reuseLast d i
  | avoided : (∀ j < c.window, c.FreeAt role (d.subnetAfter j) →
        c.AvoidedAt role reuseLast (d.subnetAfter j)) →
      c.FirstAt d (c.FreeAt role) i → SettlesAt c role reuseLast d i

section Candidates

variable {p : Ipv4.Interface → Bool} {P : Fin 256 → Prop}
  (hp : ∀ k, p (c.addressIn k d.host) = true ↔ P k)
include hp

theorem find?_candidates_eq_some_iff : (c.candidates d).find? p = some a ↔
    ∃ i, c.FirstAt d P i ∧ a = c.addressIn (d.subnetAfter i) d.host := by
  change ((List.range c.window).map fun i => c.addressIn (d.subnetAfter i) d.host).find? p = _ ↔ _
  rw [List.find?_map, Option.map_eq_some_iff]
  refine exists_congr fun i => and_congr ?_ eq_comm
  simp only [firstAt_iff, List.find?_range_eq_some, Function.comp_apply, List.mem_range,
    Bool.not_eq_true', ← Bool.not_eq_true, hp]
  exact and_left_comm

theorem find?_candidates_eq_none_iff :
    (c.candidates d).find? p = none ↔ ∀ i < c.window, ¬ P (d.subnetAfter i) := by
  change ((List.range c.window).map fun i => c.addressIn (d.subnetAfter i) d.host).find? p = _ ↔ _
  simp only [List.find?_map, Option.map_eq_none_iff, List.find?_range_eq_none, Function.comp_apply,
    Bool.not_eq_true', ← Bool.not_eq_true, hp]

end Candidates

section Probe

theorem isOpen_addressIn (k : Fin 256) :
    c.isOpen role (c.addressIn k d.host) = true ↔ c.FreeAt role k := by
  rw [isOpen, Bool.not_eq_true', block_addressIn, isTaken_subnet_iff]

theorem isSuitable_addressIn (k : Fin 256) :
    c.isSuitable role reuseLast (c.addressIn k d.host) = true ↔
      c.FreeAt role k ∧ ¬ c.AvoidedAt role reuseLast k := by
  rw [isSuitable, Bool.and_eq_true, isOpen_addressIn, Bool.not_eq_true', ← Bool.not_eq_true,
    List.contains_iff_mem, block_addressIn, subnet_mem_avoided_iff]

theorem probe_eq_some_iff : c.probe role reuseLast d = some a ↔
    ∃ i, c.SettlesAt role reuseLast d i ∧ a = c.addressIn (d.subnetAfter i) d.host := by
  simp only [probe_eq, Option.or_eq_some_iff, find?_candidates_eq_some_iff isSuitable_addressIn,
    find?_candidates_eq_none_iff isSuitable_addressIn,
    find?_candidates_eq_some_iff isOpen_addressIn, not_and, Decidable.not_not]
  constructor
  · rintro (⟨i, hi, rfl⟩ | ⟨hn, i, hi, rfl⟩)
    · exact ⟨i, .unavoided hi, rfl⟩
    · exact ⟨i, .avoided hn hi, rfl⟩
  · rintro ⟨i, hi | ⟨hn, hi⟩, rfl⟩
    · exact Or.inl ⟨i, hi, rfl⟩
    · exact Or.inr ⟨hn, i, hi, rfl⟩

theorem probe_eq_none_iff_forall_window :
    c.probe role reuseLast d = none ↔ ∀ i < c.window, ¬ c.FreeAt role (d.subnetAfter i) := by
  simp only [probe_eq, Option.or_eq_none_iff, find?_candidates_eq_none_iff isSuitable_addressIn,
    find?_candidates_eq_none_iff isOpen_addressIn]
  exact and_iff_right_of_imp fun hn i hi h => hn i hi h.1

end Probe

/-- What comes of a request that takes the draw `d`. -/
structure SettledBy (c : Coordinator ι) (role : Role) (reuseLast : Bool) (d : Draw)
    (result : Except Failure Ipv4.Interface) : Prop where
  exhausted_iff : result = .error (.exhausted role) ↔
    ∀ i < c.window, ¬ c.FreeAt role (d.subnetAfter i)
  granted_iff : ∀ a, result = .ok a ↔
    ∃ i, c.SettlesAt role reuseLast d i ∧ a = c.addressIn (d.subnetAfter i) d.host
  exhausted_iff_full : 256 ≤ c.settings.maxAttempts →
    (result = .error (.exhausted role) ↔ ∀ k, ¬ c.FreeAt role k)
  /-- Nor does it matter to whether the request ends where it should not. -/
  avoided_iff : 256 ≤ c.settings.maxAttempts →
    ((∃ k h, result = .ok (c.addressIn k h) ∧ c.AvoidedAt role reuseLast k) ↔
      (∃ k, c.FreeAt role k) ∧ ∀ k, c.FreeAt role k → c.AvoidedAt role reuseLast k)

theorem forall_window_iff (hm : 256 ≤ c.settings.maxAttempts) (P : Fin 256 → Prop) :
    (∀ i < c.window, P (d.subnetAfter i)) ↔ ∀ k, P k := by
  have hw : c.window = 256 := Nat.min_eq_right hm
  rw [hw]
  constructor
  · intro h k
    obtain ⟨i, hi, rfl⟩ := d.exists_subnetAfter_eq k
    exact h i hi
  · intro h i _
    exact h _

theorem addressIn_injective {k l h h' : Fin 256} (he : c.addressIn k h = c.addressIn l h') :
    k = l := by
  have hb := congrArg Ipv4.Interface.block he
  rw [block_addressIn, block_addressIn] at hb
  exact c.settings.subnet_injective hb

theorem settledBy_of_probe {result : Except Failure Ipv4.Interface}
    (hnone : result = .error (.exhausted role) ↔ c.probe role reuseLast d = none)
    (hsome : ∀ a, result = .ok a ↔ c.probe role reuseLast d = some a) :
    c.SettledBy role reuseLast d result := by
  have hexh := hnone.trans probe_eq_none_iff_forall_window
  have hgr := fun a => (hsome a).trans probe_eq_some_iff
  refine ⟨hexh, hgr, fun hm => ?_, fun hm => ?_⟩
  · rw [hexh]
    exact forall_window_iff hm fun k => ¬ c.FreeAt role k
  constructor
  · rintro ⟨k, h, hk, hav⟩
    obtain ⟨i, hi, heq⟩ := (hgr _).mp hk
    obtain rfl := addressIn_injective heq
    cases hi with
    | unavoided hi => exact absurd hav hi.1.2.2
    | avoided hall hi =>
      exact ⟨⟨_, hi.1.2⟩,
        (forall_window_iff hm fun k => c.FreeAt role k → c.AvoidedAt role reuseLast k).mp hall⟩
  · rintro ⟨⟨k, hk⟩, hall⟩
    cases hp : c.probe role reuseLast d with
    | none =>
      have hn := probe_eq_none_iff_forall_window.mp hp
      exact absurd hk ((forall_window_iff hm fun k => ¬ c.FreeAt role k).mp hn k)
    | some a =>
      obtain ⟨i, hi, rfl⟩ := probe_eq_some_iff.mp hp
      refine ⟨_, _, (hsome _).mpr hp, ?_⟩
      cases hi with
      | unavoided hi => exact hall _ hi.1.2.1
      | avoided _ hi => exact hall _ hi.1.2

end Coordinator

open Coordinator

/-- A request that takes a draw is settled by the sweep of this draw, whatever source it is from. -/
theorem draw_settles {ι : Type} (c : Coordinator ι) (role : Role) (reuseLast : Bool)
    (source : DrawSource) (n : Int) (hd : c.NeedsDraw role reuseLast)
    (hn : source.next?.1 = some (.ofInt n)) :
    c.SettledBy role reuseLast (.ofInt n)
      (request role reuseLast { c with draws := source }).result := by
  obtain ⟨hp, hr⟩ := needsDraw_iff.mp hd
  cases hno : c.probe role reuseLast (.ofInt n) with
  | none =>
    have hf := Refusal.exhausted (c := { c with draws := source }) hp hr hn hno
    rw [request_of_refusal hf]
    exact settledBy_of_probe (by simp [hno]) (by simp [hno])
  | some a =>
    have hg := Grant.drawn (c := { c with draws := source }) hp hr hn hno
    rw [request_of_grant hg]
    exact settledBy_of_probe (by simp [hno]) (by simp [hno])

/-- The owner that has moved to 192.168.45.5 gives the link up. All draws are of the subnet of the
uplink, two before this one, and the subnet between them is reserved. -/
def Coordinator.vacated (settings : Settings) : Coordinator String :=
  (release .wifi (Routine.collision.act
    (.start settings (.feed (fun _ => .ofInt 0x2b05) 0) (some true))).state).state

def Settings.threeAttempts : Settings :=
  { standard with maxAttempts := 3, maxAttempts_pos := by decide }

/-- Another role passes the vacated subnet over, and takes it if it may not try a fourth one. -/
theorem vacated_settles :
    (request .usb false (.vacated .standard)).result =
        .ok (.inSubnet (.ofOctets 192 168 46 5)) ∧
      (request .usb false (.vacated .threeAttempts)).result =
        .ok (.inSubnet (.ofOctets 192 168 45 5)) := by
  have hfull : (vacated .standard).NeedsDraw .usb false := by decide +kernel
  have hthree : (vacated .threeAttempts).NeedsDraw .usb false := by decide +kernel
  refine ⟨((draw_settles _ _ _ (vacated .standard).draws 0x2b05 hfull rfl).granted_iff _).mpr ?_,
    ((draw_settles _ _ _ (vacated .threeAttempts).draws 0x2b05 hthree rfl).granted_iff _).mpr ?_⟩
  · exact ⟨3, .unavoided (by decide +kernel), by decide +kernel⟩
  · exact ⟨2, .avoided (by decide +kernel) (by decide +kernel), by decide +kernel⟩

end Downlink
