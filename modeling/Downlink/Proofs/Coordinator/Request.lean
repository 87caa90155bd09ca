import Downlink.Coordinator.Request
import Downlink.Proofs.Ipv4.Overlap
import Downlink.Proofs.Tables

/-! # What a request does

A request grants the dedicated address, the last one or the first suitable
candidate of a draw, or it is refused and leaves the tables alone. What is known
of a granted address in each of the three cases is all that later proofs need
of the probe.
-/

namespace Downlink

def Settings.subnet (s : Settings) (k : Fin 256) : Ipv4.Block where
  length := Ipv4.Interface.subnetLength
  bits := s.base * 256 + k.val
  length_le := Ipv4.Interface.subnetLength_le
  bits_lt := by
    have hb := s.base_lt
    rw [Nat.one_shiftLeft] at hb ⊢
    simp only [Ipv4.Interface.subnetLength]
    omega

theorem Settings.subnet_injective (s : Settings) : Function.Injective s.subnet := by
  intro k l h
  simp only [subnet, Ipv4.Block.mk.injEq, true_and] at h
  exact Fin.ext (by omega)

theorem DrawSource.calls_next? (d : DrawSource) : d.next?.2.calls = d.calls + 1 := by
  cases d with
  | feed draw calls => rfl
  | scripted s => cases hs : s.remaining <;> simp [next?, Script.next?, calls, hs]

namespace Coordinator

variable {ι : Type} {c : Coordinator ι} {role : Role} {reuseLast : Bool} {a : Ipv4.Interface}
  {b : Ipv4.Block} {d : Draw}

/-- The block is clear of the reserved ranges, of what other roles hold and of the uplinks. -/
structure IsFree (c : Coordinator ι) (role : Role) (b : Ipv4.Block) : Prop where
  reserved : ∀ s ∈ ReservedRanges.standard.blocks, ¬ b.Meets s
  live : ∀ s a, s ≠ role → c.reservations.live.get? s = some a → ¬ b.Meets a.block
  uplinks : ∀ u ∈ c.uplinks.allBlocks, ¬ b.Meets u

theorem isTaken_eq_false_iff : c.isTaken role b = false ↔ c.IsFree role b := by
  simp only [isTaken, ReservedRanges.isReserved, Bool.or_eq_false_iff, List.any_eq_false,
    Ipv4.Block.overlaps_iff_meets, Reservations.mem_liveBlocksExcept]
  constructor
  · rintro ⟨⟨hr, hl⟩, hu⟩
    exact ⟨hr, fun s a hs ha => hl _ ⟨s, a, hs, ha, rfl⟩, hu⟩
  · rintro ⟨hr, hl, hu⟩
    refine ⟨⟨hr, ?_⟩, hu⟩
    rintro _ ⟨s, a, hs, ha, rfl⟩
    exact hl s a hs ha

theorem block_addressIn (c : Coordinator ι) (k h : Fin 256) :
    (c.addressIn k h).block = c.settings.subnet k := by
  have hk : ((c.settings.base * 256 + k.val) * 256 + h.val) / 256 =
      c.settings.base * 256 + k.val := by
    omega
  simpa [addressIn, Ipv4.Interface.inSubnet, Ipv4.Interface.block, Settings.subnet,
    Ipv4.Interface.subnetLength, Nat.shiftRight_eq_div_pow] using hk

theorem exists_subnet_of_mem_candidates (h : a ∈ c.candidates d) :
    ∃ k, a = c.addressIn k d.host := by
  obtain ⟨i, _, rfl⟩ := List.mem_map.mp h
  exact ⟨_, rfl⟩

/-- With attempts enough, a sweep visits every subnet, wherever it starts. -/
theorem mem_candidates (hm : 256 ≤ c.settings.maxAttempts) (k : Fin 256) :
    c.addressIn k d.host ∈ c.candidates d := by
  have hs := d.subnet.isLt
  refine List.mem_map.mpr ⟨(k.val + 256 - d.subnet.val) % 256, ?_, ?_⟩
  · rw [List.mem_range, Settings.subnetCount]
    omega
  · congr 1
    exact Fin.ext (by simp only; omega)

section Probe

def isOpen (c : Coordinator ι) (role : Role) (a : Ipv4.Interface) : Bool :=
  !c.isTaken role a.block

/-- Whether it is free and need not be avoided. -/
def isSuitable (c : Coordinator ι) (role : Role) (reuseLast : Bool) (a : Ipv4.Interface) : Bool :=
  c.isOpen role a && !(c.avoided role reuseLast).contains a.block

theorem pick_eq (isFree isAvoided : Ipv4.Interface → Bool) (passed : Option Ipv4.Interface)
    (as : List Ipv4.Interface) :
    pick isFree isAvoided passed as =
      (as.find? fun a => isFree a && !isAvoided a).or (passed.or (as.find? isFree)) := by
  -- What the pass has passed over comes before all free candidates that are still ahead.
  induction as generalizing passed with
  | nil => simp [pick]
  | cons a as ih =>
    by_cases hf : isFree a = true
    · by_cases ha : isAvoided a = true
      · simp [pick, hf, ha, ih]
      · simp [pick, hf, ha]
    · simp [pick, hf, ih]

/-- Two searches find what the probe finds in one pass. -/
theorem probe_eq (c : Coordinator ι) (role : Role) (reuseLast : Bool) (d : Draw) :
    c.probe role reuseLast d = ((c.candidates d).find? (c.isSuitable role reuseLast)).or
      ((c.candidates d).find? (c.isOpen role)) :=
  pick_eq ..

theorem isOpen_iff : c.isOpen role a = true ↔ c.IsFree role a.block := by
  rw [isOpen, Bool.not_eq_true', isTaken_eq_false_iff]

theorem isSuitable_iff : c.isSuitable role reuseLast a = true ↔
    c.IsFree role a.block ∧ a.block ∉ c.avoided role reuseLast := by
  rw [isSuitable, Bool.and_eq_true, isOpen_iff, Bool.not_eq_true', ← Bool.not_eq_true,
    List.contains_iff_mem]

/-- A probe settles for a block it should avoid only if all free candidates are such. -/
theorem probe_eq_some (h : c.probe role reuseLast d = some a) :
    a ∈ c.candidates d ∧ c.IsFree role a.block ∧
      (a.block ∈ c.avoided role reuseLast → ∀ a' ∈ c.candidates d, c.IsFree role a'.block →
        a'.block ∈ c.avoided role reuseLast) := by
  rw [probe_eq, Option.or_eq_some_iff, List.find?_eq_none] at h
  rcases h with h | ⟨hn, h⟩
  · obtain ⟨hf, ha⟩ := isSuitable_iff.mp (List.find?_some h)
    exact ⟨List.mem_of_find?_eq_some h, hf, fun hm => absurd hm ha⟩
  · refine ⟨List.mem_of_find?_eq_some h, isOpen_iff.mp (List.find?_some h), fun _ a' ha' hf => ?_⟩
    exact Decidable.byContradiction fun hm => hn a' ha' (isSuitable_iff.mpr ⟨hf, hm⟩)

theorem probe_eq_none_iff :
    c.probe role reuseLast d = none ↔ ∀ a ∈ c.candidates d, ¬ c.IsFree role a.block := by
  simp only [probe_eq, Option.or_eq_none_iff, List.find?_eq_none, isOpen_iff, isSuitable_iff]
  exact and_iff_right_of_imp fun hn a ha h => hn a ha h.1

end Probe

section Consult

variable (c : Coordinator ι) (role : Role)

@[simp] theorem consult_settings : (c.consult role).settings = c.settings := by
  unfold consult; split <;> rfl

@[simp] theorem consult_draws : (c.consult role).draws = c.draws := by
  unfold consult; split <;> rfl

@[simp] theorem consult_reservations : (c.consult role).reservations = c.reservations := by
  unfold consult; split <;> rfl

@[simp] theorem consult_uplinks : (c.consult role).uplinks = c.uplinks := by
  unfold consult; split <;> rfl

@[simp] theorem consult_listeners : (c.consult role).listeners = c.listeners := by
  unfold consult; split <;> rfl

@[simp] theorem consult_probe (r : Role) (reuseLast : Bool) (d : Draw) :
    (c.consult role).probe r reuseLast d = c.probe r reuseLast d := by
  unfold consult; split <;> rfl

end Consult

/-- What is known of an address at the moment it is granted. -/
inductive Grant (c : Coordinator ι) (role : Role) (reuseLast : Bool) :
    Ipv4.Interface → Origin → Prop where
  | dedicated : c.isDedicated role = true →
      Grant c role reuseLast ReservedRanges.wifiP2pAddress .dedicated
  | reused {a : Ipv4.Interface} : c.isDedicated role = false →
      c.reusable? role reuseLast = some a → Grant c role reuseLast a .reused
  | drawn {a : Ipv4.Interface} {d : Draw} : c.isDedicated role = false →
      c.reusable? role reuseLast = none → c.draws.next?.1 = some d →
      c.probe role reuseLast d = some a → Grant c role reuseLast a .drawn

inductive Refusal (c : Coordinator ι) (role : Role) (reuseLast : Bool) : Failure → Prop where
  | outOfDraws : c.isDedicated role = false → c.reusable? role reuseLast = none →
      c.draws.next?.1 = none → Refusal c role reuseLast .outOfDraws
  | exhausted {d : Draw} : c.isDedicated role = false → c.reusable? role reuseLast = none →
      c.draws.next?.1 = some d → c.probe role reuseLast d = none →
      Refusal c role reuseLast (.exhausted role)

def drawsAfter (c : Coordinator ι) : Origin → DrawSource
  | .drawn => c.draws.next?.2
  | _ => c.draws

variable {o : Origin} {f : Failure}

theorem request_of_grant (h : Grant c role reuseLast a o) :
    request role reuseLast c =
      ⟨.ok a, { c.consult role with
        draws := c.drawsAfter o
        reservations := c.reservations.reserve role a }, [.granted role a o]⟩ := by
  have hk : c.draws = (c.consult role).draws := (consult_draws c role).symm
  cases h with
  | dedicated hd =>
    simp only [request, if_pos hd, grant, drawsAfter, hk, consult_reservations]
  | reused hd hr =>
    simp only [request, hd, hr, grant, drawsAfter, hk, consult_reservations, Bool.false_eq_true,
      if_false]
  | drawn hd hr hn hp => simp [request, hd, hr, allocate, hn, hp, grant, drawsAfter]

theorem request_of_refusal (h : Refusal c role reuseLast f) :
    request role reuseLast c =
      ⟨.error f, { c.consult role with draws := c.draws.next?.2 }, [.refused role]⟩ := by
  cases h with
  | outOfDraws hd hr hn => simp [request, hd, hr, allocate, hn]
  | exhausted hd hr hn hp => simp [request, hd, hr, allocate, hn, hp]

theorem grant_or_refusal (c : Coordinator ι) (role : Role) (reuseLast : Bool) :
    (∃ a o, Grant c role reuseLast a o) ∨ ∃ f, Refusal c role reuseLast f := by
  cases hd : c.isDedicated role with
  | true => exact Or.inl ⟨_, _, .dedicated hd⟩
  | false =>
    cases hr : c.reusable? role reuseLast with
    | some a => exact Or.inl ⟨a, _, .reused hd hr⟩
    | none =>
      cases hn : c.draws.next?.1 with
      | none => exact Or.inr ⟨_, .outOfDraws hd hr hn⟩
      | some d =>
        cases hp : c.probe role reuseLast d with
        | some a => exact Or.inl ⟨a, _, .drawn hd hr hn hp⟩
        | none => exact Or.inr ⟨_, .exhausted hd hr hn hp⟩

theorem reusable?_eq_some_iff : c.reusable? role reuseLast = some a ↔
    c.reservations.last.get? role = some a ∧ reuseLast = true ∧ c.IsFree role a.block := by
  simp only [reusable?, Reservations.lastAddress?, Option.filter_eq_some_iff, Bool.and_eq_true,
    Bool.not_eq_true', isTaken_eq_false_iff]

/-- Neither the dedicated address nor the last one of the role answers the request. -/
def NeedsDraw (c : Coordinator ι) (role : Role) (reuseLast : Bool) : Prop :=
  ¬ (role = .wifiP2p ∧ c.policy.answer = true) ∧
    ¬ (reuseLast = true ∧ ∃ a, c.reservations.last.get? role = some a ∧ c.IsFree role a.block)

theorem needsDraw_iff : c.NeedsDraw role reuseLast ↔
    c.isDedicated role = false ∧ c.reusable? role reuseLast = none := by
  refine and_congr (by simp [isDedicated]) ?_
  rw [Option.eq_none_iff_forall_ne_some]
  constructor
  · rintro hn a ha
    obtain ⟨hl, hr, hf⟩ := reusable?_eq_some_iff.mp ha
    exact hn ⟨hr, a, hl, hf⟩
  · rintro hn ⟨hr, a, hl, hf⟩
    exact hn a (reusable?_eq_some_iff.mpr ⟨hl, hr, hf⟩)

instance : Decidable (c.NeedsDraw role reuseLast) :=
  decidable_of_iff _ needsDraw_iff.symm

theorem Grant.needsDraw_iff (hg : c.Grant role reuseLast a o) :
    c.NeedsDraw role reuseLast ↔ o = .drawn := by
  rw [Coordinator.needsDraw_iff]
  cases hg with
  | dedicated hd => simp [hd]
  | reused hd hr => simp [hr]
  | drawn hd hr => simp [hd, hr]

theorem Refusal.needsDraw (hf : c.Refusal role reuseLast f) : c.NeedsDraw role reuseLast := by
  rw [needsDraw_iff]
  cases hf with
  | outOfDraws hd hr => exact ⟨hd, hr⟩
  | exhausted hd hr => exact ⟨hd, hr⟩

end Coordinator

end Downlink
