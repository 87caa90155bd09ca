import Downlink.Proofs.Coordinator.Update

/-! # Collisions

The reservations that collide with a snapshot, as the conflicts that an update
signals. Where the listeners leave the coordinator alone, an update is the record
of the snapshot followed by these signals, and each goes to every listener.
-/

namespace Downlink

def Event.isNotice {ι : Type} : Event ι → Bool
  | signalled .. | delivered .. => true
  | _ => false

def Event.signal? {ι : Type} : Event ι → Option Conflict
  | signalled k => some k
  | _ => none

def signalsIn {ι : Type} (events : List (Event ι)) : List Conflict :=
  events.filterMap Event.signal?

theorem signalsIn_append {ι : Type} (es fs : List (Event ι)) :
    signalsIn (es ++ fs) = signalsIn es ++ signalsIn fs :=
  List.filterMap_append

namespace Coordinator

variable {ι : Type}

/-- The conflicts of some reservations with the blocks of a network, in the order of the
reservations. -/
def conflictsWith (network : String) (blocks : List Ipv4.Block) (rs : List Reservation) :
    List Conflict :=
  (rs.filter fun r => blocks.any r.block.overlaps).map fun r => ⟨r.role, r.block, network⟩

def collisions (c : Coordinator ι) (s : Snapshot) : List Conflict :=
  conflictsWith s.network s.blocks c.reservations.toList

section ConflictsWith

variable {network : String} {blocks : List Ipv4.Block} {r : Reservation}

theorem conflictsWith_cons_of_hit (ho : blocks.any r.block.overlaps = true)
    (rs : List Reservation) :
    conflictsWith network blocks (r :: rs) =
      [⟨r.role, r.block, network⟩] ++ conflictsWith network blocks rs := by
  simp [conflictsWith, ho]

theorem conflictsWith_cons_of_clear (ho : blocks.any r.block.overlaps = false)
    (rs : List Reservation) :
    conflictsWith network blocks (r :: rs) = conflictsWith network blocks rs := by
  simp [conflictsWith, ho]

end ConflictsWith

def notices (ls : List ι) (k : Conflict) : List (Event ι) :=
  .signalled k :: ls.map fun l => .delivered l k

theorem record_listeners (s : Snapshot) (c : Coordinator ι) :
    (record s c).state.listeners = c.listeners := by
  unfold record
  split <;> rfl

theorem signalsIn_record (s : Snapshot) (c : Coordinator ι) :
    signalsIn (record s c).events = [] := by
  unfold record
  split <;> rfl

section Quiet

variable {react : ι → Conflict → Act ι Unit} {c : Coordinator ι}

theorem deliver_of_quiet {ls : List ι} (hq : ∀ l ∈ ls, ∀ k, react l k = Act.done ()) (k : Conflict)
    (c : Coordinator ι) :
    deliver react k ls c = ⟨.ok (), c, ls.map fun l => .delivered l k⟩ := by
  induction ls with
  | nil => rfl
  | cons l ls ih =>
    obtain ⟨hl, hls⟩ := List.forall_mem_cons.mp hq
    rw [deliver_cons_of_ok (by rw [hl]; rfl), hl]
    simp [Act.done, ih hls]

variable (hq : ∀ l ∈ c.listeners, ∀ k, react l k = Act.done ())
include hq

theorem signal_of_quiet (k : Conflict) :
    signal react k c = ⟨.ok (), c, notices c.listeners k⟩ := by
  rw [signal_eq, deliver_of_quiet hq]
  rfl

theorem announce_of_quiet (network : String) (blocks : List Ipv4.Block) (rs : List Reservation) :
    announce react network blocks rs c =
      ⟨.ok ((conflictsWith network blocks rs).map Conflict.role), c,
        (conflictsWith network blocks rs).flatMap (notices c.listeners)⟩ := by
  induction rs with
  | nil => rfl
  | cons r rs ih =>
    cases ho : blocks.any r.block.overlaps with
    | true =>
      rw [announce_cons_of_ok ho (by rw [signal_of_quiet hq]), signal_of_quiet hq]
      simp [ih, conflictsWith_cons_of_hit ho, Except.map]
    | false =>
      rw [announce_cons_of_clear ho, ih, conflictsWith_cons_of_clear ho]

theorem update_of_quiet (s : Snapshot) :
    update react s c =
      ⟨.ok ((c.collisions s).map Conflict.role), (record s c).state,
        (record s c).events ++
          (c.collisions s).flatMap (notices (record s c).state.listeners)⟩ := by
  have hq' : ∀ l ∈ (record s c).state.listeners, ∀ k, react l k = Act.done () := by
    rwa [record_listeners]
  have ha := announce_of_quiet hq' s.network s.blocks c.reservations.toList
  rw [update_eq]
  simp only [ha]
  rfl

end Quiet

theorem filter_isNotice_notices (ls : List ι) (ks : List Conflict) :
    (ks.flatMap (notices ls)).filter Event.isNotice = ks.flatMap (notices ls) := by
  rw [List.filter_eq_self]
  intro e he
  obtain ⟨k, _, he⟩ := List.mem_flatMap.mp he
  rcases List.mem_cons.mp he with rfl | he
  · rfl
  · obtain ⟨l, _, rfl⟩ := List.mem_map.mp he
    rfl

theorem signalsIn_notices (ls : List ι) (ks : List Conflict) :
    signalsIn (ks.flatMap (notices ls)) = ks := by
  induction ks with
  | nil => rfl
  | cons k ks ih =>
    rw [signalsIn] at ih
    simp [signalsIn, notices, Event.signal?, Function.comp_def, ih]

end Coordinator

theorem Event.filterMap_filter_isNotice {ι α : Type} {f : Event ι → Option α}
    (hf : ∀ e, e.isNotice = false → f e = none) (events : List (Event ι)) :
    (events.filter isNotice).filterMap f = events.filterMap f := by
  rw [List.filterMap_filter]
  congr
  funext e
  cases he : e.isNotice with
  | true => rfl
  | false => exact (hf e he).symm

theorem signalsIn_filter_isNotice {ι : Type} (events : List (Event ι)) :
    signalsIn (events.filter Event.isNotice) = signalsIn events :=
  Event.filterMap_filter_isNotice (fun e he => by cases e <;> first | rfl | cases he) events

end Downlink
