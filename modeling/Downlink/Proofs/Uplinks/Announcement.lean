import Downlink.Proofs.Routine.Draws
import Downlink.Proofs.Uplinks.Order

/-! # What an update announces

The reservations that an update examines are those of the moment at which it was
called. Its listeners may do with the links what they like: each of these that
shares an address with the snapshot is signalled, until a listener fails. The
snapshot has been recorded by then, and since the signals do not depend on what
was known before, the same snapshot once more signals all that it hits.
-/

namespace Downlink

variable {ι : Type}

namespace Act

variable {α β : Type} {x : Act ι α}

structure Discreet (x : Act ι α) : Prop where
  uplinks : ∀ c, (x c).state.uplinks = c.uplinks
  signals : ∀ c, signalsIn (x c).events = []

theorem Discreet.bind {f : α → Act ι β} (hx : x.Discreet) (hf : ∀ a, (f a).Discreet) :
    (x >>= f).Discreet := by
  constructor <;> intro c
  · cases hr : (x c).result with
    | ok a => rw [bind_of_ok hr, (hf a).uplinks, hx.uplinks]
    | error e => rw [bind_of_error hr, hx.uplinks]
  · cases hr : (x c).result with
    | ok a => rw [bind_of_ok hr, signalsIn_append, (hf a).signals, hx.signals, List.append_nil]
    | error e => rw [bind_of_error hr, hx.signals]

theorem Discreet.attempt {f : Except Failure α → Act ι β} (hx : x.Discreet)
    (hf : ∀ r, (f r).Discreet) : (x.attempt f).Discreet where
  uplinks c := ((hf _).uplinks _).trans (hx.uplinks c)
  signals c := by
    change signalsIn ((x c).events ++ (f (x c).result (x c).state).events) = []
    rw [signalsIn_append, hx.signals, (hf _).signals, List.append_nil]

end Act

theorem Operation.discreet_act [DecidableEq ι] {op : Operation ι}
    (hop : ∀ network, op ≠ .forget network) : op.act.Discreet := by
  cases op with
  | forget network => exact absurd rfl (hop network)
  | request role reuseLast =>
    constructor <;> intro c
    · rw [act_request]
      exact (c.requestFrame role reuseLast).uplinks
    · rw [act_request]
      rcases c.grant_or_refusal role reuseLast with ⟨a, o, hg⟩ | ⟨f, hf⟩
      · rw [Coordinator.request_of_grant hg]
        rfl
      · rw [Coordinator.request_of_refusal hf]
        rfl
  | release role =>
    constructor <;> intro c <;> simp only [act, Coordinator.release] <;> split <;> rfl
  | pin d =>
    refine ⟨fun c => ?_, fun c => rfl⟩
    simp only [act, Coordinator.pin?]
    split <;> rfl
  | _ => exact ⟨fun c => rfl, fun c => rfl⟩

/-- The routine deals with links and listeners only: it asks for links, gives them up, adds or
removes listeners. -/
inductive Routine.IsLocal : Routine ι → Prop where
  | done : IsLocal .done
  | fail {f : Failure} : IsLocal (.fail f)
  | inspect {rest : Coordinator ι → Routine ι} :
      (∀ c, IsLocal (rest c)) → IsLocal (.inspect rest)
  | perform {op : Operation ι} {rest : Except Failure Unit → Routine ι} :
      (∀ network, op ≠ .forget network) → (∀ r, IsLocal (rest r)) → IsLocal (.perform op rest)

theorem Routine.IsLocal.discreet_act [DecidableEq ι] {p : Routine ι} (hp : p.IsLocal) :
    p.act.Discreet := by
  induction hp with
  | done => exact ⟨fun c => rfl, fun c => rfl⟩
  | fail => exact ⟨fun c => rfl, fun c => rfl⟩
  | inspect _ ih => exact ⟨fun c => (ih c).uplinks c, fun c => (ih c).signals c⟩
  | perform hop _ ih => exact (Operation.discreet_act hop).attempt ih

theorem Routine.isLocal_yield (k : Conflict) : (yield k : Routine ι).IsLocal :=
  .perform (by simp) fun _ => .perform (by simp) fun _ => .done

def Reservation.conflict (network : String) (r : Reservation) : Conflict :=
  ⟨r.role, r.block, network⟩

theorem Snapshot.blocks_eq_nil_iff {s : Snapshot} : s.blocks = [] ↔
    s.transport = none ∨ s.transport = some .vpn ∨ Ipv4.blocksOf s.addresses = [] := by
  rw [blocks]
  cases ht : s.transport with
  | none => simp [Uplinks.reported?]
  | some t => cases t <;> simp [Uplinks.reported?]

namespace Coordinator

variable {react : ι → Conflict → Act ι Unit} {s : Snapshot} {c c' : Coordinator ι}
  {k : Conflict} {l : ι} {ls : List ι} {h : List (Event ι)} {network : String}
  {blocks : List Ipv4.Block} {r : Reservation} {rs : List Reservation} {f : Failure}

/-- The live reservations that share an address with a block which the uplinks return for the
snapshot. -/
def hit (c : Coordinator ι) (s : Snapshot) : List Reservation :=
  c.reservations.toList.filter fun r =>
    ∃ b ∈ (c.uplinks.report s.network s.addresses s.transport).1, r.block.Meets b

def NoneFails (react : ι → Conflict → Act ι Unit) (s : Snapshot) (c : Coordinator ι) : Prop :=
  ∀ h l k c', UpdateCalls react s c h l k c' → (react l k c').result = .ok ()

/-- What an update announces, and what it leaves alone. -/
structure Announces (react : ι → Conflict → Act ι Unit) (s : Snapshot) (c : Coordinator ι) :
    Prop where
  /-- Without a failure each reservation that is hit is signalled once, in their order, as it was
  when the update was called. -/
  completed : NoneFails react s c →
    (update react s c).result = .ok ((c.hit s).map Reservation.role) ∧
      signalsIn (update react s c).events = (c.hit s).map (Reservation.conflict s.network)
  nodup : ((c.hit s).map Reservation.role).Nodup
  mute : s.transport = none ∨ s.transport = some .vpn ∨ Ipv4.blocksOf s.addresses = [] →
    (update react s c).result = .ok [] ∧ signalsIn (update react s c).events = []
  failed : ∀ h l k c' f, UpdateCalls react s c h l k c' → (react l k c').result = .error f →
    (update react s c).result = .error f ∧
      ∃ before after, (c.hit s).map (Reservation.conflict s.network) = before ++ [k] ++ after ∧
        signalsIn h = before ++ [k] ∧ signalsIn (update react s c).events = before ++ [k]
  uplinks : (update react s c).state.uplinks =
    (c.uplinks.report s.network s.addresses s.transport).2
  tracked : s.transport ≠ some .vpn → (update react s c).state.uplinks.blocksFor s.network =
    (c.uplinks.report s.network s.addresses s.transport).1
  /-- All that happens to the reservations is what the listeners do to them. -/
  reservations : ∀ I : Reservations → Prop, I c.reservations →
    (∀ h l k c', UpdateCalls react s c h l k c' → I c'.reservations →
      I (react l k c').state.reservations) → I (update react s c).state.reservations
  released : ∀ role, .released role ∈ (update react s c).events →
    ∃ h l k c', UpdateCalls react s c h l k c' ∧ .released role ∈ (react l k c').events
  /-- What was known of the uplinks does not matter: over the same live reservations the snapshot
  signals the same, be it after a failure. -/
  level : ∀ (react' : ι → Conflict → Act ι Unit) (c' : Coordinator ι),
    (∀ l k, (react' l k).Discreet) → c'.reservations.toList = c.reservations.toList →
    NoneFails react' s c' →
    (update react' s c').result = .ok ((c.hit s).map Reservation.role) ∧
      signalsIn (update react' s c').events = (c.hit s).map (Reservation.conflict s.network)
  again : ∀ (react' : ι → Conflict → Act ι Unit) (c' : Coordinator ι),
    (∀ l k, (react' l k).Discreet) →
    c'.uplinks.entries.get? s.network =
      (update react s c).state.uplinks.entries.get? s.network →
    (update react' s c').state.uplinks = c'.uplinks

section Discreet

theorem discreet_deliver (hd : ∀ l k, (react l k).Discreet) (k : Conflict) (ls : List ι) :
    (deliver react k ls).Discreet := by
  induction ls with
  | nil => exact ⟨fun c => rfl, fun c => rfl⟩
  | cons l ls ih => exact .bind ⟨fun c => rfl, fun c => rfl⟩ fun _ => (hd l k).bind fun _ => ih

variable (hd : ∀ l k, (react l k).Discreet)
include hd

theorem signalsIn_signal (k : Conflict) (c : Coordinator ι) :
    signalsIn (signal react k c).events = [k] := by
  rw [signal_eq, signalsIn_append, (discreet_deliver hd k _).signals]
  rfl

theorem DeliverCalls.signalsIn_eq (hc : DeliverCalls react k ls c h l c') : signalsIn h = [] := by
  induction hc with
  | first => rfl
  | next _ _ ih =>
    rw [signalsIn_append, signalsIn_append, (hd _ _).signals, ih]
    rfl

theorem signalsIn_announce_of_ok {roles : List Role}
    (hr : (announce react network blocks rs c).result = .ok roles) :
    signalsIn (announce react network blocks rs c).events = conflictsWith network blocks rs := by
  induction rs generalizing c roles with
  | nil => rfl
  | cons r rs ih =>
    cases ho : blocks.any r.block.overlaps with
    | false =>
      rw [announce_cons_of_clear ho] at hr ⊢
      rw [ih hr, conflictsWith_cons_of_clear ho]
    | true =>
      cases hs : (signal react ⟨r.role, r.block, network⟩ c).result with
      | error e =>
        rw [announce_cons_of_error ho hs] at hr
        cases hr
      | ok u =>
        rw [announce_cons_of_ok ho hs] at hr ⊢
        cases ha : (announce react network blocks rs
            (signal react ⟨r.role, r.block, network⟩ c).state).result with
        | error e => simp [ha, Except.map] at hr
        | ok roles' =>
          rw [signalsIn_append, signalsIn_signal hd, ih ha, conflictsWith_cons_of_hit ho]

theorem AnnounceSignals.signalsIn_prefix (hs : AnnounceSignals react network blocks rs c h k c') :
    signalsIn h <+: conflictsWith network blocks rs := by
  induction hs with
  | first ho =>
    rw [conflictsWith_cons_of_hit ho]
    exact List.prefix_append ..
  | next ho _ _ ih =>
    rw [signalsIn_append, signalsIn_signal hd, conflictsWith_cons_of_hit ho]
    exact (List.prefix_append_right_inj _).mpr ih
  | pass ho _ ih => rwa [conflictsWith_cons_of_clear ho]

theorem update_uplinks (s : Snapshot) (c : Coordinator ι) :
    (update react s c).state.uplinks =
      (c.uplinks.report s.network s.addresses s.transport).2 := by
  refine (update_keeps (h := []) (T := fun _ c' => c'.uplinks =
    (c.uplinks.report s.network s.addresses s.transport).2) ?_ ?_ ?_ ?_).1
  · exact fun _ _ _ _ ht => ht
  · exact fun _ _ _ _ ht => ht
  · exact fun _ _ _ _ _ ht => ((hd _ _).uplinks _).trans ht
  · rw [record_state]
    rfl

end Discreet

theorem report_fst (u : Uplinks) (s : Snapshot) :
    (u.report s.network s.addresses s.transport).1 = s.blocks := by
  rw [Uplinks.report, Snapshot.blocks]
  cases Uplinks.reported? s.addresses s.transport <;> rfl

theorem hit_eq_filter (c : Coordinator ι) (s : Snapshot) :
    c.hit s = c.reservations.toList.filter fun r => s.blocks.any r.block.overlaps := by
  refine List.filter_congr fun r _ => ?_
  rw [report_fst, Bool.eq_iff_iff, decide_eq_true_iff, Ipv4.Block.any_overlaps_iff]

theorem map_conflict_hit (c : Coordinator ι) (s : Snapshot) :
    (c.hit s).map (Reservation.conflict s.network) = c.collisions s := by
  rw [hit_eq_filter]
  rfl

theorem hit_congr (ht : c'.reservations.toList = c.reservations.toList) (s : Snapshot) :
    c'.hit s = c.hit s := by
  rw [hit_eq_filter, hit_eq_filter, ht]

theorem hit_eq_nil (hb : s.blocks = []) : c.hit s = [] := by
  rw [hit_eq_filter, hb]
  exact List.filter_eq_nil_iff.mpr fun _ _ => Bool.false_ne_true

theorem noneFails_of_blocks_eq_nil (hb : s.blocks = []) : NoneFails react s c := by
  rintro h l k c' ⟨hs, _⟩
  obtain ⟨r, _, ho, _⟩ := hs.mem
  rw [hb] at ho
  cases ho

section Update

theorem NoneFails.exists_ok (hn : NoneFails react s c) :
    ∃ roles, (update react s c).result = .ok roles := by
  cases hr : (update react s c).result with
  | ok roles => exact ⟨roles, rfl⟩
  | error f =>
    obtain ⟨h, l, k, c', hc, hf⟩ := exists_updateCalls_of_error hr
    simp [hn h l k c' hc] at hf

variable (hd : ∀ l k, (react l k).Discreet)
include hd

theorem NoneFails.completed (hn : NoneFails react s c) :
    (update react s c).result = .ok ((c.hit s).map Reservation.role) ∧
      signalsIn (update react s c).events = (c.hit s).map (Reservation.conflict s.network) := by
  obtain ⟨roles, hr⟩ := hn.exists_ok
  rw [update_eq] at hr ⊢
  refine ⟨?_, ?_⟩
  · rw [hit_eq_filter, ← announce_roles hr]
    exact hr
  · rw [map_conflict_hit, signalsIn_append, signalsIn_record, signalsIn_announce_of_ok hd hr]
    rfl

/-- The delivery that fails signals nothing more, so the update ends with the signal `k`. -/
theorem UpdateCalls.failed (hc : UpdateCalls react s c h l k c')
    (hf : (react l k c').result = .error f) :
    (update react s c).result = .error f ∧
      ∃ before after, (c.hit s).map (Reservation.conflict s.network) = before ++ [k] ++ after ∧
        signalsIn h = before ++ [k] ∧ signalsIn (update react s c).events = before ++ [k] := by
  obtain ⟨hs, hc⟩ := hc
  obtain ⟨h₁, rfl, ha⟩ := hs.exists_announceSignals
  obtain ⟨hres, hevents⟩ := ha.announce_of_error (hc.result_of_error hf)
  -- the signals until the call are the first of the conflicts, and `k` is the last of them
  obtain ⟨after, hafter⟩ := ha.signalsIn_prefix hd
  obtain ⟨h₂, rfl⟩ := ha.exists_append
  have hk : signalsIn (h₂ ++ [.signalled k]) = signalsIn h₂ ++ [k] := signalsIn_append ..
  rw [hk] at hafter
  refine ⟨by rw [update_eq]; exact hres, signalsIn h₂, after, ?_, ?_, ?_⟩
  · rw [map_conflict_hit, hafter]
    rfl
  · rw [signalsIn_append, signalsIn_append, signalsIn_record, hk, hc.signalsIn_eq hd]
    simp
  · rw [update_eq]
    simp only [hevents]
    rw [signalsIn_append, signalsIn_append, signalsIn_record, hk, (discreet_deliver hd _ _).signals]
    simp

end Update

theorem announces (hd : ∀ l k, (react l k).Discreet) (s : Snapshot) (c : Coordinator ι) :
    c.Announces react s where
  completed hn := hn.completed hd
  nodup := List.pairwise_map.mpr ((Reservations.pairwise_role_toList _).filter _)
  mute hs := by
    have hb := Snapshot.blocks_eq_nil_iff.mpr hs
    have hc := (noneFails_of_blocks_eq_nil (c := c) hb).completed hd
    rwa [hit_eq_nil hb] at hc
  failed h l k c' f hc hf := hc.failed hd hf
  uplinks := update_uplinks hd s c
  tracked ht := by
    rw [update_uplinks hd]
    exact Uplinks.blocksFor_report ht
  reservations I h₀ hI := by
    refine (update_keeps (h := []) (T := fun _ c' => I c'.reservations) ?_ ?_ hI ?_).1
    · exact fun _ _ _ _ ht => ht
    · exact fun _ _ _ _ ht => ht
    · rwa [record_reservations]
  released role := released_mem_update
  level react' c' hd' ht hn := by
    rw [← hit_congr ht]
    exact hn.completed hd'
  again react' c' hd' he := by
    -- both updates leave the entry that the report makes, whatever was there before
    rw [update_uplinks hd] at he
    exact (update_uplinks hd' s c').trans (Uplinks.report_eq_self he)

end Coordinator

/-- Whatever its listeners do with links and listeners, an update announces exactly what it hits. -/
theorem conflicts_announced [DecidableEq ι] (ls : ι → Conflict → Routine ι)
    (hl : ∀ l k, (ls l k).IsLocal) (s : Snapshot) (c : Coordinator ι) :
    c.Announces (fun l k => (ls l k).act) s :=
  Coordinator.announces (fun l k => (hl l k).discreet_act) s c

def Coordinator.paired : Coordinator String :=
  (request .usb false (request .wifi false (steady.addListener "owner")).state).state

def Snapshot.straddling : Snapshot :=
  ⟨"office", some .wifi, ["192.168.45.9/24", "192.168.43.9/24"]⟩

/-- An owner who fails hears of the first link only. If he yields when the snapshot comes again, he
hears of both, of the second one as well where it was at first. -/
theorem paired_announced :
    let failing := fun (_ : String) (_ : Conflict) => (Routine.fail (.listener "owner failed")).act
    let yielding := fun (_ : String) k => (Routine.yield k).act
    let wifi := (Ipv4.Interface.inSubnet (.ofOctets 192 168 43 5)).block
    let usb := (Ipv4.Interface.inSubnet (.ofOctets 192 168 45 5)).block
    let first := Coordinator.update failing .straddling .paired
    let second := Coordinator.update yielding .straddling first.state
    first.result = .error (.listener "owner failed") ∧
      signalsIn first.events = [⟨.wifi, wifi, "office"⟩] ∧
      first.state.uplinks.blocksFor "office" = [usb, wifi] ∧
      second.result = .ok [.wifi, .usb] ∧
      signalsIn second.events = [⟨.wifi, wifi, "office"⟩, ⟨.usb, usb, "office"⟩] ∧
      second.state.uplinks = first.state.uplinks := by
  intro failing yielding wifi usb first second
  have h : Coordinator.Announces failing .straddling .paired :=
    conflicts_announced (fun _ _ => .fail (.listener "owner failed")) (fun _ _ => .fail) _ _
  have hc : Coordinator.UpdateCalls failing .straddling .paired _ _ _ _ :=
    ⟨⟨rfl, .first (by decide +kernel)⟩, .first⟩
  have hy : ∀ l k, (yielding l k).Discreet := fun _ k => (Routine.isLocal_yield k).discreet_act
  obtain ⟨hres, before, _, _, hh, hsig⟩ := h.failed _ _ _ _ _ hc rfl
  obtain ⟨hres', hsig'⟩ := h.level yielding first.state hy (by decide +kernel) fun _ _ _ _ _ => rfl
  refine ⟨hres, ?_, ?_, ?_, ?_, h.again yielding first.state hy (by with_reducible rfl)⟩
  · rw [hsig, ← hh]
    decide +kernel
  · exact (h.tracked (by decide)).trans (by decide +kernel)
  · rw [hres']
    exact congrArg Except.ok (by decide +kernel)
  · rw [hsig']
    decide +kernel

end Downlink
