import Downlink.Proofs.Coordinator.Collisions
import Downlink.Proofs.Coordinator.Request
import Downlink.Proofs.Uplinks.Interleaving

/-! # The order of changes to different networks

Where the listeners leave the coordinator alone, a change signals what its own
addresses and the live reservations say, and it leaves all but the uplinks as it
was. A request looks at the blocks of all uplinks together. So two sequences of
changes that agree network by network cannot be told apart.
-/

namespace Downlink

open Uplinks

namespace Coordinator

variable {ι : Type} {react : ι → Conflict → Act ι Unit} {c : Coordinator ι} {u : Uplinks}

def onUplinks (c : Coordinator ι) (u : Uplinks) : Coordinator ι :=
  { c with uplinks := u }

def change (react : ι → Conflict → Act ι Unit) : Change → Act ι Unit
  | .report network addresses transport => do
    let _ ← update react ⟨network, transport, addresses⟩
    Act.done ()
  | .forget network => forget network

def changeAll (react : ι → Conflict → Act ι Unit) : List Change → Act ι Unit
  | [] => Act.done ()
  | ch :: rest => do
    change react ch
    changeAll react rest

def changeCollisions (c : Coordinator ι) : Change → List Conflict
  | .report network addresses transport => c.collisions ⟨network, transport, addresses⟩
  | .forget _ => []

theorem changeCollisions_congr (c : Coordinator ι) {ch d : Change} (h : ch.Restates d) :
    c.changeCollisions ch = c.changeCollisions d := by
  cases h with
  | forget => rfl
  | @report network addresses addresses' transport ha =>
    have hany (r : Reservation) :
        (Snapshot.blocks ⟨network, transport, addresses⟩).any r.block.overlaps =
          (Snapshot.blocks ⟨network, transport, addresses'⟩).any r.block.overlaps := by
      have hp : (Snapshot.blocks ⟨network, transport, addresses⟩).Perm
          (Snapshot.blocks ⟨network, transport, addresses'⟩) := by
        cases transport with
        | none => exact .refl _
        | some t =>
          cases t with
          | vpn => exact .refl _
          | _ => exact ha.blocksOf_perm
      exact hp.any_eq
    simp only [changeCollisions, collisions, conflictsWith, hany]

section Quiet

theorem record_state (s : Snapshot) (c : Coordinator ι) :
    (record s c).state =
      c.onUplinks ((Change.report s.network s.addresses s.transport).apply c.uplinks) := by
  simp only [record, Change.apply, Uplinks.report]
  cases Uplinks.reported? s.addresses s.transport <;> rfl

theorem forget_state (network : String) (c : Coordinator ι) :
    (forget network c).state = c.onUplinks ((Change.forget network).apply c.uplinks) := by
  unfold forget
  split
  · rfl
  · next hk =>
    have hn : c.uplinks.entries.get? network = none := by simpa [Uplinks.knows] using hk
    have hf : c.uplinks.forget network = c.uplinks := by
      rw [Uplinks.forget, Ledger.erase_eq_self hn]
    simp only [Change.apply, hf, onUplinks]

theorem change_of_quiet (hq : ∀ l ∈ c.listeners, ∀ k, react l k = Act.done ()) (ch : Change) :
    (change react ch c).result = .ok () ∧
      (change react ch c).state = c.onUplinks (ch.apply c.uplinks) ∧
      signalsIn (change react ch c).events = c.changeCollisions ch := by
  cases ch with
  | forget network =>
    refine ⟨?_, forget_state network c, ?_⟩ <;>
    · simp only [change, forget]
      split <;> rfl
  | report network addresses transport =>
    have hu := update_of_quiet hq ⟨network, transport, addresses⟩
    rw [change, Act.bind_of_ok (congrArg Outcome.result hu), hu]
    refine ⟨rfl, record_state _ c, ?_⟩
    simp only [Act.done, List.append_nil, signalsIn_append, signalsIn_record, List.nil_append,
      signalsIn_notices, changeCollisions]

theorem changeAll_of_quiet (hq : ∀ l ∈ c.listeners, ∀ k, react l k = Act.done ())
    (cs : List Change) :
    (changeAll react cs c).result = .ok () ∧
      (changeAll react cs c).state = c.onUplinks (applyAll cs c.uplinks) ∧
      signalsIn (changeAll react cs c).events = cs.flatMap c.changeCollisions := by
  induction cs generalizing c with
  | nil => exact ⟨rfl, rfl, rfl⟩
  | cons ch cs ih =>
    obtain ⟨hres, hstate, hsig⟩ := change_of_quiet hq ch
    obtain ⟨hres', hstate', hsig'⟩ := ih (c := c.onUplinks (ch.apply c.uplinks)) hq
    rw [changeAll, Act.bind_of_ok hres, hstate, signalsIn_append, hsig, hsig', hres', hstate']
    exact ⟨rfl, rfl, rfl⟩

end Quiet

section Over

variable {role : Role} {reuseLast : Bool} {a : Ipv4.Interface} {o : Origin} {f : Failure}
  (hu : ∀ b, b ∈ u.allBlocks ↔ b ∈ c.uplinks.allBlocks)
include hu

theorem isTaken_onUplinks (role : Role) (b : Ipv4.Block) :
    (c.onUplinks u).isTaken role b = c.isTaken role b := by
  have hany : u.allBlocks.any b.overlaps = c.uplinks.allBlocks.any b.overlaps := by
    rw [Bool.eq_iff_iff, List.any_eq_true, List.any_eq_true]
    exact exists_congr fun b => and_congr_left fun _ => hu b
  simp only [isTaken, onUplinks, hany]

theorem reusable?_onUplinks (role : Role) (reuseLast : Bool) :
    (c.onUplinks u).reusable? role reuseLast = c.reusable? role reuseLast := by
  simp only [reusable?, isTaken_onUplinks hu]
  rfl

theorem probe_onUplinks (role : Role) (reuseLast : Bool) (d : Draw) :
    (c.onUplinks u).probe role reuseLast d = c.probe role reuseLast d := by
  simp only [probe, isTaken_onUplinks hu]
  rfl

theorem Grant.onUplinks (hg : c.Grant role reuseLast a o) :
    (c.onUplinks u).Grant role reuseLast a o := by
  cases hg with
  | dedicated hd => exact .dedicated hd
  | reused hd hr => exact .reused hd (by rwa [reusable?_onUplinks hu])
  | drawn hd hr hn hp =>
    exact .drawn hd (by rwa [reusable?_onUplinks hu]) hn (by rwa [probe_onUplinks hu])

theorem Refusal.onUplinks (hf : c.Refusal role reuseLast f) :
    (c.onUplinks u).Refusal role reuseLast f := by
  cases hf with
  | outOfDraws hd hr hn => exact .outOfDraws hd (by rwa [reusable?_onUplinks hu]) hn
  | exhausted hd hr hn hp =>
    exact .exhausted hd (by rwa [reusable?_onUplinks hu]) hn (by rwa [probe_onUplinks hu])

/-- A request depends on the uplinks by their blocks only, and leaves them alone. -/
theorem request_onUplinks (role : Role) (reuseLast : Bool) :
    (request role reuseLast (c.onUplinks u)).result = (request role reuseLast c).result ∧
      (request role reuseLast (c.onUplinks u)).state =
        (request role reuseLast c).state.onUplinks u ∧
      (request role reuseLast c).state.uplinks = c.uplinks := by
  have hconsult : (c.onUplinks u).consult role = (c.consult role).onUplinks u := by
    unfold consult
    split <;> rfl
  rcases c.grant_or_refusal role reuseLast with ⟨a, o, hg⟩ | ⟨f, hf⟩
  · rw [request_of_grant hg, request_of_grant (hg.onUplinks hu), hconsult]
    refine ⟨rfl, ?_, consult_uplinks c role⟩
    cases o <;> rfl
  · rw [request_of_refusal hf, request_of_refusal (hf.onUplinks hu), hconsult]
    exact ⟨rfl, rfl, consult_uplinks c role⟩

end Over

end Coordinator

inductive Demand where
  | request (role : Role) (reuseLast : Bool)
  | release (role : Role)

variable {ι : Type} {react : ι → Conflict → Act ι Unit} {c : Coordinator ι} {u : Uplinks}

def Demand.act : Demand → Act ι (Option Ipv4.Interface)
  | request role reuseLast => do
    let a ← Coordinator.request role reuseLast
    Act.done (some a)
  | release role => do
    Coordinator.release role
    Act.done none

/-- What comes of some demands, one after the other, be they met or refused. -/
def Coordinator.answers :
    List Demand → Coordinator ι → List (Except Failure (Option Ipv4.Interface))
  | [], _ => []
  | d :: ds, c => (d.act c).result :: answers ds (d.act c).state

theorem Demand.act_onUplinks (hu : ∀ b, b ∈ u.allBlocks ↔ b ∈ c.uplinks.allBlocks) (d : Demand) :
    (d.act (c.onUplinks u)).result = (d.act c).result ∧
      (d.act (c.onUplinks u)).state = (d.act c).state.onUplinks u ∧
      (d.act c).state.uplinks = c.uplinks := by
  cases d with
  | release role =>
    simp only [act, bind, Act.andThen, Coordinator.release, Coordinator.onUplinks]
    cases c.reservations.live.get? role <;> exact ⟨rfl, rfl, rfl⟩
  | request role reuseLast =>
    obtain ⟨hres, hstate, hup⟩ := Coordinator.request_onUplinks hu role reuseLast
    simp only [act]
    cases h : (Coordinator.request role reuseLast c).result with
    | ok a =>
      rw [Act.bind_of_ok h, Act.bind_of_ok (hres.trans h)]
      exact ⟨rfl, hstate, hup⟩
    | error f =>
      rw [Act.bind_of_error h, Act.bind_of_error (hres.trans h)]
      exact ⟨rfl, hstate, hup⟩

theorem Coordinator.answers_onUplinks (hu : ∀ b, b ∈ u.allBlocks ↔ b ∈ c.uplinks.allBlocks)
    (ds : List Demand) : (c.onUplinks u).answers ds = c.answers ds := by
  induction ds generalizing c with
  | nil => rfl
  | cons d ds ih =>
    obtain ⟨hres, hstate, hup⟩ := d.act_onUplinks hu
    rw [answers, answers, hres, hstate, ih (by rwa [hup])]

/-- Nobody can tell two courses of the coordinator apart by what was signalled, by the blocks of a
network or by what comes of later demands. -/
structure Outcome.Alike (x y : Outcome ι Unit) : Prop where
  completed : x.result = .ok () ∧ y.result = .ok ()
  signals : (signalsIn x.events).Perm (signalsIn y.events)
  blocksFor : ∀ n, (x.state.uplinks.blocksFor n).Perm (y.state.uplinks.blocksFor n)
  answers : ∀ demands, x.state.answers demands = y.state.answers demands

/-- Between changes to different networks the order does not matter, as long as the listeners of the
coordinator leave it alone. -/
theorem changes_alike (c : Coordinator ι) (react : ι → Conflict → Act ι Unit)
    (hq : ∀ l ∈ c.listeners, ∀ k, react l k = Act.done ()) (cs ds : List Change)
    (h : Interleaved cs ds) :
    (Coordinator.changeAll react cs c).Alike (Coordinator.changeAll react ds c) := by
  obtain ⟨hres, hstate, hsig⟩ := Coordinator.changeAll_of_quiet hq cs
  obtain ⟨hres', hstate', hsig'⟩ := Coordinator.changeAll_of_quiet hq ds
  refine ⟨⟨hres, hres'⟩, ?_, ?_, ?_⟩
  · rw [hsig, hsig']
    exact h.flatMap_perm fun _ _ => c.changeCollisions_congr
  · rw [hstate, hstate']
    exact h.blocksFor_perm c.uplinks
  · intro demands
    rw [hstate, hstate']
    exact (Coordinator.answers_onUplinks (c := c.onUplinks (applyAll cs c.uplinks))
      (h.mem_allBlocks c.uplinks) demands).symm

def Uplinks.passage : List Change :=
  [.report "office" ["192.168.43.9/24"] (some .wifi),
    .report "mobile" ["192.168.45.9/24"] (some .cellular),
    .report "office" ["10.0.0.9/8"] (some .wifi)]

def Uplinks.passageRetold : List Change :=
  [.report "mobile" ["fe80::1/64", "192.168.45.9/24", "192.168.45.9/24"] (some .cellular),
    .report "office" ["192.168.43.9/24"] (some .wifi),
    .report "office" ["10.0.0.9/8"] (some .wifi)]

theorem Uplinks.interleaved_passage : Interleaved passage passageRetold := by
  have hread : Ipv4.ReadAlike ["192.168.45.9/24"]
      ["fe80::1/64", "192.168.45.9/24", "192.168.45.9/24"] := by
    intro text ht
    have hne : text ≠ "fe80::1/64" := by
      rintro rfl
      exact ht (by decide +kernel)
    simp [hne]
  intro n
  by_cases ho : "office" = n
  · subst ho
    exact .cons (.report fun _ _ => .rfl) (.cons (.report fun _ _ => .rfl) .nil)
  · by_cases hm : "mobile" = n
    · subst hm
      exact .cons (.report hread) .nil
    · simp [passage, passageRetold, Change.network, ho, hm]

/-- The networks are listed in another order. Yet the link is signalled once, and a second link is
given the next subnet that is free. -/
theorem passage_alike :
    let c := (Coordinator.request .wifi false .steady).state
    let quiet := fun (_ : String) (_ : Conflict) => Act.done ()
    (Coordinator.changeAll quiet passage c).state.uplinks.networks = ["office", "mobile"] ∧
      (Coordinator.changeAll quiet passageRetold c).state.uplinks.networks =
        ["mobile", "office"] ∧
      (signalsIn (Coordinator.changeAll quiet passageRetold c).events).Perm
        [⟨.wifi, (Ipv4.Interface.inSubnet (.ofOctets 192 168 43 5)).block, "office"⟩] ∧
      ((Coordinator.changeAll quiet passageRetold c).state.answers [.request .usb false]).map
        Except.toOption = [some (some (.inSubnet (.ofOctets 192 168 46 5)))] := by
  intro c quiet
  have h := changes_alike c quiet (fun _ _ _ => rfl) passage passageRetold interleaved_passage
  have hsig : signalsIn (Coordinator.changeAll quiet passage c).events =
      [⟨.wifi, (Ipv4.Interface.inSubnet (.ofOctets 192 168 43 5)).block, "office"⟩] := by
    decide +kernel
  have hans : ((Coordinator.changeAll quiet passage c).state.answers [.request .usb false]).map
      Except.toOption = [some (some (.inSubnet (.ofOctets 192 168 46 5)))] := by
    decide +kernel
  refine ⟨by decide +kernel, by decide +kernel, ?_, ?_⟩
  · rw [← hsig]
    exact h.signals.symm
  · rw [← h.answers, hans]

end Downlink
