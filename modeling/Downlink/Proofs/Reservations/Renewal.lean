import Downlink.Proofs.Reservations.Separation
import Downlink.Proofs.Routine.Draws
import Mathlib.Logic.Function.Iterate

/-! # Asking again for an address that is held

Of all that a request checks only the uplinks can stand against the address that
a role holds, for the reserved ranges and the other roles stay clear of it. Unless
one of them does, the role is given the address again and nothing moves, however
often it asks. Otherwise the role moves clear of the uplinks or stays where it is.
-/

namespace Downlink

namespace Coordinator

variable {ι : Type} {c c' c'' : Coordinator ι} {role : Role} {reuseLast : Bool}
  {a : Ipv4.Interface} {b : Ipv4.Block} {o : Origin}

/-- The same coordinator, but for how often the device has been asked for its policy. -/
structure Unmoved (c c' : Coordinator ι) : Prop where
  settings : c'.settings = c.settings
  draws : c'.draws = c.draws
  answer : c'.policy.answer = c.policy.answer
  reservations : c'.reservations = c.reservations
  uplinks : c'.uplinks = c.uplinks
  listeners : c'.listeners = c.listeners

theorem Unmoved.refl (c : Coordinator ι) : c.Unmoved c :=
  ⟨rfl, rfl, rfl, rfl, rfl, rfl⟩

theorem Unmoved.trans (h : c.Unmoved c') (h' : c'.Unmoved c'') : c.Unmoved c'' where
  settings := h'.settings.trans h.settings
  draws := h'.draws.trans h.draws
  answer := h'.answer.trans h.answer
  reservations := h'.reservations.trans h.reservations
  uplinks := h'.uplinks.trans h.uplinks
  listeners := h'.listeners.trans h.listeners

theorem unmoved_consult (c : Coordinator ι) (role : Role) : c.Unmoved (c.consult role) where
  settings := consult_settings c role
  draws := consult_draws c role
  answer := by
    unfold consult
    split
    · cases c.policy <;> rfl
    · rfl
  reservations := consult_reservations c role
  uplinks := consult_uplinks c role
  listeners := consult_listeners c role

theorem consult_of_ne (h : role ≠ .wifiP2p) : c.consult role = c :=
  if_neg h

theorem IsFree.of_unmoved (h : c.IsFree role b) (hm : c.Unmoved c') : c'.IsFree role b where
  reserved := h.reserved
  live := by rw [hm.reservations]; exact h.live
  uplinks := by rw [hm.uplinks]; exact h.uplinks

structure Keeps (c : Coordinator ι) (role : Role) (a : Ipv4.Interface) : Prop where
  live : c.reservations.live.get? role = some a
  last : c.reservations.last.get? role = some a
  isDedicated : c.isDedicated role = false
  isFree : c.IsFree role a.block

theorem Keeps.of_unmoved (h : c.Keeps role a) (hm : c.Unmoved c') : c'.Keeps role a where
  live := by rw [hm.reservations]; exact h.live
  last := by rw [hm.reservations]; exact h.last
  isDedicated := by
    have hd := h.isDedicated
    rw [Coordinator.isDedicated] at hd ⊢
    rwa [hm.answer]
  isFree := h.isFree.of_unmoved hm

theorem Keeps.grant (h : c.Keeps role a) : c.Grant role true a .reused :=
  .reused h.isDedicated (reusable?_eq_some_iff.mpr ⟨h.last, rfl, h.isFree⟩)

theorem Keeps.request_eq (h : c.Keeps role a) :
    request role true c = ⟨.ok a, c.consult role, [.granted role a .reused]⟩ := by
  rw [request_of_grant h.grant, Reservations.reserve_eq_self h.live h.last]
  congr 1
  unfold consult
  split <;> rfl

theorem Keeps.iterate (h : c.Keeps role a) (n : Nat) :
    c.Unmoved ((fun c => (request role true c).state)^[n] c) := by
  induction n with
  | zero => exact .refl c
  | succ n ih =>
    rw [Function.iterate_succ_apply', (h.of_unmoved ih).request_eq]
    exact ih.trans (unmoved_consult _ role)

structure Renews (c : Coordinator ι) (role : Role) (a : Ipv4.Interface) : Prop where
  granted_iff : (request role true c).result = .ok a ↔
    ∀ b ∈ c.uplinks.allBlocks, ¬ a.block.Meets b
  unmoved : (request role true c).result = .ok a → ∀ n,
    c.Unmoved ((fun c => (request role true c).state)^[n] c) ∧
      (request role true ((fun c => (request role true c).state)^[n] c)).result = .ok a
  state_eq : (request role true c).result = .ok a → role ≠ .wifiP2p →
    (request role true c).state = c
  moved : (∃ b ∈ c.uplinks.allBlocks, a.block.Meets b) →
    (∃ a', (request role true c).result = .ok a' ∧
        (request role true c).state.reservations.live.get? role = some a' ∧
        ∀ b ∈ (request role true c).state.uplinks.allBlocks, ¬ a'.block.Meets b) ∨
      ∃ f, (request role true c).result = .error f ∧
        (request role true c).state.reservations.live.get? role = some a

theorem Grant.isFree_of_not_isDedicated (hg : c.Grant role reuseLast a o)
    (hd : c.isDedicated role = false) : c.IsFree role a.block := by
  refine hg.isFree ?_
  rintro rfl
  cases hg with
  | dedicated h => exact Bool.noConfusion (h.symm.trans hd)

theorem isFree_of_result (hd : c.isDedicated role = false)
    (hr : (request role reuseLast c).result = .ok a) : c.IsFree role a.block := by
  rcases c.grant_or_refusal role reuseLast with ⟨a', o, hg⟩ | ⟨f, hf⟩
  · rw [request_of_grant hg, Except.ok.injEq] at hr
    exact hr ▸ hg.isFree_of_not_isDedicated hd
  · simp [request_of_refusal hf] at hr

/-- Reserved ranges and other roles are clear of what a role holds. -/
theorem keeps_of_live (hs : c.reservations.Sound) (hl : c.reservations.live.get? role = some a)
    (ha : a ≠ ReservedRanges.wifiP2pAddress) (hd : c.isDedicated role = false)
    (hu : ∀ b ∈ c.uplinks.allBlocks, ¬ a.block.Meets b) : c.Keeps role a where
  live := hl
  last := hs.live_last hl
  isDedicated := hd
  isFree := ⟨hs.clear (hs.live_last hl) ha, fun _ _ hsr hb => hs.apart hsr.symm hl hb, hu⟩

theorem renews (hs : c.reservations.Sound) (hl : c.reservations.live.get? role = some a)
    (ha : a ≠ ReservedRanges.wifiP2pAddress) (hd : c.isDedicated role = false) :
    c.Renews role a := by
  have hclear : (request role true c).result = .ok a → ∀ b ∈ c.uplinks.allBlocks,
      ¬ a.block.Meets b :=
    fun hr => (isFree_of_result hd hr).uplinks
  have hkeeps : (request role true c).result = .ok a → c.Keeps role a :=
    fun hr => keeps_of_live hs hl ha hd (hclear hr)
  refine ⟨⟨hclear, fun hu => ?_⟩, fun hr n => ?_, fun hr hne => ?_, fun _ => ?_⟩
  · rw [(keeps_of_live hs hl ha hd hu).request_eq]
  · have hm := (hkeeps hr).iterate n
    exact ⟨hm, by rw [((hkeeps hr).of_unmoved hm).request_eq]⟩
  · rw [(hkeeps hr).request_eq]
    exact consult_of_ne hne
  · have hf := c.requestFrame role true
    cases hr : (request role true c).result with
    | ok a' =>
      refine Or.inl ⟨a', rfl, (hf.granted a' hr).1, ?_⟩
      rw [hf.uplinks]
      exact (isFree_of_result hd hr).uplinks
    | error f => exact Or.inr ⟨f, rfl, by rw [hf.failed f hr, hl]⟩

end Coordinator

/-- A role that asks for the address that it holds is given it exactly if no uplink comes near, and
then nothing moves. Else it moves clear of the uplinks, or it is refused and stays. -/
theorem held_renewed {ι : Type} [DecidableEq ι] (settings : Settings) (draws : DrawSource)
    (policy : Option Bool) (p q : Routine ι) (h : List (Event ι)) (c : Coordinator ι)
    (hr : p.Reaches (.start settings draws policy) h q c) (role : Role) (a : Ipv4.Interface)
    (hl : c.reservations.live.get? role = some a) (ha : a ≠ ReservedRanges.wifiP2pAddress)
    (hp : role = .wifiP2p → c.policy.answer = false) : c.Renews role a :=
  Coordinator.renews hr.sound hl ha (by simpa [Coordinator.isDedicated] using hp)

/-- The shared link asks again while it collides, and is moved. Where it has yielded, it can ask as
often as it likes. -/
theorem collision_renewed :
    (∃ h q c, Routine.collision.Reaches .steady h q c ∧
      ∃ a', (c.request .wifi true).result = .ok a' ∧
        ∀ b ∈ (c.request .wifi true).state.uplinks.allBlocks, ¬ a'.block.Meets b) ∧
    let c := (Routine.collision.act .steady).state
    (c.request .wifi true).result = .ok (.inSubnet (.ofOctets 192 168 45 5)) ∧
      ∀ n, c.Unmoved ((fun c => (c.request .wifi true).state)^[n] c) := by
  have hc : Routine.collision.Reaches .steady _ _ _ :=
    .performed (.performed (.performed (.called ⟨⟨rfl, .first (by decide +kernel)⟩, .first⟩ .here)))
  refine ⟨⟨_, _, _, hc, ?_⟩, ?_⟩
  · have h := held_renewed _ _ _ _ _ _ _ hc .wifi (.inSubnet (.ofOctets 192 168 43 5))
      (by decide +kernel) (by decide +kernel) (fun h => nomatch h)
    rcases h.moved (by decide +kernel) with ⟨a', ha', _, hu⟩ | ⟨f, hf, _⟩
    · exact ⟨a', ha', hu⟩
    · exact absurd ((congrArg Except.isOk hf).trans (rfl : _ = false)) (by decide +kernel)
  · have h := held_renewed _ _ _ _ _ _ _ Routine.collision_reaches .wifi
      (.inSubnet (.ofOctets 192 168 45 5)) (by decide +kernel) (by decide +kernel)
      (fun h => nomatch h)
    have hr := h.granted_iff.mpr (by decide +kernel)
    exact ⟨hr, fun n => (h.unmoved hr n).1⟩

end Downlink
