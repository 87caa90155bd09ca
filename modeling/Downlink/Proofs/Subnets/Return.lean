import Downlink.Proofs.History
import Downlink.Proofs.Subnets.Vacancy

/-! # Addresses that return

As long as requests find nine subnets vacant, the last addresses of the roles
stay apart, so nobody takes what a role held last while the role is down. Unless
an uplink comes near, the role gets it back when it asks.
-/

namespace Downlink

variable {ι : Type}

namespace Reservations

variable {t : Reservations} {r : Role} {a : Ipv4.Interface}

/-- No two roles could ask for one address back. -/
def Apart (t : Reservations) : Prop :=
  ∀ r s a b, r ≠ s → t.last.get? r = some a → t.last.get? s = some b → ¬ a.block.Meets b.block

theorem Apart.reserve (ht : t.Apart)
    (ha : ∀ s b, s ≠ r → t.last.get? s = some b → ¬ a.block.Meets b.block) :
    (t.reserve r a).Apart := by
  intro s u b d hsu hb hd
  rw [get?_last_reserve] at hb hd
  by_cases hs : s = r
  · have hu : u ≠ r := fun hu => hsu (hs.trans hu.symm)
    rw [if_pos hs, Option.some.injEq] at hb
    rw [if_neg hu] at hd
    exact hb ▸ ha u d hu hd
  · rw [if_neg hs] at hb
    by_cases hu : u = r
    · rw [if_pos hu, Option.some.injEq] at hd
      exact fun hm => ha s b hs hb (hd ▸ hm.symm)
    · rw [if_neg hu] at hd
      exact ht s u b d hsu hb hd

end Reservations

namespace Coordinator

variable {c : Coordinator ι} {role : Role} {reuseLast : Bool} {a : Ipv4.Interface} {o : Origin}

theorem Grant.apart (hm : 256 ≤ c.settings.maxAttempts) (hs : c.reservations.Sound)
    (hv : 9 ≤ c.vacant.card) (ht : c.reservations.Apart) (hg : c.Grant role reuseLast a o) :
    (c.reservations.reserve role a).Apart := by
  refine ht.reserve ?_
  intro s b hsr hb
  cases o with
  | dedicated =>
    cases hg with
    | dedicated hd =>
      have hrole : role = .wifiP2p := by simp_all [isDedicated]
      have hclear := hs.clear_of_ne (hrole ▸ hsr) hb _ Reservations.wifiP2p_mem_blocks
      exact fun hmeet => hclear hmeet.symm
  | reused =>
    cases hg with
    | reused _ hr => exact ht role s a b hsr.symm (reusable?_eq_some_iff.mp hr).1 hb
  | drawn => exact hg.drawn_apart hm hs (by split <;> omega) (Or.inr hb) (Or.inl hsr)

theorem grant_last (hs : c.reservations.Sound) (ht : c.reservations.Apart)
    (hl : c.reservations.last.get? role = some a) (ha : a ≠ ReservedRanges.wifiP2pAddress)
    (hp : role = .wifiP2p → c.policy.answer = false)
    (hu : ∀ b ∈ c.uplinks.allBlocks, ¬ a.block.Meets b) : c.Grant role true a .reused := by
  refine .reused ?_ (reusable?_eq_some_iff.mpr ⟨hl, rfl, ?_⟩)
  · simpa [isDedicated] using hp
  · refine ⟨hs.clear hl ha, ?_, hu⟩
    intro s b hsr hb
    exact ht role s a b hsr.symm hl (hs.live_last hb)

end Coordinator

variable [DecidableEq ι]

/-- All requests in a run of `p` up to the history `h` find nine subnets vacant. -/
def Routine.Roomy (p : Routine ι) (c₀ : Coordinator ι) (h : List (Event ι)) : Prop :=
  ∀ h' role reuseLast rest c, h' <+: h →
    p.Reaches c₀ h' (.perform (.request role reuseLast) rest) c → 9 ≤ c.vacant.card

theorem Routine.Reaches.apart {settings : Settings} {draws : DrawSource} {policy : Option Bool}
    {p q : Routine ι} {h : List (Event ι)} {c : Coordinator ι} (hm : 256 ≤ settings.maxAttempts)
    (hr : p.Reaches (.start settings draws policy) h q c) :
    p.Roomy (.start settings draws policy) h → c.reservations.Apart := by
  refine hr.invariant (I := fun h c => p.Roomy (.start settings draws policy) h →
    c.reservations.Apart) ?_ ?_
  · intro _ r s a b _ ha
    cases ha
  intro h c es c' ih he hroom
  have ht : c.reservations.Apart :=
    ih fun h' role reuseLast rest c hh => hroom h' role reuseLast rest c
      (hh.trans (List.prefix_append ..))
  cases he with
  | granted hp hg _ heq =>
    have hset := hp.settings
    rw [heq]
    exact hg.apart (hset ▸ hm) hp.sound (hroom _ _ _ _ _ (List.prefix_append ..) hp) ht
  | released _ heq => exact heq ▸ ht
  | recorded _ _ _ heq => exact heq ▸ ht
  | forgotten _ heq => exact heq ▸ ht
  | none _ _ heq => exact heq ▸ ht

/-- While the link of a role is down, another role draws the subnet of its last address. -/
def Routine.absence : Routine String :=
  .perform (.request .wifi false) fun _ =>
  .perform (.release .wifi) fun _ =>
  .perform (.request .usb false) fun _ =>
  .update ⟨"office", some .wifi, ["192.168.0.9/19"]⟩ (fun _ _ => .done) fun _ => .done

theorem Routine.roomy_absence (h : List (Event String)) : absence.Roomy .steady h := by
  intro h' role reuseLast rest c _ hr
  unfold absence at hr
  cases hr with
  | here => decide +kernel
  | performed hr =>
  cases hr with
  | performed hr =>
  cases hr with
  | here => decide +kernel
  | performed hr =>
  cases hr with
  | updated hr => cases hr
  | called _ hr => cases hr

/-- The last addresses of the roles are apart. A role that asks is given the address of its latest
grant, without a draw, unless that is the dedicated one or an uplink has come near. -/
theorem last_address_returns {ι : Type} [DecidableEq ι] (settings : Settings) (draws : DrawSource)
    (policy : Option Bool) (p q : Routine ι) (h : List (Event ι)) (c : Coordinator ι)
    (hm : 256 ≤ settings.maxAttempts) (hr : p.Reaches (.start settings draws policy) h q c)
    (hroom : p.Roomy (.start settings draws policy) h) :
    (∀ r s a b, r ≠ s → c.reservations.last.get? r = some a →
      c.reservations.last.get? s = some b → ¬ a.block.Meets b.block) ∧
    (∀ r a, c.reservations.last.get? r = some a ↔ ∃ o, lastGrant? r h = some (a, o)) ∧
    ∀ r a, c.reservations.last.get? r = some a → a ≠ ReservedRanges.wifiP2pAddress →
      (r = .wifiP2p → c.policy.answer = false) →
      (∀ b ∈ c.uplinks.allBlocks, ¬ a.block.Meets b) →
      (Coordinator.request r true c).result = .ok a ∧
        (Coordinator.request r true c).state.draws = c.draws := by
  have ht := hr.apart hm hroom
  refine ⟨ht, fun r a => hr.last_eq_some_iff, ?_⟩
  intro r a hl ha hp hu
  rw [Coordinator.request_of_grant (Coordinator.grant_last hr.sound ht hl ha hp hu)]
  exact ⟨rfl, rfl⟩

theorem absence_returns :
    (Coordinator.request .wifi true (Routine.absence.act .steady).state).result =
        .ok (.inSubnet (.ofOctets 192 168 43 5)) ∧
      (Coordinator.request .wifi true (Routine.absence.act .steady).state).state.draws =
        (Routine.absence.act .steady).state.draws := by
  have hr : Routine.absence.Reaches .steady (Routine.absence.act .steady).events .done
      (Routine.absence.act .steady).state :=
    .performed (.performed (.performed (.updated .here)))
  exact (last_address_returns _ _ _ _ _ _ _ (by decide) hr (Routine.roomy_absence _)).2.2 .wifi _
    (by decide +kernel) (by decide) (by decide) (by decide +kernel)

end Downlink
