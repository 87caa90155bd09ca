import Downlink.Proofs.History
import Downlink.Proofs.Reservations.Separation

/-! # Conflicts that are signalled

A live reservation that collides with an uplink was there before the uplink was
reported, since a grant keeps clear of the uplinks, and so the report signalled
it. Conversely a reservation granted after the report keeps clear of it, and the
same report once more has nothing to signal.
-/

namespace Downlink

open Coordinator

variable {ι : Type} [DecidableEq ι]

/-- No listener that is called in the course of a run of `p` from `c₀` fails. -/
def Routine.Calm (p : Routine ι) (c₀ : Coordinator ι) : Prop :=
  ∀ h s ls rest c, p.Reaches c₀ h (.update s ls rest) c →
    ∀ h' l k c', UpdateCalls (fun l k => (ls l k).act) s c h' l k c' →
      ((ls l k).act c').result = .ok ()

/-- In the history of a run of `p` the network has last recorded `blocks`, by an update that was
made when the role held `a`, and since then the role has been granted nothing. -/
inductive RecordedOver (p : Routine ι) (c₀ : Coordinator ι) (network : String)
    (blocks : List Ipv4.Block) (role : Role) (a : Ipv4.Interface) : List (Event ι) → Prop where
  | intro {h₁ h₂ : List (Event ι)} {s : Snapshot} {ls : ι → Conflict → Routine ι}
      {rest : Except Failure (List Role) → Routine ι} {c : Coordinator ι} :
      p.Reaches c₀ h₁ (.update s ls rest) c → s.network = network →
      Uplinks.reported? s.addresses s.transport = some blocks →
      c.reservations.live.get? role = some a → (∀ e ∈ h₂, e.recordOf? network = none) →
      (∀ e ∈ h₂, e.grantTo? role = none) →
      RecordedOver p c₀ network blocks role a (h₁ ++ [.recorded network blocks] ++ h₂)

variable {p q : Routine ι} {c c₀ : Coordinator ι} {network : String} {blocks : List Ipv4.Block}
  {role : Role} {a : Ipv4.Interface} {o : Origin} {h h₁ h₂ es : List (Event ι)}

theorem RecordedOver.append (hr : RecordedOver p c₀ network blocks role a h)
    (hn : ∀ e ∈ es, e.recordOf? network = none) (hg : ∀ e ∈ es, e.grantTo? role = none) :
    RecordedOver p c₀ network blocks role a (h ++ es) := by
  obtain ⟨hp, hs, hb, hl, hn₂, hg₂⟩ := hr
  rw [List.append_assoc]
  refine .intro hp hs hb hl ?_ ?_
  · exact fun e he => (List.mem_append.mp he).elim (hn₂ e) (hn e)
  · exact fun e he => (List.mem_append.mp he).elim (hg₂ e) (hg e)

/-- A live reservation that was scanned when it was granted collides with the network only if that
has been recorded since. -/
def Routine.Accounted (p : Routine ι) (c₀ : Coordinator ι) (network : String) (role : Role)
    (h : List (Event ι)) (c : Coordinator ι) : Prop :=
  ∀ a o, c.reservations.live.get? role = some a → lastGrant? role h = some (a, o) →
    o ≠ .dedicated → (∃ b ∈ c.uplinks.blocksFor network, a.block.Meets b) →
    RecordedOver p c₀ network (c.uplinks.blocksFor network) role a h

theorem Routine.Accounted.append {c' : Coordinator ι} (ih : p.Accounted c₀ network role h c)
    (hn : ∀ e ∈ es, e.recordOf? network = none) (hg : ∀ e ∈ es, e.grantTo? role = none)
    (hl : ∀ a, c'.reservations.live.get? role = some a → c.reservations.live.get? role = some a)
    (hu : c'.uplinks.blocksFor network = c.uplinks.blocksFor network) :
    p.Accounted c₀ network role (h ++ es) c' := by
  intro a o ha hlast ho hm
  rw [hu] at hm ⊢
  rw [lastGrant?, latest?_append_of_none hg] at hlast
  exact (ih a o (hl a ha) hlast ho hm).append hn hg

theorem Routine.Reaches.accounted (hr : p.Reaches c₀ h q c)
    (h₀ : c₀.reservations.live.get? role = none) : p.Accounted c₀ network role h c := by
  refine hr.invariant (I := fun h c => p.Accounted c₀ network role h c) ?_ ?_
  · intro a o hl
    simp [h₀] at hl
  intro h c es c' ih he
  cases he with
  | @granted r _ _ a' o' _ _ hgr _ ht hu =>
    by_cases hrole : r = role
    · -- a grant with a scan is clear of all uplinks
      subst hrole
      intro a o _ hg ho hm
      simp only [lastGrant?_concat, Event.grantTo?, if_true, Option.some_or, Option.some.injEq,
        Prod.mk.injEq] at hg
      obtain ⟨rfl, rfl⟩ := hg
      obtain ⟨b, hb, hm⟩ := hm
      rw [hu] at hb
      exact ((hgr.isFree ho).uplinks b (Uplinks.mem_allBlocks.mpr ⟨network, hb⟩) hm).elim
    · refine ih.append (by simp [Event.recordOf?]) (by simp [Event.grantTo?, hrole]) ?_ (by rw [hu])
      intro a ha
      rwa [ht, Reservations.get?_live_reserve, if_neg (Ne.symm hrole)] at ha
  | released _ ht hu =>
    refine ih.append (by simp [Event.recordOf?]) (by simp [Event.grantTo?]) ?_ (by rw [hu])
    intro a ha
    rw [ht, Reservations.get?_live_release] at ha
    split at ha
    · cases ha
    · exact ha
  | @recorded s _ _ _ _ hp hb _ ht hu =>
    by_cases hn : s.network = network
    · subst hn
      intro a o hl _ _ _
      rw [hu, Uplinks.blocksFor_assign, if_pos rfl]
      rw [ht] at hl
      have hrec := RecordedOver.intro hp rfl hb hl (List.forall_mem_nil _) (List.forall_mem_nil _)
      rwa [List.append_nil] at hrec
    · refine ih.append (by simp [Event.recordOf?, hn]) (by simp [Event.grantTo?]) (by simp [ht]) ?_
      rw [hu, Uplinks.blocksFor_assign, if_neg (Ne.symm hn)]
  | @forgotten n _ _ ht hu =>
    by_cases hn : n = network
    · rintro a o _ _ _ ⟨b, hb, _⟩
      simp [hu, Uplinks.blocksFor_assign, hn] at hb
    · refine ih.append (by simp [Event.recordOf?, hn]) (by simp [Event.grantTo?]) (by simp [ht]) ?_
      rw [hu, Uplinks.blocksFor_assign, if_neg (Ne.symm hn)]
  | none hes _ ht hu =>
    refine ih.append ?_ ?_ (by simp [ht]) (by rw [hu])
    · exact fun e he => Event.recordOf?_eq_none_of_isEntry (hes e he) network
    · exact fun e he => Event.grantTo?_eq_none_of_isEntry (hes e he) role

/-- A reservation that was scanned when it was granted, after the network had recorded `blocks`,
keeps clear of these. -/
theorem Routine.Reaches.clear_of_granted_since (hr : p.Reaches c₀ h q c)
    (h₀ : c₀.reservations.live.get? role = none) (heq : h = h₁ ++ [.recorded network blocks] ++ h₂)
    (hn : ∀ e ∈ h₂, e.recordOf? network = none) (hl : c.reservations.live.get? role = some a)
    (hg : lastGrant? role h₂ = some (a, o)) (ho : o ≠ .dedicated) :
    ∀ b ∈ c.uplinks.blocksFor network, ¬ a.block.Meets b := by
  intro b hb hm
  have hlast : lastGrant? role h = some (a, o) := by
    rw [heq, lastGrant?, latest?_append, ← lastGrant?, hg]
    rfl
  have hrec := hr.accounted h₀ a o hl hlast ho ⟨b, hb, hm⟩
  generalize c.uplinks.blocksFor network = current at hrec
  generalize h = h' at hrec heq
  cases hrec with
  | @intro l₁ l₂ _ _ _ _ _ _ _ _ hn' hg' =>
    have htail : l₂ = h₂ := tail_eq_of_append_eq heq (f := Event.recordOf? network)
      (by simp [Event.recordOf?]) (by simp [Event.recordOf?]) hn' hn
    rw [htail, ← latest?_eq_none_iff] at hg'
    rw [lastGrant?, hg'] at hg
    cases hg

/-- The latest record of the network, of `blocks`, was made by an update that came after the latest
grant to the role and that signals a conflict with the address. -/
def Routine.SignalledSince (p : Routine ι) (c₀ : Coordinator ι) (h : List (Event ι)) (role : Role)
    (a : Ipv4.Interface) (network : String) (blocks : List Ipv4.Block) : Prop :=
  ∃ h₁ h₂ s ls rest c₁ h' c', p.Reaches c₀ h₁ (.update s ls rest) c₁ ∧ s.network = network ∧
    h = h₁ ++ [.recorded network blocks] ++ h₂ ∧ (∀ bs, .recorded network bs ∉ h₂) ∧
    lastGrant? role h₁ = lastGrant? role h ∧
    UpdateSignals (fun l k => (ls l k).act) s c₁
      (h' ++ [.signalled ⟨role, a.block, network⟩]) ⟨role, a.block, network⟩ c' ∧
    h₁ ++ (h' ++ [.signalled ⟨role, a.block, network⟩]) <+: (p.act c₀).events

/-- Where no listener fails, the update that recorded the blocks over a reservation has signalled
it. -/
theorem RecordedOver.signalledSince (hrec : RecordedOver p c₀ network blocks role a h)
    (hcalm : p.Calm c₀) {b : Ipv4.Block} (hb : b ∈ blocks) (hm : a.block.Meets b) :
    p.SignalledSince c₀ h role a network blocks := by
  cases hrec with
  | @intro h₁ h₂ s ls rest c₁ hp hs hrep hl hn hg =>
    have hblocks : s.blocks = blocks := by
      rw [Snapshot.blocks, hrep]
      rfl
    have hover : s.blocks.any a.block.overlaps = true := by
      rw [hblocks]
      exact Ipv4.Block.any_overlaps_iff.mpr ⟨b, hb, hm⟩
    subst hs
    obtain ⟨h', c', hsig⟩ := exists_updateSignals (r := ⟨role, a⟩) (hcalm h₁ s ls rest c₁ hp)
      (Reservations.mem_toList.mpr hl) hover
    refine ⟨h₁, h₂, s, ls, rest, c₁, h', c', hp, rfl, rfl, forall_recordOf?_eq_none_iff.mp hn,
      ?_, hsig, ?_⟩
    · rw [lastGrant?, lastGrant?, latest?_append_of_none hg, latest?_append_of_none]
      simp [Event.grantTo?]
    · have hup : h' ++ [.signalled ⟨role, a.block, s.network⟩] <+:
          ((Routine.update s ls rest).act c₁).events :=
        ((List.prefix_append ..).trans hsig.prefix_events).trans (List.prefix_append ..)
      exact ((List.prefix_append_right_inj _).mpr hup).trans hp.prefix_events

omit [DecidableEq ι] in
/-- Whatever the listeners do, an update with this snapshot does not notify the role. -/
structure Coordinator.Spares (c : Coordinator ι) (s : Snapshot) (role : Role) : Prop where
  unsignalled : ∀ react h k c', UpdateSignals react s c h k c' → k.role ≠ role
  /-- What is signalled to the role meanwhile comes from what a listener does. -/
  listeners : ∀ (react : ι → Conflict → Act ι Unit) (k : Conflict), k.role = role →
    .signalled k ∈ (update react s c).events →
    ∃ h l k' c', UpdateCalls react s c h l k' c' ∧ .signalled k ∈ (react l k' c').events
  unnamed : ∀ (react : ι → Conflict → Act ι Unit) (roles : List Role),
    (update react s c).result = .ok roles → role ∉ roles

omit [DecidableEq ι] in
theorem Coordinator.spares_of_clear {s : Snapshot} (hl : c.reservations.live.get? role = some a)
    (hc : ∀ b ∈ s.blocks, ¬ a.block.Meets b) : c.Spares s role := by
  -- the role has no other live reservation
  have hne : ∀ r ∈ c.reservations.toList, s.blocks.any r.block.overlaps = true → r.role ≠ role := by
    rintro ⟨r, a'⟩ hmem hover rfl
    rw [Reservations.mem_toList.mp hmem, Option.some.injEq] at hl
    obtain ⟨b, hb, hm⟩ := Ipv4.Block.any_overlaps_iff.mp hover
    exact hc b hb (hl ▸ hm)
  have hsig : ∀ react h k c', UpdateSignals react s c h k c' → k.role ≠ role := by
    intro react h k c' hs
    obtain ⟨r, hmem, hover, rfl⟩ := hs.mem
    exact hne r hmem hover
  refine ⟨hsig, ?_, ?_⟩
  · intro react k hk hm
    rcases signalled_mem_update hm with ⟨h, c', hs⟩ | hl
    · exact (hsig react h k c' hs hk).elim
    · exact hl
  · intro react roles hres hmem
    obtain ⟨r, hmem, hover, hrr⟩ := mem_of_update_result hres hmem
    exact hne r hmem hover hrr

theorem calm_collision (c : Coordinator String) : Routine.collision.Calm c := by
  intro h s ls rest c' hr
  unfold Routine.collision at hr
  cases hr with
  | performed hr =>
  cases hr with
  | performed hr =>
  cases hr with
  | performed hr =>
  cases hr with
  | here =>
    intro h' l k c' _
    rfl
  | updated hr => cases hr
  | called _ hr =>
  cases hr with
  | performed hr =>
  cases hr with
  | performed hr => cases hr

/-- No conflict is missed. A live reservation is the latest grant to its role. Where it was scanned
when it was granted and yet collides with a block of a network, the update that recorded the block
came later and signals the conflict. A reservation granted since the latest record of a network is
spared when that record is repeated. -/
theorem conflicts_signalled (settings : Settings) (draws : DrawSource) (policy : Option Bool)
    (p q : Routine ι) (h : List (Event ι)) (c : Coordinator ι)
    (hr : p.Reaches (.start settings draws policy) h q c) :
    (∀ role a, c.reservations.live.get? role = some a → ∃ o, lastGrant? role h = some (a, o)) ∧
    (p.Calm (.start settings draws policy) → ∀ role a network b,
      c.reservations.live.get? role = some a → lastGrant? role h ≠ some (a, .dedicated) →
      b ∈ c.uplinks.blocksFor network → a.block.Meets b →
      p.SignalledSince (.start settings draws policy) h role a network
        (c.uplinks.blocksFor network)) ∧
    ∀ role a o network blocks h₁ h₂ s,
      h = h₁ ++ [.recorded network blocks] ++ h₂ → (∀ bs, .recorded network bs ∉ h₂) →
      c.reservations.live.get? role = some a → lastGrant? role h₂ = some (a, o) →
      o ≠ .dedicated → s.network = network →
      Uplinks.reported? s.addresses s.transport = some blocks → c.Spares s role := by
  have hlast : ∀ role a, c.reservations.live.get? role = some a →
      ∃ o, lastGrant? role h = some (a, o) :=
    fun role a hl => hr.last_eq_some_iff.mp (hr.sound.live_last hl)
  refine ⟨hlast, ?_, ?_⟩
  · intro hcalm role a network b hl hne hb hm
    obtain ⟨o, hg⟩ := hlast role a hl
    have ho : o ≠ .dedicated := fun ho => hne (ho ▸ hg)
    have hrec := hr.accounted rfl a o hl hg ho ⟨b, hb, hm⟩
    exact hrec.signalledSince hcalm hb hm
  · rintro role a o network blocks h₁ h₂ s heq hn hl hg ho rfl hrep
    have hn' := forall_recordOf?_eq_none_iff.mpr hn
    have hblocks : c.uplinks.blocksFor s.network = s.blocks := by
      rw [hr.blocksFor_eq, heq, lastRecord?, latest?_append_of_none hn', ← lastRecord?,
        lastRecord?_concat]
      simp [Event.recordOf?, Snapshot.blocks, hrep]
    have hclear := hr.clear_of_granted_since rfl heq hn' hl hg ho
    rw [hblocks] at hclear
    exact spares_of_clear hl hclear

/-- The shared link collides and its owner yields. From then on the owner is spared. -/
theorem collision_signalled :
    (∃ h q c, Routine.collision.Reaches .steady h q c ∧
      Routine.collision.SignalledSince .steady h .wifi (.inSubnet (.ofOctets 192 168 43 5)) "office"
        (c.uplinks.blocksFor "office")) ∧
    (Routine.collision.act .steady).state.Spares
      ⟨"office", some .wifi, ["192.168.43.9/24"]⟩ .wifi := by
  have hc : Routine.collision.Reaches .steady _ _ _ :=
    .performed (.performed (.performed (.called ⟨⟨rfl, .first (by decide +kernel)⟩, .first⟩ .here)))
  refine ⟨⟨_, _, _, hc, ?_⟩, ?_⟩
  · exact (conflicts_signalled _ _ _ _ _ _ _ hc).2.1 (calm_collision _) .wifi
      (.inSubnet (.ofOctets 192 168 43 5)) "office"
      (Ipv4.Interface.inSubnet (.ofOctets 192 168 43 5)).block
      (by decide +kernel) (by decide +kernel) (by decide +kernel) (by decide +kernel)
  · -- the record is the third event, the owner is granted the next subnet after it
    exact (conflicts_signalled _ _ _ _ _ _ _ Routine.collision_reaches).2.2 .wifi
      (.inSubnet (.ofOctets 192 168 45 5)) .drawn "office" (Ipv4.blocksOf ["192.168.43.9/24"])
      ((Routine.collision.act .steady).events.take 2)
      ((Routine.collision.act .steady).events.drop 3) _ (by decide +kernel)
      (forall_recordOf?_eq_none_iff.mp (by decide +kernel)) (by decide +kernel)
      (by decide +kernel) (by decide) rfl rfl

end Downlink
