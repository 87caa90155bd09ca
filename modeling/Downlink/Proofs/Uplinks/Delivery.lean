import Downlink.Proofs.Uplinks.Announcement

/-! # Who hears of a conflict

A conflict is delivered to those who are registered when its delivery begins, in the order of their
registration and to each of them once. Those who are called may add and remove listeners as they
like, themselves as well: the delivery goes on with the list it began with, and the next conflict
finds what has become of it.
-/

namespace Downlink

variable {ι : Type}

namespace Act

variable {α β : Type} {x : Act ι α}

def Silent (x : Act ι α) : Prop :=
  ∀ c, (x c).events.filter Event.isNotice = []

theorem Silent.attempt {f : Except Failure α → Act ι β} (hx : x.Silent) (hf : ∀ r, (f r).Silent) :
    (x.attempt f).Silent := by
  intro c
  change ((x c).events ++ (f (x c).result (x c).state).events).filter Event.isNotice = []
  rw [List.filter_append, hx, hf, List.append_nil]

end Act

def Event.hearer? (k : Conflict) : Event ι → Option ι
  | delivered l k' => if k' = k then some l else none
  | _ => none

def audience (k : Conflict) (events : List (Event ι)) : List ι :=
  events.filterMap (Event.hearer? k)

theorem audience_filter_isNotice (k : Conflict) (events : List (Event ι)) :
    audience k (events.filter Event.isNotice) = audience k events :=
  Event.filterMap_filter_isNotice (fun e he => by cases e <;> first | rfl | cases he) events

theorem count_delivered [DecidableEq ι] (l : ι) (k : Conflict) (events : List (Event ι)) :
    events.count (.delivered l k) = (audience k events).count l := by
  induction events with
  | nil => rfl
  | cons e events ih =>
    rw [audience] at ih ⊢
    cases e with
    | delivered m k' =>
      by_cases hk : k' = k
      · simp [Event.hearer?, hk, List.count_cons, ih]
      · simp [Event.hearer?, hk, ih]
    | _ =>
      rw [List.count_cons_of_ne (by simp), List.filterMap_cons_none rfl]
      exact ih

/-- A conflict that is being signalled, and the state in which its delivery begins. -/
structure Moment (ι : Type) where
  conflict : Conflict
  state : Coordinator ι

namespace Coordinator

variable {react : ι → Conflict → Act ι Unit} {s : Snapshot} {c c' : Coordinator ι} {k : Conflict}
  {ks : List Conflict} {ls : List ι} {network : String} {blocks : List Ipv4.Block}
  {rs : List Reservation} {m m' : Moment ι}

section Course

variable (react : ι → Conflict → Act ι Unit)

def afterCalls (k : Conflict) (ls : List ι) (c : Coordinator ι) : Coordinator ι :=
  ls.foldl (fun c l => (react l k c).state) c

/-- The moments at which some conflicts are signalled to those who are registered. -/
def momentsOf : List Conflict → Coordinator ι → List (Moment ι)
  | [], _ => []
  | k :: ks, c => ⟨k, c⟩ :: momentsOf ks (afterCalls react k c.listeners c)

/-- The moments of an update; the first one comes when the snapshot has been recorded. -/
def moments (s : Snapshot) (c : Coordinator ι) : List (Moment ι) :=
  momentsOf react (c.collisions s) (record s c).state

end Course

/-- How an update in which no listener fails delivers what it signals. -/
structure Delivers [DecidableEq ι] (react : ι → Conflict → Act ι Unit) (s : Snapshot)
    (c : Coordinator ι) : Prop where
  /-- Each reservation that is hit has its moment. -/
  conflicts : (moments react s c).map Moment.conflict =
    (c.hit s).map (Reservation.conflict s.network)
  signals : ∀ m ∈ moments react s c, ∃ h, UpdateSignals react s c h m.conflict m.state
  notices : (update react s c).events.filter Event.isNotice =
    (moments react s c).flatMap fun m => notices m.state.listeners m.conflict
  /-- A conflict is heard by those who are registered at its moment, and by nobody else. -/
  heard : ∀ m ∈ moments react s c,
    audience m.conflict (update react s c).events = m.state.listeners
  once : c.listeners.Nodup → ∀ m ∈ moments react s c, ∀ l,
    (update react s c).events.count (.delivered l m.conflict) =
      if l ∈ m.state.listeners then 1 else 0
  unheard : ∀ k ∉ (c.hit s).map (Reservation.conflict s.network),
    audience k (update react s c).events = []
  first : ∀ m ∈ (moments react s c).head?, m.state.listeners = c.listeners
  /-- The next one finds them as those who were called have left them. -/
  next : ∀ m m', [m, m'] <:+: moments react s c →
    m'.state = m.state.listeners.foldl (fun c l => (react l m.conflict c).state) m.state

structure Enrolled [DecidableEq ι] (c : Coordinator ι) : Prop where
  nodup : c.listeners.Nodup
  added : ∀ l ∉ c.listeners, (c.addListener l).listeners = c.listeners ++ [l]
  added_twice : ∀ l ∈ c.listeners, c.addListener l = c
  removed : ∀ l, (c.removeListener l).listeners = c.listeners.filter (· ≠ l)
  unknown : ∀ l ∉ c.listeners, c.removeListener l = c
  returned : ∀ l, ((c.removeListener l).addListener l).listeners =
    c.listeners.filter (· ≠ l) ++ [l]

section Moments

theorem map_conflict_momentsOf (react : ι → Conflict → Act ι Unit) (ks : List Conflict)
    (c : Coordinator ι) : (momentsOf react ks c).map Moment.conflict = ks := by
  induction ks generalizing c with
  | nil => rfl
  | cons k ks ih => rw [momentsOf, List.map_cons, ih]

theorem state_of_pair_infix_momentsOf (h : [m, m'] <:+: momentsOf react ks c) :
    m'.state = afterCalls react m.conflict m.state.listeners m.state := by
  induction ks generalizing c with
  | nil => simp [momentsOf] at h
  | cons k ks ih =>
    rcases List.infix_cons_iff.mp h with hp | hi
    · obtain ⟨rfl, hp'⟩ := List.cons_prefix_cons.mp hp
      cases ks with
      | nil => simp [momentsOf] at hp'
      | cons k' ks =>
        obtain ⟨rfl, _⟩ := List.cons_prefix_cons.mp hp'
        rfl
    · exact ih hi

theorem forall_momentsOf {I : Coordinator ι → Prop} (h₀ : I c)
    (hI : ∀ l k c, I c → I (react l k c).state) : ∀ m ∈ momentsOf react ks c, I m.state := by
  have hcalls (k : Conflict) (ls : List ι) (c : Coordinator ι) (hc : I c) :
      I (afterCalls react k ls c) := by
    induction ls generalizing c with
    | nil => exact hc
    | cons l ls ih => exact ih _ (hI l k c hc)
  induction ks generalizing c with
  | nil => simp [momentsOf]
  | cons k ks ih =>
    rw [momentsOf, List.forall_mem_cons]
    exact ⟨h₀, ih (hcalls k c.listeners c h₀)⟩

theorem audience_notices (k k' : Conflict) (ls : List ι) :
    audience k (notices ls k') = if k' = k then ls else [] := by
  rw [audience, notices, List.filterMap_cons_none rfl, List.filterMap_map]
  by_cases h : k' = k <;> simp [Function.comp_def, Event.hearer?, h]

theorem audience_flatMap_of_notMem {ms : List (Moment ι)} (h : k ∉ ms.map Moment.conflict) :
    audience k (ms.flatMap fun m => notices m.state.listeners m.conflict) = [] := by
  induction ms with
  | nil => rfl
  | cons m ms ih =>
    rw [List.map_cons, List.mem_cons, not_or] at h
    have hm := audience_notices k m.conflict m.state.listeners
    rw [if_neg (Ne.symm h.1)] at hm
    have hms := ih h.2
    rw [audience] at hm hms ⊢
    rw [List.flatMap_cons, List.filterMap_append, hm, hms, List.append_nil]

/-- No other signal goes between a conflict and its audience. -/
theorem audience_flatMap {ms : List (Moment ι)} (hn : (ms.map Moment.conflict).Nodup)
    (h : m ∈ ms) :
    audience m.conflict (ms.flatMap fun m => notices m.state.listeners m.conflict) =
      m.state.listeners := by
  induction ms with
  | nil => cases h
  | cons m' ms ih =>
    rw [List.map_cons, List.nodup_cons] at hn
    have hm' := audience_notices m.conflict m'.conflict m'.state.listeners
    rw [audience] at hm' ih ⊢
    rw [List.flatMap_cons, List.filterMap_append, hm']
    rcases List.mem_cons.mp h with rfl | h
    · have hms := audience_flatMap_of_notMem hn.1
      rw [audience] at hms
      rw [if_pos rfl, hms, List.append_nil]
    · have hne : m'.conflict ≠ m.conflict := fun heq => hn.1 (heq ▸ List.mem_map_of_mem h)
      rw [if_neg hne, ih hn.2 h, List.nil_append]

end Moments

section Silent

variable (hs : ∀ l k, (react l k).Silent)
include hs

theorem deliver_of_ok (hr : (deliver react k ls c).result = .ok ()) :
    (deliver react k ls c).state = afterCalls react k ls c ∧
      (deliver react k ls c).events.filter Event.isNotice = ls.map fun l => .delivered l k := by
  induction ls generalizing c with
  | nil => exact ⟨rfl, rfl⟩
  | cons l ls ih =>
    cases hl : (react l k c).result with
    | error e =>
      rw [deliver_cons_of_error hl] at hr
      cases hr
    | ok u =>
      rw [deliver_cons_of_ok hl] at hr ⊢
      obtain ⟨hstate, hevents⟩ := ih hr
      refine ⟨hstate, ?_⟩
      rw [List.filter_append, List.filter_append, hs, hevents]
      rfl

theorem signal_of_ok (hr : (signal react k c).result = .ok ()) :
    (signal react k c).state = afterCalls react k c.listeners c ∧
      (signal react k c).events.filter Event.isNotice = notices c.listeners k := by
  rw [signal_eq] at hr ⊢
  obtain ⟨hstate, hevents⟩ := deliver_of_ok hs hr
  refine ⟨hstate, ?_⟩
  rw [List.filter_append, hevents]
  rfl

theorem announce_of_ok {roles : List Role}
    (hr : (announce react network blocks rs c).result = .ok roles) :
    (announce react network blocks rs c).events.filter Event.isNotice =
        (momentsOf react (conflictsWith network blocks rs) c).flatMap
          (fun m => notices m.state.listeners m.conflict) ∧
      ∀ m ∈ momentsOf react (conflictsWith network blocks rs) c,
        ∃ h, AnnounceSignals react network blocks rs c h m.conflict m.state := by
  induction rs generalizing c roles with
  | nil => exact ⟨rfl, by simp [conflictsWith, momentsOf]⟩
  | cons r rs ih =>
    cases ho : blocks.any r.block.overlaps with
    | false =>
      rw [announce_cons_of_clear ho] at hr ⊢
      rw [conflictsWith_cons_of_clear ho]
      obtain ⟨hevents, hmoments⟩ := ih hr
      refine ⟨hevents, fun m hm => ?_⟩
      obtain ⟨h, hm⟩ := hmoments m hm
      exact ⟨h, .pass ho hm⟩
    | true =>
      cases hres : (signal react ⟨r.role, r.block, network⟩ c).result with
      | error e =>
        rw [announce_cons_of_error ho hres] at hr
        cases hr
      | ok u =>
        obtain ⟨hstate, hsignal⟩ := signal_of_ok hs hres
        rw [announce_cons_of_ok ho hres] at hr ⊢
        cases ha : (announce react network blocks rs
            (signal react ⟨r.role, r.block, network⟩ c).state).result with
        | error e => simp [ha, Except.map] at hr
        | ok roles' =>
          obtain ⟨hevents, hmoments⟩ := ih ha
          -- the rest begins where the calls for this conflict have led
          rw [conflictsWith_cons_of_hit ho, List.singleton_append, momentsOf, ← hstate]
          refine ⟨?_, List.forall_mem_cons.mpr ⟨⟨_, .first ho⟩, fun m hm => ?_⟩⟩
          · rw [List.filter_append, hsignal, hevents, List.flatMap_cons]
          · obtain ⟨h, hm⟩ := hmoments m hm
            exact ⟨_, .next ho hres hm⟩

end Silent

theorem filter_isNotice_record (s : Snapshot) (c : Coordinator ι) :
    (record s c).events.filter Event.isNotice = [] := by
  unfold record
  split <;> rfl

theorem nodup_collisions (c : Coordinator ι) (s : Snapshot) : (c.collisions s).Nodup := by
  have h : ((c.collisions s).map Conflict.role).Nodup := by
    rw [collisions, conflictsWith, List.map_map]
    exact List.pairwise_map.mpr ((Reservations.pairwise_role_toList _).filter _)
  exact h.of_map _

theorem delivers [DecidableEq ι] (hs : ∀ l k, (react l k).Silent)
    (hk : ∀ l k c, c.listeners.Nodup → (react l k c).state.listeners.Nodup)
    (hn : NoneFails react s c) : c.Delivers react s := by
  obtain ⟨roles, hr⟩ := hn.exists_ok
  rw [update_eq] at hr
  obtain ⟨hevents, hmoments⟩ := announce_of_ok hs hr
  have hconflicts : (moments react s c).map Moment.conflict = c.collisions s :=
    map_conflict_momentsOf ..
  have hnotices : (update react s c).events.filter Event.isNotice =
      (moments react s c).flatMap fun m => notices m.state.listeners m.conflict := by
    rw [update_eq, List.filter_append, filter_isNotice_record, List.nil_append, hevents]
    rfl
  have haudience : ∀ m ∈ moments react s c,
      audience m.conflict (update react s c).events = m.state.listeners := by
    intro m hm
    rw [← audience_filter_isNotice, hnotices]
    exact audience_flatMap (hconflicts ▸ c.nodup_collisions s) hm
  refine ⟨?_, ?_, hnotices, haudience, ?_, ?_, ?_, fun _ _ => state_of_pair_infix_momentsOf⟩
  · rw [hconflicts, map_conflict_hit]
  · intro m hm
    obtain ⟨h, hm⟩ := hmoments m hm
    exact ⟨_, hm.updateSignals⟩
  · intro h₀ m hm l
    have hnodup : m.state.listeners.Nodup :=
      forall_momentsOf (I := fun c => c.listeners.Nodup) (record_listeners s c ▸ h₀) hk m hm
    rw [count_delivered, haudience m hm]
    exact hnodup.count
  · intro k hk
    rw [← audience_filter_isNotice, hnotices]
    exact audience_flatMap_of_notMem (by rwa [hconflicts, ← map_conflict_hit])
  · intro m hm
    rw [moments] at hm
    cases hc : c.collisions s with
    | nil => simp [hc, momentsOf] at hm
    | cons k ks =>
      rw [hc, momentsOf, List.head?_cons, Option.mem_some_iff] at hm
      rw [← hm, record_listeners]

end Coordinator

section Registration

variable [DecidableEq ι] {p q : Routine ι} {c c₀ : Coordinator ι} {h : List (Event ι)}

theorem Operation.silent_act (op : Operation ι) : op.act.Silent := by
  intro c
  cases op with
  | request role reuseLast =>
    rw [act_request]
    rcases c.grant_or_refusal role reuseLast with ⟨a, o, hg⟩ | ⟨f, hf⟩
    · rw [Coordinator.request_of_grant hg]
      rfl
    · rw [Coordinator.request_of_refusal hf]
      rfl
  | release role =>
    simp only [act, Coordinator.release]
    split <;> rfl
  | forget network =>
    simp only [act, Coordinator.forget]
    split <;> rfl
  | _ => rfl

theorem Routine.IsLocal.silent_act (hp : p.IsLocal) : p.act.Silent := by
  induction hp with
  | done => exact fun c => rfl
  | fail => exact fun c => rfl
  | inspect _ ih => exact fun c => ih c c
  | perform _ _ ih => exact (Operation.silent_act _).attempt ih

theorem Coordinator.erase_listeners (hn : c.listeners.Nodup) (l : ι) :
    c.listeners.erase l = c.listeners.filter (· ≠ l) := by
  rw [hn.erase_eq_filter]
  refine List.filter_congr fun m _ => ?_
  rw [Bool.eq_iff_iff]
  simp

theorem Coordinator.enrolled (hn : c.listeners.Nodup) : c.Enrolled where
  nodup := hn
  added l hl := if_neg hl
  added_twice l hl := by rw [addListener, if_pos hl]
  removed l := erase_listeners hn l
  unknown l hl := by rw [removeListener, List.erase_of_not_mem hl]
  returned l := by
    have hl : l ∉ (c.removeListener l).listeners := hn.not_mem_erase
    rw [addListener, if_neg hl]
    exact congrArg (· ++ [l]) (erase_listeners hn l)

theorem Operation.nodup_listeners_act (op : Operation ι) (hn : c.listeners.Nodup) :
    (op.act c).state.listeners.Nodup := by
  cases op with
  | addListener l =>
    change (c.addListener l).listeners.Nodup
    by_cases hl : l ∈ c.listeners
    · rwa [(Coordinator.enrolled hn).added_twice l hl]
    · rw [(Coordinator.enrolled hn).added l hl, ← List.concat_eq_append]
      exact hn.concat hl
  | removeListener l => exact hn.erase l
  | request role reuseLast =>
    rw [act_request, (c.requestFrame role reuseLast).listeners]
    exact hn
  | release role =>
    simp only [act, Coordinator.release]
    split <;> exact hn
  | forget network =>
    simp only [act, Coordinator.forget]
    split <;> exact hn
  | pin d =>
    simp only [act, Coordinator.pin?]
    split <;> exact hn
  | _ => exact hn

theorem Routine.Trail.nodup_listeners (ht : p.Trail c₀ h c) (hn : c₀.listeners.Nodup) :
    c.listeners.Nodup := by
  induction ht with
  | start => exact hn
  | performed _ _ ih => exact Operation.nodup_listeners_act _ ih
  | recorded _ _ ih => rwa [Coordinator.record_listeners]
  | signalled _ ih => exact ih
  | delivered _ ih => exact ih

theorem Routine.nodup_listeners_act (p : Routine ι) (hn : c.listeners.Nodup) :
    (p.act c).state.listeners.Nodup := by
  obtain ⟨q, _, hr⟩ := p.reaches_end c
  exact hr.trail.nodup_listeners hn

end Registration

/-- Whatever listeners do with links and listeners, an update in which none of them fails delivers
each conflict to those who are registered when its delivery begins. Wherever a run comes by, nobody
is registered twice. -/
theorem conflicts_delivered [DecidableEq ι] (ls : ι → Conflict → Routine ι)
    (hl : ∀ l k, (ls l k).IsLocal) (c : Coordinator ι) :
    (∀ s, Coordinator.NoneFails (fun l k => (ls l k).act) s c →
      c.Delivers (fun l k => (ls l k).act) s) ∧
    ∀ (settings : Settings) (draws : DrawSource) (policy : Option Bool) (p q : Routine ι)
      (h : List (Event ι)), p.Reaches (.start settings draws policy) h q c → c.Enrolled := by
  refine ⟨fun s hn => ?_, fun settings draws policy p q h hr => ?_⟩
  · exact Coordinator.delivers (fun l k => (hl l k).silent_act)
      (fun l k _ => Routine.nodup_listeners_act (ls l k)) hn
  · exact Coordinator.enrolled (hr.trail.nodup_listeners List.nodup_nil)

/-- The owner of the links goes and leaves an heir, who sends for the owner when called. All others
yield. -/
def Routine.handover (l : String) (k : Conflict) : Routine String :=
  if l = "owner" then
    .perform (.removeListener "owner") fun _ => .perform (.addListener "heir") fun _ => .done
  else if l = "heir" then .perform (.addListener "owner") fun _ => .done
  else yield k

theorem Routine.isLocal_handover (l : String) (k : Conflict) : (handover l k).IsLocal := by
  unfold handover
  split
  · exact .perform (by simp) fun _ => .perform (by simp) fun _ => .done
  · split
    · exact .perform (by simp) fun _ => .done
    · exact isLocal_yield k

/-- The owner hears of the first link and the heir of the second one, the guard of both of them. The
owner comes back too late for either, and last in the order. -/
theorem handover_delivered :
    let c := Coordinator.paired.addListener "guard"
    let events := (Coordinator.update (fun l k => (Routine.handover l k).act) .straddling c).events
    let wifi := (Ipv4.Interface.inSubnet (.ofOctets 192 168 43 5)).block
    let usb := (Ipv4.Interface.inSubnet (.ofOctets 192 168 45 5)).block
    audience ⟨.wifi, wifi, "office"⟩ events = ["owner", "guard"] ∧
      audience ⟨.usb, usb, "office"⟩ events = ["guard", "heir"] ∧
      (Coordinator.update (fun l k => (Routine.handover l k).act) .straddling c).state.listeners =
        ["guard", "heir", "owner"] ∧
      c.Enrolled := by
  intro c events wifi usb
  have hr : Routine.Reaches (.perform (.addListener "owner") fun _ =>
      .perform (.request .wifi false) fun _ => .perform (.request .usb false) fun _ =>
      .perform (.addListener "guard") fun _ => .done) .steady _ .done c :=
    .performed (.performed (.performed (.performed .here)))
  obtain ⟨hd, he⟩ := conflicts_delivered Routine.handover Routine.isLocal_handover c
  have hn : Coordinator.NoneFails (fun l k => (Routine.handover l k).act) .straddling c := by
    intro h l k c' _
    simp only [Routine.handover]
    split
    · rfl
    · split <;> rfl
  have hnotices := (hd .straddling hn).notices
  refine ⟨?_, ?_, by decide +kernel, he _ _ _ _ _ _ hr⟩
  · rw [← audience_filter_isNotice, hnotices]
    decide +kernel
  · rw [← audience_filter_isNotice, hnotices]
    decide +kernel

end Downlink
