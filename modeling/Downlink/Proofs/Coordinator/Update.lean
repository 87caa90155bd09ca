import Downlink.Proofs.Routine.Basic

/-! # The course of an update

An update step by step: what it does after each listener and after each signal,
and what holds along it if recording, signalling, delivering and the calls of the
listeners all preserve it.
-/

namespace Downlink

/-- The blocks that an update with this snapshot records, if it records any. -/
def Snapshot.blocks (s : Snapshot) : List Ipv4.Block :=
  (Uplinks.reported? s.addresses s.transport).getD []

namespace Act

variable {ι α β : Type} {x : Act ι α} {f : α → Act ι β} {c : Coordinator ι}

theorem bind_of_ok {a : α} (hx : (x c).result = .ok a) :
    (x >>= f) c = ⟨(f a (x c).state).result, (f a (x c).state).state,
      (x c).events ++ (f a (x c).state).events⟩ := by
  change x.andThen f c = _
  simp only [andThen, hx]

theorem bind_of_error {e : Failure} (hx : (x c).result = .error e) :
    (x >>= f) c = ⟨.error e, (x c).state, (x c).events⟩ := by
  change x.andThen f c = _
  simp only [andThen, hx]

end Act

namespace Coordinator

variable {ι : Type} {react : ι → Conflict → Act ι Unit} {k : Conflict} {c c' : Coordinator ι}
  {l : ι} {ls : List ι} {h h' : List (Event ι)} {network : String} {blocks : List Ipv4.Block}
  {r : Reservation} {rs : List Reservation} {s : Snapshot}

theorem record_result (s : Snapshot) (c : Coordinator ι) : (record s c).result = .ok s.blocks := by
  unfold record Snapshot.blocks
  split <;> simp_all

theorem record_reservations (s : Snapshot) (c : Coordinator ι) :
    (record s c).state.reservations = c.reservations := by
  unfold record
  split <;> rfl

theorem update_eq (react : ι → Conflict → Act ι Unit) (s : Snapshot) (c : Coordinator ι) :
    update react s c =
      let first := record s c
      let rest := announce react s.network s.blocks c.reservations.toList first.state
      ⟨rest.result, rest.state, first.events ++ rest.events⟩ := by
  refine (Act.bind_of_ok (record_result s c)).trans ?_
  rw [record_reservations]

theorem signal_eq (react : ι → Conflict → Act ι Unit) (k : Conflict) (c : Coordinator ι) :
    signal react k c =
      ⟨(deliver react k c.listeners c).result, (deliver react k c.listeners c).state,
        [.signalled k] ++ (deliver react k c.listeners c).events⟩ :=
  rfl

theorem deliver_cons_of_ok (hr : (react l k c).result = .ok ()) :
    deliver react k (l :: ls) c =
      let rest := deliver react k ls (react l k c).state
      ⟨rest.result, rest.state, [.delivered l k] ++ ((react l k c).events ++ rest.events)⟩ := by
  rw [deliver, Act.bind_of_ok (x := Act.perform _ _) rfl]
  simp only [Act.perform, id]
  rw [Act.bind_of_ok hr]

theorem deliver_cons_of_error {e : Failure} (hr : (react l k c).result = .error e) :
    deliver react k (l :: ls) c =
      ⟨.error e, (react l k c).state, [.delivered l k] ++ (react l k c).events⟩ := by
  rw [deliver, Act.bind_of_ok (x := Act.perform _ _) rfl]
  simp only [Act.perform, id]
  rw [Act.bind_of_error hr]

theorem announce_cons_of_ok (ho : blocks.any r.block.overlaps = true)
    (hs : (signal react ⟨r.role, r.block, network⟩ c).result = .ok ()) :
    announce react network blocks (r :: rs) c =
      let first := signal react ⟨r.role, r.block, network⟩ c
      let rest := announce react network blocks rs first.state
      ⟨rest.result.map (r.role :: ·), rest.state, first.events ++ rest.events⟩ := by
  rw [announce, if_pos ho, Act.bind_of_ok hs]
  cases ha : (announce react network blocks rs
      (signal react ⟨r.role, r.block, network⟩ c).state).result with
  | ok roles => simp [Act.bind_of_ok ha, Act.done, ha, Except.map]
  | error e => simp [Act.bind_of_error ha, ha, Except.map]

theorem announce_cons_of_error {e : Failure} (ho : blocks.any r.block.overlaps = true)
    (hs : (signal react ⟨r.role, r.block, network⟩ c).result = .error e) :
    announce react network blocks (r :: rs) c =
      ⟨.error e, (signal react ⟨r.role, r.block, network⟩ c).state,
        (signal react ⟨r.role, r.block, network⟩ c).events⟩ := by
  rw [announce, if_pos ho, Act.bind_of_error hs]

theorem announce_cons_of_clear (ho : blocks.any r.block.overlaps = false) :
    announce react network blocks (r :: rs) c = announce react network blocks rs c := by
  rw [announce, if_neg (by simp [ho])]

theorem AnnounceSignals.of_clear (ho : blocks.any r.block.overlaps = false)
    (hs : AnnounceSignals react network blocks (r :: rs) c h k c') :
    AnnounceSignals react network blocks rs c h k c' := by
  cases hs with
  | first ho' => simp [ho] at ho'
  | next ho' => simp [ho] at ho'
  | pass _ hs => exact hs

theorem AnnounceSignals.of_hit (ho : blocks.any r.block.overlaps = true)
    (hs : AnnounceSignals react network blocks (r :: rs) c h k c') :
    h = [.signalled ⟨r.role, r.block, network⟩] ∧ c' = c ∨
      ∃ h', (signal react ⟨r.role, r.block, network⟩ c).result = .ok () ∧
        h = (signal react ⟨r.role, r.block, network⟩ c).events ++ h' ∧
        AnnounceSignals react network blocks rs
          (signal react ⟨r.role, r.block, network⟩ c).state h' k c' := by
  cases hs with
  | first => exact Or.inl ⟨rfl, rfl⟩
  | next _ hok hs => exact Or.inr ⟨_, hok, rfl, hs⟩
  | pass ho' => simp [ho] at ho'

/-- The signals of an update are those of its examination, which comes after the record. -/
theorem AnnounceSignals.updateSignals
    (hs : AnnounceSignals react s.network s.blocks c.reservations.toList (record s c).state
      h k c') :
    UpdateSignals react s c ((record s c).events ++ h) k c' :=
  .intro (record_result s c) (by rwa [record_reservations])

theorem UpdateSignals.exists_announceSignals (hs : UpdateSignals react s c h k c') :
    ∃ h', h = (record s c).events ++ h' ∧
      AnnounceSignals react s.network s.blocks c.reservations.toList (record s c).state
        h' k c' := by
  obtain ⟨hb, ha⟩ := hs
  rw [record_result, Except.ok.injEq] at hb
  subst hb
  rw [record_reservations] at ha
  exact ⟨_, rfl, ha⟩

section Keeps

variable {T : List (Event ι) → Coordinator ι → Prop}

/-- What delivering and each call of a listener preserve holds when all listeners have been called,
and before each call. -/
theorem deliver_keeps (hd : ∀ h c l, T h c → T (h ++ [.delivered l k]) c)
    (hr : ∀ h' l c', DeliverCalls react k ls c h' l c' → T (h ++ h') c' →
      T (h ++ (h' ++ (react l k c').events)) (react l k c').state) (ht : T h c) :
    T (h ++ (deliver react k ls c).events) (deliver react k ls c).state ∧
      ∀ h' l c', DeliverCalls react k ls c h' l c' → T (h ++ h') c' := by
  induction ls generalizing h c with
  | nil =>
    refine ⟨by simpa [deliver, Act.done] using ht, ?_⟩
    intro h' l c' hc
    cases hc
  | cons l ls ih =>
    have hd' : T (h ++ [.delivered l k]) c := hd h c l ht
    have hl := hr _ _ _ .first hd'
    cases hres : (react l k c).result with
    | error e =>
      refine ⟨by rwa [deliver_cons_of_error hres], ?_⟩
      intro h' m c' hc
      cases hc with
      | first => exact hd'
      | next hok _ => simp [hres] at hok
    | ok u =>
      have hrest := ih (h := h ++ ([.delivered l k] ++ (react l k c).events))
        (fun h' m c' hc ht' => by
          simpa [List.append_assoc] using
            hr _ _ _ (.next hres hc) (by simpa [List.append_assoc] using ht')) hl
      refine ⟨?_, ?_⟩
      · rw [deliver_cons_of_ok hres]
        simpa [List.append_assoc] using hrest.1
      · intro h' m c' hc
        cases hc with
        | first => exact hd'
        | next _ hc => simpa [List.append_assoc] using hrest.2 _ _ _ hc

theorem signal_keeps (hd : ∀ h c l, T h c → T (h ++ [.delivered l k]) c)
    (hr : ∀ h' l c', DeliverCalls react k c.listeners c h' l c' →
      T (h ++ [.signalled k] ++ h') c' →
      T (h ++ [.signalled k] ++ (h' ++ (react l k c').events)) (react l k c').state)
    (ht : T (h ++ [.signalled k]) c) :
    T (h ++ (signal react k c).events) (signal react k c).state := by
  rw [signal_eq]
  simpa [List.append_assoc] using (deliver_keeps hd hr ht).1

theorem announce_keeps
    (hs : ∀ h' k c', AnnounceSignals react network blocks rs c (h' ++ [.signalled k]) k c' →
      T (h ++ h') c' → T (h ++ h' ++ [.signalled k]) c')
    (hd : ∀ h c l k, T h c → T (h ++ [.delivered l k]) c)
    (hr : ∀ h₁ k c₁ h₂ l c₂, AnnounceSignals react network blocks rs c h₁ k c₁ →
      DeliverCalls react k c₁.listeners c₁ h₂ l c₂ → T (h ++ (h₁ ++ h₂)) c₂ →
      T (h ++ (h₁ ++ h₂ ++ (react l k c₂).events)) (react l k c₂).state) (ht : T h c) :
    T (h ++ (announce react network blocks rs c).events)
        (announce react network blocks rs c).state ∧
      ∀ h' k c', AnnounceSignals react network blocks rs c h' k c' → T (h ++ h') c' := by
  induction rs generalizing h c with
  | nil =>
    refine ⟨by simpa [announce, Act.done] using ht, ?_⟩
    intro h' k c' hc
    cases hc
  | cons r rs ih =>
    cases ho : blocks.any r.block.overlaps with
    | false =>
      rw [announce_cons_of_clear ho]
      have hrest := ih (fun h' k c' ha => hs h' k c' (.pass ho ha))
        (fun h₁ k c₁ h₂ l c₂ ha => hr h₁ k c₁ h₂ l c₂ (.pass ho ha)) ht
      exact ⟨hrest.1, fun h' k c' hc => hrest.2 h' k c' (hc.of_clear ho)⟩
    | true =>
      have hs' : T (h ++ [.signalled ⟨r.role, r.block, network⟩]) c := by
        simpa using hs [] _ c (.first ho) (by simpa using ht)
      have hsig := signal_keeps (fun h c l => hd h c l _)
        (fun h₂ l c₂ hc ht' => by
          simpa [List.append_assoc] using
            hr _ _ _ _ _ _ (.first ho) hc (by simpa [List.append_assoc] using ht')) hs'
      cases hres : (signal react ⟨r.role, r.block, network⟩ c).result with
      | error e =>
        refine ⟨by rwa [announce_cons_of_error ho hres], ?_⟩
        intro h' k c' hc
        obtain ⟨rfl, rfl⟩ | ⟨_, hok, -⟩ := hc.of_hit ho
        · exact hs'
        · simp [hres] at hok
      | ok u =>
        have hrest := ih (fun h' k c' ha ht' => by
            have ha' := AnnounceSignals.next ho hres ha
            rw [← List.append_assoc] at ha'
            simpa [List.append_assoc] using
              hs _ _ _ ha' (by simpa [List.append_assoc] using ht'))
          (fun h₁ k c₁ h₂ l c₂ ha hc ht' => by
            simpa [List.append_assoc] using
              hr _ _ _ _ _ _ (.next ho hres ha) hc (by simpa [List.append_assoc] using ht')) hsig
        refine ⟨?_, ?_⟩
        · rw [announce_cons_of_ok ho hres]
          simpa [List.append_assoc] using hrest.1
        · intro h' k c' hc
          obtain ⟨rfl, rfl⟩ | ⟨_, -, rfl, ha⟩ := hc.of_hit ho
          · exact hs'
          · simpa [List.append_assoc] using hrest.2 _ _ _ ha

theorem update_keeps
    (hs : ∀ h' k c', UpdateSignals react s c (h' ++ [.signalled k]) k c' →
      T (h ++ h') c' → T (h ++ h' ++ [.signalled k]) c')
    (hd : ∀ h c l k, T h c → T (h ++ [.delivered l k]) c)
    (hr : ∀ h' l k c', UpdateCalls react s c h' l k c' → T (h ++ h') c' →
      T (h ++ (h' ++ (react l k c').events)) (react l k c').state)
    (ht : T (h ++ (record s c).events) (record s c).state) :
    T (h ++ (update react s c).events) (update react s c).state ∧
      ∀ h' l k c', UpdateCalls react s c h' l k c' → T (h ++ h') c' := by
  have hcall {h₁ h₂ : List (Event ι)} {k : Conflict} {l : ι} {c₁ c₂ : Coordinator ι}
      (ha : AnnounceSignals react s.network s.blocks c.reservations.toList (record s c).state
        h₁ k c₁)
      (hc : DeliverCalls react k c₁.listeners c₁ h₂ l c₂) :
      UpdateCalls react s c ((record s c).events ++ h₁ ++ h₂) l k c₂ :=
    .intro ha.updateSignals hc
  have hsignal {h' : List (Event ι)} {k : Conflict} {c' : Coordinator ι}
      (ha : AnnounceSignals react s.network s.blocks c.reservations.toList (record s c).state
        (h' ++ [.signalled k]) k c') :
      UpdateSignals react s c ((record s c).events ++ h' ++ [.signalled k]) k c' := by
    rw [List.append_assoc]
    exact ha.updateSignals
  have hann := announce_keeps (fun h' k c' ha ht' => by
      simpa [List.append_assoc] using
        hs _ _ _ (hsignal ha) (by simpa [List.append_assoc] using ht'))
    hd (fun h₁ k c₁ h₂ l c₂ ha hc ht' => by
      simpa [List.append_assoc] using
        hr _ _ _ _ (hcall ha hc) (by simpa [List.append_assoc] using ht')) ht
  refine ⟨?_, ?_⟩
  · rw [update_eq]
    simpa [List.append_assoc] using hann.1
  · rintro _ l k c' ⟨hs, hc⟩
    obtain ⟨h₁, rfl, ha⟩ := hs.exists_announceSignals
    have hsig := hann.2 _ _ _ ha
    have hdel := (deliver_keeps (fun h c l => hd h c l _)
      (fun h₂ l c₂ hc' ht' => by
        simpa [List.append_assoc] using
          hr _ _ _ _ (hcall ha hc') (by simpa [List.append_assoc] using ht')) hsig).2
    simpa [List.append_assoc] using hdel _ _ _ hc

end Keeps

section Course

theorem DeliverCalls.prefix_events (hc : DeliverCalls react k ls c h l c') :
    h ++ (react l k c').events <+: (deliver react k ls c).events := by
  induction hc with
  | @first l ls c =>
    cases hres : (react l k c).result with
    | error e =>
      simp [deliver_cons_of_error hres]
    | ok u =>
      rw [deliver_cons_of_ok hres]
      exact (List.prefix_append_right_inj _).mpr (List.prefix_append ..)
  | next hres _ ih =>
    rw [deliver_cons_of_ok hres, List.append_assoc, List.append_assoc,
      List.prefix_append_right_inj, List.prefix_append_right_inj]
    exact ih

theorem AnnounceSignals.prefix_events (hs : AnnounceSignals react network blocks rs c h k c') :
    h ++ (deliver react k c'.listeners c').events <+:
      (announce react network blocks rs c).events := by
  induction hs with
  | @first r rs c ho =>
    have he := signal_eq react ⟨r.role, r.block, network⟩ c
    cases hres : (signal react ⟨r.role, r.block, network⟩ c).result with
    | error e =>
      simp [announce_cons_of_error ho hres, he]
    | ok u =>
      rw [announce_cons_of_ok ho hres, he]
      exact List.prefix_append ..
  | next ho hres _ ih =>
    rw [announce_cons_of_ok ho hres, List.append_assoc, List.prefix_append_right_inj]
    exact ih
  | pass ho _ ih => rwa [announce_cons_of_clear ho]

theorem UpdateSignals.prefix_events (hs : UpdateSignals react s c h k c') :
    h ++ (deliver react k c'.listeners c').events <+: (update react s c).events := by
  obtain ⟨h', rfl, ha⟩ := hs.exists_announceSignals
  rw [update_eq, List.append_assoc, List.prefix_append_right_inj]
  exact ha.prefix_events

theorem UpdateCalls.prefix_events (hc : UpdateCalls react s c h l k c') :
    h ++ (react l k c').events <+: (update react s c).events := by
  obtain ⟨hs, hc⟩ := hc
  rw [List.append_assoc]
  exact ((List.prefix_append_right_inj _).mpr hc.prefix_events).trans hs.prefix_events

theorem AnnounceSignals.exists_append (hs : AnnounceSignals react network blocks rs c h k c') :
    ∃ h', h = h' ++ [.signalled k] := by
  induction hs with
  | first => exact ⟨[], rfl⟩
  | next _ _ _ ih =>
    obtain ⟨h', rfl⟩ := ih
    exact ⟨_, (List.append_assoc ..).symm⟩
  | pass _ _ ih => exact ih

theorem AnnounceSignals.mem (hs : AnnounceSignals react network blocks rs c h k c') :
    ∃ r ∈ rs, blocks.any r.block.overlaps = true ∧ k = ⟨r.role, r.block, network⟩ := by
  induction hs with
  | first ho => exact ⟨_, List.mem_cons_self, ho, rfl⟩
  | next _ _ _ ih =>
    obtain ⟨r, hm, hr⟩ := ih
    exact ⟨r, List.mem_cons_of_mem _ hm, hr⟩
  | pass _ _ ih =>
    obtain ⟨r, hm, hr⟩ := ih
    exact ⟨r, List.mem_cons_of_mem _ hm, hr⟩

theorem announce_roles {roles : List Role}
    (hr : (announce react network blocks rs c).result = .ok roles) :
    roles = (rs.filter fun r => blocks.any r.block.overlaps).map Reservation.role := by
  induction rs generalizing c roles with
  | nil =>
    cases hr
    rfl
  | cons r rs ih =>
    cases ho : blocks.any r.block.overlaps with
    | false =>
      rw [announce_cons_of_clear ho] at hr
      rw [List.filter_cons, if_neg (by simp [ho]), ih hr]
    | true =>
      rw [List.filter_cons, if_pos ho]
      cases hres : (signal react ⟨r.role, r.block, network⟩ c).result with
      | error e =>
        rw [announce_cons_of_error ho hres] at hr
        cases hr
      | ok u =>
        rw [announce_cons_of_ok ho hres] at hr
        cases ha : (announce react network blocks rs
            (signal react ⟨r.role, r.block, network⟩ c).state).result with
        | error e => simp [ha, Except.map] at hr
        | ok roles' =>
          simp only [ha, Except.map, Except.ok.injEq] at hr
          rw [← hr, List.map_cons, ← ih ha]

theorem DeliverCalls.result_of_error {f : Failure} (hc : DeliverCalls react k ls c h l c')
    (hf : (react l k c').result = .error f) : (deliver react k ls c).result = .error f := by
  induction hc with
  | first => rw [deliver_cons_of_error hf]
  | next hres _ ih =>
    rw [deliver_cons_of_ok hres]
    exact ih hf

theorem exists_deliverCalls_of_error {f : Failure}
    (hf : (deliver react k ls c).result = .error f) :
    ∃ h l c', DeliverCalls react k ls c h l c' ∧ (react l k c').result = .error f := by
  induction ls generalizing c with
  | nil => cases hf
  | cons l ls ih =>
    cases hres : (react l k c).result with
    | error e =>
      rw [deliver_cons_of_error hres] at hf
      exact ⟨_, l, c, .first, hres.trans hf⟩
    | ok u =>
      rw [deliver_cons_of_ok hres] at hf
      obtain ⟨h, m, c', hc, hf⟩ := ih hf
      exact ⟨_, m, c', .next hres hc, hf⟩

theorem deliver_result
    (hok : ∀ h l c', DeliverCalls react k ls c h l c' → (react l k c').result = .ok ()) :
    (deliver react k ls c).result = .ok () := by
  cases hf : (deliver react k ls c).result with
  | ok u => rfl
  | error f =>
    obtain ⟨h, l, c', hc, hf⟩ := exists_deliverCalls_of_error hf
    simp [hok h l c' hc] at hf

theorem AnnounceSignals.announce_of_error {f : Failure}
    (hs : AnnounceSignals react network blocks rs c h k c')
    (hf : (deliver react k c'.listeners c').result = .error f) :
    (announce react network blocks rs c).result = .error f ∧
      (announce react network blocks rs c).events =
        h ++ (deliver react k c'.listeners c').events := by
  induction hs with
  | first ho =>
    rw [announce_cons_of_error ho hf]
    exact ⟨rfl, rfl⟩
  | next ho hres _ ih =>
    obtain ⟨hresult, hevents⟩ := ih hf
    rw [announce_cons_of_ok ho hres]
    simp [hresult, hevents, Except.map]
  | pass ho _ ih =>
    rw [announce_cons_of_clear ho]
    exact ih hf

theorem exists_announceSignals_of_error {f : Failure}
    (hf : (announce react network blocks rs c).result = .error f) :
    ∃ h k c', AnnounceSignals react network blocks rs c h k c' ∧
      (deliver react k c'.listeners c').result = .error f := by
  induction rs generalizing c with
  | nil => cases hf
  | cons r rs ih =>
    cases ho : blocks.any r.block.overlaps with
    | false =>
      rw [announce_cons_of_clear ho] at hf
      obtain ⟨h, k, c', hs, hf⟩ := ih hf
      exact ⟨h, k, c', .pass ho hs, hf⟩
    | true =>
      cases hres : (signal react ⟨r.role, r.block, network⟩ c).result with
      | error e =>
        rw [announce_cons_of_error ho hres] at hf
        cases hf
        exact ⟨_, _, c, .first ho, hres⟩
      | ok u =>
        rw [announce_cons_of_ok ho hres] at hf
        cases ha : (announce react network blocks rs
            (signal react ⟨r.role, r.block, network⟩ c).state).result with
        | ok roles => simp [ha, Except.map] at hf
        | error e =>
          simp only [ha, Except.map, Except.error.injEq] at hf
          obtain ⟨h, k, c', hs, hf⟩ := ih (hf ▸ ha)
          exact ⟨_, k, c', .next ho hres hs, hf⟩

/-- An update fails only with a listener. -/
theorem exists_updateCalls_of_error {f : Failure} (hf : (update react s c).result = .error f) :
    ∃ h l k c', UpdateCalls react s c h l k c' ∧ (react l k c').result = .error f := by
  rw [update_eq] at hf
  obtain ⟨h, k, c₁, hs, hf⟩ := exists_announceSignals_of_error hf
  obtain ⟨h', l, c', hc, hf⟩ := exists_deliverCalls_of_error hf
  exact ⟨_, l, k, c', .intro hs.updateSignals hc, hf⟩

/-- If no listener fails, all reservations that collide are signalled. -/
theorem exists_announceSignals
    (hok : ∀ h k c₁ h' l c₂, AnnounceSignals react network blocks rs c h k c₁ →
      DeliverCalls react k c₁.listeners c₁ h' l c₂ → (react l k c₂).result = .ok ())
    (hr : r ∈ rs) (ho : blocks.any r.block.overlaps = true) :
    ∃ h c', AnnounceSignals react network blocks rs c h ⟨r.role, r.block, network⟩ c' := by
  induction rs generalizing c with
  | nil => cases hr
  | cons r' rs ih =>
    cases ho' : blocks.any r'.block.overlaps with
    | false =>
      have hr' : r ∈ rs := by
        rcases List.mem_cons.mp hr with rfl | hr
        · simp [ho] at ho'
        · exact hr
      obtain ⟨h, c', hs⟩ := ih (c := c)
        (fun h k c₁ h' l c₂ ha => hok h k c₁ h' l c₂ (.pass ho' ha)) hr'
      exact ⟨h, c', .pass ho' hs⟩
    | true =>
      rcases List.mem_cons.mp hr with rfl | hr
      · exact ⟨_, _, .first ho⟩
      · have hres : (signal react ⟨r'.role, r'.block, network⟩ c).result = .ok () := by
          rw [signal_eq]
          exact deliver_result fun h l c' hc => hok _ _ _ _ _ _ (.first ho') hc
        obtain ⟨h, c', hs⟩ := ih
          (fun h k c₁ h' l c₂ ha => hok _ k c₁ h' l c₂ (.next ho' hres ha)) hr
        exact ⟨_, c', .next ho' hres hs⟩

theorem exists_updateSignals
    (hok : ∀ h l k c', UpdateCalls react s c h l k c' → (react l k c').result = .ok ())
    (hr : r ∈ c.reservations.toList) (ho : s.blocks.any r.block.overlaps = true) :
    ∃ h c', UpdateSignals react s c (h ++ [.signalled ⟨r.role, r.block, s.network⟩])
      ⟨r.role, r.block, s.network⟩ c' := by
  obtain ⟨h, c', hs⟩ := exists_announceSignals (c := (record s c).state)
    (fun h k c₁ h' l c₂ ha hc => hok _ l k c₂ (.intro ha.updateSignals hc)) hr ho
  obtain ⟨h', rfl⟩ := hs.exists_append
  refine ⟨(record s c).events ++ h', c', ?_⟩
  rw [List.append_assoc]
  exact hs.updateSignals

theorem UpdateSignals.mem (hs : UpdateSignals react s c h k c') :
    ∃ r ∈ c.reservations.toList, s.blocks.any r.block.overlaps = true ∧
      k = ⟨r.role, r.block, s.network⟩ := by
  obtain ⟨_, _, ha⟩ := hs.exists_announceSignals
  exact ha.mem

theorem mem_of_update_result {roles : List Role} {role : Role}
    (hu : (update react s c).result = .ok roles) (hm : role ∈ roles) :
    ∃ r ∈ c.reservations.toList, s.blocks.any r.block.overlaps = true ∧ r.role = role := by
  rw [update_eq] at hu
  rw [announce_roles hu, List.mem_map] at hm
  obtain ⟨r, hr, rfl⟩ := hm
  obtain ⟨hr, ho⟩ := List.mem_filter.mp hr
  exact ⟨r, hr, ho, rfl⟩

/-- All that happens in the course of an update: the record, its signals, the deliveries and what
the listeners do. -/
theorem mem_update {e : Event ι} (hm : e ∈ (update react s c).events) :
    e ∈ (record s c).events ∨ (∃ h k c', UpdateSignals react s c h k c' ∧ e = .signalled k) ∨
      (∃ l k, e = .delivered l k) ∨
      ∃ h l k c', UpdateCalls react s c h l k c' ∧ e ∈ (react l k c').events := by
  refine (update_keeps (h := []) (T := fun h _ => ∀ e ∈ h, e ∈ (record s c).events ∨
    (∃ h k c', UpdateSignals react s c h k c' ∧ e = .signalled k) ∨ (∃ l k, e = .delivered l k) ∨
    ∃ h l k c', UpdateCalls react s c h l k c' ∧ e ∈ (react l k c').events) ?_ ?_ ?_ ?_).1 e hm
  · intro h k c' hs ht e he
    rcases List.mem_append.mp he with he | he
    · exact ht e he
    · exact Or.inr (Or.inl ⟨_, k, c', hs, List.mem_singleton.mp he⟩)
  · intro h c' l k ht e he
    rcases List.mem_append.mp he with he | he
    · exact ht e he
    · exact Or.inr (Or.inr (Or.inl ⟨l, k, List.mem_singleton.mp he⟩))
  · intro h l k c' hc ht e he
    rw [← List.append_assoc] at he
    rcases List.mem_append.mp he with he | he
    · exact ht e he
    · exact Or.inr (Or.inr (Or.inr ⟨h, l, k, c', hc, he⟩))
  · exact fun e he => Or.inl he

/-- Each signal in the course of an update is its own or comes from the call of a listener. -/
theorem signalled_mem_update (hm : .signalled k ∈ (update react s c).events) :
    (∃ h c', UpdateSignals react s c h k c') ∨
      ∃ h l k' c', UpdateCalls react s c h l k' c' ∧ .signalled k ∈ (react l k' c').events := by
  rcases mem_update hm with hm | ⟨h, k', c', hs, hk⟩ | ⟨l, k', hk⟩ | hc
  · unfold record at hm
    split at hm <;> simp at hm
  · cases hk
    exact Or.inl ⟨h, c', hs⟩
  · cases hk
  · exact Or.inr hc

theorem released_mem_update {role : Role} (hm : .released role ∈ (update react s c).events) :
    ∃ h l k c', UpdateCalls react s c h l k c' ∧ .released role ∈ (react l k c').events := by
  rcases mem_update hm with hm | ⟨_, _, _, _, hk⟩ | ⟨_, _, hk⟩ | hc
  · unfold record at hm
    split at hm <;> simp at hm
  · cases hk
  · cases hk
  · exact hc

end Course

end Coordinator

end Downlink
