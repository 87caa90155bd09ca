import Downlink.Proofs.Encoding.RoundTrip
import Downlink.Proofs.Ipv4.LeadingBits
import Downlink.Proofs.Uplinks.Announcement

/-! # Uplinks told back

What a coordinator shows of its uplinks can be reported again. The texts of a network stand for the
blocks that they were made from, so a report of them records these blocks, for the same network or
for another one. And all networks together, reported to a fresh coordinator, make it show the same
and refuse the same candidates.
-/

namespace Downlink

namespace Uplinks

def Distinct (u : Uplinks) : Prop :=
  ∀ n, (u.blocksFor n).Nodup

/-- The rows of a view as reports, where `ts` says what carries a network. -/
def retelling (ts : String → Transport) (rows : List (String × List String)) : List Change :=
  rows.map fun row => .report row.1 row.2 (some (ts row.1))

variable {u v : Uplinks} {n : String} {blocks : List Ipv4.Block} {transport : Transport}
  {texts : List String} {ts : String → Transport} {rows : List (String × List String)}

theorem nodup_of_reported? {addresses : List String} {transport : Option Transport}
    (h : reported? addresses transport = some blocks) : blocks.Nodup := by
  unfold reported? at h
  split at h
  · cases h
  · cases h
    exact List.nodup_nil
  · cases h
    exact Ipv4.nodup_blocksOf _

theorem reported?_some (ht : transport ≠ .vpn) (texts : List String) :
    reported? texts (some transport) = some (Ipv4.blocksOf texts) := by
  cases transport <;> first | rfl | exact absurd rfl ht

theorem Distinct.assign (hu : u.Distinct) (hb : blocks.Nodup) (network : String) :
    (u.assign network blocks).Distinct := by
  intro n
  rw [blocksFor_assign]
  split
  · exact hb
  · exact hu n

theorem applyAll_cons (ch : Change) (cs : List Change) (u : Uplinks) :
    applyAll (ch :: cs) u = applyAll cs (ch.apply u) :=
  rfl

theorem Change.entries_apply_report (ht : transport ≠ .vpn) (hb : Ipv4.blocksOf texts ≠ [])
    (hn : n ∉ u.networks) :
    ((Change.report n texts (some transport)).apply u).entries.entries =
      u.entries.entries ++ [(n, Ipv4.blocksOf texts)] := by
  have hw : (Change.report n texts (some transport)).word? = some (Ipv4.blocksOf texts) :=
    reported?_some ht texts
  have he : (Ipv4.blocksOf texts).isEmpty = false := by simpa using hb
  rw [apply_eq, hw, Option.elim_some, Uplinks.assign, he]
  exact putEntry_of_notMem hn _

/-- Reports of networks that are not known yet go to the end, one after the other. -/
theorem entries_applyAll_retelling (ht : ∀ n, ts n ≠ .vpn)
    (hb : ∀ row ∈ rows, Ipv4.blocksOf row.2 ≠ [])
    (hn : (u.networks ++ rows.map Prod.fst).Nodup) :
    (applyAll (retelling ts rows) u).entries.entries =
      u.entries.entries ++ rows.map fun row => (row.1, Ipv4.blocksOf row.2) := by
  induction rows generalizing u with
  | nil => simp [retelling, applyAll]
  | cons row rows ih =>
    obtain ⟨hrow, hb⟩ := List.forall_mem_cons.mp hb
    have hnew : row.1 ∉ u.networks := fun hm =>
      List.disjoint_of_nodup_append hn hm (by simp)
    have he := Change.entries_apply_report (ht row.1) hrow hnew
    have hnets : ((Change.report row.1 row.2 (some (ts row.1))).apply u).networks =
        u.networks ++ [row.1] := by
      rw [networks, Ledger.keys, he, List.map_append]
      rfl
    rw [retelling, List.map_cons, applyAll_cons, ← retelling, ih hb, he]
    · simp
    · rw [hnets]
      simpa using hn

end Uplinks

section Runs

variable {ι : Type} [DecidableEq ι] {settings : Settings} {draws : DrawSource}
  {policy : Option Bool} {p q : Routine ι} {c : Coordinator ι} {h : List (Event ι)}

theorem Routine.Reaches.tight_distinct (hr : p.Reaches (.start settings draws policy) h q c) :
    c.uplinks.Tight ∧ c.uplinks.Distinct := by
  refine hr.invariant (I := fun _ c => c.uplinks.Tight ∧ c.uplinks.Distinct) ?_ ?_
  · exact ⟨fun n => by simp [Coordinator.start, Uplinks.empty], fun n => List.nodup_nil⟩
  intro h c es c' ih he
  cases he with
  | recorded _ hb _ _ hu =>
    rw [hu]
    exact ⟨ih.1.assign _ _, ih.2.assign (Uplinks.nodup_of_reported? hb) _⟩
  | forgotten _ _ hu =>
    rw [hu]
    exact ⟨ih.1.assign _ _, ih.2.assign List.nodup_nil _⟩
  | granted _ _ _ _ hu => rwa [hu]
  | released _ _ hu => rwa [hu]
  | none _ _ _ hu => rwa [hu]

end Runs

namespace Coordinator

variable {ι : Type} {react : ι → Conflict → Act ι Unit} {c : Coordinator ι} {n m : String}
  {texts : List String} {transport : Transport}

theorem valueAt?_uplinkTexts (c : Coordinator ι) (n : String) :
    valueAt? n c.uplinkTexts = (c.uplinks.entries.get? n).map Ipv4.sortedTexts :=
  valueAt?_map ..

theorem blocksOf_uplinkTexts (hd : c.uplinks.Distinct)
    (ht : valueAt? n c.uplinkTexts = some texts) :
    (Ipv4.blocksOf texts).Perm (c.uplinks.blocksFor n) ∧
      Ipv4.sortedTexts (Ipv4.blocksOf texts) = texts := by
  rw [valueAt?_uplinkTexts, Option.map_eq_some_iff] at ht
  obtain ⟨blocks, hb, rfl⟩ := ht
  have hfor : c.uplinks.blocksFor n = blocks := by rw [Uplinks.blocksFor, hb, Option.getD_some]
  have hp := Ipv4.blocksOf_sortedTexts_perm (hfor ▸ hd n)
  exact ⟨hfor ▸ hp, Ipv4.sortedTexts_congr hp⟩

theorem nodup_keys_uplinkTexts (c : Coordinator ι) : (c.uplinkTexts.map Prod.fst).Nodup := by
  have hkeys : c.uplinkTexts.map Prod.fst = c.uplinks.networks := by
    simp [uplinkTexts, Uplinks.networks, Ledger.keys]
  exact hkeys ▸ c.uplinks.entries.nodup

theorem mem_uplinkTexts {row : String × List String} :
    row ∈ c.uplinkTexts ↔ valueAt? row.1 c.uplinkTexts = some row.2 :=
  (valueAt?_eq_some_iff (nodup_keys_uplinkTexts c)).symm

theorem blocksOf_ne_nil (hu : c.uplinks.Tight ∧ c.uplinks.Distinct)
    (ht : valueAt? n c.uplinkTexts = some texts) : Ipv4.blocksOf texts ≠ [] := by
  have hp := (blocksOf_uplinkTexts hu.2 ht).1
  rw [valueAt?_uplinkTexts, Option.map_eq_some_iff] at ht
  obtain ⟨blocks, hb, -⟩ := ht
  intro he
  rw [he, List.nil_perm] at hp
  rw [hu.1.get?_eq_none_iff.mpr hp] at hb
  cases hb

theorem mem_allBlocks_of_uplinkTexts (hd : c.uplinks.Distinct) {b : Ipv4.Block} :
    b ∈ c.uplinks.allBlocks ↔ ∃ row ∈ c.uplinkTexts, b ∈ Ipv4.blocksOf row.2 := by
  rw [Uplinks.mem_allBlocks]
  constructor
  · rintro ⟨n, hb⟩
    obtain ⟨blocks, hn⟩ : ∃ blocks, c.uplinks.entries.get? n = some blocks := by
      cases hn : c.uplinks.entries.get? n with
      | none => simp [Uplinks.blocksFor, hn] at hb
      | some blocks => exact ⟨blocks, rfl⟩
    have ht : valueAt? n c.uplinkTexts = some (Ipv4.sortedTexts blocks) := by
      rw [valueAt?_uplinkTexts, hn, Option.map_some]
    exact ⟨(n, _), mem_uplinkTexts.mpr ht, (blocksOf_uplinkTexts hd ht).1.mem_iff.mpr hb⟩
  · rintro ⟨row, hrow, hb⟩
    exact ⟨row.1, (blocksOf_uplinkTexts hd (mem_uplinkTexts.mp hrow)).1.mem_iff.mp hb⟩

theorem update_retold (hd : c.uplinks.Distinct) (ht : valueAt? n c.uplinkTexts = some texts)
    (hv : transport ≠ .vpn) (m : String) :
    ∃ blocks events,
      (update react ⟨m, some transport, texts⟩ c).events = .recorded m blocks :: events ∧
        blocks.Perm (c.uplinks.blocksFor n) := by
  have hr : (record ⟨m, some transport, texts⟩ c).events =
      [.recorded m (Ipv4.blocksOf texts)] := by
    simp only [record, Uplinks.reported?_some hv]
  have he := congrArg Outcome.events (update_eq react ⟨m, some transport, texts⟩ c)
  simp only [hr, List.singleton_append] at he
  exact ⟨_, _, he, (blocksOf_uplinkTexts hd ht).1⟩

theorem uplinkTexts_retold (hu : c.uplinks.Tight ∧ c.uplinks.Distinct)
    (ht : valueAt? n c.uplinkTexts = some texts) (hv : transport ≠ .vpn)
    (hq : ∀ l k, (react l k).Discreet) (m l : String) :
    valueAt? l (update react ⟨m, some transport, texts⟩ c).state.uplinkTexts =
      if l = m then some texts else valueAt? l c.uplinkTexts := by
  have he : (Ipv4.blocksOf texts).isEmpty = false := by simpa using blocksOf_ne_nil hu ht
  rw [valueAt?_uplinkTexts, update_uplinks hq, valueAt?_uplinkTexts, Uplinks.report]
  simp only [Uplinks.reported?_some hv, Uplinks.get?_assign, he]
  split
  · exact congrArg some (blocksOf_uplinkTexts hu.2 ht).2
  · rfl

/-- What a coordinator shows of its uplinks says all that it knows of them. -/
structure Retellable (c : Coordinator ι) : Prop where
  /-- A report of what is shown for a network records the blocks of that network, and if the
  listeners keep to the links it stays at that. -/
  single : ∀ n ∈ c.uplinks.networks, ∃ texts, valueAt? n c.uplinkTexts = some texts ∧
    ∀ (m : String) (transport : Transport), transport ≠ .vpn →
      ∀ react : ι → Conflict → Act ι Unit,
        (∃ blocks events,
          (update react ⟨m, some transport, texts⟩ c).events = .recorded m blocks :: events ∧
            blocks.Perm (c.uplinks.blocksFor n)) ∧
        ((∀ l k, (react l k).Discreet) → ∀ l,
          valueAt? l (update react ⟨m, some transport, texts⟩ c).state.uplinkTexts =
            if l = m then some texts else valueAt? l c.uplinkTexts)
  /-- Told all that is shown, in any order, a coordinator at its start shows the same and finds the
  same blocks taken by uplinks. -/
  whole : ∀ rows : List (String × List String), rows.Perm c.uplinkTexts →
    ∀ ts : String → Transport, (∀ n, ts n ≠ .vpn) →
      ∀ settings draws policy, ∀ react : ι → Conflict → Act ι Unit,
        let told := changeAll react (Uplinks.retelling ts rows) (start settings draws policy)
        told.result = .ok () ∧ signalsIn told.events = [] ∧ told.state.uplinkTexts = rows ∧
          ∀ b : Ipv4.Block, told.state.uplinks.allBlocks.any b.overlaps =
            c.uplinks.allBlocks.any b.overlaps

theorem retellable (hu : c.uplinks.Tight ∧ c.uplinks.Distinct) : c.Retellable where
  single n hn := by
    obtain ⟨blocks, hb⟩ := Ledger.mem_keys.mp hn
    have ht : valueAt? n c.uplinkTexts = some (Ipv4.sortedTexts blocks) := by
      rw [valueAt?_uplinkTexts, hb, Option.map_some]
    exact ⟨_, ht, fun m transport hv react =>
      ⟨update_retold hu.2 ht hv m, fun hq l => uplinkTexts_retold hu ht hv hq m l⟩⟩
  whole rows hrows ts hts settings draws policy react := by
    intro told
    have hrow : ∀ row ∈ rows, valueAt? row.1 c.uplinkTexts = some row.2 := fun row hm =>
      mem_uplinkTexts.mp (hrows.mem_iff.mp hm)
    have hnodup : (rows.map Prod.fst).Nodup :=
      (hrows.map _).nodup_iff.mpr (nodup_keys_uplinkTexts c)
    have hquiet : ∀ l ∈ (start (ι := ι) settings draws policy).listeners, ∀ k,
        react l k = Act.done () := by
      simp [start]
    obtain ⟨hres, hstate, hsig⟩ := changeAll_of_quiet hquiet (Uplinks.retelling ts rows)
    have hentries : told.state.uplinks.entries.entries =
        rows.map fun row => (row.1, Ipv4.blocksOf row.2) := by
      change (changeAll _ _ _).state.uplinks.entries.entries = _
      rw [hstate]
      exact Uplinks.entries_applyAll_retelling hts (fun row hm => blocksOf_ne_nil hu (hrow row hm))
        hnodup
    have htexts : told.state.uplinkTexts = rows := by
      rw [uplinkTexts, hentries, List.map_map]
      refine (List.map_congr_left fun row hm => ?_).trans rows.map_id
      exact congrArg (row.1, ·) (blocksOf_uplinkTexts hu.2 (hrow row hm)).2
    refine ⟨hres, ?_, htexts, fun b => ?_⟩
    · -- A fresh coordinator has no reservation that a report could hit.
      refine hsig.trans (List.flatMap_eq_nil_iff.mpr fun ch _ => ?_)
      cases ch <;> rfl
    · have hmem (d : Ipv4.Block) :
          d ∈ told.state.uplinks.allBlocks ↔ d ∈ c.uplinks.allBlocks := by
        rw [mem_allBlocks_of_uplinkTexts hu.2, Uplinks.allBlocks, Ledger.values, hentries]
        simp [hrows.mem_iff]
      rw [Bool.eq_iff_iff, List.any_eq_true, List.any_eq_true]
      exact exists_congr fun d => and_congr_left fun _ => hmem d

end Coordinator

theorem Ipv4.mem_blocksOf_iff_first {texts : List String} {b : Block} :
    b ∈ blocksOf texts ↔ ∃ text ∈ texts, ∃ i : Interface,
      Interface.ofText? (Text.strip text) = .ok i ∧ b.length = i.length ∧
        ∀ k, b.first.value.testBit k =
          (decide (32 - i.length ≤ k) && i.address.value.testBit k) := by
  rw [mem_blocksOf]
  refine exists_congr fun text => and_congr_right fun _ => ?_
  rw [blockOf?, Option.map_eq_some_iff]
  refine exists_congr fun i => ?_
  rw [Interface.block_eq_iff]
  exact and_congr_left fun _ => ⟨eq_ok_of_toOption, fun h => by rw [h]; rfl⟩

/-- The blocks of texts are those of each text by itself, and printed they read as themselves. So
what a coordinator shows of its uplinks can be told to it again, and to a fresh one. -/
theorem uplinks_retold :
    (∀ xs ys b, b ∈ Ipv4.blocksOf (xs ++ ys) ↔ b ∈ Ipv4.blocksOf xs ∨ b ∈ Ipv4.blocksOf ys) ∧
      (∀ xs ys, (∀ text : String, text ∈ xs ↔ text ∈ ys) →
        (Ipv4.blocksOf xs).Perm (Ipv4.blocksOf ys)) ∧
      (∀ texts b, b ∈ Ipv4.blocksOf texts ↔ ∃ text ∈ texts, ∃ i : Ipv4.Interface,
        Ipv4.Interface.ofText? (Text.strip text) = .ok i ∧ b.length = i.length ∧
          ∀ k, b.first.value.testBit k =
            (decide (32 - i.length ≤ k) && i.address.value.testBit k)) ∧
      (∀ texts b, b ∈ Ipv4.blocksOf ((Ipv4.blocksOf texts).map Ipv4.Block.text) ↔
        b ∈ Ipv4.blocksOf texts) ∧
      ∀ (ι : Type) [DecidableEq ι] (settings : Settings) (draws : DrawSource)
        (policy : Option Bool) (p q : Routine ι) (h : List (Event ι)) (c : Coordinator ι),
        p.Reaches (.start settings draws policy) h q c → c.Retellable :=
  ⟨fun _ _ _ => Ipv4.mem_blocksOf_append,
    fun _ _ hm => Ipv4.ReadAlike.blocksOf_perm fun text _ => hm text,
    fun _ _ => Ipv4.mem_blocksOf_iff_first, fun _ _ => Ipv4.mem_blocksOf_map_text,
    fun _ _ _ _ _ _ _ _ _ hr => Coordinator.retellable hr.tight_distinct⟩

/-- An address of the other family hides no neighbour, and after a collision the uplink can be told
back as another network that is reached over a cable. -/
theorem collision_retold :
    let c := (Routine.collision.act .steady).state
    (Ipv4.blocksOf ["192.168.43.9/24", "fe80::1/64", "10.1.2.3/8"]).Perm
        (Ipv4.blocksOf ["10.1.2.3/8", "192.168.43.9/24", "10.1.2.3/8", "fe80::1/64"]) ∧
      c.uplinkTexts = [("office", ["192.168.43.0/24"])] ∧
      valueAt? "dock" (Coordinator.update (fun _ _ => Act.done ())
        ⟨"dock", some .ethernet, ["192.168.43.0/24"]⟩ c).state.uplinkTexts =
          some ["192.168.43.0/24"] := by
  intro c
  have ht : c.uplinkTexts = [("office", ["192.168.43.0/24"])] := by decide +kernel
  obtain ⟨-, hperm, -, -, hretell⟩ := uplinks_retold
  refine ⟨hperm _ _ (by simp; tauto), ht, ?_⟩
  obtain ⟨texts, htexts, htold⟩ :=
    (hretell _ _ _ _ _ _ _ _ Routine.collision_reaches).single "office" (by decide +kernel)
  rw [show (Routine.collision.act .steady).state.uplinkTexts = _ from ht] at htexts
  obtain rfl : texts = ["192.168.43.0/24"] := (Option.some.inj htexts).symm
  exact (htold "dock" .ethernet (by decide) fun _ _ => Act.done ()).2
    (fun _ _ => ⟨fun _ => rfl, fun _ => rfl⟩) "dock"

end Downlink
