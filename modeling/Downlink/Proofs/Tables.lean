import Downlink.Reservations
import Downlink.Uplinks

/-! # Reading the tables

What the entries of a ledger say about its keys, and from that what the lists
taken from the reservations and from the uplink blocks hold.
-/

namespace Downlink

section Entries

variable {κ ν : Type} [DecidableEq κ] {k : κ} {v : ν}

theorem valueAt?_eq_some_iff {es : List (κ × ν)} (hn : (es.map Prod.fst).Nodup) :
    valueAt? k es = some v ↔ (k, v) ∈ es := by
  induction es with
  | nil => simp [valueAt?]
  | cons e es ih =>
    obtain ⟨hne, hn⟩ := List.nodup_cons.mp hn
    by_cases h : e.1 = k
    · have hk : (k, v) ∉ es := fun hm => hne (h ▸ List.mem_map_of_mem hm)
      simp [valueAt?, h, hk, Prod.ext_iff, eq_comm]
    · have hk : (k, v) ≠ e := fun he => h (he ▸ rfl)
      simp [valueAt?, h, hk, ih hn]

theorem putEntry_eq_self {es : List (κ × ν)} (h : valueAt? k es = some v) :
    putEntry k v es = es := by
  induction es with
  | nil => cases h
  | cons e es ih =>
    by_cases he : e.1 = k
    · simp only [valueAt?, he, if_true, Option.some.injEq] at h
      simp [putEntry, he, ← h, Prod.ext_iff]
    · simp only [valueAt?, he, if_false] at h
      simp [putEntry, he, ih h]

theorem putEntry_of_notMem {es : List (κ × ν)} (h : k ∉ es.map Prod.fst) (v : ν) :
    putEntry k v es = es ++ [(k, v)] := by
  induction es with
  | nil => rfl
  | cons e es ih =>
    rw [List.map_cons, List.mem_cons, not_or] at h
    rw [putEntry, if_neg (Ne.symm h.1), ih h.2, List.cons_append]

theorem filter_putEntry (k : κ) (v : ν) (es : List (κ × ν)) :
    ((putEntry k v es).filter fun e => decide (e.1 ≠ k)) =
      es.filter fun e => decide (e.1 ≠ k) := by
  induction es with
  | nil => simp [putEntry]
  | cons e es ih =>
    by_cases he : e.1 = k
    · simp [putEntry, he]
    · rw [putEntry, if_neg he, List.filter_cons, List.filter_cons, ih]

theorem valueAt?_map {μ : Type} (f : ν → μ) (es : List (κ × ν)) :
    valueAt? k (es.map fun e => (e.1, f e.2)) = (valueAt? k es).map f := by
  induction es with
  | nil => rfl
  | cons e es ih => by_cases h : e.1 = k <;> simp [valueAt?, h, ih]

end Entries

namespace Ledger

variable {κ ν : Type} [DecidableEq κ] {t : Ledger κ ν} {k l : κ} {v : ν}

theorem mem_entries : (k, v) ∈ t.entries ↔ t.get? k = some v :=
  (valueAt?_eq_some_iff t.nodup).symm

theorem mem_others : (l, v) ∈ t.others k ↔ l ≠ k ∧ t.get? l = some v := by
  simp [others, mem_entries, and_comm]

theorem mem_keys : k ∈ t.keys ↔ ∃ v, t.get? k = some v := by
  simp [keys, ← mem_entries]

theorem mem_values : v ∈ t.values ↔ ∃ k, t.get? k = some v := by
  simp [values, ← mem_entries]

theorem erase_eq_self (h : t.get? k = none) : t.erase k = t := by
  refine Ledger.ext (List.filter_eq_self.mpr ?_)
  rintro ⟨l, v⟩ he
  rw [mem_entries] at he
  rw [decide_eq_true_eq]
  rintro rfl
  rw [h] at he
  cases he

theorem put_eq_self (h : t.get? k = some v) : t.put k v = t :=
  Ledger.ext (putEntry_eq_self h)

theorem others_put (t : Ledger κ ν) (k : κ) (v : ν) : (t.put k v).others k = t.others k :=
  filter_putEntry k v t.entries

theorem nodup_keys_others (t : Ledger κ ν) (k : κ) : ((t.others k).map Prod.fst).Nodup :=
  t.nodup.sublist (List.filter_sublist.map _)

end Ledger

namespace Reservations

variable {t : Reservations} {r s : Role} {a : Ipv4.Interface} {b : Ipv4.Block}

theorem get?_live_reserve :
    (t.reserve r a).live.get? s = if s = r then some a else t.live.get? s :=
  Ledger.get?_put ..

theorem get?_last_reserve :
    (t.reserve r a).last.get? s = if s = r then some a else t.last.get? s :=
  Ledger.get?_put ..

theorem get?_live_release : (t.release r).live.get? s = if s = r then none else t.live.get? s :=
  Ledger.get?_erase ..

theorem last_release : (t.release r).last = t.last :=
  rfl

theorem reserve_eq_self (hl : t.live.get? r = some a) (hla : t.last.get? r = some a) :
    t.reserve r a = t := by
  rw [reserve, Ledger.put_eq_self hl, Ledger.put_eq_self hla]

theorem mem_toList {e : Reservation} : e ∈ t.toList ↔ t.live.get? e.role = some e.address := by
  rw [← Ledger.mem_entries, toList, List.mem_map]
  constructor
  · rintro ⟨_, hm, rfl⟩
    exact hm
  · intro hm
    exact ⟨_, hm, rfl⟩

theorem pairwise_role_toList (t : Reservations) : t.toList.Pairwise fun e f => e.role ≠ f.role := by
  have h : (t.live.entries.map Prod.fst).Nodup := t.live.nodup
  rw [toList, List.pairwise_map]
  exact List.pairwise_map.mp h

theorem mem_liveBlocksExcept :
    b ∈ t.liveBlocksExcept r ↔ ∃ s a, s ≠ r ∧ t.live.get? s = some a ∧ a.block = b := by
  simp only [liveBlocksExcept, List.mem_map, Prod.exists, Ledger.mem_others, and_assoc]

theorem mem_lastBlocksExcept :
    b ∈ t.lastBlocksExcept r ↔ ∃ s a, s ≠ r ∧ t.last.get? s = some a ∧ a.block = b := by
  simp only [lastBlocksExcept, List.mem_map, Prod.exists, Ledger.mem_others, and_assoc]

theorem mem_ownBlocks :
    b ∈ t.ownBlocks r ↔
      ∃ a, (t.live.get? r = some a ∨ t.last.get? r = some a) ∧ a.block = b := by
  simp only [ownBlocks, List.mem_map, List.mem_append, Option.mem_toList]

end Reservations

namespace Uplinks

variable {u : Uplinks} {n m : String} {b : Ipv4.Block} {bs : List Ipv4.Block}

theorem mem_allBlocks : b ∈ u.allBlocks ↔ ∃ n, b ∈ u.blocksFor n := by
  simp only [allBlocks, List.mem_flatten, Ledger.mem_values, blocksFor]
  constructor
  · rintro ⟨bs, ⟨n, hn⟩, hb⟩
    exact ⟨n, by rwa [hn]⟩
  · rintro ⟨n, hb⟩
    cases hn : u.entries.get? n with
    | none => simp [hn] at hb
    | some bs => exact ⟨bs, ⟨n, hn⟩, by rwa [hn] at hb⟩

theorem get?_assign (u : Uplinks) (n m : String) (bs : List Ipv4.Block) :
    (u.assign n bs).entries.get? m =
      if m = n then if bs.isEmpty then none else some bs else u.entries.get? m := by
  unfold assign
  split
  · exact Ledger.get?_erase ..
  · exact Ledger.get?_put ..

theorem assign_eq_self (h : u.entries.get? n = if bs.isEmpty then none else some bs) :
    u.assign n bs = u := by
  unfold assign
  split
  · next hb => rw [Ledger.erase_eq_self (by rw [h, if_pos hb])]
  · next hb => rw [Ledger.put_eq_self (by rw [h, if_neg hb])]

theorem blocksFor_assign (u : Uplinks) (n m : String) (bs : List Ipv4.Block) :
    (u.assign n bs).blocksFor m = if m = n then bs else u.blocksFor m := by
  unfold blocksFor
  rw [get?_assign]
  split
  · cases bs <;> rfl
  · rfl

variable {v : Uplinks} {addresses : List String} {transport : Option Transport}

theorem blocksFor_report (ht : transport ≠ some .vpn) :
    (u.report n addresses transport).2.blocksFor n = (u.report n addresses transport).1 := by
  have ⟨bs, hb⟩ : ∃ bs, reported? addresses transport = some bs := by
    unfold reported?
    split
    · exact absurd rfl ht
    · exact ⟨_, rfl⟩
    · exact ⟨_, rfl⟩
  simp only [report, hb]
  rw [blocksFor_assign, if_pos rfl]

theorem report_eq_self
    (h : u.entries.get? n = (v.report n addresses transport).2.entries.get? n) :
    (u.report n addresses transport).2 = u := by
  unfold report at h ⊢
  cases hb : reported? addresses transport with
  | none => rfl
  | some bs =>
    simp only [hb] at h
    exact assign_eq_self (by rw [h, get?_assign, if_pos rfl])

end Uplinks

end Downlink
