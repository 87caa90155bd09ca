import Downlink.Proofs.Routine.Effect
import Mathlib.Order.Nat
import Mathlib.Tactic.ByContra

/-! # Chronicles

A chronicle says at what times a role has obtained an address and at what times it has been given
up, where time is counted in events. From it follows which address is the latest, whether the role
still stands and since when. The two ledgers of the reservations say just that, and the order of the
live ones is that of their rise: an address obtained by a role that is up does not move it, one
obtained after a release does.
-/

namespace Downlink

open Ipv4

/-- The times at which a role has obtained addresses, and those at which it has been given up. -/
structure Chronicle where
  obtained : Interface → Nat → Prop
  released : Nat → Prop

namespace Chronicle

variable {k l : Chronicle} {a b : Interface} {n m now : Nat} {live last : Option Interface}

structure Latest (k : Chronicle) (a : Interface) (n : Nat) : Prop where
  obtained : k.obtained a n
  le : ∀ b m, k.obtained b m → m ≤ n

def Stands (k : Chronicle) (n : Nat) : Prop :=
  ∀ m, k.released m → m ≤ n

def Live (k : Chronicle) (a : Interface) : Prop :=
  ∃ n, k.Latest a n ∧ k.Stands n

/-- Whatever was obtained has been given up. -/
def Down (k : Chronicle) : Prop :=
  ∀ a n, k.obtained a n → ∃ m, k.released m ∧ n < m

/-- The first address after the last release is obtained. -/
structure Rises (k : Chronicle) (n : Nat) : Prop where
  obtained : ∃ a, k.obtained a n
  stands : k.Stands n
  first : ∀ a m, k.obtained a m → m < n → ∃ i, k.released i ∧ m < i ∧ i ≤ n

def Precedes (k l : Chronicle) : Prop :=
  ∃ n m, k.Rises n ∧ l.Rises m ∧ n < m

/-- What the tables hold for the role is what the chronicle says. -/
structure Tells (k : Chronicle) (live last : Option Interface) : Prop where
  last_eq_some : ∀ a, last = some a ↔ ∃ n, k.Latest a n
  last_eq_none : last = none ↔ ∀ a n, ¬ k.obtained a n
  live_eq_some : ∀ a, live = some a ↔ k.Live a
  live_eq_none : live = none ↔ k.Down

theorem Rises.le (hn : k.Rises n) (hm : k.Rises m) : m ≤ n := by
  by_contra hlt
  obtain ⟨a, ha⟩ := hn.obtained
  obtain ⟨i, hi, hni, _⟩ := hm.first a n ha (Nat.lt_of_not_le hlt)
  exact absurd (hn.stands i hi) (Nat.not_le_of_lt hni)

theorem Rises.eq (hn : k.Rises n) (hm : k.Rises m) : n = m :=
  Nat.le_antisymm (hm.le hn) (hn.le hm)

theorem latest_congr (h : ∀ a n, l.obtained a n ↔ k.obtained a n) :
    l.Latest a n ↔ k.Latest a n := by
  constructor
  · rintro ⟨ho, hle⟩
    exact ⟨(h a n).mp ho, fun b m hm => hle b m ((h b m).mpr hm)⟩
  · rintro ⟨ho, hle⟩
    exact ⟨(h a n).mpr ho, fun b m hm => hle b m ((h b m).mp hm)⟩

theorem tells_none (hn : ∀ a n, ¬ k.obtained a n) : k.Tells none none where
  last_eq_some a := iff_of_false (by simp) fun ⟨n, h⟩ => hn a n h.obtained
  last_eq_none := iff_of_true rfl hn
  live_eq_some a := iff_of_false (by simp) fun ⟨n, h, _⟩ => hn a n h.obtained
  live_eq_none := iff_of_true rfl fun a n h => absurd h (hn a n)

theorem Tells.last_of_live (ht : k.Tells live last) (ha : live = some a) : last = some a := by
  obtain ⟨n, hn, _⟩ := (ht.live_eq_some a).mp ha
  exact (ht.last_eq_some a).mpr ⟨n, hn⟩

section Entries

def withGrant (k : Chronicle) (a : Interface) (now : Nat) : Chronicle where
  obtained b n := k.obtained b n ∨ b = a ∧ n = now
  released := k.released

def withRelease (k : Chronicle) (now : Nat) : Chronicle where
  obtained := k.obtained
  released n := k.released n ∨ n = now

structure Before (k : Chronicle) (now : Nat) : Prop where
  obtained : ∀ a n, k.obtained a n → n < now
  released : ∀ n, k.released n → n < now

theorem latest_withGrant (hb : k.Before now) :
    (k.withGrant a now).Latest b n ↔ b = a ∧ n = now := by
  constructor
  · rintro ⟨ho | ho, hle⟩
    · exact absurd (hle a now (Or.inr ⟨rfl, rfl⟩)) (Nat.not_le_of_lt (hb.obtained b n ho))
    · exact ho
  · rintro ⟨rfl, rfl⟩
    refine ⟨Or.inr ⟨rfl, rfl⟩, ?_⟩
    rintro c m (hm | ⟨_, rfl⟩)
    · exact (hb.obtained c m hm).le
    · exact le_rfl

theorem stands_withGrant (hb : k.Before now) : (k.withGrant a now).Stands now :=
  fun m hm => (hb.released m hm).le

theorem tells_withGrant (hb : k.Before now) : (k.withGrant a now).Tells (some a) (some a) where
  last_eq_some b := by
    simp only [latest_withGrant hb, Option.some.injEq, exists_and_left, exists_eq, and_true]
    exact eq_comm
  last_eq_none := by
    refine iff_of_false (by simp) fun hn => ?_
    exact hn a now (Or.inr ⟨rfl, rfl⟩)
  live_eq_some b := by
    rw [Option.some.injEq]
    constructor
    · rintro rfl
      exact ⟨now, (latest_withGrant hb).mpr ⟨rfl, rfl⟩, stands_withGrant hb⟩
    · rintro ⟨n, hn, _⟩
      exact ((latest_withGrant hb).mp hn).1.symm
  live_eq_none := by
    refine iff_of_false (by simp) fun hd => ?_
    obtain ⟨m, hm, hlt⟩ := hd a now (Or.inr ⟨rfl, rfl⟩)
    exact absurd (hb.released m hm) hlt.asymm

theorem Tells.withRelease (ht : k.Tells live last) (hb : k.Before now) :
    (k.withRelease now).Tells none last where
  last_eq_some a := (ht.last_eq_some a).trans (exists_congr fun _ => latest_congr fun _ _ => .rfl)
  last_eq_none := ht.last_eq_none
  live_eq_some a := by
    refine iff_of_false (by simp) ?_
    rintro ⟨n, hn, hs⟩
    exact absurd (hs now (Or.inr rfl)) (Nat.not_le_of_lt (hb.obtained a n hn.obtained))
  live_eq_none := iff_of_true rfl fun a n hn => ⟨now, Or.inr rfl, hb.obtained a n hn⟩

theorem Rises.withGrant (hr : k.Rises n) (hb : k.Before now) : (k.withGrant a now).Rises n where
  obtained := by
    obtain ⟨b, hn⟩ := hr.obtained
    exact ⟨b, Or.inl hn⟩
  stands := hr.stands
  first := by
    rintro b m (hm | ⟨_, rfl⟩) hlt
    · exact hr.first b m hm hlt
    · obtain ⟨c, hn⟩ := hr.obtained
      exact absurd (hb.obtained c n hn) hlt.asymm

theorem Down.rises_withGrant (hd : k.Down) (hb : k.Before now) :
    (k.withGrant a now).Rises now where
  obtained := ⟨a, Or.inr ⟨rfl, rfl⟩⟩
  stands := stands_withGrant hb
  first := by
    rintro b m (hm | ⟨_, rfl⟩) hlt
    · obtain ⟨i, hi, hmi⟩ := hd b m hm
      exact ⟨i, hi, hmi, (hb.released i hi).le⟩
    · exact absurd hlt (Nat.lt_irrefl m)

end Entries

/-- `l` tells the same as `k`, and of releases in vain beside: whatever was obtained before one of
them had been given up by then. -/
structure Refines (k l : Chronicle) : Prop where
  obtained : ∀ a n, l.obtained a n ↔ k.obtained a n
  released : ∀ n, k.released n → l.released n
  vain : ∀ m, l.released m → ∀ a n, k.obtained a n → n < m → ∃ i, k.released i ∧ n < i ∧ i ≤ m

namespace Refines

variable (h : k.Refines l)
include h

theorem latest_iff : l.Latest a n ↔ k.Latest a n :=
  latest_congr h.obtained

/-- Who has been given up in vain has been given up in earnest. -/
theorem exists_released_iff (ha : k.obtained a n) :
    (∃ i, l.released i ∧ n < i ∧ i ≤ m) ↔ ∃ i, k.released i ∧ n < i ∧ i ≤ m := by
  constructor
  · rintro ⟨i, hi, hni, him⟩
    obtain ⟨j, hj, hnj, hji⟩ := h.vain i hi a n ha hni
    exact ⟨j, hj, hnj, hji.trans him⟩
  · rintro ⟨i, hi, hm⟩
    exact ⟨i, h.released i hi, hm⟩

theorem stands_iff (ha : k.obtained a n) : l.Stands n ↔ k.Stands n := by
  constructor
  · exact fun hs m hm => hs m (h.released m hm)
  · intro hs m hm
    by_contra hlt
    obtain ⟨i, hi, hni, _⟩ :=
      (h.exists_released_iff ha).mp ⟨m, hm, Nat.lt_of_not_le hlt, le_refl m⟩
    exact absurd (hs i hi) (Nat.not_le_of_lt hni)

theorem live_iff : l.Live a ↔ k.Live a :=
  exists_congr fun _ => (and_congr_left' h.latest_iff).trans <| and_congr_right fun hn =>
    h.stands_iff hn.obtained

theorem down_iff : l.Down ↔ k.Down := by
  refine forall_congr' fun a => forall_congr' fun n => ?_
  rw [h.obtained]
  refine imp_congr_right fun ha => ?_
  constructor
  · rintro ⟨m, hm, hlt⟩
    obtain ⟨i, hi, hni, _⟩ := h.vain m hm a n ha hlt
    exact ⟨i, hi, hni⟩
  · rintro ⟨m, hm, hlt⟩
    exact ⟨m, h.released m hm, hlt⟩

theorem rises (hn : k.Rises n) : l.Rises n := by
  obtain ⟨a, ha⟩ := hn.obtained
  refine ⟨⟨a, (h.obtained a n).mpr ha⟩, (h.stands_iff ha).mpr hn.stands, fun b m hm hlt => ?_⟩
  have hb := (h.obtained b m).mp hm
  exact (h.exists_released_iff hb).mpr (hn.first b m hb hlt)

theorem tells (ht : k.Tells live last) : l.Tells live last where
  last_eq_some a := by simpa only [h.latest_iff] using ht.last_eq_some a
  last_eq_none := by simpa only [h.obtained] using ht.last_eq_none
  live_eq_some a := (ht.live_eq_some a).trans h.live_iff.symm
  live_eq_none := ht.live_eq_none.trans h.down_iff.symm

end Refines

end Chronicle

namespace Reservations

variable {t : Reservations} {k l : Role → Chronicle} {r : Role} {a : Interface} {now : Nat}

structure Follows (t : Reservations) (k : Role → Chronicle) : Prop where
  tells : ∀ r, (k r).Tells (t.live.get? r) (t.last.get? r)
  rises : ∀ r ∈ t.live.keys, ∃ n, (k r).Rises n
  order : t.live.keys.Pairwise fun r s => (k r).Precedes (k s)

theorem pairwise_precedes_of_rises {rs : List Role}
    (hp : rs.Pairwise fun r s => (k r).Precedes (k s))
    (h : ∀ r ∈ rs, ∀ n, (k r).Rises n → (l r).Rises n) :
    rs.Pairwise fun r s => (l r).Precedes (l s) := by
  refine hp.imp_of_mem ?_
  rintro r s hr hs ⟨n, m, hn, hm, hlt⟩
  exact ⟨n, m, h r hr n hn, h s hs m hm, hlt⟩

theorem Follows.of_refines (hf : t.Follows k) (h : ∀ r, (k r).Refines (l r)) : t.Follows l where
  tells r := (h r).tells (hf.tells r)
  rises r hr := (hf.rises r hr).imp fun _ => (h r).rises
  order := pairwise_precedes_of_rises hf.order fun r _ _ => (h r).rises

theorem Follows.reserve (hf : t.Follows k) (hb : ∀ s, (k s).Before now)
    (hs : ∀ s ≠ r, l s = k s) (hr : l r = (k r).withGrant a now) : (t.reserve r a).Follows l := by
  have hup : ∀ s n, (k s).Rises n → (l s).Rises n := by
    intro s n hn
    by_cases h : s = r
    · subst h
      exact hr ▸ hn.withGrant (hb s)
    · rwa [hs s h]
  have hkeys : (t.reserve r a).live.keys =
      if r ∈ t.live.keys then t.live.keys else t.live.keys ++ [r] := Ledger.keys_put ..
  have hnew : r ∉ t.live.keys → (l r).Rises now := by
    intro hn
    rw [Ledger.mem_keys, ← Option.isSome_iff_exists, Option.not_isSome_iff_eq_none] at hn
    exact hr ▸ ((hf.tells r).live_eq_none.mp hn).rises_withGrant (hb r)
  refine ⟨fun s => ?_, fun s hm => ?_, ?_⟩
  · rw [get?_live_reserve, get?_last_reserve]
    split
    · next h => exact h ▸ hr ▸ Chronicle.tells_withGrant (hb r)
    · next h => exact hs s h ▸ hf.tells s
  · rw [hkeys] at hm
    split at hm
    · exact (hf.rises s hm).imp (hup s)
    · next hn =>
      rcases List.mem_append.mp hm with hm | hm
      · exact (hf.rises s hm).imp (hup s)
      · exact List.mem_singleton.mp hm ▸ ⟨now, hnew hn⟩
  · have hold := pairwise_precedes_of_rises hf.order fun s _ => hup s
    rw [hkeys]
    split
    · exact hold
    · next hn =>
      -- All that rose before rose before now.
      refine List.pairwise_append.mpr ⟨hold, List.pairwise_singleton .., fun s hm u hu => ?_⟩
      obtain ⟨n, hn'⟩ := hf.rises s hm
      obtain ⟨b, hb'⟩ := hn'.obtained
      exact List.mem_singleton.mp hu ▸
        ⟨n, now, hup s n hn', hnew hn, (hb s).obtained b n hb'⟩

theorem keys_release : (t.release r).live.keys = t.live.keys.filter fun s => decide (s ≠ r) := by
  rw [Ledger.keys, Ledger.keys, List.filter_map]
  rfl

theorem Follows.release (hf : t.Follows k) (hb : ∀ s, (k s).Before now)
    (hs : ∀ s ≠ r, l s = k s) (hr : l r = (k r).withRelease now) : (t.release r).Follows l := by
  have hne : ∀ s ∈ (t.release r).live.keys, s ∈ t.live.keys ∧ l s = k s := by
    intro s hm
    rw [keys_release, List.mem_filter, decide_eq_true_eq] at hm
    exact ⟨hm.1, hs s hm.2⟩
  refine ⟨fun s => ?_, fun s hm => ?_, ?_⟩
  · rw [get?_live_release, last_release]
    split
    · next h => exact h ▸ hr ▸ (hf.tells r).withRelease (hb r)
    · next h => exact hs s h ▸ hf.tells s
  · obtain ⟨hm, h⟩ := hne s hm
    exact h ▸ hf.rises s hm
  · refine pairwise_precedes_of_rises ?_ fun s hm n hn => (hne s hm).2 ▸ hn
    rw [keys_release]
    exact hf.order.filter _

end Reservations

section Positions

variable {α : Type} {h es : List α} {e e' : α} {n : Nat}

theorem getElem?_append_eq_some_iff (he : e ∉ es) : (h ++ es)[n]? = some e ↔ h[n]? = some e := by
  rw [List.getElem?_append]
  split
  · rfl
  · next hn =>
    rw [List.getElem?_eq_none (Nat.le_of_not_lt hn)]
    exact iff_of_false (fun hm => he (List.mem_of_getElem? hm)) (by simp)

theorem getElem?_concat_eq_some_iff :
    (h ++ [e'])[n]? = some e ↔ h[n]? = some e ∨ e = e' ∧ n = h.length := by
  rcases Nat.lt_trichotomy n h.length with hn | rfl | hn
  · simp [List.getElem?_append_left hn, hn.ne]
  · simp [eq_comm]
  · have hlen : (h ++ [e']).length ≤ n := by simpa using Nat.succ_le_of_lt hn
    simp [List.getElem?_eq_none hn.le, List.getElem?_eq_none hlen, hn.ne']

end Positions

section Events

variable {ι : Type} {h es : List (Event ι)} {r : Role}

def chronicleOf (h : List (Event ι)) (r : Role) : Chronicle where
  obtained a n := ∃ o, h[n]? = some (.granted r a o)
  released n := h[n]? = some (.released r)

theorem chronicleOf_before (h : List (Event ι)) (r : Role) : (chronicleOf h r).Before h.length where
  obtained := by
    rintro a n ⟨o, hn⟩
    exact (List.getElem?_eq_some_iff.mp hn).1
  released _ hn := (List.getElem?_eq_some_iff.mp hn).1

theorem chronicleOf_append (hg : ∀ a o, .granted r a o ∉ es) (hr : .released r ∉ es) :
    chronicleOf (h ++ es) r = chronicleOf h r := by
  simp [chronicleOf, getElem?_append_eq_some_iff, hg, hr]

theorem chronicleOf_granted (h : List (Event ι)) (r : Role) (a : Interface) (o : Origin) :
    chronicleOf (h ++ [.granted r a o]) r = (chronicleOf h r).withGrant a h.length := by
  simp only [chronicleOf, Chronicle.withGrant, getElem?_concat_eq_some_iff, Event.granted.injEq,
    true_and, reduceCtorEq, false_and, or_false, exists_or, and_assoc, exists_and_left,
    exists_eq_left]

theorem chronicleOf_released (h : List (Event ι)) (r : Role) :
    chronicleOf (h ++ [.released r]) r = (chronicleOf h r).withRelease h.length := by
  simp only [chronicleOf, Chronicle.withRelease, getElem?_concat_eq_some_iff, true_and,
    reduceCtorEq, false_and, or_false]

end Events

section Runs

variable {ι : Type} [DecidableEq ι] {settings : Settings} {draws : DrawSource}
  {policy : Option Bool} {p q : Routine ι} {h : List (Event ι)} {c : Coordinator ι}

omit [DecidableEq ι] in
theorem Reservations.follows_empty :
    Reservations.empty.Follows (chronicleOf ([] : List (Event ι))) where
  tells _ := Chronicle.tells_none fun a n ⟨o, hn⟩ => nomatch hn
  rises _ hr := by cases hr
  order := List.Pairwise.nil

theorem Routine.Reaches.follows (hr : p.Reaches (.start settings draws policy) h q c) :
    c.reservations.Follows (chronicleOf h) := by
  refine hr.invariant (I := fun h c => c.reservations.Follows (chronicleOf h))
    Reservations.follows_empty ?_
  intro h c es c' hf he
  have hidle : (∀ r a o, .granted r a o ∉ es) → (∀ r, .released r ∉ es) →
      c'.reservations = c.reservations → c'.reservations.Follows (chronicleOf (h ++ es)) := by
    intro hg hr ht
    have hk : chronicleOf (h ++ es) = chronicleOf h :=
      funext fun r => chronicleOf_append (hg r) (hr r)
    rwa [ht, hk]
  cases he with
  | @granted r _ _ a o _ _ _ _ ht _ =>
    rw [ht]
    have hothers : ∀ s ≠ r, chronicleOf (h ++ [.granted r a o]) s = chronicleOf h s :=
      fun s hs => chronicleOf_append (by simp [hs]) (by simp)
    exact hf.reserve (chronicleOf_before h) hothers (chronicleOf_granted h r a o)
  | @released r _ _ ht _ =>
    rw [ht]
    have hothers : ∀ s ≠ r, chronicleOf (h ++ [.released r]) s = chronicleOf h s :=
      fun s hs => chronicleOf_append (by simp) (by simp [hs])
    exact hf.release (chronicleOf_before h) hothers (chronicleOf_released h r)
  | recorded _ _ _ ht => exact hidle (by simp) (by simp) ht
  | forgotten _ ht => exact hidle (by simp) (by simp) ht
  | none hes _ ht =>
    refine hidle (fun r a o hm => ?_) (fun r hm => ?_) ht <;> cases hes _ hm

end Runs

end Downlink
