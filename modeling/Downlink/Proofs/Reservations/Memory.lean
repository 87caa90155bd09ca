import Downlink.Proofs.ControlPlane.Bodiless
import Downlink.Proofs.ControlPlane.Routine
import Downlink.Proofs.Reservations.Chronicle
import Downlink.Proofs.Routine.Draws

/-! # What the tables remember

The chronicle of a role in a run is that of the calls which were made for it: the requests that
returned an address, and the releases, whether there was anything to release or not. The tables keep
what this chronicle says, at every point of the run and whoever makes the calls. Behind HTTP the
answer to a release is therefore whether the role is up by the chronicle.
-/

namespace Downlink

open Ipv4

section Positions

variable {α : Type} {h l es : List α} {e : α} {n : Nat}

theorem getElem?_eq_some_iff_exists_prefix :
    h[n]? = some e ↔ ∃ l, l.length = n ∧ l ++ [e] <+: h := by
  constructor
  · intro hn
    obtain ⟨hlt, rfl⟩ := List.getElem?_eq_some_iff.mp hn
    refine ⟨h.take n, List.length_take_of_le hlt.le, ?_⟩
    rw [List.take_append_getElem]
    exact List.take_prefix ..
  · rintro ⟨l, rfl, t, rfl⟩
    simp

theorem prefix_append_cases (hp : l ++ [e] <+: h ++ es) (hes : es.length ≤ 1) :
    l ++ [e] <+: h ∨ l = h ∧ es = [e] := by
  match es with
  | [] => exact Or.inl (by simpa using hp)
  | [e'] =>
    rcases List.prefix_concat_iff.mp hp with heq | hp
    · obtain ⟨rfl, hlast⟩ := List.append_inj' heq rfl
      exact Or.inr ⟨rfl, hlast.symm⟩
    · exact Or.inl hp

theorem prefix_of_prefix_concat {e' : α} (hp : l ++ [e] <+: h ++ [e']) (hne : e' ≠ e) :
    l ++ [e] <+: h := by
  rcases prefix_append_cases hp le_rfl with hp | ⟨_, he⟩
  · exact hp
  · exact absurd (List.singleton_inj.mp he) hne

end Positions

namespace Coordinator

variable {ι : Type} {c : Coordinator ι} {r s : Role} {reuseLast : Bool} {a : Interface}
  {o : Origin}

theorem request_result_iff : (c.request s reuseLast).result = .ok a ↔
    ∃ o, (c.request s reuseLast).events = [.granted s a o] := by
  rcases c.grant_or_refusal s reuseLast with ⟨b, o, hg⟩ | ⟨f, hf⟩
  · simp [request_of_grant hg]
  · simp [request_of_refusal hf]

theorem role_of_request_events (h : (c.request s reuseLast).events = [.granted r a o]) :
    s = r := by
  rcases c.grant_or_refusal s reuseLast with ⟨b, o, hg⟩ | ⟨f, hf⟩
  · rw [request_of_grant hg] at h
    cases h
    rfl
  · simp [request_of_refusal hf] at h

theorem release_events (c : Coordinator ι) (r : Role) : (c.release r).events = [.released r] ∨
    (c.release r).events = [] ∧ c.reservations.live.get? r = none := by
  unfold release
  split
  · next h => exact Or.inr ⟨rfl, h⟩
  · exact Or.inl rfl

end Coordinator

section Runs

variable {ι : Type} [DecidableEq ι] {op : Operation ι} {p q q' : Routine ι}
  {c c₀ c' : Coordinator ι} {h h' h₁ : List (Event ι)} {r : Role} {a : Interface} {n : Nat}

theorem Operation.length_events_le (op : Operation ι) (c : Coordinator ι) :
    (op.act c).events.length ≤ 1 := by
  rcases op.events_cases c with ⟨role, reuseLast, rfl⟩ | hn | ⟨e, he, _⟩
  · obtain ⟨e, he, _⟩ := (c.requestFrame role reuseLast).answer
    simp [act_request, he]
  · simp [hn]
  · simp [he]

theorem Operation.eq_release_of_events (h : (op.act c).events = [.released r]) :
    op = .release r := by
  cases op with
  | request role reuseLast =>
    obtain ⟨e, he, hanswer, _⟩ := (c.requestFrame role reuseLast).answer
    rw [act_request, he] at h
    cases h
    cases hanswer
  | release role =>
    rcases c.release_events role with he | ⟨he, _⟩
    · cases he.symm.trans h
      rfl
    · cases he.symm.trans h
  | forget network =>
    simp only [act, Coordinator.forget] at h
    split at h <;> simp at h
  | _ => cases h

namespace Routine

theorem Reaches.exists_release (hr : p.Reaches c₀ h q c) (hp : h₁ ++ [.released r] <+: h) :
    ∃ rest c₁, p.Reaches c₀ h₁ (.perform (.release r) rest) c₁ ∧
      (c₁.release r).events = [.released r] := by
  have ht := hr.trail
  clear hr
  induction ht with
  | start => simp at hp
  | @performed h op rest c _ hr ih =>
    rcases prefix_append_cases hp (op.length_events_le c) with hp | ⟨rfl, he⟩
    · exact ih hp
    · obtain rfl := Operation.eq_release_of_events he
      exact ⟨rest, c, hr, he⟩
  | @recorded h s ls rest c _ _ ih =>
    unfold Coordinator.record at hp
    split at hp
    · exact ih (by simpa using hp)
    · exact ih (prefix_of_prefix_concat hp (by simp))
  | signalled _ ih => exact ih (prefix_of_prefix_concat hp (by simp))
  | delivered _ ih => exact ih (prefix_of_prefix_concat hp (by simp))

/-- When the requests that a run of `p` makes up to `h` have returned addresses for the role, and
when it has released the role. -/
def chronicle (p : Routine ι) (c₀ : Coordinator ι) (h : List (Event ι)) (r : Role) :
    Chronicle where
  obtained a n := ∃ h₁ reuseLast rest c, h₁.length = n ∧
    p.Reaches c₀ h₁ (.perform (.request r reuseLast) rest) c ∧
    (c.request r reuseLast).result = .ok a ∧ h₁ ++ (c.request r reuseLast).events <+: h
  released n := ∃ h₁ rest c, h₁.length = n ∧
    p.Reaches c₀ h₁ (.perform (.release r) rest) c ∧ h₁ ++ (c.release r).events <+: h

theorem Reaches.obtained_iff (hr : p.Reaches c₀ h q c) :
    (p.chronicle c₀ h r).obtained a n ↔ (chronicleOf h r).obtained a n := by
  simp only [chronicle, chronicleOf, getElem?_eq_some_iff_exists_prefix]
  constructor
  · rintro ⟨h₁, reuseLast, rest, c₁, hn, _, hres, hp⟩
    obtain ⟨o, he⟩ := Coordinator.request_result_iff.mp hres
    exact ⟨o, h₁, hn, he ▸ hp⟩
  · rintro ⟨o, h₁, hn, hp⟩
    obtain ⟨s, reuseLast, rest, c₁, hreach, he, _⟩ := hr.allAnswered h₁ _ hp rfl
    obtain rfl := Coordinator.role_of_request_events he
    exact ⟨h₁, reuseLast, rest, c₁, hn, hreach, Coordinator.request_result_iff.mpr ⟨o, he⟩,
      he.symm ▸ hp⟩

section Start

variable {settings : Settings} {draws : DrawSource} {policy : Option Bool}

/-- Releases of a role that is down are made in vain, and no others are missing in the history. -/
theorem Reaches.refines (hr : p.Reaches (.start settings draws policy) h q c) (r : Role) :
    (chronicleOf h r).Refines (p.chronicle (.start settings draws policy) h r) where
  obtained _ _ := hr.obtained_iff
  released n hn := by
    obtain ⟨h₁, hlen, hp⟩ := getElem?_eq_some_iff_exists_prefix.mp hn
    obtain ⟨rest, c₁, hreach, he⟩ := hr.exists_release hp
    exact ⟨h₁, rest, c₁, hlen, hreach, he.symm ▸ hp⟩
  vain := by
    rintro m ⟨h₁, rest, c₁, rfl, hreach, hp⟩ a n ⟨o, hn⟩ hlt
    rcases c₁.release_events r with he | ⟨he, hdown⟩
    · rw [he] at hp
      exact ⟨h₁.length, getElem?_eq_some_iff_exists_prefix.mpr ⟨h₁, rfl, hp⟩, hlt, le_rfl⟩
    · rw [he, List.append_nil] at hp
      obtain ⟨t, rfl⟩ := hp
      rw [List.getElem?_append_left hlt] at hn
      obtain ⟨i, hi, hni⟩ := (hreach.follows.tells r).live_eq_none.mp hdown a n ⟨o, hn⟩
      have hih := (chronicleOf_before h₁ r).released i hi
      exact ⟨i, (List.getElem?_append_left hih).trans hi, hni, hih.le⟩

theorem Reaches.follows_chronicle (hr : p.Reaches (.start settings draws policy) h q c) :
    c.reservations.Follows (p.chronicle (.start settings draws policy) h) :=
  hr.follows.of_refines hr.refines

theorem Reaches.lastAddress?_eq (hr : p.Reaches (.start settings draws policy) h q c)
    (hr' : p.Reaches (.start settings draws policy) (h ++ h') q' c')
    (hk : ∀ a n, (p.chronicle (.start settings draws policy) (h ++ h') r).obtained a n →
      n < h.length) :
    c'.reservations.lastAddress? r = c.reservations.lastAddress? r := by
  have hsame : ∀ a n, (p.chronicle (.start settings draws policy) (h ++ h') r).obtained a n ↔
      (p.chronicle (.start settings draws policy) h r).obtained a n := by
    intro a n
    have hlt := hk a n
    rw [hr'.obtained_iff] at hlt ⊢
    rw [hr.obtained_iff]
    constructor
    · rintro ⟨o, ho⟩
      rw [List.getElem?_append_left (hlt ⟨o, ho⟩)] at ho
      exact ⟨o, ho⟩
    · rintro ⟨o, ho⟩
      rw [← List.getElem?_append_left (List.getElem?_eq_some_iff.mp ho).1] at ho
      exact ⟨o, ho⟩
  refine Option.ext fun a => ?_
  calc c'.reservations.lastAddress? r = some a
    _ ↔ ∃ n, (p.chronicle (.start settings draws policy) (h ++ h') r).Latest a n :=
      (hr'.follows_chronicle.tells r).last_eq_some a
    _ ↔ ∃ n, (p.chronicle (.start settings draws policy) h r).Latest a n :=
      exists_congr fun _ => Chronicle.latest_congr hsame
    _ ↔ c.reservations.lastAddress? r = some a :=
      ((hr.follows_chronicle.tells r).last_eq_some a).symm

end Start

/-- What the tables of a coordinator have to say at a point of a run that has begun in `c₀`. -/
structure Recounts (p : Routine ι) (c₀ : Coordinator ι) (h : List (Event ι))
    (c : Coordinator ι) : Prop where
  tells : ∀ r, (p.chronicle c₀ h r).Tells (c.reservations.live.get? r)
    (c.reservations.lastAddress? r)
  live_last : ∀ r a, c.reservations.live.get? r = some a → c.reservations.lastAddress? r = some a
  kept : ∀ r h' q' c', p.Reaches c₀ (h ++ h') q' c' →
    (∀ a n, (p.chronicle c₀ (h ++ h') r).obtained a n → n < h.length) →
    c'.reservations.lastAddress? r = c.reservations.lastAddress? r
  mem_toList : ∀ e, e ∈ c.reservations.toList ↔ c.reservations.live.get? e.role = some e.address
  once : c.reservations.toList.Pairwise fun e f => e.role ≠ f.role
  /-- Each live role has come up at one time, and by these times the roles are ordered. -/
  rises : ∀ e ∈ c.reservations.toList, ∃! n, (p.chronicle c₀ h e.role).Rises n
  order : c.reservations.toList.Pairwise fun e f =>
    (p.chronicle c₀ h e.role).Precedes (p.chronicle c₀ h f.role)

theorem Reaches.recounts {settings : Settings} {draws : DrawSource} {policy : Option Bool}
    (hr : p.Reaches (.start settings draws policy) h q c) :
    p.Recounts (.start settings draws policy) h c := by
  have hf := hr.follows_chronicle
  refine ⟨hf.tells, fun r a => (hf.tells r).last_of_live, fun r h' q' c' => hr.lastAddress?_eq,
    fun _ => Reservations.mem_toList, Reservations.pairwise_role_toList _, ?_, ?_⟩
  · intro e he
    have hkey : e.role ∈ c.reservations.live.keys :=
      Ledger.mem_keys.mpr ⟨_, Reservations.mem_toList.mp he⟩
    obtain ⟨n, hn⟩ := hf.rises e.role hkey
    exact ⟨n, hn, fun m hm => hm.eq hn⟩
  · have ho := hf.order
    rw [Ledger.keys, List.pairwise_map] at ho
    exact List.pairwise_map.mpr ho

end Routine

end Runs

namespace ControlPlane

open Http

theorem serve_release {s : ControlPlane} {r : Request} {name : String} {role : Role}
    (hv : verb r = "DELETE") (hr : resource? r = some (.downstream name))
    (hrole : Role.ofJson? (.str name) = .ok role) :
    (s.serve r).1 = answer 200
      (.obj [("released", .bool (s.coordinator.reservations.live.get? role).isSome)]) := by
  rw [serve_eq_apply hr (by simp [hv]) (by simp [hv]), apply_release hrole (by simp [hv])]
  simp [releaseAddress, Reservations.get?]

end ControlPlane

open Http ControlPlane

/-- The tables keep the latest address of each role, hold the roles that have not been released
since and order them by the time when they came up. A release over HTTP is answered by whether the
role is up, and a run over HTTP is one of calls to the coordinator. -/
theorem tables_chronicled (settings : Settings) (draws : DrawSource) (policy : Option Bool) :
    (∀ (ι : Type) [DecidableEq ι] (p q : Routine ι) (h : List (Event ι)) (c : Coordinator ι),
      p.Reaches (.start settings draws policy) h q c →
        p.Recounts (.start settings draws policy) h c) ∧
    (∀ (p q : Routine Subscriber) (h : List (Event Subscriber)) (s : ControlPlane),
      p.Reaches (.start settings draws policy) h q s.coordinator →
      ∀ (r : Request) (name : String) (role : Role), verb r = "DELETE" →
        resource? r = some (.downstream name) → Role.ofJson? (.str name) = .ok role →
        ∃ b, (s.serve r).1 = answer 200 (.obj [("released", .bool b)]) ∧
          (b = true ↔ ∃ a, (p.chronicle (.start settings draws policy) h role).Live a)) ∧
    ∀ (p : Routine Subscriber) (capacity : Option Nat) (room : Json.Room) (ts : List Turn)
      (s : ControlPlane),
      (ControlPlane.start (p.act (.start settings draws policy)).state capacity room).Reaches ts s →
      ∃ p' : Routine Subscriber, p'.Reaches (.start settings draws policy)
        ((p.act (.start settings draws policy)).events ++ ts.flatMap Turn.events) .done
        s.coordinator := by
  refine ⟨fun ι _ p q h c hr => hr.recounts, ?_, fun p capacity room ts s hs => ?_⟩
  · intro p q h s hr r name role hv hres hrole
    refine ⟨_, serve_release hv hres hrole, ?_⟩
    rw [Option.isSome_iff_exists]
    exact exists_congr (hr.follows_chronicle.tells role).live_eq_some
  · exact hs.exists_routine_of_start

def yieldRequest : Request :=
  ⟨"DELETE", "/downstreams/wifi", .absent⟩

/-- The shared link has come up before the dedicated one, but it has yielded since and stands behind
it. After a request over HTTP a release is answered by what the calls of the run say. -/
theorem collision_chronicled :
    (Routine.collision.act .steady).state.reservations.toList =
        [⟨.wifiP2p, ReservedRanges.wifiP2pAddress⟩, ⟨.wifi, .inSubnet (.ofOctets 192 168 45 5)⟩] ∧
      (Routine.collision.chronicle .steady (Routine.collision.act .steady).events
        .wifiP2p).Precedes
        (Routine.collision.chronicle .steady (Routine.collision.act .steady).events .wifi) ∧
      let c := Coordinator.start .standard (.feed (fun _ => .ofInt 0x2b05) 0) none
      ∃ (p : Routine Subscriber) (h : List (Event Subscriber)),
        p.Reaches c h .done (approached.serveAll approach).coordinator ∧
          ∃ a, (p.chronicle c h .wifi).Live a := by
  obtain ⟨htables, _, _⟩ := tables_chronicled .standard
    (.feed (fun _ => ⟨0x2b05, by decide⟩) 0) (some true)
  obtain ⟨_, hanswer, hclient⟩ := tables_chronicled .standard
    (.feed (fun _ => .ofInt 0x2b05) 0) none
  have hrows : (Routine.collision.act .steady).state.reservations.toList =
      [⟨.wifiP2p, ReservedRanges.wifiP2pAddress⟩, ⟨.wifi, .inSubnet (.ofOctets 192 168 45 5)⟩] := by
    decide +kernel
  have horder := (htables _ _ _ _ _ Routine.collision_reaches).order
  rw [hrows] at horder
  refine ⟨hrows, List.rel_of_pairwise_cons horder (List.mem_singleton_self _), ?_⟩
  obtain ⟨p, hp⟩ := hclient .done _ _ _ _ (reaches_turns approach approached)
  have hrole : Role.ofJson? (.str "wifi") = .ok .wifi := eq_ok_of_toOption (by decide +kernel)
  have hverb : verb yieldRequest = "DELETE" := by decide +kernel
  have hres : resource? yieldRequest = some (.downstream "wifi") := by decide +kernel
  obtain ⟨b, hb, hlive⟩ := hanswer p _ _ _ hp yieldRequest "wifi" .wifi hverb hres hrole
  rw [serve_release hverb hres hrole] at hb
  have hup : b = true := by
    simp only [answer, Response.plain, Json.sorted, Json.sortedFields, Json.insertSorted,
      Response.mk.injEq, Body.json.injEq, Json.obj.injEq, List.cons.injEq, Prod.mk.injEq,
      Json.bool.injEq, true_and, and_true] at hb
    rw [← hb]
    decide +kernel
  exact ⟨p, _, hp, hlive.mp hup⟩

end Downlink
