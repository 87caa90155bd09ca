import Downlink.Proofs.ControlPlane.Queue
import Downlink.Proofs.ControlPlane.Route

/-! # Requests whose answers have no body

`OPTIONS` reaches no resource, and `HEAD` only those that may be read. Reading
leaves all as it is, except that the queue of conflicts is emptied by whoever
reads it. A `HEAD` of the conflicts thus takes them out although nobody is told
of them; any other signal of a run is waiting, has been handed out once, or was
pushed out by newer ones.
-/

namespace Downlink

open ControlPlane Http

namespace Http.Request

def isPeek (r : Request) : Bool :=
  verb r = "HEAD" && resource? r = some .conflicts

end Http.Request

/-- What does not fit into a queue any more: the entries before the newest. -/
def ControlPlane.oldest {α : Type} (capacity : Option Nat) (entries : List α) : List α :=
  match capacity with
  | none => []
  | some n => entries.take (entries.length - n)

namespace Turn

/-- The conflicts that are pushed out of the queue by newer ones. -/
def displaced (t : Turn) : List Conflict :=
  oldest t.before.capacity (t.before.pending ++ t.signals)

def discarded (t : Turn) : List Conflict :=
  if t.request.isPeek then t.before.pending else []

end Turn

namespace ControlPlane

variable {s s₀ : ControlPlane} {r : Request} {resource : Resource} {ts : List Turn} {t : Turn}

theorem oldest_append_newest {α : Type} (capacity : Option Nat) (xs : List α) :
    oldest capacity xs ++ newest capacity xs = xs := by
  cases capacity with
  | none => rfl
  | some n => exact List.take_append_drop ..

theorem oldest_of_newest_eq {α : Type} {capacity : Option Nat} {xs : List α}
    (h : newest capacity xs = xs) : oldest capacity xs = [] := by
  have hsplit := oldest_append_newest capacity xs
  rw [h] at hsplit
  exact List.append_left_eq_self.mp hsplit

theorem commandFor?_of_head {room : Json.Room} {payload : Payload} {method : String}
    (hm : "HEAD" ∈ resource.methods) (hc : resource ≠ .conflicts) :
    commandFor? room method payload resource = none := by
  cases resource with
  | downstream role => simp [Resource.methods] at hm
  | uplink network => simp [Resource.methods] at hm
  | conflicts => exact absurd rfl hc
  | _ => rfl

theorem serve_of_verb_options (hv : verb r = "OPTIONS") : (s.serve r).2 = s := by
  have hk : command? s.room r = none := by simp [command?, hv]
  exact (serve_of_command?_none hk).same

theorem command?_of_isPeek (h : r.isPeek = true) : command? s.room r = some .drain := by
  simp only [Request.isPeek, Bool.and_eq_true, decide_eq_true_eq] at h
  simp [command?, h.1, h.2, commandFor?]

theorem serve_of_verb_head (hv : verb r = "HEAD") :
    (s.serve r).2 = if r.isPeek then { s with pending := [] } else s := by
  split
  · next hp => exact (serve_of_command?_some (command?_of_isPeek hp)).2
  · next hp =>
    have hk : command? s.room r = none := by
      unfold command?
      cases hr : resource? r with
      | none => simp
      | some resource =>
        have hm := (resource?_eq_some_iff.mp hr).2
        have hc : resource ≠ .conflicts := by
          rintro rfl
          exact hp (by simp [Request.isPeek, hv, hr])
        rw [hv] at hm
        simp [commandFor?_of_head hm hc]
    exact (serve_of_command?_none hk).same

theorem isFetch_or_isPeek (h : command? s.room r = some .drain) :
    r.isFetch = true ∨ r.isFetch = false ∧ r.isPeek = true := by
  unfold command? at h
  split at h
  · cases h
  · next ho =>
    obtain ⟨resource, hr, hk⟩ := Option.bind_eq_some_iff.mp h
    obtain rfl := commandFor?_eq_drain hk
    have hm := (resource?_eq_some_iff.mp hr).2
    simp only [Resource.methods, List.mem_cons, List.not_mem_nil, or_false] at hm
    rcases hm with hv | hv | hv
    · exact Or.inl (by simp [Request.isFetch, hv, hr])
    · exact Or.inr (by simp [Request.isFetch, Request.isPeek, hv, hr])
    · exact absurd hv ho

theorem isPeek_of_isFetch (h : r.isFetch = true) : r.isPeek = false := by
  simp only [Request.isFetch, Bool.and_eq_true, decide_eq_true_eq] at h
  simp [Request.isPeek, h.1]

theorem not_isFetch_and_not_isPeek (h : command? s.room r ≠ some .drain) :
    r.isFetch = false ∧ r.isPeek = false :=
  ⟨Bool.eq_false_iff.mpr fun hf => h (command?_of_isFetch hf),
    Bool.eq_false_iff.mpr fun hp => h (command?_of_isPeek hp)⟩

/-- In one turn what was waiting and what is signalled goes one of four ways. -/
theorem accounted_turn (hl : t.before.coordinator.listeners = [.queue])
    (hn : newest t.before.capacity t.before.pending = t.before.pending) :
    t.handedOut ++ t.discarded ++ t.displaced ++ t.after.pending =
      t.before.pending ++ t.signals := by
  rcases pending_serve_cases hl hn t.request with ⟨hk, hp, hsig⟩ | ⟨hk, hp⟩
  · have hdis : t.displaced = [] := by
      rw [Turn.displaced, hsig, List.append_nil]
      exact oldest_of_newest_eq hn
    rw [Turn.after, hp, hsig, hdis, Turn.discarded]
    rcases isFetch_or_isPeek hk with hf | ⟨hf, hpeek⟩
    · simp [handedOut_of_isFetch hf, isPeek_of_isFetch hf]
    · simp [handedOut_of_not_isFetch hf, hpeek]
  · obtain ⟨hf, hpeek⟩ := not_isFetch_and_not_isPeek hk
    rw [Turn.after, hp, handedOut_of_not_isFetch hf, Turn.discarded, hpeek]
    exact oldest_append_newest ..

theorem Reaches.accounted (h : s₀.Reaches ts s) (hl : s₀.coordinator.listeners = [.queue])
    (h₀ : s₀.pending = []) :
    (ts.flatMap Turn.signals).Perm (ts.flatMap Turn.handedOut ++ ts.flatMap Turn.discarded ++
      ts.flatMap Turn.displaced ++ s.pending) := by
  induction h with
  | start => simp [h₀]
  | @served ts s r h ih =>
    have hn := (h.newest_pending (by rw [h₀, newest_nil])).1
    have hturn := accounted_turn (t := ⟨s, r⟩) (h.listeners.trans hl) hn
    rw [List.perm_iff_count] at ih ⊢
    intro k
    have hold := ih k
    have hnew := congrArg (List.count k) hturn
    simp only [List.flatMap_append, List.flatMap_singleton, List.count_append, Turn.after]
      at hold hnew ⊢
    omega
  | answered _ _ ih => exact ih
  | pinned _ _ ih => exact ih

/-- What `OPTIONS` and `HEAD` do at the end of a run, and what has become of its signals. -/
structure BodilessLaws (ts : List Turn) (s : ControlPlane) : Prop where
  options : ∀ r : Request, verb r = "OPTIONS" → (s.serve r).2 = s
  head : ∀ r : Request, verb r = "HEAD" →
    (s.serve r).2 = if r.isPeek then { s with pending := [] } else s
  accounted : (ts.flatMap Turn.signals).Perm (ts.flatMap Turn.handedOut ++
    ts.flatMap Turn.discarded ++ ts.flatMap Turn.displaced ++ s.pending)
  unpeeked : (∀ t ∈ ts, t.request.isPeek = false) → (ts.flatMap Turn.signals).Perm
    (ts.flatMap Turn.handedOut ++ ts.flatMap Turn.displaced ++ s.pending)

end ControlPlane

/-- A request without a body in its answer leaves everything as it is, but for a peek of the
conflicts: it empties the queue. Where nobody peeks, each signal of a run that newer ones have not
pushed out is waiting or has been handed out, and that once. -/
theorem signals_accounted (coordinator : Coordinator Subscriber) (capacity : Option Nat)
    (room : Json.Room) (hl : coordinator.listeners = []) (ts : List Turn) (s : ControlPlane)
    (h : (start coordinator capacity room).Reaches ts s) : BodilessLaws ts s := by
  have hstart : (start coordinator capacity room).coordinator.listeners = [.queue] := by
    simp [start, Coordinator.addListener, hl]
  have hall := h.accounted hstart rfl
  refine ⟨fun r => serve_of_verb_options, fun r => serve_of_verb_head, hall, fun hpeek => ?_⟩
  have hnone : ts.flatMap Turn.discarded = [] := by
    refine List.flatMap_eq_nil_iff.mpr fun t ht => ?_
    rw [Turn.discarded, hpeek t ht]
    rfl
  rwa [hnone, List.append_nil] at hall

/-- A link is up when an uplink comes near it; draws are of 192.168.43.5. -/
def approach : List Request :=
  [⟨"POST", "/downstreams/wifi", .absent⟩,
    ⟨"PUT", "/upstreams/office", .json (.obj [("transport", .str "wifi"),
      ("addresses", .ofStrings ["192.168.43.9/24"])])⟩]

def peek : Request :=
  ⟨"HEAD", "/conflicts", .absent⟩

def fetch : Request :=
  ⟨"GET", "/conflicts", .absent⟩

def approached : ControlPlane :=
  start (.start .standard (.feed (fun _ => .ofInt 0x2b05) 0) none) (some defaultCapacity)
    .usual

theorem approach_accounted :
    (approached.serveAll (approach ++ [fetch])).pending = [] ∧
      ((approached.turns (approach ++ [fetch])).flatMap Turn.signals).Perm
        ((approached.turns (approach ++ [fetch])).flatMap Turn.handedOut) := by
  have h := signals_accounted _ _ _ rfl _ _ (reaches_turns (approach ++ [fetch]) approached)
  have hp : (approached.serveAll (approach ++ [fetch])).pending = [] := by decide +kernel
  have hd : (approached.turns (approach ++ [fetch])).flatMap Turn.displaced = [] := by
    decide +kernel
  have hall := h.unpeeked (by decide +kernel)
  rw [hp, hd, List.append_nil, List.append_nil] at hall
  exact ⟨hp, hall⟩

/-- A peek takes the conflict out of the queue, and the fetch after it has nothing to hand out. -/
theorem peek_loses_signal :
    verb peek = "HEAD" ∧
      ((approached.serveAll approach).serve peek).2.pending ≠
        (approached.serveAll approach).pending ∧
      ((approached.turns (approach ++ [peek, fetch])).flatMap Turn.signals).length = 1 ∧
      (approached.turns (approach ++ [peek, fetch])).flatMap Turn.displaced = [] ∧
      (approached.turns (approach ++ [peek, fetch])).flatMap Turn.handedOut = [] ∧
      (approached.serveAll (approach ++ [peek, fetch])).pending = [] := by
  decide +kernel

end Downlink
