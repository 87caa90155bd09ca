import Downlink.Proofs.ControlPlane.Run
import Mathlib.Data.List.DropRight

/-! # The queue of conflicts

All that the coordinator signals enters the queue, and only two things take it
out again: a fetch, which hands out the whole queue, and newer signals that find
it full. So the queue is what was signalled last, and what fetches hand out are
the signals themselves in their order.
-/

namespace Downlink

open ControlPlane Http

/-- The methods that a resource has of its own; others come with the web server. -/
def ControlPlane.Resource.ownMethods : Resource → List String
  | downstreams => ["GET"]
  | downstream _ => ["POST", "DELETE"]
  | uplinks => ["GET"]
  | uplink _ => ["PUT", "DELETE"]
  | conflicts => ["GET"]
  | file _ => []

namespace Http.Request

def IsDocumented (r : Request) : Prop :=
  ∃ resource, resource? r = some resource ∧ verb r ∈ resource.ownMethods

instance (r : Request) : Decidable r.IsDocumented :=
  decidable_of_iff ((resource? r).any fun resource => decide (verb r ∈ resource.ownMethods))
    (by simp [IsDocumented, Option.any_eq_true])

def isFetch (r : Request) : Bool :=
  verb r = "GET" && resource? r = some .conflicts

def IsReport (r : Request) : Prop :=
  verb r = "PUT" ∧ ∃ network, resource? r = some (.uplink network)

end Http.Request

def Http.Response.listed (response : Response) : List Conflict :=
  match response.body with
  | .text _ => []
  | .json v =>
    match Encoding.field? v "conflicts" with
    | .ok (.arr rows) => rows.filterMap fun row => (Conflict.ofJson? (fun _ => 0) row).toOption
    | _ => []

namespace Turn

def handedOut (t : Turn) : List Conflict :=
  if t.request.isFetch then t.response.listed else []

def unfetched (ts : List Turn) : List Conflict :=
  (ts.rtakeWhile fun t => !t.request.isFetch).flatMap signals

end Turn

namespace ControlPlane

variable {s : ControlPlane} {r : Request} {k : Command}

def conflictList (ks : List Conflict) : Response :=
  answer 200 (.obj [("conflicts", .arr (ks.map Conflict.toJson))])

def roleList (roles : List Role) : Response :=
  answer 200 (.obj [("conflicts", .ofStrings (roles.map Role.name))])

theorem listed_conflictList (ks : List Conflict) : (conflictList ks).listed = ks := by
  have hrows : Encoding.field? (Json.obj [("conflicts", .arr (ks.map Conflict.toJson))]).sorted
      "conflicts" = .ok (.arr (ks.map fun k => k.toJson.sorted)) := by
    simp only [Json.sorted, Json.sortedFields, Json.insertSorted, Json.sortedItems_eq_map,
      List.map_map]
    rfl
  have hread (k : Conflict) :
      (Conflict.ofJson? (fun _ => 0) k.toJson.sorted).toOption = some k := by
    rw [Conflict.ofJson?_sorted_toJson]
    rfl
  simp only [conflictList, answer, Response.plain, Response.listed, hrows, List.filterMap_map]
  simp [hread]

theorem serve_of_isFetch (h : r.isFetch = true) :
    s.serve r = (conflictList s.pending, { s with pending := [] }) := by
  simp only [Request.isFetch, Bool.and_eq_true, decide_eq_true_eq] at h
  obtain ⟨hv, hr⟩ := h
  rw [serve_eq_apply hr (by simp [hv]) (by simp [hv])]
  rfl

theorem command?_of_isFetch (h : r.isFetch = true) : command? s.room r = some .drain := by
  simp only [Request.isFetch, Bool.and_eq_true, decide_eq_true_eq] at h
  obtain ⟨hv, hr⟩ := h
  simp [command?, hv, hr, commandFor?]

theorem isFetch_of_command? (hd : r.IsDocumented) (h : command? s.room r = some .drain) :
    r.isFetch = true := by
  obtain ⟨resource, hr, hm⟩ := hd
  unfold command? at h
  split at h
  · cases h
  · rw [hr, Option.bind_some] at h
    obtain rfl := commandFor?_eq_drain h
    simp only [Resource.ownMethods, List.mem_singleton] at hm
    simp [Request.isFetch, hm, hr]

theorem signals_of_command?_none (h : command? s.room r = none) : (Turn.mk s r).signals = [] := by
  simp [Turn.signals, outcomeOf, h, signalsIn, Act.done]

theorem signals_of_command?_some (h : command? s.room r = some k) :
    (Turn.mk s r).signals = k.collisions s.coordinator := by
  simp only [Turn.signals, outcomeOf, h, (k.course s.coordinator).signals_eq]

theorem pending_serve_cases (hl : s.coordinator.listeners = [.queue])
    (hn : newest s.capacity s.pending = s.pending) (r : Request) :
    command? s.room r = some .drain ∧ (s.serve r).2.pending = [] ∧ (Turn.mk s r).signals = [] ∨
      command? s.room r ≠ some .drain ∧
        (s.serve r).2.pending = newest s.capacity (s.pending ++ (Turn.mk s r).signals) := by
  cases hk : command? s.room r with
  | none =>
    refine Or.inr ⟨by simp, ?_⟩
    rw [(serve_of_command?_none hk).same, signals_of_command?_none hk, List.append_nil, hn]
  | some k =>
    rw [(serve_of_command?_some hk).2, signals_of_command?_some hk]
    by_cases hd : k = .drain
    · subst hd
      exact Or.inl ⟨rfl, rfl, rfl⟩
    · exact Or.inr ⟨by simpa using hd, pending_obey hl hd⟩

theorem pending_serve (hd : r.IsDocumented) (hl : s.coordinator.listeners = [.queue])
    (hn : newest s.capacity s.pending = s.pending) :
    r.isFetch = true ∧ (s.serve r).2.pending = [] ∧ (Turn.mk s r).signals = [] ∨
      r.isFetch = false ∧
        (s.serve r).2.pending = newest s.capacity (s.pending ++ (Turn.mk s r).signals) := by
  rcases pending_serve_cases hl hn r with ⟨hk, hs⟩ | ⟨hk, hs⟩
  · exact Or.inl ⟨isFetch_of_command? hd hk, hs⟩
  · exact Or.inr ⟨Bool.eq_false_iff.mpr fun hf => hk (command?_of_isFetch hf), hs⟩

section Runs

variable {s₀ : ControlPlane} {ts : List Turn} {t : Turn}

theorem unfetched_concat_of_isFetch (h : t.request.isFetch = true) :
    Turn.unfetched (ts ++ [t]) = [] := by
  rw [Turn.unfetched, List.rtakeWhile_concat_neg _ _ _ (by simp [h])]
  rfl

theorem unfetched_concat_of_not_isFetch (h : t.request.isFetch = false) :
    Turn.unfetched (ts ++ [t]) = Turn.unfetched ts ++ t.signals := by
  rw [Turn.unfetched, List.rtakeWhile_concat_pos _ _ _ (by simp [h]), List.flatMap_append]
  simp [Turn.unfetched]

theorem handedOut_of_isFetch (h : t.request.isFetch = true) : t.handedOut = t.before.pending := by
  rw [Turn.handedOut, if_pos h, Turn.response, serve_of_isFetch h, listed_conflictList]

theorem handedOut_of_not_isFetch (h : t.request.isFetch = false) : t.handedOut = [] := by
  rw [Turn.handedOut, h]
  rfl

/-- Along a run of documented requests the queue is the newest of what has not been fetched, and
what was fetched is part of what was signalled. -/
theorem Reaches.pending_eq (h : s₀.Reaches ts s) (hd : ∀ t ∈ ts, t.request.IsDocumented)
    (hl : s₀.coordinator.listeners = [.queue]) (h₀ : s₀.pending = []) :
    s.pending = newest s₀.capacity (Turn.unfetched ts) ∧
      (ts.flatMap Turn.handedOut ++ s.pending).Sublist (ts.flatMap Turn.signals) := by
  induction h with
  | start => simp [h₀, Turn.unfetched, newest_nil]
  | @served ts s r h ih =>
    obtain ⟨hp, hsub⟩ := ih fun t ht => hd t (List.mem_append_left _ ht)
    have hn := (h.newest_pending (by rw [h₀, newest_nil])).1
    rw [List.flatMap_append, List.flatMap_append, List.flatMap_singleton, List.flatMap_singleton]
    rcases pending_serve (hd _ (List.mem_append_right _ List.mem_cons_self)) (h.listeners.trans hl)
      hn with ⟨hf, hs, hsig⟩ | ⟨hf, hs⟩
    · rw [hs, unfetched_concat_of_isFetch hf, handedOut_of_isFetch hf, hsig, newest_nil,
        List.append_nil, List.append_nil]
      exact ⟨rfl, hsub⟩
    · rw [hs, unfetched_concat_of_not_isFetch hf, handedOut_of_not_isFetch hf, List.append_nil,
        h.capacity_eq]
      refine ⟨by rw [hp, newest_newest_append], ?_⟩
      have hold := hsub.append_right (Turn.mk s r).signals
      rw [List.append_assoc] at hold
      exact ((newest_sublist _).append_left _).trans hold
  | answered _ _ ih => exact ih hd
  | pinned _ _ ih => exact ih hd

end Runs

theorem serve_of_isReport (h : r.IsReport) :
    ((s.serve r).1.status = 200 →
        (s.serve r).1 = roleList ((Turn.mk s r).signals.map Conflict.role)) ∧
      ((s.serve r).1.status ≠ 200 → (Turn.mk s r).signals = []) := by
  obtain ⟨hv, network, hr⟩ := h
  have hk : command? s.room r = (snapshotFor? s.room network r.payload).map .update := by
    simp [command?, hv, hr, commandFor?]
  rw [serve_eq_apply hr (by simp [hv]) (by simp [hv]), hv]
  change ((s.updateUplink network r.payload).1.status = 200 → (s.updateUplink network r.payload).1 =
    _) ∧ ((s.updateUplink network r.payload).1.status ≠ 200 → _)
  cases hs : snapshotFor? s.room network r.payload with
  | none =>
    rw [hs] at hk
    have hne : (s.updateUplink network r.payload).1.status ≠ 200 := by
      obtain h | ⟨h, -⟩ := (refused_updateUplink hs).status <;> simp [h]
    exact ⟨fun h => absurd h hne, fun _ => signals_of_command?_none hk⟩
  | some snapshot =>
    rw [hs] at hk
    obtain ⟨v, hg, hread⟩ := snapshotFor?_eq_some.1 hs
    simp [updateUplink, hg, hread, run, Command.update_result, roleList, answer, Response.plain,
      signals_of_command?_some hk, Command.collisions]

/-- What those who report uplinks and fetch conflicts may rely on. -/
structure QueueLaws (capacity : Option Nat) (ts : List Turn) (s : ControlPlane) : Prop where
  /-- The action whose signals count is the one that leads to the next state. -/
  outcome : ∀ t ∈ ts, t.after.coordinator = (t.before.outcomeOf t.request).state
  pending : s.pending = newest capacity (Turn.unfetched ts)
  /-- As many newer conflicts are waiting as the queue can hold if one has been lost. -/
  lost : ∃ lost, Turn.unfetched ts = lost ++ s.pending ∧
    (lost ≠ [] → capacity = some s.pending.length)
  fetch : ∀ r : Request, r.isFetch = true →
    s.serve r = (conflictList s.pending, { s with pending := [] })
  order : (ts.flatMap Turn.handedOut ++ s.pending).Sublist (ts.flatMap Turn.signals)
  /-- The answer to a report names the roles that it signals, lost or not. -/
  report : ∀ t ∈ ts, t.request.IsReport →
    (t.response.status = 200 → t.response = roleList (t.signals.map Conflict.role)) ∧
      (t.response.status ≠ 200 → t.signals = [])

end ControlPlane

/-- The laws of the queue hold at every point of a run of documented requests. -/
theorem conflicts_queued (coordinator : Coordinator Subscriber) (capacity : Option Nat)
    (room : Json.Room) (hl : coordinator.listeners = []) (ts : List Turn) (s : ControlPlane)
    (h : (start coordinator capacity room).Reaches ts s)
    (hd : ∀ t ∈ ts, t.request.IsDocumented) : QueueLaws capacity ts s := by
  have hstart : (start coordinator capacity room).coordinator.listeners = [.queue] := by
    simp [start, Coordinator.addListener, hl]
  obtain ⟨hp, hsub⟩ := h.pending_eq hd hstart rfl
  refine ⟨?_, hp, ?_, fun r => serve_of_isFetch, hsub, ?_⟩
  · intro t _
    unfold Turn.after
    exact coordinator_serve t.request t.before
  · obtain ⟨lost, heq, hne⟩ := exists_append_newest capacity (Turn.unfetched ts)
    exact ⟨lost, hp ▸ heq, hp ▸ hne⟩
  · intro t _ ht
    unfold Turn.response
    exact serve_of_isReport ht

/-- Two links are up when an uplink comes near both; draws are of 192.168.43.5. -/
def crowding : List Request :=
  [⟨"POST", "/downstreams/wifi", .absent⟩, ⟨"POST", "/downstreams/usb", .absent⟩,
    ⟨"PUT", "/upstreams/office", .json (.obj [("transport", .str "wifi"),
      ("addresses", .ofStrings ["192.168.0.9/16"])])⟩]

def crowded : ControlPlane :=
  start (.start .standard (.feed (fun _ => .ofInt 0x2b05) 0) none) (some 1) .usual

theorem crowding_queued :
    (crowded.serveAll crowding).pending.map Conflict.role = [.usb] ∧
      ((crowded.turns crowding).flatMap Turn.signals).map Conflict.role = [.wifi, .usb] ∧
      QueueLaws (some 1) (crowded.turns crowding) (crowded.serveAll crowding) := by
  have hd : ∀ t ∈ crowded.turns crowding, t.request.IsDocumented := by decide +kernel
  exact ⟨by decide +kernel, by decide +kernel,
    conflicts_queued _ _ _ rfl _ _ (reaches_turns crowding crowded) hd⟩

end Downlink
