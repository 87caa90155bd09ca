import Downlink.Proofs.Client.Calls
import Downlink.Proofs.Tables

/-! # The client over the control plane

What a client gets from each of its calls, and what the call does to the control
plane, in terms of the coordinator behind it. Each call is the direct one: the
answers say all that the client needs, and it reads them back as they were.
-/

namespace Downlink

open Http ControlPlane

namespace Client

variable {room : Json.Room} {status : Nat} {task key : String} {v : Json}

theorem value?_answer (hs : isErrorStatus status = false) (hv : v.overflow? room.levels = none) :
    value? room task (.answered status (.json v)) = .ok v := by
  simp [value?, hs, bodyValue?, Body.json?, Json.within?_eq_ok_iff.2 ⟨hv, rfl⟩, mapError_ok]

theorem field?_singleton (default : Json) :
    field? key default (Json.obj [(key, v)]).sorted = .ok v.sorted := by
  simp [Json.sorted, Json.sortedFields, Json.insertSorted, field?, valueAt?]

theorem readAddress_reservation (room : Json.Room) (r : Reservation) :
    readAddress room (.answered 200 (.json r.toJson.sorted)) = .ok r.address := by
  have hv : value? room addressTask (.answered 200 (.json r.toJson.sorted)) = .ok r.toJson.sorted :=
    value?_answer rfl (room.overflow?_sorted rfl)
  rw [r.sorted_toJson] at hv ⊢
  simp [readAddress, hv, valueAt?, Ipv4.Interface.ofJson?_text, bind, Except.bind, mapError_ok]

theorem readAddress_exhausted (room : Json.Room) (message : String) :
    readAddress room (.answered 503 (refuse 503 message).body) = .error (.exhausted message) := by
  have hfits : ((Json.obj [("error", .str message)]).sorted).within? room.levels =
      .ok (Json.obj [("error", .str message)]).sorted :=
    Json.within?_eq_ok_iff.2 ⟨room.overflow?_sorted rfl, rfl⟩
  have hb : bodyValue? room addressTask (refuse 503 message).body =
      .ok (Json.obj [("error", .str message)]).sorted :=
    mapError_eq_ok.2 (mapError_eq_ok.2 hfits)
  simp only [readAddress, hb, field?_singleton, bind, Except.bind]
  rfl

theorem members?_sorted (vs : List Json) :
    members? (Json.arr vs).sorted = .ok (vs.map Json.sorted) := by
  rw [Json.sorted, Json.sortedItems_eq_map]
  rfl

theorem value?_singleton (room : Json.Room) (task key : String) (v : Json)
    (hv : v.overflow? 2 = none) :
    value? room task (.answered 200 (answer 200 (.obj [(key, v)])).body) =
      .ok (Json.obj [(key, v)]).sorted :=
  value?_answer rfl (room.overflow?_sorted (Json.overflow?_singleton hv))

variable (c : Client)

theorem read_release (role : Role) (held : Bool) :
    (c.release role).read (.answered 200 (answer 200 (.obj [("released", .bool held)])).body) =
      .ok held := by
  simp only [release, value?_singleton c.room _ _ (.bool held) rfl, field?_singleton, bind,
    Except.bind]
  rfl

theorem read_reservations (rs : List Reservation) :
    c.reservations.read (.answered 200
      (answer 200 (.obj [("reservations", .arr (rs.map Reservation.toJson))])).body) = .ok rs := by
  have hfits : (Json.arr (rs.map Reservation.toJson)).overflow? 2 = none :=
    Json.overflow?_arr_iff.2 (List.forall_mem_map.2 fun _ _ => rfl)
  simp only [reservations, value?_singleton c.room _ _ _ hfits, field?_singleton, bind, Except.bind,
    members?_sorted, List.map_map]
  refine mapM_map_eq_ok (fun r => ?_) rs
  rw [Function.comp_apply, Reservation.ofJson?_sorted_toJson]
  rfl

theorem read_uplinks {fields : List (String × Json)} (h : (Json.obj fields).overflow? 2 = none) :
    c.uplinks.read (.answered 200 (answer 200 (.obj [("upstreams", .obj fields)])).body) =
      .ok (.obj (Json.sortedFields fields)) := by
  simp only [uplinks, value?_singleton c.room _ _ _ h, field?_singleton, bind, Except.bind]
  rfl

theorem read_drainConflicts (ks : List Conflict) :
    c.drainConflicts.read (.answered 200
      (answer 200 (.obj [("conflicts", .arr (ks.map Conflict.toJson))])).body) = .ok ks := by
  have hfits : (Json.arr (ks.map Conflict.toJson)).overflow? 2 = none :=
    Json.overflow?_arr_iff.2 (List.forall_mem_map.2 fun _ _ => rfl)
  simp only [drainConflicts, value?_singleton c.room _ _ _ hfits, field?_singleton, bind,
    Except.bind, members?_sorted, List.map_map]
  refine mapM_map_eq_ok (fun k => ?_) ks
  rw [Function.comp_apply, Conflict.ofJson?_sorted_toJson]
  rfl

end Client

namespace ControlPlane

variable {s : ControlPlane} {c : Client} {secure : Bool} {authority : Authority}
  (h : NamesServer c.base secure authority)
include h

theorem exchange_requestAddress (role : Role) (reuseLast : Bool) :
    s.exchange (c.requestAddress role (.bool reuseLast)) =
      (match (Coordinator.request role reuseLast s.coordinator).result with
        | .ok a => .ok a
        | .error (.exhausted r) => .error (.exhausted (Failure.exhausted r).message)
        | .error _ => .error (.failed Client.addressTask (some failurePage.body.content)),
        (s.run (Coordinator.request role reuseLast)).2) := by
  have hg : given s.room (.json (.obj [("reuse_last", .bool reuseLast)])) =
      .ok (.obj [("reuse_last", .bool reuseLast)]) :=
    given_of_overflow? (Json.overflow?_mono s.room.three_le rfl) rfl
  have hw : wantsLast? (.obj [("reuse_last", .bool reuseLast)]) = some reuseLast := rfl
  rw [exchange_of_mem h rfl (Client.mem_requestLines role).1 (by cases reuseLast <;> rfl)]
  simp only [Option.elim, apply_request role.ofJson?_name, requestAddress, hg, hw, run]
  cases (Coordinator.request role reuseLast s.coordinator).result with
  | ok a => exact Prod.ext (Client.readAddress_reservation c.room ⟨role, a⟩) rfl
  | error e =>
    cases e with
    | exhausted r => exact Prod.ext (Client.readAddress_exhausted c.room _) rfl
    | outOfDraws => rfl
    | listener message => rfl

theorem exchange_release (role : Role) :
    s.exchange (c.release role) =
      (.ok (s.coordinator.reservations.live.get? role).isSome,
        (s.run (Coordinator.release role)).2) := by
  have hheld : (s.coordinator.reservations.live.get? role).isSome =
      (s.coordinator.reservations.get? role).isSome := by
    simp [Reservations.get?]
  rw [exchange_of_mem h rfl (Client.mem_requestLines role).2 rfl]
  simp only [Option.elim, apply_release role.ofJson?_name (by decide : "DELETE" ≠ "POST"), hheld]
  exact Prod.ext (c.read_release role _) rfl

theorem exchange_reservations :
    s.exchange c.reservations = (.ok s.coordinator.reservations.toList, s) := by
  rw [exchange_of_mem h rfl Client.collections_mem_requestLines.1 rfl]
  exact Prod.ext (c.read_reservations _) rfl

theorem exchange_uplinks :
    s.exchange c.uplinks = (.ok (.obj (Json.sortedFields
      (s.coordinator.uplinkTexts.map fun e => (e.1, .ofStrings e.2)))), s) := by
  rw [exchange_of_mem h rfl Client.collections_mem_requestLines.2.1 rfl]
  refine Prod.ext (c.read_uplinks ?_) rfl
  exact Json.overflow?_obj_iff.2 (List.forall_mem_map.2 fun e _ => Json.overflow?_ofStrings e.2)

theorem exchange_drainConflicts :
    s.exchange c.drainConflicts = (.ok s.pending, { s with pending := [] }) := by
  rw [exchange_of_mem h rfl Client.collections_mem_requestLines.2.2 rfl]
  exact Prod.ext (c.read_drainConflicts _) rfl

end ControlPlane

theorem Coordinator.release_reservations {ι : Type} (role : Role) (c : Coordinator ι) :
    (release role c).state.reservations.live.get? role = none ∧
      (release role c).state.reservations.last = c.reservations.last := by
  unfold release
  split
  · next hn => exact ⟨hn, rfl⟩
  · exact ⟨by simp [Reservations.get?_live_release], rfl⟩

/-- The calls of a client are the direct calls of the coordinator behind the control plane. -/
structure Client.Agrees (c : Client) (s : ControlPlane) : Prop where
  request_state : ∀ role reuseLast,
    (s.exchange (c.requestAddress role (.bool reuseLast))).2.coordinator =
      (Coordinator.request role reuseLast s.coordinator).state
  request_ok : ∀ role reuseLast a,
    (s.exchange (c.requestAddress role (.bool reuseLast))).1 = .ok a ↔
      (Coordinator.request role reuseLast s.coordinator).result = .ok a
  request_exhausted : ∀ role reuseLast message,
    (s.exchange (c.requestAddress role (.bool reuseLast))).1 = .error (.exhausted message) ↔
      ∃ r, (Coordinator.request role reuseLast s.coordinator).result = .error (.exhausted r) ∧
        (Failure.exhausted r).message = message
  release_result : ∀ role,
    (s.exchange (c.release role)).1 = .ok (s.coordinator.reservations.live.get? role).isSome
  release_state : ∀ role,
    (s.exchange (c.release role)).2.coordinator = (Coordinator.release role s.coordinator).state
  release_live : ∀ role,
    (s.exchange (c.release role)).2.coordinator.reservations.live.get? role = none
  release_last : ∀ role,
    (s.exchange (c.release role)).2.coordinator.reservations.last = s.coordinator.reservations.last
  reservations : s.exchange c.reservations = (.ok s.coordinator.reservations.toList, s)
  uplinks : ∃ fields, s.exchange c.uplinks = (.ok (.obj fields), s) ∧
    fields.Perm (s.coordinator.uplinkTexts.map fun e => (e.1, .ofStrings e.2)) ∧
    ∀ network, valueAt? network fields =
      (valueAt? network s.coordinator.uplinkTexts).map Json.ofStrings
  drainConflicts : s.exchange c.drainConflicts = (.ok s.pending, { s with pending := [] })

/-- A client whose address names the server, and nothing on it, agrees with the coordinator there in
every state. -/
theorem client_agrees (c : Client) (secure : Bool) (authority : Authority)
    (h : NamesServer c.base secure authority) (s : ControlPlane) : c.Agrees s where
  request_state role reuseLast := by rw [exchange_requestAddress h]; rfl
  request_ok role reuseLast a := by
    rw [exchange_requestAddress h]
    cases (Coordinator.request role reuseLast s.coordinator).result with
    | ok a' => simp
    | error e => cases e <;> simp
  request_exhausted role reuseLast message := by
    rw [exchange_requestAddress h]
    cases (Coordinator.request role reuseLast s.coordinator).result with
    | ok a' => simp
    | error e => cases e <;> simp
  release_result role := by rw [exchange_release h]
  release_state role := by rw [exchange_release h]; rfl
  release_live role := by
    rw [exchange_release h]
    exact (Coordinator.release_reservations role s.coordinator).1
  release_last role := by
    rw [exchange_release h]
    exact (Coordinator.release_reservations role s.coordinator).2
  reservations := exchange_reservations h
  uplinks := by
    refine ⟨_, exchange_uplinks h, ?_, fun network => ?_⟩
    · refine (Json.sortedFields_perm _).trans (.of_eq ?_)
      simp only [List.map_map, Function.comp_def, Json.sorted_ofStrings]
    · rw [Json.valueAt?_sortedFields, valueAt?_map, Option.map_map]
      simp only [Function.comp_def, Json.sorted_ofStrings]
  drainConflicts := exchange_drainConflicts h

def Client.plain : Client :=
  .ofUrl "http://coord/" defaultTimeout .usual

theorem Client.plain_namesServer : ∃ authority, NamesServer plain.base false authority := by
  have h : afterScheme? (plain.base.toList.dropWhile Text.isBlank) = some (false, "coord".toList) ∧
      "coord".toList.any endsAuthority = false ∧
      (Authority.ofText? "coord".toList).isSome = true := by decide +kernel
  exact ⟨_, "coord".toList, h.1, h.2.1, (Option.some_get h.2.2).symm⟩

theorem plain_agrees :
    ((start (.start .standard (.feed (fun _ => .ofInt 0x2b05) 0) none) none .usual).exchange
      (Client.plain.requestAddress .wifi (.bool false))).1 =
        .ok (.inSubnet (.ofOctets 192 168 43 5)) := by
  obtain ⟨authority, ha⟩ := Client.plain_namesServer
  exact ((client_agrees _ _ authority ha _).request_ok .wifi false _).mpr
    (eq_ok_of_toOption (by decide +kernel))

end Downlink
