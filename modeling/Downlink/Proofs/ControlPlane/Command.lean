import Downlink.ControlPlane.Serve
import Downlink.Proofs.Coordinator.Collisions
import Downlink.Proofs.Coordinator.Request
import Downlink.Proofs.Encoding.Height

/-! # Commands of the control plane

A request holds at most one command, which depends on nothing but the request
and the room for its body. A request without one is a question or is turned
down, and leaves everything as it is; else the command settles the next state and
the status. This is all that is needed to know what a run of requests does.
-/

namespace Downlink

def Act.void {ι α : Type} (x : Act ι α) : Act ι Unit := fun c =>
  let outcome := x c
  ⟨outcome.result.map fun _ => (), outcome.state, outcome.events⟩

inductive Command where
  | request (role : Role) (reuseLast : Bool)
  | release (role : Role)
  | update (snapshot : Snapshot)
  | forget (network : String)
  | drain

def Command.act : Command → Act Subscriber Unit
  | request role reuseLast => (Coordinator.request role reuseLast).void
  | release role => Coordinator.release role
  | update snapshot => (Coordinator.update ControlPlane.react snapshot).void
  | forget network => Coordinator.forget network
  | drain => Act.done ()

open Http

/-- The body holds a value, or would hold one, that is nested too deep. -/
def Http.Payload.IsTooDeep (room : Json.Room) (p : Payload) : Prop :=
  ∃ fault, p.json? room = .error fault

namespace ControlPlane

/-- The method of a request, which counts in any case. -/
def verb (r : Request) : String :=
  r.method.map Char.toUpper

def resource? (r : Request) : Option Resource :=
  match route (verb r) (decodedPath r.target) with
  | .found resource => some resource
  | _ => none

def snapshotFor? (room : Json.Room) (network : String) (payload : Payload) : Option Snapshot := do
  (Snapshot.ofJson? (fun _ => room.levels) (← (given room payload).toOption)
    (.str network)).toOption

def commandFor? (room : Json.Room) (method : String) (payload : Payload) :
    Resource → Option Command
  | .downstream name =>
    match Role.ofJson? (.str name) with
    | .error _ => none
    | .ok role =>
      if method = "POST" then
        ((given room payload).toOption.bind wantsLast?).map (.request role)
      else some (.release role)
  | .uplink network =>
    if method = "PUT" then (snapshotFor? room network payload).map .update
    else some (.forget network)
  | .conflicts => some .drain
  | _ => none

def command? (room : Json.Room) (r : Request) : Option Command :=
  if verb r = "OPTIONS" then none
  else (resource? r).bind (commandFor? room (verb r) r.payload)

/-- The statuses of answers to requests without a command, if their bodies can be told. -/
def idleStatuses : List Nat := [200, 308, 400, 404, 405]

def obey (k : Command) (s : ControlPlane) : ControlPlane :=
  match k with
  | .drain => { s with pending := [] }
  | k => (s.run k.act).2

def statusOf (k : Command) (s : ControlPlane) : Nat :=
  match (k.act s.coordinator).result with
  | .ok _ => 200
  | .error (.exhausted _) => 503
  | .error _ => 500

def outcomeOf (r : Request) (s : ControlPlane) : Outcome Subscriber Unit :=
  match command? s.room r with
  | some k => k.act s.coordinator
  | none => Act.done () s.coordinator

theorem delivered_filter_isNotice (events : List (Event Subscriber)) :
    delivered (events.filter Event.isNotice) = delivered events :=
  Event.filterMap_filter_isNotice (fun e he => by cases e <;> first | rfl | cases he) events

theorem delivered_notices (ks : List Conflict) :
    delivered (ks.flatMap (Coordinator.notices [.queue])) = ks := by
  induction ks with
  | nil => rfl
  | cons k ks ih =>
    rw [delivered] at ih
    simp [delivered, Coordinator.notices, ih]

end ControlPlane

open ControlPlane

namespace Command

variable {k : Command} (c : Coordinator Subscriber)

theorem react_eq (l : Subscriber) (_ : l ∈ c.listeners) (k : Conflict) : react l k = Act.done () :=
  rfl

theorem update_result (snapshot : Snapshot) :
    (Coordinator.update react snapshot c).result =
      .ok ((c.collisions snapshot).map Conflict.role) := by
  rw [Coordinator.update_of_quiet (react_eq c)]

def collisions : Command → List Conflict
  | update snapshot => c.collisions snapshot
  | _ => []

/-- All that the coordinator can do on a command. -/
inductive Course (c : Coordinator Subscriber) : Command → Outcome Subscriber Unit → Prop where
  | granted {role : Role} {reuseLast : Bool} {a : Ipv4.Interface} {o : Origin} :
      c.Grant role reuseLast a o → Course c (.request role reuseLast)
        ⟨.ok (), { c.consult role with
          draws := c.drawsAfter o
          reservations := c.reservations.reserve role a }, [.granted role a o]⟩
  | refused {role : Role} {reuseLast : Bool} {f : Failure} :
      c.Refusal role reuseLast f → Course c (.request role reuseLast)
        ⟨.error f, { c.consult role with draws := c.draws.next?.2 }, [.refused role]⟩
  | released {role : Role} : Course c (.release role)
      ⟨.ok (), { c with reservations := c.reservations.release role }, [.released role]⟩
  | recorded {snapshot : Snapshot} {blocks : List Ipv4.Block} :
      Uplinks.reported? snapshot.addresses snapshot.transport = some blocks →
      Course c (.update snapshot)
        ⟨.ok (), { c with uplinks := c.uplinks.assign snapshot.network blocks },
          .recorded snapshot.network blocks ::
            (c.collisions snapshot).flatMap (Coordinator.notices c.listeners)⟩
  | forgotten {network : String} : Course c (.forget network)
      ⟨.ok (), { c with uplinks := c.uplinks.forget network }, [.recorded network []]⟩
  | idle {k : Command} : (∀ role reuseLast, k ≠ .request role reuseLast) → k.collisions c = [] →
      Course c k ⟨.ok (), c, []⟩

theorem course (k : Command) : Course c k (k.act c) := by
  cases k with
  | request role reuseLast =>
    simp only [act, Act.void]
    rcases c.grant_or_refusal role reuseLast with ⟨a, o, hg⟩ | ⟨f, hf⟩
    · rw [Coordinator.request_of_grant hg]
      exact .granted hg
    · rw [Coordinator.request_of_refusal hf]
      exact .refused hf
  | release role =>
    simp only [act, Coordinator.release]
    split
    · exact .idle (by simp) rfl
    · exact .released
  | update snapshot =>
    simp only [act, Act.void, Coordinator.update_of_quiet (react_eq c), Coordinator.record]
    cases hb : Uplinks.reported? snapshot.addresses snapshot.transport with
    | none =>
      have hc : c.collisions snapshot = [] := by
        simp [Coordinator.collisions, Coordinator.conflictsWith, Snapshot.blocks, hb]
      rw [hc]
      exact .idle (by simp) hc
    | some blocks => exact .recorded hb
  | forget network =>
    simp only [act, Coordinator.forget]
    split
    · exact .forgotten
    · exact .idle (by simp) rfl
  | drain => exact .idle (by simp) rfl

section Course

variable {c : Coordinator Subscriber} {o : Outcome Subscriber Unit} (h : Course c k o)
include h

theorem Course.result (hk : ∀ role reuseLast, k ≠ .request role reuseLast) : o.result = .ok () := by
  cases h with
  | granted => exact absurd rfl (hk _ _)
  | refused => exact absurd rfl (hk _ _)
  | _ => rfl

theorem Course.listeners : o.state.listeners = c.listeners := by
  cases h <;> simp

theorem Course.draws : o.state.draws = c.draws ∨ o.state.draws = c.draws.next?.2 := by
  cases h with
  | @granted _ _ _ o =>
    cases o with
    | drawn => exact Or.inr rfl
    | _ => exact Or.inl rfl
  | refused => exact Or.inr rfl
  | _ => exact Or.inl rfl

theorem Course.filter_isNotice :
    o.events.filter Event.isNotice =
      (k.collisions c).flatMap (Coordinator.notices c.listeners) := by
  cases h with
  | recorded => exact Coordinator.filter_isNotice_notices ..
  | idle _ hc => simp [hc]
  | _ => rfl

theorem Course.signals_eq : signalsIn o.events = k.collisions c := by
  rw [← signalsIn_filter_isNotice, h.filter_isNotice, Coordinator.signalsIn_notices]

theorem Course.delivered_eq (hl : c.listeners = [.queue]) :
    delivered o.events = k.collisions c := by
  rw [← delivered_filter_isNotice, h.filter_isNotice, hl, delivered_notices]

end Course

end Command

namespace ControlPlane

variable {s : ControlPlane} {r : Request} {k : Command} {resource : Resource} {method : String}
  {payload : Payload} {room : Json.Room} {v : Json}

theorem given_eq_error {fault : Json.TooDeep} :
    given room payload = .error fault ↔ payload.json? room = .error fault := by
  unfold given
  cases payload.json? room <;> simp [Except.map]

theorem given_of_overflow? (h : v.overflow? room.levels = none) (ht : v.isTruthy = true) :
    given room (.json v) = .ok v := by
  have hj : Payload.json? room (.json v) = .ok (some v) := by
    rw [Payload.json?, Json.within?_eq_ok_iff.2 ⟨h, rfl⟩]
    rfl
  simp [given, hj, Except.map, Option.filter, ht]

theorem overflow?_of_json? (h : payload.json? room = .ok (some v)) :
    v.overflow? room.levels = none := by
  unfold Payload.json? at h
  split at h
  · cases h
  · next w =>
    cases hw : w.within? room.levels with
    | error e => simp [hw, Except.map] at h
    | ok u =>
      rw [hw] at h
      cases h
      obtain ⟨hover, rfl⟩ := Json.within?_eq_ok_iff.1 hw
      exact hover
  · split at h
    · split at h
      · next w hw =>
        cases h
        exact Json.overflow?_of_readBytes? hw
      · cases h
      · cases h
    · cases h

theorem overflow?_of_given (h : given room payload = .ok v) : v.overflow? room.levels = none := by
  have hempty : (Json.obj []).overflow? room.levels = none :=
    Json.overflow?_mono room.three_le rfl
  unfold given at h
  cases hj : payload.json? room with
  | error e => simp [hj, Except.map] at h
  | ok w? =>
    simp only [hj, Except.map, Except.ok.injEq] at h
    cases hf : w?.filter Json.isTruthy with
    | none =>
      rw [hf] at h
      exact h ▸ hempty
    | some w =>
      rw [hf] at h
      obtain rfl : w = v := h
      exact overflow?_of_json? (hj.trans (by rw [(Option.filter_eq_some_iff.1 hf).1]))

theorem statusOf_of_ok (h : (k.act s.coordinator).result = .ok ()) : s.statusOf k = 200 := by
  simp only [statusOf, h]

theorem route_of_resource (h : resource? r = some resource) :
    route (verb r) (decodedPath r.target) = .found resource := by
  unfold resource? at h
  split at h
  · next hr => rw [hr, Option.some.inj h]
  · cases h

theorem serve_of_resource (h : resource? r = some resource) (ho : verb r ≠ "OPTIONS") :
    (s.serve r).1.status = (s.apply (verb r) r.payload resource).1.status ∧
      (s.serve r).2 = (s.apply (verb r) r.payload resource).2 ∧
      (r.method ≠ "HEAD" → (s.serve r).1 = (s.apply (verb r) r.payload resource).1) := by
  have hr : route (r.method.map Char.toUpper) (decodedPath r.target) = .found resource :=
    route_of_resource h
  have ho' : r.method.map Char.toUpper ≠ "OPTIONS" := ho
  simp only [serve, hr, if_neg ho']
  refine ⟨?_, rfl, fun hh => if_neg hh⟩
  split <;> rfl

theorem serve_eq_apply (h : resource? r = some resource) (ho : verb r ≠ "OPTIONS")
    (hh : verb r ≠ "HEAD") : s.serve r = s.apply (verb r) r.payload resource := by
  have hm : r.method ≠ "HEAD" := by
    intro hm
    refine hh ?_
    rw [verb, hm]
    decide +kernel
  obtain ⟨_, hs, ha⟩ := serve_of_resource (s := s) h ho
  exact Prod.ext (ha hm) hs

theorem serve_of_none (h : resource? r = none) :
    (s.serve r).1.status ∈ idleStatuses ∧ (s.serve r).2 = s := by
  unfold resource? verb at h
  cases hr : route (r.method.map Char.toUpper) (decodedPath r.target) with
  | found resource => simp [hr] at h
  | missing => simp [serve, hr, missingPage, page, Response.plain, idleStatuses]
  | methodNotAllowed => simp [serve, hr, methodPage, page, Response.plain, idleStatuses]
  | moved path => simp [serve, hr, idleStatuses]

theorem serve_of_options (h : resource? r = some resource) (ho : verb r = "OPTIONS") :
    (s.serve r).1.status ∈ idleStatuses ∧ (s.serve r).2 = s := by
  have hr : route (r.method.map Char.toUpper) (decodedPath r.target) = .found resource :=
    route_of_resource h
  have ho' : r.method.map Char.toUpper = "OPTIONS" := ho
  rw [ho'] at hr
  simp [serve, ho', hr, Response.plain, idleStatuses]

theorem apply_request {name : String} {role : Role} (hr : Role.ofJson? (.str name) = .ok role)
    (payload : Payload) (s : ControlPlane) :
    s.apply "POST" payload (.downstream name) = s.requestAddress role payload := by
  simp only [apply, withRole, hr, if_true]

theorem apply_release {name : String} {role : Role} (hr : Role.ofJson? (.str name) = .ok role)
    (hm : method ≠ "POST") (payload : Payload) (s : ControlPlane) :
    s.apply method payload (.downstream name) = s.releaseAddress role := by
  simp only [apply, withRole, hr, if_neg hm]

/-- A body is refused, or the server fails on it as it is nested too deep. -/
structure Refused (payload : Payload) (s : ControlPlane) (result : Response × ControlPlane) :
    Prop where
  status : result.1.status = 400 ∨ result.1.status = 500 ∧ payload.IsTooDeep s.room
  same : result.2 = s

theorem refused_of_tooDeep {fault : Json.TooDeep} (h : given s.room payload = .error fault) :
    Refused payload s (failurePage, s) :=
  ⟨.inr ⟨rfl, fault, given_eq_error.1 h⟩, rfl⟩

theorem refused_requestAddress {role : Role}
    (h : (given s.room payload).toOption.bind wantsLast? = none) :
    Refused payload s (s.requestAddress role payload) := by
  unfold requestAddress
  split
  · next hg => exact refused_of_tooDeep hg
  · next v hg =>
    rw [hg] at h
    have hw : wantsLast? v = none := h
    rw [hw]
    exact ⟨.inl rfl, rfl⟩

theorem refused_updateUplink {network : String} (h : snapshotFor? s.room network payload = none) :
    Refused payload s (s.updateUplink network payload) := by
  unfold updateUplink
  split
  · next hg => exact refused_of_tooDeep hg
  · next v hg =>
    split
    · next fault hs =>
      cases fault with
      | tooHigh => exact absurd hs (Snapshot.ofJson?_ne_tooHigh (overflow?_of_given hg) network)
      | _ => exact ⟨.inl rfl, rfl⟩
    · next snapshot hs => simp [snapshotFor?, hg, hs, Except.toOption] at h

/-- What comes of a request without a command: it is answered in passing, or its body is refused. -/
structure Idle (payload : Payload) (s : ControlPlane) (result : Response × ControlPlane) :
    Prop where
  status : result.1.status ∈ idleStatuses ∨ result.1.status = 500 ∧ payload.IsTooDeep s.room
  same : result.2 = s

theorem idle_of_mem {result : Response × ControlPlane}
    (h : result.1.status ∈ idleStatuses ∧ result.2 = s) : Idle payload s result :=
  ⟨.inl h.1, h.2⟩

theorem Refused.idle {result : Response × ControlPlane} (h : Refused payload s result) :
    Idle payload s result :=
  ⟨h.status.imp_left fun hs => by simp [hs, idleStatuses], h.same⟩

theorem apply_of_none (h : commandFor? s.room method payload resource = none) :
    Idle payload s (s.apply method payload resource) := by
  cases resource with
  | downstreams =>
    exact idle_of_mem (by simp [apply, listReservations, answer, Response.plain, idleStatuses])
  | uplinks =>
    exact idle_of_mem (by simp [apply, listUplinks, answer, Response.plain, idleStatuses])
  | conflicts => cases h
  | file name =>
    exact idle_of_mem (by simp [apply, missingPage, page, Response.plain, idleStatuses])
  | downstream name =>
    simp only [commandFor?] at h
    split at h
    · next hr =>
      exact idle_of_mem (by
        simp [apply, withRole, hr, refuse, answer, Response.plain, idleStatuses])
    · next role hr =>
      split at h
      · next hm =>
        rw [hm, apply_request hr]
        exact (refused_requestAddress (Option.map_eq_none_iff.1 h)).idle
      · cases h
  | uplink network =>
    simp only [commandFor?] at h
    simp only [apply]
    split at h
    · next hm =>
      rw [if_pos hm]
      exact (refused_updateUplink (Option.map_eq_none_iff.1 h)).idle
    · cases h

theorem commandFor?_eq_drain (h : commandFor? room method payload resource = some .drain) :
    resource = .conflicts := by
  cases resource with
  | conflicts => rfl
  | downstream name =>
    simp only [commandFor?] at h
    split at h
    · cases h
    · split at h
      · obtain ⟨_, _, hk⟩ := Option.map_eq_some_iff.mp h
        cases hk
      · simp at h
  | uplink network =>
    simp only [commandFor?] at h
    split at h <;> simp at h
  | _ => cases h

theorem requestAddress_eq {role : Role} {reuseLast : Bool} (hg : given s.room payload = .ok v)
    (hw : wantsLast? v = some reuseLast) :
    (s.requestAddress role payload).1.status = s.statusOf (.request role reuseLast) ∧
      (s.requestAddress role payload).2 = s.obey (.request role reuseLast) := by
  simp only [requestAddress, hg, hw, statusOf, Command.act, Act.void, run]
  cases (Coordinator.request role reuseLast s.coordinator).result with
  | ok a => exact ⟨rfl, rfl⟩
  | error e => cases e <;> exact ⟨rfl, rfl⟩

theorem releaseAddress_eq (role : Role) :
    (s.releaseAddress role).1.status = s.statusOf (.release role) ∧
      (s.releaseAddress role).2 = s.obey (.release role) :=
  ⟨(statusOf_of_ok ((Command.course _ _).result (by simp))).symm, rfl⟩

theorem removeUplink_eq (network : String) :
    (s.removeUplink network).1.status = s.statusOf (.forget network) ∧
      (s.removeUplink network).2 = s.obey (.forget network) :=
  ⟨(statusOf_of_ok ((Command.course _ _).result (by simp))).symm, rfl⟩

theorem snapshotFor?_eq_some {network : String} {snapshot : Snapshot} :
    snapshotFor? room network payload = some snapshot ↔ ∃ v, given room payload = .ok v ∧
      Snapshot.ofJson? (fun _ => room.levels) v (.str network) = .ok snapshot := by
  unfold snapshotFor?
  cases given room payload with
  | error e => simp [Except.toOption]
  | ok v =>
    simp only [Except.toOption, Except.ok.injEq, exists_eq_left', bind, Option.bind]
    cases Snapshot.ofJson? (fun _ => room.levels) v (.str network) <;> simp

theorem updateUplink_eq {network : String} {snapshot : Snapshot}
    (hs : snapshotFor? s.room network payload = some snapshot) :
    (s.updateUplink network payload).1.status = s.statusOf (.update snapshot) ∧
      (s.updateUplink network payload).2 = s.obey (.update snapshot) := by
  obtain ⟨v, hg, hs⟩ := snapshotFor?_eq_some.1 hs
  rw [statusOf_of_ok ((Command.course _ _).result (by simp))]
  simp only [updateUplink, hg, hs, run, Command.update_result]
  exact ⟨rfl, rfl⟩

theorem apply_of_some (h : commandFor? s.room method payload resource = some k) :
    (s.apply method payload resource).1.status = s.statusOf k ∧
      (s.apply method payload resource).2 = s.obey k := by
  cases resource with
  | downstreams => cases h
  | uplinks => cases h
  | file name => cases h
  | conflicts =>
    cases h
    exact ⟨rfl, rfl⟩
  | downstream name =>
    simp only [commandFor?] at h
    split at h
    · cases h
    · next role hr =>
      split at h
      · next hm =>
        obtain ⟨reuseLast, hb, rfl⟩ := Option.map_eq_some_iff.mp h
        obtain ⟨v, hg, hw⟩ := Option.bind_eq_some_iff.mp hb
        rw [hm, apply_request hr]
        exact requestAddress_eq (eq_ok_of_toOption hg) hw
      · next hm =>
        cases h
        rw [apply_release hr hm]
        exact releaseAddress_eq role
  | uplink network =>
    simp only [commandFor?] at h
    simp only [apply]
    split at h
    · next hm =>
      rw [if_pos hm]
      obtain ⟨snapshot, hs, rfl⟩ := Option.map_eq_some_iff.mp h
      exact updateUplink_eq hs
    · next hm =>
      cases h
      rw [if_neg hm]
      exact removeUplink_eq network

theorem serve_of_command?_none (h : command? s.room r = none) : Idle r.payload s (s.serve r) := by
  unfold command? at h
  cases hr : resource? r with
  | none => exact idle_of_mem (serve_of_none hr)
  | some resource =>
    by_cases ho : verb r = "OPTIONS"
    · exact idle_of_mem (serve_of_options hr ho)
    · rw [if_neg ho, hr] at h
      obtain ⟨hstatus, hs, _⟩ := serve_of_resource (s := s) hr ho
      obtain ⟨hidle, hsame⟩ := apply_of_none (s := s) h
      exact ⟨by rwa [hstatus], hs.trans hsame⟩

theorem serve_of_command?_some (h : command? s.room r = some k) :
    (s.serve r).1.status = s.statusOf k ∧ (s.serve r).2 = s.obey k := by
  unfold command? at h
  split at h
  · cases h
  · next ho =>
    obtain ⟨resource, hr, hk⟩ := Option.bind_eq_some_iff.mp h
    obtain ⟨hstatus, hs, _⟩ := serve_of_resource (s := s) hr ho
    rw [hstatus, hs]
    exact apply_of_some hk

@[simp] theorem coordinator_obey (s : ControlPlane) (k : Command) :
    (s.obey k).coordinator = (k.act s.coordinator).state := by
  cases k <;> rfl

@[simp] theorem capacity_obey (s : ControlPlane) (k : Command) :
    (s.obey k).capacity = s.capacity := by
  cases k <;> rfl

@[simp] theorem room_obey (s : ControlPlane) (k : Command) : (s.obey k).room = s.room := by
  cases k <;> rfl

theorem coordinator_serve (r : Request) (s : ControlPlane) :
    (s.serve r).2.coordinator = (s.outcomeOf r).state := by
  cases hk : command? s.room r with
  | none =>
    rw [(serve_of_command?_none hk).same]
    simp only [outcomeOf, hk, Act.done]
  | some k =>
    rw [(serve_of_command?_some hk).2]
    simp only [coordinator_obey, outcomeOf, hk]

theorem pending_obey (hl : s.coordinator.listeners = [.queue]) (hk : k ≠ .drain) :
    (s.obey k).pending = newest s.capacity (s.pending ++ k.collisions s.coordinator) := by
  rw [← (k.course s.coordinator).delivered_eq hl]
  cases k with
  | drain => exact absurd rfl hk
  | _ => rfl

end ControlPlane

end Downlink
