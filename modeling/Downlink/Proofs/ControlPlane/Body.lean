import Downlink.Proofs.ControlPlane.Route
import Downlink.Proofs.ControlPlane.Run

/-! # Bodies that hold no object

A body counts only by the object that it holds. A value of another kind is
refused if it is true; a value that is not true, and a body that cannot be read,
count as no body. A report is then served as if it had neither transport nor
addresses, and its network is forgotten. On a body that is nested too deep the
server fails.
-/

namespace Downlink

open ControlPlane Http

def Http.Payload.HoldsNoObject (room : Json.Room) (p : Payload) : Prop :=
  ∀ fields, p.json? room ≠ .ok (some (.obj fields))

namespace ControlPlane

variable {s : ControlPlane} {r : Request} {p : Payload} {network name : String} {role : Role}
  {room : Json.Room} {v? : Option Json}

theorem given_of_not_isTruthy (hj : p.json? room = .ok v?) (h : v?.any Json.isTruthy = false) :
    given room p = .ok (.obj []) := by
  rw [given, hj, Except.map]
  cases v? with
  | none => rfl
  | some v =>
    simp only [Option.any_some] at h
    simp [Option.filter, h]

theorem given_of_isTruthy (hn : p.HoldsNoObject room) (hj : p.json? room = .ok v?)
    (h : v?.any Json.isTruthy = true) :
    ∃ v, given room p = .ok v ∧ ∀ fields, v ≠ .obj fields := by
  cases v? with
  | none => cases h
  | some v =>
    simp only [Option.any_some] at h
    refine ⟨v, by simp [given, hj, Except.map, Option.filter, h], ?_⟩
    rintro fields rfl
    exact hn fields hj

theorem run_update_bare (network : String) (hn : newest s.capacity s.pending = s.pending) :
    s.run (Coordinator.update react ⟨network, none, []⟩) =
      (.ok [], { s with coordinator :=
        { s.coordinator with uplinks := s.coordinator.uplinks.forget network } }) := by
  have hc : s.coordinator.collisions ⟨network, none, []⟩ = [] := by
    simp [Coordinator.collisions, Coordinator.conflictsWith, Snapshot.blocks, Uplinks.reported?]
  simp only [run, Coordinator.update_of_quiet (Command.react_eq s.coordinator), hc]
  simpa [Coordinator.record, Uplinks.reported?, delivered, Uplinks.assign, Uplinks.forget] using hn

theorem ofJson?_empty {heights : Encoding.Heights} (h : network ≠ "") :
    Snapshot.ofJson? heights (.obj []) (.str network) = .ok ⟨network, none, []⟩ := by
  have hnull : Json.null.showable? (heights "transport") Snapshot.Fault.tooHigh = .ok .null :=
    Json.showable?_eq_ok (Nat.zero_le _)
  simp [Snapshot.ofJson?, Snapshot.named?, Json.isTruthy, h, Snapshot.addresses?, valueAt?,
    Snapshot.transport?, hnull, Transport.ofJson?, mapError_ok, bind, Except.bind, pure,
    Except.pure]

theorem serve_report (hn : newest s.capacity s.pending = s.pending) (hv : verb r = "PUT")
    (hr : resource? r = some (.uplink network)) (hp : r.payload.HoldsNoObject s.room) :
    s.serve r = match r.payload.json? s.room with
      | .error _ => (failurePage, s)
      | .ok v? =>
        if v?.any Json.isTruthy then (refuse 400 Snapshot.Fault.notAnObject.message, s)
        else (answer 200 (.obj [("conflicts", .ofStrings [])]), { s with coordinator :=
          { s.coordinator with uplinks := s.coordinator.uplinks.forget network } }) := by
  rw [serve_eq_apply hr (by simp [hv]) (by simp [hv]), hv]
  change s.updateUplink network r.payload = _
  cases hj : r.payload.json? s.room with
  | error fault => simp only [updateUplink, given_eq_error.2 hj]
  | ok v? =>
    simp only
    split
    · next ht =>
      obtain ⟨v, hg, hv⟩ := given_of_isTruthy hp hj ht
      have hs : Snapshot.ofJson? (fun _ => s.room.levels) v (.str network) =
          .error .notAnObject := by
        cases v with
        | obj fields => exact absurd rfl (hv fields)
        | _ => rfl
      simp only [updateUplink, hg, hs, refuseReport]
    · next ht =>
      have hg := given_of_not_isTruthy hj (Bool.eq_false_iff.mpr ht)
      have hne := (ofPath?_eq_uplink_iff.mp (resource?_eq_some_iff.mp hr).1).2.1
      simp only [updateUplink, hg, ofJson?_empty hne, run_update_bare network hn]
      rfl

theorem serve_request (hv : verb r = "POST") (hr : resource? r = some (.downstream name))
    (hrole : Role.ofJson? (.str name) = .ok role) (hp : r.payload.HoldsNoObject s.room) :
    s.serve r = match r.payload.json? s.room with
      | .error _ => (failurePage, s)
      | .ok v? =>
        if v?.any Json.isTruthy then (refuse 400 "'reuse_last' must be a boolean", s)
        else s.requestAddress role .absent := by
  rw [serve_eq_apply hr (by simp [hv]) (by simp [hv]), hv, apply_request hrole]
  cases hj : r.payload.json? s.room with
  | error fault => simp only [requestAddress, given_eq_error.2 hj]
  | ok v? =>
    simp only
    split
    · next ht =>
      obtain ⟨v, hg, hv⟩ := given_of_isTruthy hp hj ht
      have hw : wantsLast? v = none := by
        cases v with
        | obj fields => exact absurd rfl (hv fields)
        | _ => rfl
      simp only [requestAddress, hg, hw]
    · next ht =>
      have hg := given_of_not_isTruthy hj (Bool.eq_false_iff.mpr ht)
      simp only [requestAddress, hg]
      rfl

end ControlPlane

/-- A body that holds a true value other than an object is refused and leaves everything as it was,
and so does one that is nested too deep, on which the server fails. A body without a true value
counts as none: a report forgets its network, and a request for an address is served. -/
theorem bodies_without_object (coordinator : Coordinator Subscriber) (capacity : Option Nat)
    (room : Json.Room) (ts : List Turn) (s : ControlPlane)
    (h : (start coordinator capacity room).Reaches ts s) (r : Request)
    (hp : r.payload.HoldsNoObject room) :
    (∀ network, verb r = "PUT" → resource? r = some (.uplink network) →
      s.serve r = match r.payload.json? room with
        | .error _ => (failurePage, s)
        | .ok v? =>
          if v?.any Json.isTruthy then (refuse 400 "Upstream snapshot must be a JSON object", s)
          else (answer 200 (.obj [("conflicts", .ofStrings [])]), { s with coordinator :=
            { s.coordinator with uplinks := s.coordinator.uplinks.forget network } })) ∧
    ∀ name role, verb r = "POST" → resource? r = some (.downstream name) →
      Role.ofJson? (.str name) = .ok role →
      s.serve r = match r.payload.json? room with
        | .error _ => (failurePage, s)
        | .ok v? =>
          if v?.any Json.isTruthy then (refuse 400 "'reuse_last' must be a boolean", s)
          else s.requestAddress role .absent := by
  have hn := (h.newest_pending newest_nil).1
  obtain rfl : s.room = room := h.room_eq.1
  exact ⟨fun _ hv hr => serve_report hn hv hr hp,
    fun _ _ hv hr hrole => serve_request hv hr hrole hp⟩

def tracking : ControlPlane :=
  (start (.start .standard (.feed (fun _ => .ofInt 0x2b05) 0) none) none .usual).serveAll
    [⟨"PUT", "/upstreams/mobile", .json (.obj [("transport", .str "cellular"),
      ("addresses", .ofStrings ["10.0.0.8/24"])])⟩]

def brokenReport : Request :=
  ⟨"PUT", "/upstreams/mobile",
    .bytes (some "application/json") "\x7b\"transport\": \"cellular\"".toUTF8⟩

theorem json?_brokenReport : brokenReport.payload.json? .usual = .ok none :=
  eq_ok_of_toOption (by
    have h : (brokenReport.payload.json? .usual).toOption.any Option.isNone = true := by
      decide +kernel
    obtain ⟨v?, hv, hn⟩ := (Option.any_eq_true _ _).1 h
    rw [hv, Option.isNone_iff_eq_none.1 hn])

theorem brokenReport_holdsNoObject : brokenReport.payload.HoldsNoObject .usual := by
  intro fields hf
  rw [json?_brokenReport] at hf
  cases hf

theorem brokenReport_forgets :
    (tracking.serve brokenReport).1.status = 200 ∧
      (tracking.serve brokenReport).2.coordinator.uplinks.networks = [] := by
  have hr : resource? brokenReport = some (.uplink "mobile") := by decide +kernel
  have hs := (bodies_without_object _ _ _ _ tracking (reaches_turns _ _) brokenReport
    brokenReport_holdsNoObject).1 "mobile" (by decide +kernel) hr
  rw [json?_brokenReport] at hs
  rw [hs]
  exact ⟨rfl, by decide +kernel⟩

/-- A body that breaks off is not refused, and what was known of the network is lost. -/
theorem brokenReport_not_refused :
    brokenReport.payload.HoldsNoObject .usual ∧
      ¬ ((tracking.serve brokenReport).1.status = 400 ∧
        (tracking.serve brokenReport).2.coordinator.uplinks.networks =
          tracking.coordinator.uplinks.networks) :=
  ⟨brokenReport_holdsNoObject, by decide +kernel⟩

end Downlink
