import Downlink.Client.Basic
import Downlink.ControlPlane.Serve
import Downlink.Proofs.Encoding
import Downlink.Proofs.Results
import Mathlib.Data.List.Forall2
import Mathlib.Data.Set.List

/-! # What replies say

An exchange fails when no reply comes or when the status says so. Else the server has answered with
status 200 and an object, which says under one key what was asked for; what stands under other keys
does not matter. The control plane answers in this way, and the client reads what is said.
-/

namespace Downlink

namespace Json

def Holds (v : Json) (key : String) (w : Json) : Prop :=
  ∃ fields, v = .obj fields ∧ valueAt? key fields = some w

end Json

namespace Reply

inductive Fails : Reply → Prop where
  | unreachable : Fails .unreachable
  | status {status : Nat} {body : Http.Body} :
      400 ≤ status → status < 600 → Fails (.answered status body)

/-- The reply has status 200 and a body that reads as a value of which `P` holds. -/
def Tells (room : Json.Room) (P : Json → Prop) (reply : Reply) : Prop :=
  ∃ body v, reply = .answered 200 body ∧ body.json? room = .ok v ∧ P v

theorem Tells.not_fails {room : Json.Room} {P : Json → Prop} {reply : Reply}
    (h : reply.Tells room P) : ¬ reply.Fails := by
  obtain ⟨body, v, rfl, -, -⟩ := h
  intro hf
  cases hf with
  | status hl _ => omega

end Reply

/-- A failed reply makes the exchange fail, and what a reply says is read. -/
structure Exchange.Reads {α : Type} (room : Json.Room) (e : Exchange Client.Fault α)
    (R : Json → α → Prop) : Prop where
  failed : ∀ reply, reply.Fails → ∃ task detail, e.read reply = .error (.failed task detail)
  told : ∀ reply a, reply.Tells room (R · a) → e.read reply = .ok a

section Reads

variable {α : Type} {room : Json.Room} {e : Exchange Client.Fault α} {R : Json → α → Prop}
  {reply : Reply} (he : e.Reads room R) (hf : reply.Fails ∨ ∃ a, reply.Tells room (R · a))
include he hf

theorem Exchange.Reads.of_error {f : Client.Fault} (h : e.read reply = .error f) :
    reply.Fails ∧ ∃ task detail, f = .failed task detail := by
  obtain hf | ⟨a, ha⟩ := hf
  · obtain ⟨task, detail, hr⟩ := he.failed reply hf
    rw [hr] at h
    exact ⟨hf, task, detail, (Except.error.inj h).symm⟩
  · rw [he.told reply a ha] at h
    cases h

theorem Exchange.Reads.of_ok {a : α} (h : e.read reply = .ok a) : reply.Tells room (R · a) := by
  obtain hf | ⟨b, hb⟩ := hf
  · obtain ⟨task, detail, hr⟩ := he.failed reply hf
    rw [hr] at h
    cases h
  · rw [he.told reply b hb] at h
    cases h
    exact hb

end Reads

namespace Client

section Tells

variable (v : Json)

def AddressIn (a : Ipv4.Interface) : Prop :=
  v.Holds "address" (.str a.text)

def FlagIn (key : String) (b : Bool) : Prop :=
  v.Holds key (.bool b)

def RolesIn (roles : List Role) : Prop :=
  v.Holds "conflicts" (.ofStrings (roles.map Role.name))

def IsReservation (r : Reservation) : Prop :=
  v.Holds "role" (.str r.role.name) ∧ v.Holds "address" (.str r.address.text)

def IsConflict (k : Conflict) : Prop :=
  v.Holds "role" (.str k.role.name) ∧ v.Holds "prefix" (.str k.block.text) ∧
    v.Holds "network_id" (.str k.network)

def ReservationsIn (rs : List Reservation) : Prop :=
  ∃ rows, v.Holds "reservations" (.arr rows) ∧ List.Forall₂ IsReservation rows rs

def ConflictsIn (ks : List Conflict) : Prop :=
  ∃ rows, v.Holds "conflicts" (.arr rows) ∧ List.Forall₂ IsConflict rows ks

def uplinkRows (rows : List (String × List String)) : Json :=
  .obj (rows.map fun row => (row.1, .ofStrings row.2))

def UplinksIn (uplinks : Json) : Prop :=
  v.Holds "upstreams" uplinks

end Tells

variable {task key : String} {reply : Reply} {P : Json → Prop} {v w default : Json} {c : Client}
  {α : Type} {body : Http.Body} {room : Json.Room} {heights : Encoding.Heights}

theorem value?_of_fails (h : reply.Fails) (task : String) :
    ∃ detail, value? room task reply = .error (.failed task detail) := by
  cases h with
  | unreachable => exact ⟨_, rfl⟩
  | status hl hu =>
    have hs : ∀ n, 400 ≤ n → n < 600 → isErrorStatus n = true := fun n hl hu => by
      simp [isErrorStatus, hl, hu]
    rw [value?, if_pos (hs _ hl hu)]
    exact ⟨_, rfl⟩

theorem value?_of_tells (h : reply.Tells room P) (task : String) :
    ∃ v, value? room task reply = .ok v ∧ P v := by
  obtain ⟨body, v, rfl, hv, hp⟩ := h
  refine ⟨v, ?_, hp⟩
  rw [value?, if_neg (by decide), bodyValue?, hv, mapError_ok]

theorem field?_of_holds (h : v.Holds key w) (default : Json) : field? key default v = .ok w := by
  obtain ⟨fields, rfl, hw⟩ := h
  rw [field?, hw, Option.getD_some]

theorem mapM_of_forall₂ {β : Type} {read : Json → Except Fault β} {R : Json → β → Prop}
    (h : ∀ row a, R row a → read row = .ok a) {rows : List Json} {as : List β}
    (hr : List.Forall₂ R rows as) : rows.mapM read = .ok as := by
  induction hr with
  | nil => rfl
  | cons ha _ ih =>
    rw [List.mapM_cons, h _ _ ha, ih]
    rfl

theorem IsReservation.ofJson? {r : Reservation} (h : IsReservation v r) :
    Reservation.ofJson? heights v = .ok r := by
  obtain ⟨⟨fields, rfl, hr⟩, fields', hf, ha⟩ := h
  cases hf
  simp [Reservation.ofJson?, Encoding.roleField?, Encoding.shownField?, Encoding.field?, hr, ha,
    Role.ofJson?_name, Ipv4.Interface.ofJson?_text, bind, Except.bind, pure, Except.pure,
    mapError_ok]

theorem IsConflict.ofJson? {k : Conflict} (h : IsConflict v k) :
    Conflict.ofJson? heights v = .ok k := by
  obtain ⟨⟨fields, rfl, hr⟩, ⟨fields', hf, hb⟩, fields'', hf', hn⟩ := h
  cases hf
  cases hf'
  simp [Conflict.ofJson?, Encoding.roleField?, Encoding.shownField?, Encoding.field?, hr, hb, hn,
    Role.ofJson?_name, Ipv4.Block.ofJson?_text, bind, Except.bind, pure, Except.pure, mapError_ok,
    Json.text]

theorem reads_of_value? {e : Exchange Fault α} {R : Json → α → Prop} {f : Json → Except Fault α}
    (he : ∀ reply, e.read reply = value? room task reply >>= f)
    (hf : ∀ v a, R v a → f v = .ok a) : e.Reads room R where
  failed reply h := by
    obtain ⟨detail, hv⟩ := value?_of_fails h task
    exact ⟨task, detail, by rw [he, hv]; rfl⟩
  told reply a h := by
    obtain ⟨v, hv, hs⟩ := value?_of_tells h task
    rw [he, hv]
    exact hf v a hs

variable (c)

theorem reads_release (role : Role) :
    (c.release role).Reads c.room (FlagIn · "released") := by
  refine reads_of_value? (fun _ => rfl) fun v held h => ?_
  rw [field?_of_holds h]
  rfl

theorem reads_removeUplink (network : String) :
    (c.removeUplink network).Reads c.room (FlagIn · "removed") := by
  refine reads_of_value? (fun _ => rfl) fun v known h => ?_
  rw [field?_of_holds h]
  rfl

theorem reads_report (network : Json) (transport : Option Transport) (addresses : List Json) :
    (c.report network transport addresses).Reads c.room RolesIn := by
  refine reads_of_value? (fun _ => rfl) fun v roles h => ?_
  rw [field?_of_holds h]
  change ((roles.map Role.name).map Json.str).mapM _ = _
  rw [List.map_map]
  exact mapM_map_eq_ok (fun r => by rw [Function.comp_apply, r.ofJson?_name, mapError_ok]) roles

theorem reads_reservations : c.reservations.Reads c.room ReservationsIn := by
  refine reads_of_value? (fun _ => rfl) fun v rs ⟨rows, h, hrows⟩ => ?_
  rw [field?_of_holds h]
  exact mapM_of_forall₂ (fun row r hr => by rw [hr.ofJson?, mapError_ok]) hrows

theorem reads_drainConflicts : c.drainConflicts.Reads c.room ConflictsIn := by
  refine reads_of_value? (fun _ => rfl) fun v ks ⟨rows, h, hrows⟩ => ?_
  rw [field?_of_holds h]
  exact mapM_of_forall₂ (fun row k hk => by rw [hk.ofJson?, mapError_ok]) hrows

theorem reads_uplinks : c.uplinks.Reads c.room UplinksIn :=
  reads_of_value? (fun _ => rfl) fun _ _ h => field?_of_holds h _

theorem readAddress_503 (room : Json.Room) (body : Http.Body) :
    readAddress room (.answered 503 body) = match body.json? room with
      | .ok (.obj fields) =>
        .error (.exhausted ((valueAt? "error" fields).getD (.str "Address pool exhausted")).text)
      | .ok _ => .error .notAnObject
      | .error .malformed => .error (.failed addressTask none)
      | .error (.tooManyDigits fault) => .error (.tooManyDigits fault)
      | .error (.tooDeep fault) => .error (.tooDeep fault) := by
  have h : readAddress room (.answered 503 body) = bodyValue? room addressTask body >>= fun v =>
      field? "error" (.str "Address pool exhausted") v >>= fun e => .error (.exhausted e.text) :=
    rfl
  rw [h, bodyValue?]
  cases body.json? room with
  | error f => cases f <;> rfl
  | ok v => cases v <;> rfl

theorem readAddress_of_ne (h : ∀ body, reply ≠ .answered 503 body) :
    readAddress room reply = value? room addressTask reply >>= fun
      | .obj fields =>
        match valueAt? "address" fields with
        | some v => (Ipv4.Interface.ofJson? v).mapError .address
        | none => .error .noAddress
      | _ => .error .notIndexable := by
  unfold readAddress
  split
  · exact absurd rfl (h _)
  · refine congrArg _ (funext fun v => ?_)
    cases v with
    | obj fields =>
      cases valueAt? "address" fields <;> rfl
    | _ => rfl

theorem readAddress_of_fails (hf : reply.Fails) (h : ∀ body, reply ≠ .answered 503 body) :
    ∃ detail, readAddress room reply = .error (.failed addressTask detail) := by
  obtain ⟨detail, hv⟩ := value?_of_fails hf addressTask
  exact ⟨detail, by rw [readAddress_of_ne h, hv]; rfl⟩

theorem readAddress_of_tells {a : Ipv4.Interface} (h : reply.Tells room (AddressIn · a)) :
    readAddress room reply = .ok a := by
  have hne : ∀ body, reply ≠ .answered 503 body := by
    obtain ⟨body, v, rfl, -⟩ := h
    simp
  obtain ⟨v, hv, fields, rfl, ha⟩ := value?_of_tells h addressTask
  rw [readAddress_of_ne hne, hv]
  simp only [bind, Except.bind, ha, Ipv4.Interface.ofJson?_text, mapError_ok]

end Client

namespace ControlPlane

open Http Client

def replyOf (r : Response) : Reply :=
  .answered r.status r.body

variable {P : Json → Prop} {key : String} {v : Json}

theorem fails_refuse {status : Nat} (hl : 400 ≤ status) (hu : status < 600) (message : String) :
    (replyOf (refuse status message)).Fails :=
  .status hl hu

theorem fails_failurePage : (replyOf failurePage).Fails :=
  .status (by decide) (by decide)

/-- An answer is understood, as there is room for three levels at least. -/
theorem tells_answer (room : Json.Room) (h : P v.sorted) (hv : v.overflow? 3 = none) :
    (replyOf (answer 200 v)).Tells room P := by
  have hfits := room.overflow?_sorted hv
  exact ⟨_, v.sorted, rfl, mapError_eq_ok.2 (Json.within?_eq_ok_iff.2 ⟨hfits, rfl⟩), h⟩

theorem holds_sorted (key : String) (v : Json) : (Json.obj [(key, v)]).sorted.Holds key v.sorted :=
  ⟨[(key, v.sorted)], rfl, by simp [valueAt?]⟩

theorem holds_sorted_rows {α : Type} (key : String) (write : α → Json) {R : Json → α → Prop}
    (h : ∀ a, R (write a).sorted a) (as : List α) :
    ∃ rows, (Json.obj [(key, .arr (as.map write))]).sorted.Holds key (.arr rows) ∧
      List.Forall₂ R rows as := by
  refine ⟨(as.map write).map Json.sorted, ?_, ?_⟩
  · have hrows := holds_sorted key (.arr (as.map write))
    rwa [Json.sorted, Json.sortedItems_eq_map] at hrows
  · induction as with
    | nil => exact .nil
    | cons a as ih => exact .cons (h a) ih

variable (room : Json.Room) (s : ControlPlane)

theorem replyOf_requestAddress (role : Role) (payload : Payload) :
    (replyOf (s.requestAddress role payload).1).Fails ∨
      ∃ a, (replyOf (s.requestAddress role payload).1).Tells room (AddressIn · a) := by
  unfold requestAddress
  split
  · exact .inl fails_failurePage
  · split
    · exact .inl (fails_refuse (by decide) (by decide) _)
    · simp only
      split
      · next a _ =>
        refine .inr ⟨a, tells_answer room ?_ rfl⟩
        exact ⟨_, Reservation.sorted_toJson _, rfl⟩
      · exact .inl (fails_refuse (by decide) (by decide) _)
      · exact .inl fails_failurePage

theorem replyOf_releaseAddress (role : Role) :
    ∃ held, (replyOf (s.releaseAddress role).1).Tells room (FlagIn · "released" held) :=
  ⟨_, tells_answer room (holds_sorted ..) rfl⟩

theorem fails_refuseReport (fault : Snapshot.Fault) : (replyOf (refuseReport fault)).Fails := by
  cases fault with
  | tooHigh => exact fails_failurePage
  | _ => exact fails_refuse (by decide) (by decide) _

theorem replyOf_updateUplink (network : String) (payload : Payload) :
    (replyOf (s.updateUplink network payload).1).Fails ∨
      ∃ roles, (replyOf (s.updateUplink network payload).1).Tells room (RolesIn · roles) := by
  unfold updateUplink
  split
  · exact .inl fails_failurePage
  · split
    · exact .inl (fails_refuseReport _)
    · simp only
      split
      · next roles _ =>
        have hfits : (Json.ofStrings (roles.map Role.name)).overflow? 2 = none :=
          Json.overflow?_mono (by decide) (Json.overflow?_ofStrings _)
        refine .inr ⟨roles, tells_answer room ?_ (Json.overflow?_singleton hfits)⟩
        have h := holds_sorted "conflicts" (.ofStrings (roles.map Role.name))
        rwa [Json.sorted_ofStrings] at h
      · exact .inl fails_failurePage

theorem replyOf_removeUplink (network : String) :
    ∃ known, (replyOf (s.removeUplink network).1).Tells room (FlagIn · "removed" known) :=
  ⟨_, tells_answer room (holds_sorted ..) rfl⟩

theorem replyOf_drainConflicts :
    (replyOf s.drainConflicts.1).Tells room (ConflictsIn · s.pending) :=
  tells_answer room (holds_sorted_rows "conflicts" Conflict.toJson (fun k =>
    ⟨⟨_, k.sorted_toJson, rfl⟩, ⟨_, k.sorted_toJson, rfl⟩, _, k.sorted_toJson, rfl⟩) s.pending)
    (Json.overflow?_rows fun _ => rfl)

theorem replyOf_listReservations :
    (replyOf s.listReservations).Tells room (ReservationsIn · s.coordinator.reservations.toList) :=
  tells_answer room (holds_sorted_rows "reservations" Reservation.toJson (fun r =>
    ⟨⟨_, r.sorted_toJson, rfl⟩, _, r.sorted_toJson, rfl⟩) s.coordinator.reservations.toList)
    (Json.overflow?_rows fun _ => rfl)

theorem replyOf_listUplinks :
    ∃ rows, (replyOf s.listUplinks).Tells room (UplinksIn · (uplinkRows rows)) := by
  have hrows : ∀ e ∈ Json.sortedFields (s.coordinator.uplinkTexts.map fun e =>
      (e.1, Json.ofStrings e.2)), ∃ row : String × List String, (row.1, .ofStrings row.2) = e := by
    intro e he
    have hm := (Json.sortedFields_perm _).mem_iff.mp he
    simp only [List.map_map, List.mem_map, Function.comp_apply, Json.sorted_ofStrings] at hm
    obtain ⟨row, -, hrow⟩ := hm
    exact ⟨row, hrow⟩
  obtain ⟨rows, hr⟩ : Json.sortedFields (s.coordinator.uplinkTexts.map fun e =>
      (e.1, Json.ofStrings e.2)) ∈ Set.range (List.map fun row : String × List String =>
        (row.1, Json.ofStrings row.2)) := by
    rw [Set.range_list_map]
    exact hrows
  have hs : (Json.obj (s.coordinator.uplinkTexts.map fun e => (e.1, Json.ofStrings e.2))).sorted =
      uplinkRows rows := by
    rw [Json.sorted, ← hr, uplinkRows]
  refine ⟨rows, tells_answer room (hs ▸ holds_sorted "upstreams" _) (Json.overflow?_singleton ?_)⟩
  exact Json.overflow?_obj_iff.2 (List.forall_mem_map.2 fun e _ => Json.overflow?_ofStrings e.2)

end ControlPlane

end Downlink
