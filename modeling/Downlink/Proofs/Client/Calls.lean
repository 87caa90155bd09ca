import Downlink.Client.Basic
import Downlink.Http.Redirection
import Downlink.Proofs.ControlPlane.Command
import Downlink.Proofs.Http.Url

/-! # Calls to the control plane

A client and the control plane that its server is. A call becomes a request for
the path that the client has written, the control plane serves it, and the client
reads the answer. Nothing on the way changes the path or the body.
-/

namespace Downlink

open Http ControlPlane

namespace ControlPlane

def respond (r : Request) : StateM ControlPlane (Option Response) := fun s =>
  (some (s.serve r).1, (s.serve r).2)

/-- Answers a call; one that makes no request gets no reply. -/
def reply (c : Call) : StateM ControlPlane Reply := do
  match c.request? with
  | none => return .unreachable
  | some r =>
    match ← follow respond redirectionLimit r with
    | none => return .unreachable
    | some response => return .answered response.status response.body

def exchange {ε α : Type} (e : Exchange ε α) (s : ControlPlane) : Except ε α × ControlPlane :=
  (Dialogue.hold e .done).answeredBy reply s

variable {s : ControlPlane} {r : Request} {ε α : Type} {e : Exchange ε α}

theorem follow_respond (h : (s.serve r).1.location = none) (limit : Nat) :
    follow respond limit r s = (some (s.serve r).1, (s.serve r).2) := by
  have hn : (s.serve r).1.redirection? r = none := by simp [Response.redirection?, h]
  rw [follow]
  simp only [respond, hn, bind, StateT.bind]
  rfl

theorem exchange_eq (hr : e.call.request? = some r) (h : (s.serve r).1.location = none) :
    s.exchange e =
      (e.read (.answered (s.serve r).1.status (s.serve r).1.body), (s.serve r).2) := by
  simp only [exchange, Dialogue.hold, Dialogue.answeredBy, reply, hr, bind, StateT.bind,
    follow_respond h]
  rfl

end ControlPlane

namespace Client

/-- Whether nothing in a path is to be resolved or escaped. -/
def isClean (path : String) : Bool :=
  let done := completeEscapes isPathChar (resolveDots (pathOf path.toList))
  done.head? == some '/' && String.ofList done == path &&
    String.ofList (escape (· != '%') done) == path

def requestLines : List (String × String × Resource) :=
  [("GET", "/downstreams", .downstreams), ("GET", "/upstreams", .uplinks),
    ("GET", "/conflicts", .conflicts)] ++
    Role.all.flatMap fun r =>
      [("POST", "/downstreams/" ++ r.name, .downstream r.name),
        ("DELETE", "/downstreams/" ++ r.name, .downstream r.name)]

theorem requestLines_check : ∀ l ∈ requestLines,
    isClean l.2.1 = true ∧ l.1.map Char.toUpper = l.1 ∧ l.1 ≠ "OPTIONS" ∧ l.1 ≠ "HEAD" ∧
      route l.1 (decodedPath l.2.1) = .found l.2.2 := by
  decide +kernel

theorem collections_mem_requestLines :
    ("GET", "/downstreams", .downstreams) ∈ requestLines ∧
      ("GET", "/upstreams", .uplinks) ∈ requestLines ∧
      ("GET", "/conflicts", .conflicts) ∈ requestLines := by
  simp [requestLines]

theorem mem_requestLines (role : Role) :
    ("POST", "/downstreams/" ++ role.name, .downstream role.name) ∈ requestLines ∧
      ("DELETE", "/downstreams/" ++ role.name, .downstream role.name) ∈ requestLines := by
  constructor <;>
  · refine List.mem_append_right _ (List.mem_flatMap.mpr ⟨role, role.mem_all, ?_⟩)
    simp

variable {c : Client} {secure : Bool} {authority : Authority} {path method : String}

theorem targetOf_of_isClean (hp : isClean path = true) (a : Authority) :
    path.toList.head? = some '/' ∧ Url.targetOf a (pathOf path.toList) = path := by
  simp only [isClean, Bool.and_eq_true, beq_iff_eq] at hp
  obtain ⟨⟨hh, hd⟩, he⟩ := hp
  refine ⟨by rw [← hd, String.toList_ofList]; exact hh, ?_⟩
  simp only [Url.targetOf, if_pos hh]
  split
  · exact he
  · exact hd

theorem request?_call (h : NamesServer c.base secure authority) (hp : isClean path = true)
    (json : Option Json) (hj : json.all Json.isStandard) :
    (c.call method path json).request? =
      some ⟨method, path, json.elim .absent .json⟩ := by
  obtain ⟨hh, ht⟩ := targetOf_of_isClean hp authority
  rw [Call.request?, call, Url.ofText?_append h hh, ht]
  cases json with
  | none => rfl
  | some v =>
    simp only [Option.all_some] at hj
    simp [hj]

end Client

namespace ControlPlane

variable {s : ControlPlane} {c : Client} {secure : Bool} {authority : Authority}
  {path method : String} {json : Option Json} {resource : Resource} {ε α : Type}
  {e : Exchange ε α}

theorem location_refuseReport (fault : Snapshot.Fault) : (refuseReport fault).location = none := by
  cases fault <;> rfl

theorem apply_location (method : String) (payload : Payload) (s : ControlPlane)
    (resource : Resource) : (s.apply method payload resource).1.location = none := by
  cases resource with
  | downstream name =>
    simp only [apply, withRole]
    split
    · split
      · simp only [requestAddress]
        repeat' split
        all_goals rfl
      · rfl
    · rfl
  | uplink network =>
    simp only [apply]
    split
    · unfold updateUplink
      split
      · rfl
      · split
        · exact location_refuseReport _
        · simp only
          split <;> rfl
    · rfl
  | _ => rfl

theorem exchange_of_mem (h : NamesServer c.base secure authority)
    (he : e.call = c.call method path json) (hm : (method, path, resource) ∈ Client.requestLines)
    (hj : json.all Json.isStandard) :
    s.exchange e =
      let (response, s') := s.apply method (json.elim .absent .json) resource
      (e.read (.answered response.status response.body), s') := by
  obtain ⟨hp, hv, ho, hh, hr⟩ := Client.requestLines_check _ hm
  have hreq : e.call.request? = some ⟨method, path, json.elim .absent .json⟩ := by
    rw [he, Client.request?_call h hp json hj]
  have hverb : verb ⟨method, path, json.elim .absent .json⟩ = method := hv
  have hres : resource? ⟨method, path, json.elim .absent .json⟩ = some resource := by
    simp only [resource?, hverb, hr]
  have hs : s.serve ⟨method, path, json.elim .absent .json⟩ =
      s.apply method (json.elim .absent .json) resource := by
    rw [serve_eq_apply hres (by rwa [hverb]) (by rwa [hverb]), hverb]
  rw [exchange_eq hreq (by rw [hs, apply_location]), hs]

end ControlPlane

end Downlink
