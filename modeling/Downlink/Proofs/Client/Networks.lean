import Downlink.Proofs.Client.Agreement
import Downlink.Proofs.ControlPlane.Route
import Downlink.Proofs.ControlPlane.Run
import Downlink.Proofs.Http.Target

/-! # Networks by name

The client writes the name of a network into the path as it is, and the server
reads it there. The calls about a network thus reach the one that is meant only
if its name means nothing else in a path: it is one segment, no dot segment, and
its percent signs arrive as percent signs. Then reporting and removing it are
what the coordinator does, and no other network is touched.
-/

namespace Downlink

open Http ControlPlane

namespace Client

/-- Whether the name of a network is the same behind the path that it is written into. -/
def IsAddressable (network : String) : Prop :=
  network ≠ "" ∧ network.toList ∉ dotSegments ∧ '/' ∉ network.toList ∧ '?' ∉ network.toList ∧
    '#' ∉ network.toList ∧ ArrivesWhole network.toList

instance (network : String) : Decidable (IsAddressable network) :=
  inferInstanceAs (Decidable (_ ∧ _ ∧ _ ∧ _ ∧ _ ∧ _))

def networkRequest (authority : Authority) (method network : String) (payload : Payload) :
    Request :=
  ⟨method, Url.targetOf authority (pathOf ("/upstreams/" ++ network).toList), payload⟩

variable {c : Client} {secure : Bool} {authority : Authority} {method network : String}
  {payload : Payload}

theorem request?_network (h : NamesServer c.base secure authority) (json : Option Json)
    (hj : json.all Json.isStandard) :
    (c.call method ("/upstreams/" ++ network) json).request? =
      some (networkRequest authority method network (json.elim .absent .json)) := by
  rw [Call.request?, call, Url.ofText?_append h (by simp)]
  cases json with
  | none => rfl
  | some v =>
    simp only [Option.all_some] at hj
    simp [hj, networkRequest]

theorem networkMethods_check : ∀ m ∈ ["PUT", "DELETE"],
    m.map Char.toUpper = m ∧ m ≠ "OPTIONS" ∧ m ≠ "HEAD" := by
  decide +kernel

theorem verb_networkRequest (hm : method ∈ ["PUT", "DELETE"]) :
    verb (networkRequest authority method network payload) = method :=
  (networkMethods_check method hm).1

theorem pathOf_network (network : String) :
    pathOf ("/upstreams/" ++ network).toList =
      '/' :: ("upstreams".toList ++ '/' :: pathOf network.toList) := by
  rw [String.toList_append, pathOf, List.takeWhile_append_of_pos (List.all_eq_true.mp (by decide))]
  rfl

theorem ofPath?_dotSegment (ha : authority.looksBroken = false) :
    ∀ item ∈ dotSegments, Resource.ofPath? ((decodedPath (Url.targetOf authority
      ('/' :: ("upstreams".toList ++ '/' :: item)))).dropWhile (· == '/')) = none := by
  simp only [Url.targetOf, ha]
  decide +kernel

theorem ofPath?_segment (ha : authority.looksBroken = false) {item : List Char}
    (hs : '/' ∉ item) (hd : item ∉ dotSegments) :
    Resource.ofPath? ((decodedPath (Url.targetOf authority
      ('/' :: ("upstreams".toList ++ '/' :: item)))).dropWhile (· == '/')) =
        some (.uplink network) ↔
      arrival item = network.toList ∧ network ≠ "" ∧ '/' ∉ network.toList := by
  rw [decodedPath_two ha (List.all_eq_true.mp (by decide)) (by decide) (by decide) (by decide) hs
    hd]
  have hdrop : ('/' :: ("upstreams".toList ++ '/' :: arrival item)).dropWhile (· == '/') =
      "upstreams".toList ++ '/' :: arrival item := rfl
  rw [hdrop, ofPath?_eq_uplink_iff]
  simp

/-- The server takes the request for one about the network just when the name is addressable. -/
theorem resource?_networkRequest (ha : authority.looksBroken = false)
    (hm : method ∈ ["PUT", "DELETE"]) :
    resource? (networkRequest authority method network payload) = some (.uplink network) ↔
      IsAddressable network := by
  have hverb : verb (networkRequest authority method network payload) ∈
      (Resource.uplink network).methods := by
    rw [verb_networkRequest hm]
    exact List.mem_append_left ["OPTIONS"] hm
  rw [resource?_eq_some_iff, and_iff_left hverb, networkRequest, pathOf_network]
  have hcut := pathOf_isPrefix network.toList
  constructor
  · intro h
    have hs := (ofPath?_eq_uplink_iff.mp h).2.2
    have hd : pathOf network.toList ∉ dotSegments := by
      intro hd
      rw [ofPath?_dotSegment ha _ hd] at h
      cases h
    obtain ⟨harrival, hne, _⟩ :=
      (ofPath?_segment ha (fun hp => hs (hcut.subset hp)) hd).mp h
    -- Nothing gets longer on its way, so nothing was cut off.
    have hlen := length_arrival_le (pathOf network.toList)
    rw [harrival] at hlen
    have hpath := hcut.eq_of_length (Nat.le_antisymm hcut.length_le hlen)
    rw [hpath] at hd harrival
    obtain ⟨hq, hf⟩ := pathOf_eq_self_iff.mp hpath
    exact ⟨hne, hd, hs, hq, hf, arrival_eq_iff.mp harrival⟩
  · rintro ⟨hne, hd, hs, hq, hf, hwhole⟩
    rw [pathOf_eq_self_iff.mpr ⟨hq, hf⟩]
    exact (ofPath?_segment ha hs hd).mpr ⟨arrival_eq_iff.mpr hwhole, hne, hs⟩

theorem isStandard_toJson (snapshot : Snapshot) : snapshot.toJson.isStandard = true := by
  have htexts (texts : List String) : Json.areStandard (texts.map .str) = true := by
    induction texts with
    | nil => rfl
    | cons text texts ih => simpa [Json.areStandard, Json.isStandard] using ih
  have htransport : (Json.ofOption (snapshot.transport.map Transport.name)).isStandard = true := by
    cases snapshot.transport <;> rfl
  simp [Snapshot.toJson, Json.isStandard, Json.haveStandardValues, htransport, Json.ofStrings,
    htexts]

variable (c) in
theorem read_reportUplink (snapshot : Snapshot) (roles : List Role) :
    (c.reportUplink snapshot).read (.answered 200
      (answer 200 (.obj [("conflicts", .ofStrings (roles.map Role.name))])).body) = .ok roles := by
  have hfits : (Json.ofStrings (roles.map Role.name)).overflow? 2 = none :=
    Json.overflow?_mono (by decide) (Json.overflow?_ofStrings _)
  simp only [reportUplink, report, value?_singleton c.room _ _ _ hfits, field?_singleton, bind,
    Except.bind]
  simp only [Json.ofStrings, members?_sorted, List.map_map]
  refine mapM_map_eq_ok (fun r => ?_) roles
  simp [Json.sorted, Role.ofJson?_name, mapError_ok]

variable (c) in
theorem read_removeUplink (network : String) (known : Bool) :
    (c.removeUplink network).read (.answered 200
      (answer 200 (.obj [("removed", .bool known)])).body) = .ok known := by
  simp only [removeUplink, value?_singleton c.room _ _ (.bool known) rfl, field?_singleton, bind,
    Except.bind]
  rfl

theorem plain_namesPlainServer :
    ∃ authority, NamesServer plain.base false authority ∧ authority.looksBroken = false := by
  have h : afterScheme? (plain.base.toList.dropWhile Text.isBlank) = some (false, "coord".toList) ∧
      "coord".toList.any endsAuthority = false ∧
      ((Authority.ofText? "coord".toList).any fun a => !a.looksBroken) = true := by
    decide +kernel
  obtain ⟨authority, ha, hb⟩ := (Option.any_eq_true _ _).mp h.2.2
  exact ⟨authority, ⟨_, h.1, h.2.1, ha⟩, by simpa using hb⟩

end Client

namespace ControlPlane

open Client

variable {s : ControlPlane} {c : Client} {secure : Bool} {authority : Authority}
  {method network : String} {json : Option Json} {ε α : Type} {e : Exchange ε α}

theorem updateUplink_toJson {snapshot : Snapshot} (h : snapshot.network ≠ "") :
    s.updateUplink snapshot.network (.json snapshot.toJson) =
      (answer 200 (.obj [("conflicts",
        .ofStrings (((s.coordinator.collisions snapshot).map Conflict.role).map Role.name))]),
        (s.run (Coordinator.update react snapshot)).2) := by
  have hg : given s.room (.json snapshot.toJson) = .ok snapshot.toJson :=
    given_of_overflow? (Json.overflow?_mono s.room.three_le snapshot.overflow?_toJson) rfl
  simp only [updateUplink, hg, Snapshot.ofJson?_toJson h, run, Command.update_result]

section Exchange

variable (h : NamesServer c.base secure authority) (ha : authority.looksBroken = false)
include h ha

theorem exchange_of_isAddressable (hn : IsAddressable network)
    (he : e.call = c.call method ("/upstreams/" ++ network) json) (hm : method ∈ ["PUT", "DELETE"])
    (hj : json.all Json.isStandard) :
    s.exchange e =
      let (response, s') := s.apply method (json.elim .absent .json) (.uplink network)
      (e.read (.answered response.status response.body), s') := by
  obtain ⟨_, ho, hh⟩ := networkMethods_check method hm
  have hreq : e.call.request? =
      some (networkRequest authority method network (json.elim .absent .json)) := by
    rw [he, request?_network h json hj]
  have hverb : verb (networkRequest authority method network (json.elim .absent .json)) = method :=
    verb_networkRequest hm
  have hres : resource? (networkRequest authority method network (json.elim .absent .json)) =
      some (.uplink network) :=
    (resource?_networkRequest ha hm).mpr hn
  have hs : s.serve (networkRequest authority method network (json.elim .absent .json)) =
      s.apply method (json.elim .absent .json) (.uplink network) := by
    rw [serve_eq_apply hres (by rwa [hverb]) (by rwa [hverb]), hverb]
    rfl
  rw [exchange_eq hreq (by rw [hs, apply_location]), hs]

theorem exchange_reportUplink {snapshot : Snapshot} (hn : IsAddressable snapshot.network) :
    s.exchange (c.reportUplink snapshot) =
      (.ok ((s.coordinator.collisions snapshot).map Conflict.role),
        (s.run (Coordinator.update react snapshot)).2) := by
  rw [exchange_of_isAddressable h ha hn (c.call_reportUplink snapshot) (by decide)
    (isStandard_toJson snapshot)]
  have happly : s.apply "PUT" (.json snapshot.toJson) (.uplink snapshot.network) =
      s.updateUplink snapshot.network (.json snapshot.toJson) := rfl
  simp only [Option.elim, happly, updateUplink_toJson hn.1]
  exact Prod.ext (c.read_reportUplink snapshot _) rfl

theorem exchange_removeUplink (hn : IsAddressable network) :
    s.exchange (c.removeUplink network) =
      (.ok (s.coordinator.uplinks.knows network), (s.run (Coordinator.forget network)).2) := by
  rw [exchange_of_isAddressable h ha hn rfl (by decide) rfl]
  have happly : s.apply "DELETE" .absent (.uplink network) = s.removeUplink network := rfl
  simp only [Option.elim, happly]
  exact Prod.ext (c.read_removeUplink network _) rfl

end Exchange

end ControlPlane

namespace Coordinator

variable {ι : Type} {network other : String}

theorem get?_record {snapshot : Snapshot} (h : other ≠ snapshot.network) (c : Coordinator ι) :
    (record snapshot c).state.uplinks.entries.get? other = c.uplinks.entries.get? other := by
  unfold record
  split
  · rfl
  · rw [Uplinks.get?_assign, if_neg h]

theorem get?_forget (h : other ≠ network) (c : Coordinator ι) :
    (forget network c).state.uplinks.entries.get? other = c.uplinks.entries.get? other := by
  unfold forget
  split
  · exact (Ledger.get?_erase ..).trans (if_neg h)
  · rfl

end Coordinator

/-- The calls of a client about networks whose names are addressable are the direct calls of the
coordinator; those about others do not name them. -/
structure Client.NamesNetworks (c : Client) (s : ControlPlane) : Prop where
  report_request : ∀ snapshot, ∃ r, (c.reportUplink snapshot).call.request? = some r ∧
    verb r = "PUT" ∧
    (resource? r = some (.uplink snapshot.network) ↔ IsAddressable snapshot.network)
  removal_request : ∀ network, ∃ r, (c.removeUplink network).call.request? = some r ∧
    verb r = "DELETE" ∧ (resource? r = some (.uplink network) ↔ IsAddressable network)
  report_result : ∀ snapshot, IsAddressable snapshot.network →
    ∃ roles, (Coordinator.update react snapshot s.coordinator).result = .ok roles ∧
      (s.exchange (c.reportUplink snapshot)).1 = .ok roles
  report_state : ∀ snapshot, IsAddressable snapshot.network →
    (s.exchange (c.reportUplink snapshot)).2 = (s.run (Coordinator.update react snapshot)).2
  report_others : ∀ snapshot, IsAddressable snapshot.network → ∀ other ≠ snapshot.network,
    (s.exchange (c.reportUplink snapshot)).2.coordinator.uplinks.entries.get? other =
      s.coordinator.uplinks.entries.get? other
  removal_result : ∀ network, IsAddressable network →
    (s.exchange (c.removeUplink network)).1 = .ok (s.coordinator.uplinks.knows network)
  removal_state : ∀ network, IsAddressable network →
    (s.exchange (c.removeUplink network)).2 = (s.run (Coordinator.forget network)).2
  removal_others : ∀ network, IsAddressable network → ∀ other ≠ network,
    (s.exchange (c.removeUplink network)).2.coordinator.uplinks.entries.get? other =
      s.coordinator.uplinks.entries.get? other

/-- In every state, a client of the server reports and removes just those networks under their own
names whose names are addressable, and with these it does what the coordinator does. The address of
the server must not look like a broken escape. -/
theorem networks_named (c : Client) (secure : Bool) (authority : Authority)
    (h : NamesServer c.base secure authority) (ha : authority.looksBroken = false)
    (s : ControlPlane) : c.NamesNetworks s where
  report_request snapshot := ⟨_, Client.request?_network h (some snapshot.toJson)
    (Client.isStandard_toJson snapshot), Client.verb_networkRequest (by decide),
    Client.resource?_networkRequest ha (by decide)⟩
  removal_request network := ⟨_, Client.request?_network h none rfl,
    Client.verb_networkRequest (by decide), Client.resource?_networkRequest ha (by decide)⟩
  report_result snapshot hn :=
    ⟨_, Command.update_result s.coordinator snapshot, by rw [exchange_reportUplink h ha hn]⟩
  report_state snapshot hn := by rw [exchange_reportUplink h ha hn]
  report_others snapshot hn other ho := by
    rw [exchange_reportUplink h ha hn]
    simp only [run, Coordinator.update_of_quiet (Command.react_eq s.coordinator)]
    exact Coordinator.get?_record ho s.coordinator
  removal_result network hn := by rw [exchange_removeUplink h ha hn]
  removal_state network hn := by rw [exchange_removeUplink h ha hn]
  removal_others network hn other ho := by
    rw [exchange_removeUplink h ha hn]
    exact Coordinator.get?_forget ho s.coordinator

def settled : ControlPlane :=
  (start (.start .standard (.feed (fun _ => .ofInt 0x2b05) 0) none) none .usual).serveAll
    [⟨"POST", "/downstreams/wifi", .absent⟩,
      ⟨"PUT", "/upstreams/office", .json (.obj [("transport", .str "wifi"),
        ("addresses", .ofStrings ["10.0.0.8/24"])])⟩]

/-- Blanks, letters of other scripts and a percent sign that begins no escape are no harm. -/
def branch : Snapshot :=
  ⟨"Büro 50%", some .wifi, ["192.168.43.9/24"]⟩

theorem branch_named :
    Client.IsAddressable branch.network ∧
      (settled.exchange (Client.plain.reportUplink branch)).1 = .ok [.wifi] ∧
      (settled.exchange (Client.plain.reportUplink branch)).2.coordinator.uplinks.entries.get?
        "office" = settled.coordinator.uplinks.entries.get? "office" := by
  have hn : Client.IsAddressable branch.network := by decide +kernel
  obtain ⟨authority, hauthority, ha⟩ := Client.plain_namesPlainServer
  have hnamed := networks_named Client.plain false authority hauthority ha settled
  obtain ⟨roles, hroles, hresult⟩ := hnamed.report_result branch hn
  have hwifi : (Coordinator.update react branch settled.coordinator).result.toOption =
      some [.wifi] := by decide +kernel
  rw [hroles] at hwifi
  obtain rfl : roles = [.wifi] := Option.some.inj hwifi
  exact ⟨hn, hresult, hnamed.report_others branch hn "office" (by decide)⟩

def annex : Snapshot :=
  ⟨"office?2", some .wifi, ["10.1.0.8/24"]⟩

/-- A report of the annex replaces what is known of the office, and the annex stays unknown. -/
theorem annex_replaces_office :
    (settled.exchange (Client.plain.reportUplink annex)).2.coordinator.uplinks.blocksFor "office" ≠
        settled.coordinator.uplinks.blocksFor "office" ∧
      (settled.exchange (Client.plain.reportUplink annex)).2.coordinator.uplinks.networks ≠
        (Coordinator.update react annex settled.coordinator).state.uplinks.networks := by
  decide +kernel

end Downlink
