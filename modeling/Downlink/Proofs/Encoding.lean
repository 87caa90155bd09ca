import Downlink.Encoding
import Downlink.Proofs.Ipv4.Text
import Downlink.Proofs.Json.Nesting
import Downlink.Proofs.Json.Sorted

/-! # Reading encodings back

Reservations, conflicts and snapshots are read back from their objects as they
were; of the first two also after the keys have been sorted.
-/

namespace Downlink

theorem Role.ofJson?_name (r : Role) : Role.ofJson? (.str r.name) = .ok r := by
  have hlower : Text.lower r.name = r.name := by cases r <;> decide
  simp [ofJson?, Json.text, hlower, ofName?_name]

theorem Reservation.sorted_toJson (r : Reservation) :
    r.toJson.sorted = .obj [("address", .str r.address.text), ("prefix", .str r.block.text),
      ("role", .str r.role.name)] :=
  rfl

theorem Reservation.ofJson?_sorted_toJson (room : Encoding.Heights) (r : Reservation) :
    ofJson? room r.toJson.sorted = .ok r := by
  simp [ofJson?, sorted_toJson, Encoding.roleField?, Encoding.shownField?, Encoding.field?,
    valueAt?, Role.ofJson?_name, Ipv4.Interface.ofJson?_text, bind, Except.bind, pure,
    Except.pure, mapError_ok]

theorem Conflict.sorted_toJson (k : Conflict) :
    k.toJson.sorted = .obj [("network_id", .str k.network), ("prefix", .str k.block.text),
      ("role", .str k.role.name)] :=
  rfl

theorem Conflict.ofJson?_sorted_toJson (room : Encoding.Heights) (k : Conflict) :
    ofJson? room k.toJson.sorted = .ok k := by
  simp [ofJson?, sorted_toJson, Encoding.roleField?, Encoding.shownField?, Encoding.field?,
    valueAt?, Role.ofJson?_name, Ipv4.Block.ofJson?_text, bind, Except.bind, pure, Except.pure,
    mapError_ok, Json.text]

theorem Transport.ofJson?_ofOption (t : Option Transport) :
    Transport.ofJson? (.ofOption (t.map Transport.name)) = .ok t := by
  cases t with
  | none => rfl
  | some t =>
    have hlower : Text.lower t.name = t.name := by cases t <;> decide
    simp [ofJson?, Json.ofOption, Json.text, hlower, ofName?_name]

namespace Snapshot

variable {room : Encoding.Heights} {key : String}

theorem named?_eq_ok {network v : Json} {fields : List (String × Json)}
    (h : named? network fields = .ok v) : v.isTruthy = true ∧
      (v = network ∨ network.isTruthy = false ∧ valueAt? "network_id" fields = some v) := by
  unfold named? at h
  split at h
  · next hn =>
    cases h
    exact ⟨hn, .inl rfl⟩
  · next hn =>
    split at h
    · next w hw =>
      split at h
      · next hv =>
        cases h
        exact ⟨hv, .inr ⟨Bool.eq_false_iff.2 hn, hw⟩⟩
      · cases h
    · cases h

theorem addresses?_eq_ok {fields : List (String × Json)} {items : List Json}
    (h : addresses? fields = .ok items) :
    items = [] ∨ valueAt? "addresses" fields = some (.arr items) := by
  unfold addresses? at h
  split at h
  · exact .inl (Except.ok.inj h).symm
  · next hi =>
    cases h
    exact .inr hi
  · split at h
    · cases h
    · exact .inl (Except.ok.inj h).symm

theorem overflow?_toJson (s : Snapshot) : s.toJson.overflow? 3 = none := by
  refine Json.overflow?_obj_iff.2 ?_
  simp only [List.forall_mem_cons]
  refine ⟨rfl, ?_, Json.overflow?_mono (by decide) (Json.overflow?_ofStrings s.addresses), by simp⟩
  cases s.transport <;> rfl

@[simp]
theorem textOf?_str (s : String) : textOf? room key (.str s) = .ok s := by
  rw [textOf?, Json.showable?_str]
  rfl

theorem transport?_ofOption (t : Option Transport) :
    transport? room (.ofOption (t.map Transport.name)) = .ok t := by
  have hshown : (Json.ofOption (t.map Transport.name)).showable? (room "transport") Fault.tooHigh =
      .ok (.ofOption (t.map Transport.name)) := by
    cases t <;> exact Json.showable?_eq_ok (Nat.zero_le _)
  simp [transport?, hshown, Transport.ofJson?_ofOption, bind, Except.bind, mapError_ok]

theorem ofJson?_toJson_of {s : Snapshot} {network named : Json}
    (hn : ∀ fields, valueAt? "network_id" fields = some (.str s.network) →
      named? network fields = .ok named)
    (ht : textOf? room "network_id" named = .ok s.network) :
    ofJson? room s.toJson network = .ok s := by
  simp only [toJson, ofJson?]
  rw [hn _ rfl]
  simp [addresses?, valueAt?, transport?_ofOption, Json.ofStrings, ht,
    mapM_map_eq_ok (@textOf?_str room "addresses"), bind, Except.bind, pure, Except.pure]

/-- The network that is named beside the object counts; it is the same one. -/
theorem ofJson?_toJson {s : Snapshot} (h : s.network ≠ "") :
    ofJson? room s.toJson (.str s.network) = .ok s :=
  ofJson?_toJson_of (fun _ _ => if_pos (by simpa [Json.isTruthy] using h)) (textOf?_str s.network)

end Snapshot

end Downlink
