import Downlink.Proofs.Encoding.Height
import Downlink.Proofs.Ipv4.LeadingBits

/-! # Round trips of the encodings

What is written is read back as it was. Reading takes many spellings, in numbers, masks, cases and
fields that are left out, but what it reads is written in one. So an object that is accepted has a
normal form, which stands for the same value and is written again as it is; in that of a reservation
the prefix is made from the address, whatever the object has said.
-/

namespace Downlink

open Encoding

section Texts

theorem Binary64.positional_ne_nil (digits : List Char) (point : Int) :
    positional digits point ≠ [] := by
  unfold positional
  split <;> simp

theorem Binary64.scientific_ne_nil (digits : List Char) (point : Int) :
    scientific digits point ≠ [] := by
  unfold scientific
  split <;> simp

theorem Binary64.layout_ne_nil (m : Nat) (e : Int) : layout m e ≠ [] := by
  unfold layout
  split
  · simp
  · simp only
    split
    · exact positional_ne_nil _ _
    · exact scientific_ne_nil _ _

theorem Binary64.text_ne_empty (x : Binary64) : x.text ≠ "" := by
  cases x with
  | nan => decide
  | infinity negative => cases negative <;> decide
  | finite negative m e => cases negative <;> simp [text, layout_ne_nil]

theorem Json.text_ne_empty {v : Json} (h : v.isTruthy = true) : v.text ≠ "" := by
  cases v with
  | null => cases h
  | bool b => cases b <;> decide
  | int n => cases n <;> simp [text, shown, toString, Int.repr]
  | float x => exact x.text_ne_empty
  | str s => simpa [isTruthy, text] using h
  | arr items => simp [text, shown]
  | obj fields => simp [text, shown]

end Texts

section Normal

variable {ε α : Type} {write : α → Json} {read : Json → Except ε α} {Valid : α → Prop}

/-- Values are read back from what is written, and what is read has a normal form. -/
structure RoundTrips (write : α → Json) (read : Json → Except ε α) (Valid : α → Prop) : Prop where
  read_write : ∀ a, Valid a → read (write a) = .ok a
  /-- The normal form stands for the same value. -/
  read_normal : ∀ d e, (read d).map write = .ok e → read e = read d
  normal : ∀ d e, (read d).map write = .ok e → (read e).map write = .ok e

theorem RoundTrips.of_valid (hw : ∀ a, Valid a → read (write a) = .ok a)
    (hv : ∀ d a, read d = .ok a → Valid a) : RoundTrips write read Valid := by
  have hnormal : ∀ d e, (read d).map write = .ok e → read e = read d := by
    intro d e he
    cases hd : read d with
    | error f => simp [hd, Except.map] at he
    | ok a =>
      simp only [hd, Except.map, Except.ok.injEq] at he
      rw [← he, hw a (hv d a hd)]
  refine ⟨hw, hnormal, fun d e he => ?_⟩
  rwa [hnormal d e he]

end Normal

variable {room : Heights}

theorem Reservation.ofJson?_toJson (r : Reservation) : ofJson? room r.toJson = .ok r := by
  simp [ofJson?, toJson, roleField?, shownField?, field?, valueAt?, Role.ofJson?_name,
    Ipv4.Interface.ofJson?_text, bind, Except.bind, pure, Except.pure, mapError_ok]

/-- Nothing but the role and the address is looked at. -/
theorem Reservation.ofJson?_congr {fields fields' : List (String × Json)}
    (hr : valueAt? "role" fields = valueAt? "role" fields')
    (ha : valueAt? "address" fields = valueAt? "address" fields') :
    ofJson? room (.obj fields) = ofJson? room (.obj fields') := by
  simp only [ofJson?, roleField?, shownField?, field?, hr, ha]

theorem Conflict.ofJson?_toJson (k : Conflict) : ofJson? room k.toJson = .ok k := by
  simp [ofJson?, toJson, roleField?, shownField?, field?, valueAt?, Role.ofJson?_name,
    Ipv4.Block.ofJson?_text, bind, Except.bind, pure, Except.pure, mapError_ok, Json.text]

namespace Snapshot

variable {s : Snapshot} {network d v : Json} {fields : List (String × Json)}

theorem ofJson?_obj_eq_ok (h : ofJson? room (.obj fields) network = .ok s) :
    ∃ named addresses, named? network fields = .ok named ∧ addresses? fields = .ok addresses ∧
      textOf? room "network_id" named = .ok s.network ∧
      addresses.mapM (textOf? room "addresses") = .ok s.addresses := by
  obtain ⟨named, hn, h⟩ := bind_eq_ok.mp h
  obtain ⟨addresses, ha, h⟩ := bind_eq_ok.mp h
  obtain ⟨transport, -, h⟩ := bind_eq_ok.mp h
  obtain ⟨network, ht, h⟩ := bind_eq_ok.mp h
  obtain ⟨texts, hm, h⟩ := bind_eq_ok.mp h
  cases h
  exact ⟨named, addresses, hn, ha, ht, hm⟩

/-- A snapshot that is accepted is named, and by what is given beside the object if that is true. -/
theorem network_of_ofJson? (h : ofJson? room d network = .ok s) :
    s.network ≠ "" ∧ (network.isTruthy = true →
      network.height ≤ room "network_id" ∧ s.network = network.text) := by
  cases d with
  | obj fields =>
    obtain ⟨named, -, hn, -, ht, -⟩ := ofJson?_obj_eq_ok h
    obtain ⟨htruthy, hgiven⟩ := named?_eq_ok hn
    obtain ⟨hheight, htext⟩ := textOf?_eq_ok.1 ht
    refine ⟨htext ▸ Json.text_ne_empty htruthy, fun hnet => ?_⟩
    obtain rfl | ⟨hfalse, -⟩ := hgiven
    · exact ⟨hheight, htext.symm⟩
    · rw [hnet] at hfalse
      cases hfalse
  | _ => cases h

theorem roundTrips : RoundTrips toJson (ofJson? room · .null) (·.network ≠ "") := by
  refine .of_valid (fun s hs => ofJson?_toJson_of (fun fields hf => ?_) (textOf?_str s.network))
    fun d s hd => (network_of_ofJson? hd).1
  have htruthy : (Json.str s.network).isTruthy = true := by simpa [Json.isTruthy] using hs
  have hnull : Json.null.isTruthy = false := rfl
  simp [named?, hf, htruthy, hnull]

theorem roundTrips_of_isTruthy (h : network.isTruthy = true) :
    RoundTrips toJson (ofJson? room · network)
      fun s => network.height ≤ room "network_id" ∧ s.network = network.text :=
  .of_valid
    (fun _ hs => ofJson?_toJson_of (fun _ _ => if_pos h) (textOf?_eq_ok.2 ⟨hs.1, hs.2.symm⟩))
    fun _ _ hd => (network_of_ofJson? hd).2 h

end Snapshot

/-- All three encodings go there and back, and back and there as far as the normal form, whatever
the height of the texts that there is room for. The prefix of a reservation follows from its
address. -/
theorem encodings_round_trip (room : Heights) :
    RoundTrips Reservation.toJson (Reservation.ofJson? room) (fun _ => True) ∧
    RoundTrips Conflict.toJson (Conflict.ofJson? room) (fun _ => True) ∧
    RoundTrips Snapshot.toJson (Snapshot.ofJson? room · .null) (·.network ≠ "") ∧
    (∀ network : Json, network.isTruthy = true →
      RoundTrips Snapshot.toJson (Snapshot.ofJson? room · network) fun s =>
        network.height ≤ room "network_id" ∧ s.network = network.text) ∧
    (∀ d e, (Reservation.ofJson? room d).map Reservation.toJson = .ok e →
      ∃ (i : Ipv4.Interface) (b : Ipv4.Block), field? e "address" = .ok (.str i.text) ∧
        field? e "prefix" = .ok (.str b.text) ∧ b.length = i.length ∧
        ∀ k, b.first.value.testBit k =
          (decide (32 - i.length ≤ k) && i.address.value.testBit k)) ∧
    ∀ fields fields' : List (String × Json),
      valueAt? "role" fields = valueAt? "role" fields' →
      valueAt? "address" fields = valueAt? "address" fields' →
      Reservation.ofJson? room (.obj fields) = Reservation.ofJson? room (.obj fields') := by
  refine ⟨.of_valid (fun r _ => r.ofJson?_toJson) fun _ _ _ => trivial,
    .of_valid (fun k _ => k.ofJson?_toJson) fun _ _ _ => trivial, Snapshot.roundTrips,
    fun network => Snapshot.roundTrips_of_isTruthy, ?_, fun _ _ => Reservation.ofJson?_congr⟩
  intro d e he
  cases hd : Reservation.ofJson? room d with
  | error f => simp [hd, Except.map] at he
  | ok r =>
    simp only [hd, Except.map, Except.ok.injEq] at he
    subst he
    exact ⟨r.address, r.block, rfl, rfl, rfl, r.address.testBit_first_block⟩

/-- A link in another case and with a hostmask is written in the usual form, with a prefix that is
not the one it came with; and a network is read by its number. -/
theorem hostmask_round_trip :
    let room : Heights := fun _ => 0
    let d := Json.obj [("role", .str "WiFi"), ("address", .str "192.168.43.5/0.0.0.255"),
      ("prefix", .int 7)]
    let e := (Reservation.mk .wifi (.inSubnet (.ofOctets 192 168 43 5))).toJson
    (Reservation.ofJson? room d).map Reservation.toJson = .ok e ∧
      field? e "prefix" = .ok (.str "192.168.43.0/24") ∧
      Reservation.ofJson? room e = Reservation.ofJson? room d ∧
      Reservation.ofJson? room (.obj [("address", .str "192.168.43.5/0.0.0.255"),
        ("role", .str "WiFi")]) = Reservation.ofJson? room d ∧
      Snapshot.ofJson? room (Snapshot.toJson ⟨"7", none, []⟩) (.int 7) = .ok ⟨"7", none, []⟩ := by
  intro room
  obtain ⟨hr, _, _, hs, _, hfields⟩ := encodings_round_trip room
  have hd : Reservation.ofJson? room (.obj [("role", .str "WiFi"),
      ("address", .str "192.168.43.5/0.0.0.255"), ("prefix", .int 7)]) =
      .ok ⟨.wifi, .inSubnet (.ofOctets 192 168 43 5)⟩ :=
    eq_ok_of_toOption (by decide +kernel)
  have he := congrArg (Except.map Reservation.toJson) hd
  refine ⟨he, congrArg (fun t => Except.ok (Json.str t)) (by decide +kernel), hr.read_normal _ _ he,
    hfields _ _ rfl rfl, ?_⟩
  exact (hs (.int 7) rfl).read_write ⟨"7", none, []⟩ ⟨Nat.zero_le _, by decide +kernel⟩

end Downlink
