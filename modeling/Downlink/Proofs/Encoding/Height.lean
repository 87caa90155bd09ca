import Downlink.Proofs.Encoding

/-! # Values that are too high to be read

A field is too high if there is no room for its text. Such a field ends a reading
when the text is about to be made and not before. What was within the room for
reading is never too high in that room.
-/

namespace Downlink

namespace Encoding

variable {room : Heights} {v : Json} {key : String} {α : Type}

/-- A field is too high for its text to be made. -/
def IsTooHigh (room : Heights) (v : Json) (key : String) : Prop :=
  ∃ w, field? v key = .ok w ∧ room key < w.height

theorem shownField?_eq_tooHigh :
    shownField? room v key = .error .tooHigh ↔ IsTooHigh room v key := by
  have hfield : field? v key ≠ .error .tooHigh := by
    cases v with
    | obj fields => cases h : valueAt? key fields <;> simp [field?, h]
    | _ => simp [field?]
  simp only [shownField?, bind_eq_error, hfield, false_or, IsTooHigh, Json.showable?]
  refine exists_congr fun w => and_congr_right fun _ => ?_
  split <;> simp_all

theorem bind_shownField?_eq_tooHigh {read : Json → Except FieldFault α}
    (h : ∀ w, read w ≠ .error .tooHigh) :
    (shownField? room v key >>= read) = .error .tooHigh ↔ IsTooHigh room v key := by
  simp only [bind_eq_error, h, and_false, exists_false, or_false, shownField?_eq_tooHigh]

theorem roleField?_eq_tooHigh : roleField? room v = .error .tooHigh ↔ IsTooHigh room v "role" :=
  bind_shownField?_eq_tooHigh fun w => by simp [mapError_eq_error]

end Encoding

open Encoding

namespace Reservation

variable {room : Heights} {v : Json}

/-- A text that is to be made while a reservation is read is too high. -/
def IsTooHigh (room : Heights) (v : Json) : Prop :=
  Encoding.IsTooHigh room v "role" ∨
    (∃ r, roleField? room v = .ok r) ∧ Encoding.IsTooHigh room v "address"

theorem ofJson?_eq_tooHigh : ofJson? room v = .error ⟨.tooHigh⟩ ↔ IsTooHigh room v := by
  have haddress : ∀ r : Role, (shownField? room v "address" >>= fun w => do
      return ⟨r, ← (Ipv4.Interface.ofJson? w).mapError FieldFault.address⟩ :
        Except FieldFault Reservation) = .error .tooHigh ↔ Encoding.IsTooHigh room v "address" :=
    fun r => bind_shownField?_eq_tooHigh fun w => bind_ne_error (by simp [mapError_eq_error])
      fun _ h => by cases h
  rw [ofJson?, mapError_eq_error]
  simp only [Fault.mk.injEq, exists_eq_right]
  rw [bind_eq_error]
  simp only [roleField?_eq_tooHigh, haddress, IsTooHigh, exists_and_right]

end Reservation

namespace Conflict

variable {room : Heights} {v : Json}

def IsTooHigh (room : Heights) (v : Json) : Prop :=
  Encoding.IsTooHigh room v "role" ∨ (∃ r, roleField? room v = .ok r) ∧
    (Encoding.IsTooHigh room v "prefix" ∨
      (∃ w b, shownField? room v "prefix" = .ok w ∧ Ipv4.Block.ofJson? w = .ok b) ∧
        Encoding.IsTooHigh room v "network_id")

theorem ofJson?_eq_tooHigh : ofJson? room v = .error ⟨.tooHigh⟩ ↔ IsTooHigh room v := by
  have hnetwork : ∀ (r : Role) (b : Ipv4.Block), (shownField? room v "network_id" >>= fun w =>
      return ⟨r, b, w.text⟩ : Except FieldFault Conflict) = .error .tooHigh ↔
        Encoding.IsTooHigh room v "network_id" :=
    fun r b => bind_shownField?_eq_tooHigh fun w h => by cases h
  have hblock : ∀ (r : Role) (w : Json), ((Ipv4.Block.ofJson? w).mapError FieldFault.address >>=
      fun b => shownField? room v "network_id" >>= fun w => return ⟨r, b, w.text⟩ :
        Except FieldFault Conflict) = .error .tooHigh ↔
      (∃ b, Ipv4.Block.ofJson? w = .ok b) ∧ Encoding.IsTooHigh room v "network_id" := by
    intro r w
    cases Ipv4.Block.ofJson? w with
    | error f => simp [mapError_error, bind, Except.bind]
    | ok b => exact (hnetwork r b).trans (by simp)
  rw [ofJson?, mapError_eq_error]
  simp only [Fault.mk.injEq, exists_eq_right]
  rw [bind_eq_error]
  simp only [roleField?_eq_tooHigh, bind_eq_error (x := shownField? room v "prefix"),
    shownField?_eq_tooHigh, hblock, IsTooHigh, exists_and_right, ← and_assoc, exists_and_left]

end Conflict

namespace Snapshot

variable {room : Heights} {v network : Json} {key : String} {fields : List (String × Json)}

def IsTooHigh (room : Heights) (v network : Json) : Prop :=
  ∃ fields named addresses, v = .obj fields ∧ named? network fields = .ok named ∧
    addresses? fields = .ok addresses ∧
    (Encoding.IsTooHigh room v "transport" ∨
      (∃ t, transport? room ((valueAt? "transport" fields).getD .null) = .ok t) ∧
        (room "network_id" < named.height ∨ ∃ w ∈ addresses, room "addresses" < w.height))

theorem textOf?_cases (room : Heights) (key : String) (v : Json) :
    room key < v.height ∧ textOf? room key v = .error .tooHigh ∨
      ¬ room key < v.height ∧ textOf? room key v = .ok v.text := by
  unfold textOf? Json.showable?
  split
  · next h => exact .inl ⟨h, rfl⟩
  · next h => exact .inr ⟨h, rfl⟩

theorem textOf?_eq_ok {t : String} :
    textOf? room key v = .ok t ↔ v.height ≤ room key ∧ v.text = t := by
  obtain ⟨h, ht⟩ | ⟨h, ht⟩ := textOf?_cases room key v
  · simp [ht, Nat.not_le.2 h]
  · simp [ht, Nat.not_lt.1 h]

theorem mapM_textOf?_eq_tooHigh {items : List Json} :
    items.mapM (textOf? room key) = .error .tooHigh ↔ ∃ w ∈ items, room key < w.height := by
  induction items with
  | nil => simp [pure, Except.pure]
  | cons w items ih =>
    rw [List.mapM_cons]
    obtain ⟨h, ht⟩ | ⟨h, ht⟩ := textOf?_cases room key w
    · simp [ht, error_bind, h]
    · rw [ht, ok_bind, bind_eq_error, ih]
      simp [h, pure, Except.pure]

theorem transport?_eq_tooHigh :
    transport? room ((valueAt? "transport" fields).getD .null) = .error .tooHigh ↔
      Encoding.IsTooHigh room (.obj fields) "transport" := by
  have hshown : ∀ w, transport? room w = .error .tooHigh ↔ room "transport" < w.height := by
    intro w
    unfold transport? Json.showable?
    split
    · next h => simp [h, error_bind]
    · next h => simp [h, ok_bind, mapError_eq_error]
  rw [hshown, Encoding.IsTooHigh]
  cases h : valueAt? "transport" fields <;> simp [field?, h, Json.height]

theorem ofJson?_eq_tooHigh :
    ofJson? room v network = .error .tooHigh ↔ IsTooHigh room v network := by
  cases v with
  | obj fields =>
    have hnamed : named? network fields ≠ .error .tooHigh := by
      unfold named?
      repeat' split
      all_goals simp
    have haddresses : addresses? fields ≠ .error .tooHigh := by
      unfold addresses?
      repeat' split
      all_goals simp
    have htexts : ∀ (t : Option Transport) (named : Json) (addresses : List Json),
        (do return ⟨← textOf? room "network_id" named, t,
          ← addresses.mapM (textOf? room "addresses")⟩ : Except Fault Snapshot) = .error .tooHigh ↔
        room "network_id" < named.height ∨ ∃ w ∈ addresses, room "addresses" < w.height := by
      intro t named addresses
      obtain ⟨h, ht⟩ | ⟨h, ht⟩ := textOf?_cases room "network_id" named
      · simp [ht, error_bind, h]
      · rw [ht, ok_bind, bind_eq_error, mapM_textOf?_eq_tooHigh]
        simp [h, pure, Except.pure]
    rw [ofJson?, bind_eq_error]
    simp only [hnamed, false_or, bind_eq_error (x := addresses? fields), haddresses,
      bind_eq_error (x := transport? _ _), transport?_eq_tooHigh, htexts, IsTooHigh,
      Json.obj.injEq, exists_and_right, ← exists_and_left]
    constructor
    · rintro ⟨named, addresses, h⟩
      exact ⟨fields, named, addresses, rfl, h⟩
    · rintro ⟨_, named, addresses, rfl, h⟩
      exact ⟨named, addresses, h⟩
  | _ => simp [ofJson?, IsTooHigh]

/-- What was within a room is read there without regard to its height. -/
theorem ofJson?_ne_tooHigh {levels : Nat} (h : v.overflow? levels = none) (name : String) :
    ofJson? (fun _ => levels) v (.str name) ≠ .error .tooHigh := by
  rw [Ne, ofJson?_eq_tooHigh]
  rintro ⟨fields, named, addresses, rfl, hn, ha, hhigh⟩
  have hfield : ∀ {key w}, valueAt? key fields = some w → w.overflow? levels = none := fun hw =>
    Json.overflow?_of_valueAt? h hw
  rcases hhigh with ⟨w, hw, hlt⟩ | ⟨-, hlt | ⟨w, hw, hlt⟩⟩
  · cases ht : valueAt? "transport" fields with
    | none => simp [field?, ht] at hw
    | some u =>
      simp only [field?, ht, Option.elim_some, Except.ok.injEq] at hw
      exact Nat.not_lt.2 (Json.height_le_of_overflow? (hfield ht)) (hw ▸ hlt)
  · obtain rfl | ⟨-, hid⟩ := (named?_eq_ok hn).2
    · exact Nat.not_lt_zero _ hlt
    · exact Nat.not_lt.2 (Json.height_le_of_overflow? (hfield hid)) hlt
  · obtain rfl | hitems := addresses?_eq_ok ha
    · cases hw
    · have hfits := Json.overflow?_of_mem_items (hfield hitems) hw
      exact Nat.not_lt.2 (Json.height_le_of_overflow? hfits) hlt

end Snapshot

end Downlink
