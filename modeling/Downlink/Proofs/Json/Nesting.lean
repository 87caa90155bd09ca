import Downlink.Json.Reader
import Downlink.Proofs.Results

/-! # What nesting admits

A value that has been read was within the room for it, and what is within a room
is not too high to be shown there. A text of more open brackets than there is
room for is too deep, whatever follows.
-/

namespace Downlink.Json

variable {room : Nat} {v : Json} {items : List Json} {fields : List (String × Json)}

theorem overflowItems?_eq_none_iff :
    overflowItems? items room = none ↔ ∀ v ∈ items, v.overflow? room = none := by
  induction items with
  | nil => simp [overflowItems?]
  | cons v items ih => cases h : v.overflow? room <;> simp [overflowItems?, h, ih]

theorem overflowFields?_eq_none_iff :
    overflowFields? fields room = none ↔ ∀ f ∈ fields, f.2.overflow? room = none := by
  induction fields with
  | nil => simp [overflowFields?]
  | cons f fields ih => cases h : f.2.overflow? room <;> simp [overflowFields?, h, ih]

theorem overflow?_arr_iff :
    (arr items).overflow? (room + 1) = none ↔ ∀ v ∈ items, v.overflow? room = none :=
  overflowItems?_eq_none_iff

theorem overflow?_obj_iff :
    (obj fields).overflow? (room + 1) = none ↔ ∀ f ∈ fields, f.2.overflow? room = none :=
  overflowFields?_eq_none_iff

theorem heightItems_le_iff : heightItems items ≤ room ↔ ∀ v ∈ items, v.height < room := by
  induction items with
  | nil => simp [heightItems]
  | cons v items ih =>
    rw [heightItems, Nat.max_le, ih, Nat.succ_le_iff, List.forall_mem_cons]

theorem heightFields_le_iff : heightFields fields ≤ room ↔ ∀ f ∈ fields, f.2.height < room := by
  induction fields with
  | nil => simp [heightFields]
  | cons f fields ih =>
    rw [heightFields, Nat.max_le, ih, Nat.succ_le_iff, List.forall_mem_cons]

theorem overflow?_mono {more : Nat} (hle : room ≤ more) (h : v.overflow? room = none) :
    v.overflow? more = none := by
  induction room generalizing v more with
  | zero => cases v <;> simp_all [overflow?]
  | succ room ih =>
    obtain ⟨more, rfl⟩ : ∃ m, more = m + 1 := ⟨more - 1, by omega⟩
    cases v with
    | arr items =>
      exact overflow?_arr_iff.2 fun v hv => ih (by omega) (overflow?_arr_iff.1 h v hv)
    | obj fields =>
      exact overflow?_obj_iff.2 fun f hf => ih (by omega) (overflow?_obj_iff.1 h f hf)
    | _ => rfl

theorem overflow?_of_mem_items (h : (arr items).overflow? room = none) (hv : v ∈ items) :
    v.overflow? room = none := by
  cases room with
  | zero => cases h
  | succ room => exact overflow?_mono (Nat.le_succ room) (overflow?_arr_iff.1 h v hv)

theorem overflow?_of_valueAt? {key : String} (h : (obj fields).overflow? room = none)
    (hv : valueAt? key fields = some v) : v.overflow? room = none := by
  cases room with
  | zero => cases h
  | succ room =>
    exact overflow?_mono (Nat.le_succ room) (overflow?_obj_iff.1 h _ (mem_of_valueAt? hv))

theorem overflow?_ofStrings (texts : List String) : (ofStrings texts).overflow? 1 = none :=
  overflow?_arr_iff.2 fun v hv => by
    obtain ⟨text, -, rfl⟩ := List.mem_map.1 hv
    rfl

theorem overflow?_singleton {key : String} (h : v.overflow? room = none) :
    (obj [(key, v)]).overflow? (room + 1) = none :=
  overflow?_obj_iff.2 (List.forall_mem_singleton.2 h)

theorem overflow?_rows {α : Type} {key : String} {write : α → Json} {as : List α}
    (h : ∀ a, (write a).overflow? room = none) :
    (obj [(key, arr (as.map write))]).overflow? (room + 2) = none :=
  overflow?_singleton (overflow?_arr_iff.2 (List.forall_mem_map.2 fun a _ => h a))

theorem height_le_of_overflow? (h : v.overflow? room = none) : v.height ≤ room := by
  induction room generalizing v with
  | zero => cases v <;> simp_all [overflow?, height]
  | succ room ih =>
    cases v with
    | arr items =>
      exact heightItems_le_iff.2 fun v hv => Nat.lt_succ_of_le (ih (overflow?_arr_iff.1 h v hv))
    | obj fields =>
      exact heightFields_le_iff.2 fun f hf => Nat.lt_succ_of_le (ih (overflow?_obj_iff.1 h f hf))
    | _ => exact Nat.zero_le _

theorem within?_eq_ok_iff {w : Json} :
    within? room v = .ok w ↔ v.overflow? room = none ∧ v = w := by
  unfold within?
  cases v.overflow? room <;> simp

theorem showable?_eq_ok {ε : Type} {fault : ε} (h : v.height ≤ room) :
    v.showable? room fault = .ok v :=
  if_neg (Nat.not_lt.2 h)

theorem eq_of_showable? {ε : Type} {fault : ε} {w : Json} (h : v.showable? room fault = .ok w) :
    v = w := by
  unfold showable? at h
  split at h <;> cases h
  rfl

@[simp]
theorem showable?_str {ε : Type} {fault : ε} (s : String) :
    (str s).showable? room fault = .ok (str s) :=
  showable?_eq_ok (Nat.zero_le room)

namespace Reader

variable {fuel : Nat} {cs rest : List Char}

theorem wordValue?_eq_ok {word : List Char} {value : Json}
    (h : wordValue? word value cs = .ok (v, rest)) : v = value := by
  unfold wordValue? at h
  split at h <;> cases h
  rfl

theorem overflow?_of_unsigned? {negative : Bool} (h : unsigned? negative cs = .ok (v, rest)) :
    v.overflow? room = none := by
  simp only [unsigned?] at h
  repeat' split at h
  all_goals cases h <;> rfl

theorem overflow?_of_scalar? (h : scalar? cs = .ok (v, rest)) : v.overflow? room = none := by
  unfold scalar? at h
  split at h
  case h_7 | h_8 => exact overflow?_of_unsigned? h
  all_goals (cases wordValue?_eq_ok h; rfl)

theorem enter_eq_ok {α : Type} {opened : Collection} {inside : Nat → Read α}
    {result : α × List Char} (h : enter opened room inside = .ok result) :
    ∃ left, room = left + 1 ∧ inside left = .ok result := by
  cases room with
  | zero => cases h
  | succ left => exact ⟨left, rfl, h⟩

/-- What is read with this fuel is within the room that there was for it. -/
def Fits (fuel : Nat) : Prop :=
  ∀ room cs v rest, value? fuel room cs = .ok (v, rest) → v.overflow? room = none

theorem overflow?_of_items? (hfuel : ∀ n < fuel, Fits n) {done : List Json}
    (hdone : ∀ w ∈ done, w.overflow? room = none) (h : items? fuel room done cs = .ok (v, rest)) :
    v.overflow? (room + 1) = none := by
  induction fuel generalizing done cs with
  | zero => cases h
  | succ fuel ih =>
    obtain ⟨⟨w, tail⟩, hw, h⟩ := bind_eq_ok.1 h
    have hdone' : ∀ x ∈ w :: done, x.overflow? room = none :=
      List.forall_mem_cons.2 ⟨hfuel fuel (by omega) room cs w tail hw, hdone⟩
    dsimp only at h
    split at h
    · exact ih (fun n hn => hfuel n (by omega)) hdone' h
    · cases h
      exact overflow?_arr_iff.2 fun x hx => hdone' x (List.mem_reverse.1 hx)
    · cases h

theorem overflow?_of_fields? (hfuel : ∀ n < fuel, Fits n) {done : List (String × Json)}
    (hdone : ∀ f ∈ done, f.2.overflow? room = none)
    (h : fields? fuel room done cs = .ok (v, rest)) : v.overflow? (room + 1) = none := by
  induction fuel generalizing done cs with
  | zero => cases h
  | succ fuel ih =>
    unfold fields? at h
    split at h
    · obtain ⟨⟨key, tail⟩, -, h⟩ := bind_eq_ok.1 h
      dsimp only at h
      split at h
      · obtain ⟨⟨w, tail⟩, hw, h⟩ := bind_eq_ok.1 h
        have hdone' : ∀ f ∈ putEntry key w done, f.2.overflow? room = none := fun f hf =>
          (mem_putEntry hf).elim (fun hf => hf ▸ hfuel fuel (by omega) room _ w tail hw) (hdone f)
        dsimp only at h
        split at h
        · exact ih (fun n hn => hfuel n (by omega)) hdone' h
        · cases h
          exact overflow?_obj_iff.2 hdone'
        · cases h
      · cases h
    · cases h

theorem fits (fuel : Nat) : Fits fuel := by
  -- A collection reads its members with less fuel, and there is less room for them.
  induction fuel using Nat.strongRecOn with
  | ind fuel ih =>
    intro room cs v rest h
    cases fuel with
    | zero => cases h
    | succ fuel =>
      have hfuel : ∀ n < fuel, Fits n := fun n hn => ih n (by omega)
      unfold value? at h
      split at h
      · next tail =>
        cases hs : string? tail with
        | error e => simp [hs, Except.map] at h
        | ok read =>
          rw [hs] at h
          cases h
          rfl
      · obtain ⟨left, rfl, h⟩ := enter_eq_ok h
        split at h
        · cases h
          rfl
        · exact overflow?_of_items? hfuel (by simp) h
      · obtain ⟨left, rfl, h⟩ := enter_eq_ok h
        split at h
        · cases h
          rfl
        · exact overflow?_of_fields? hfuel (by simp) h
      · exact overflow?_of_scalar? h

/-- With one bracket more than there is room for, the rest of the text is not reached. -/
theorem value?_brackets (fuel n : Nat) (hn : room < n) (hfuel : 2 * room < fuel) :
    value? fuel room (List.replicate n '[') = .error (.tooDeep ⟨.array⟩) := by
  induction room generalizing fuel n with
  | zero =>
    obtain ⟨n, rfl⟩ := Nat.exists_eq_succ_of_ne_zero (Nat.pos_iff_ne_zero.1 hn)
    obtain ⟨fuel, rfl⟩ := Nat.exists_eq_succ_of_ne_zero (Nat.pos_iff_ne_zero.1 hfuel)
    rfl
  | succ room ih =>
    obtain ⟨n, rfl⟩ : ∃ m, n = m + 2 := ⟨n - 2, by omega⟩
    obtain ⟨fuel, rfl⟩ : ∃ m, fuel = m + 2 := ⟨fuel - 2, by omega⟩
    have hinner := ih fuel (n + 1) (by omega) (by omega)
    rw [List.replicate_succ] at hinner
    change (value? fuel room ('[' :: List.replicate n '[')).bind _ = _
    rw [hinner]
    rfl

end Reader

theorem overflow?_of_readChars? {cs : List Char} (h : readChars? room cs = .ok v) :
    v.overflow? room = none := by
  obtain ⟨⟨w, rest⟩, hw, h⟩ := bind_eq_ok.1 h
  dsimp only at h
  split at h
  · cases h
    exact Reader.fits _ room _ v rest hw
  · cases h

theorem overflow?_of_readBytes? {bytes : ByteArray} (h : readBytes? room bytes = .ok v) :
    v.overflow? room = none := by
  unfold readBytes? at h
  split at h
  · exact overflow?_of_readChars? h
  · cases h

theorem read?_brackets {n : Nat} (hn : room < n) :
    read? room (String.ofList (List.replicate n '[')) = .error (.tooDeep ⟨.array⟩) := by
  have hblank : Reader.skipBlanks (List.replicate n '[') = List.replicate n '[' := by
    cases n <;> rfl
  rw [read?, String.toList_ofList, readChars?, hblank,
    Reader.value?_brackets _ n hn (by simp; omega)]
  rfl

end Downlink.Json
