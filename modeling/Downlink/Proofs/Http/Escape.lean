import Downlink.Http.Escape
import Downlink.Proofs.Text.Utf8

/-! # Reading escapes back

What is escaped arrives as it was. A text in which every percent sign begins an
escape is not escaped again, so what arrives is what its escapes stand for; in
any other text the percent signs arrive too, and the digits behind those that
begin an escape arrive in upper case.
-/

namespace Downlink.Http

open Text

variable {keep : Char → Bool} {c a b : Char} {cs rest : List Char} {byte : UInt8}

theorem ne_percent_of_isPathChar (h : isPathChar c = true) : c ≠ '%' := by
  rintro rfl
  exact absurd h (by decide)

theorem unescape_cons (h : c ≠ '%') (rest : List Char) :
    unescape (c :: rest) = String.utf8EncodeChar c ++ unescape rest := by
  rw [unescape]
  rintro a b rest' rfl
  exact absurd rfl h

theorem unescape_escaped (h : escapedByte? a b = some byte) (rest : List Char) :
    unescape ('%' :: a :: b :: rest) = byte :: unescape rest := by
  simp [unescape, h]

/-- Whether a text is one escape of the byte, with digits that may stand in a path. -/
def isEscapeOf (byte : UInt8) : List Char → Bool
  | ['%', a, b] => escapedByte? a b == some byte && isPathChar a && isPathChar b
  | _ => false

theorem isEscapeOf_escapeByte (byte : UInt8) : isEscapeOf byte (escapeByte byte) = true := by
  have hall : ∀ n < 256, isEscapeOf (UInt8.ofNat n) (escapeByte (UInt8.ofNat n)) = true := by
    decide +kernel
  simpa using hall byte.toNat byte.toNat_lt

theorem escapeByte_eq (byte : UInt8) : ∃ a b, escapeByte byte = ['%', a, b] ∧
    escapedByte? a b = some byte ∧ isPathChar a = true ∧ isPathChar b = true := by
  have h := isEscapeOf_escapeByte byte
  unfold isEscapeOf at h
  split at h
  · next a b heq =>
    simp only [Bool.and_eq_true, beq_iff_eq] at h
    exact ⟨a, b, heq, h.1.1, h.1.2, h.2⟩
  · cases h

theorem unescape_flatMap_escapeByte (bytes : List UInt8) (rest : List Char) :
    unescape (bytes.flatMap escapeByte ++ rest) = bytes ++ unescape rest := by
  induction bytes with
  | nil => rfl
  | cons byte bytes ih =>
    obtain ⟨a, b, he, hb, _⟩ := escapeByte_eq byte
    rw [List.flatMap_cons, he, List.append_assoc, List.cons_append, List.cons_append,
      List.singleton_append, unescape_escaped hb, ih, List.cons_append]

/-- A character in its escaped form arrives as its bytes, unless it is a percent sign that is
kept. -/
theorem unescape_escape_cons (h : keep c = true → c ≠ '%') (cs : List Char) :
    unescape (escape keep (c :: cs)) = String.utf8EncodeChar c ++ unescape (escape keep cs) := by
  simp only [escape, List.flatMap_cons]
  split
  · next hk => exact unescape_cons (h hk) _
  · exact unescape_flatMap_escapeByte _ _

theorem unescape_escape (h : keep '%' = false) (cs : List Char) :
    unescape (escape keep cs) = cs.flatMap String.utf8EncodeChar := by
  induction cs with
  | nil => rfl
  | cons c cs ih =>
    have hc : keep c = true → c ≠ '%' := by
      rintro hk rfl
      rw [h] at hk
      cases hk
    rw [unescape_escape_cons hc, ih, List.flatMap_cons]

theorem toNat_lt_of_hexValue? (h : (hexValue? c).isSome = true) : c.toNat < 128 := by
  have hle {d : Char} (hd : c ≤ d) (hb : d.toNat < 128) : c.toNat < 128 :=
    Nat.lt_of_le_of_lt (UInt32.le_iff_toNat_le.mp hd) hb
  unfold hexValue? at h
  split at h
  · next h9 => exact hle h9.2 (by decide)
  split at h
  · next hf => exact hle hf.2 (by decide)
  split at h
  · next hF => exact hle hF.2 (by decide)
  · cases h

theorem hexValue?_toUpper (h : (hexValue? c).isSome = true) :
    hexValue? c.toUpper = hexValue? c ∧ c ≠ '%' ∧ isPathChar c.toUpper = true := by
  have hall : ∀ n < 128, (hexValue? (Char.ofNat n)).isSome = true →
      hexValue? (Char.ofNat n).toUpper = hexValue? (Char.ofNat n) ∧ Char.ofNat n ≠ '%' ∧
        isPathChar (Char.ofNat n).toUpper = true := by
    decide +kernel
  have hc := hall c.toNat (toNat_lt_of_hexValue? h)
  rw [Char.ofNat_toNat] at hc
  exact hc h

theorem escapedByte?_isSome :
    (escapedByte? a b).isSome = ((hexValue? a).isSome && (hexValue? b).isSome) := by
  unfold escapedByte?
  cases hexValue? a <;> cases hexValue? b <;> rfl

theorem escapedByte?_toUpper (h : (escapedByte? a b).isSome = true) :
    escapedByte? a.toUpper b.toUpper = escapedByte? a b := by
  rw [escapedByte?_isSome, Bool.and_eq_true] at h
  rw [escapedByte?, (hexValue?_toUpper h.1).1, (hexValue?_toUpper h.2).1]
  rfl

theorem raiseEscapes_cons (h : c ≠ '%') (rest : List Char) :
    raiseEscapes (c :: rest) = c :: raiseEscapes rest := by
  rw [raiseEscapes]
  rintro a b rest' rfl
  exact absurd rfl h

theorem isEscaped_cons (h : c ≠ '%') (rest : List Char) :
    isEscaped (c :: rest) = isEscaped rest := by
  rw [isEscaped.eq_3 _ _ fun _ _ _ hc _ => h hc]
  simp [h]

theorem raiseEscapes_escaped (h : (escapedByte? a b).isSome = true) (rest : List Char) :
    raiseEscapes ('%' :: a :: b :: rest) = '%' :: a.toUpper :: b.toUpper :: raiseEscapes rest := by
  rw [raiseEscapes, if_pos h]

/-- A text whose percent signs all begin escapes is made of escapes and of other characters. -/
@[elab_as_elim]
theorem isEscaped_induction {motive : List Char → Prop} (nil : motive [])
    (escape : ∀ a b rest, (escapedByte? a b).isSome = true → motive rest →
      motive ('%' :: a :: b :: rest))
    (plain : ∀ c rest, c ≠ '%' → motive rest → motive (c :: rest))
    (h : isEscaped cs = true) : motive cs := by
  induction cs using isEscaped.induct with
  | case1 => exact nil
  | case2 a b rest ih =>
    rw [isEscaped, Bool.and_eq_true] at h
    exact escape a b rest h.1 (ih h.2)
  | case3 c rest hc ih =>
    rw [isEscaped.eq_3 _ _ hc, Bool.and_eq_true, bne_iff_ne] at h
    exact plain c rest h.1 (ih h.2)

def standsEscaped (c : Char) : Bool :=
  isPathChar c || c == '%'

theorem standsEscaped_of_isPathChar (h : isPathChar c = true) : standsEscaped c = true := by
  simp [standsEscaped, h]

theorem unescape_complete_of_isEscaped (h : isEscaped cs = true) :
    unescape (escape standsEscaped (raiseEscapes cs)) = unescape cs := by
  refine isEscaped_induction rfl (fun a b rest hab ih => ?_) (fun c rest hc ih => ?_) h
  · have hdigits := hab
    rw [escapedByte?_isSome, Bool.and_eq_true] at hdigits
    have ha := standsEscaped_of_isPathChar (hexValue?_toUpper hdigits.1).2.2
    have hb := standsEscaped_of_isPathChar (hexValue?_toUpper hdigits.2).2.2
    have hp : standsEscaped '%' = true := rfl
    obtain ⟨byte, hbyte⟩ := Option.isSome_iff_exists.mp hab
    have hraised : escapedByte? a.toUpper b.toUpper = some byte := by
      rw [escapedByte?_toUpper hab, hbyte]
    have hesc : escape standsEscaped ('%' :: a.toUpper :: b.toUpper :: raiseEscapes rest) =
        '%' :: a.toUpper :: b.toUpper :: escape standsEscaped (raiseEscapes rest) := by
      simp [escape, ha, hb, hp]
    rw [raiseEscapes_escaped hab, hesc, unescape_escaped hraised, unescape_escaped hbyte, ih]
  · rw [raiseEscapes_cons hc, unescape_cons hc, ← ih]
    exact unescape_escape_cons (fun _ => hc) (raiseEscapes rest)

theorem standsEscaped_of_mem (h : c ∈ completeEscapes isPathChar cs) : standsEscaped c = true := by
  obtain ⟨d, _, hc⟩ := List.mem_flatMap.mp h
  split at hc
  · next hd =>
    obtain rfl := List.mem_singleton.mp hc
    simp only [Bool.or_eq_true, Bool.and_eq_true] at hd
    simpa [standsEscaped] using hd.imp_right And.right
  · obtain ⟨byte, _, hc⟩ := List.mem_flatMap.mp hc
    obtain ⟨a, b, he, _, ha, hb⟩ := escapeByte_eq byte
    rw [he] at hc
    simp only [List.mem_cons, List.not_mem_nil, or_false] at hc
    rcases hc with rfl | rfl | rfl
    · rfl
    · exact standsEscaped_of_isPathChar ha
    · exact standsEscaped_of_isPathChar hb

/-- What arrives of a text that stands in a path. -/
def arrival (cs : List Char) : List Char :=
  decodeFrom none (unescape (completeEscapes isPathChar cs))

theorem arrival_of_isEscaped (h : isEscaped cs = true) :
    arrival cs = decodeFrom none (unescape cs) := by
  have hkeep : (fun c => isPathChar c || (isEscaped cs && c == '%')) = standsEscaped := by
    funext c
    simp [standsEscaped, h]
  rw [arrival, completeEscapes, hkeep, unescape_complete_of_isEscaped h]

theorem arrival_of_not_isEscaped (h : isEscaped cs = false) : arrival cs = raiseEscapes cs := by
  rw [arrival, completeEscapes, unescape_escape, decodeFrom_flatMap]
  simp only [h]
  rfl

theorem unescape_of_notMem (h : '%' ∉ cs) : unescape cs = cs.flatMap String.utf8EncodeChar := by
  induction cs with
  | nil => rfl
  | cons c cs ih =>
    rw [List.mem_cons, not_or] at h
    rw [unescape_cons (Ne.symm h.1), ih h.2, List.flatMap_cons]

theorem length_decodeFrom_unescape (h : isEscaped cs = true) :
    ∀ p, (decodeFrom p (unescape cs)).length + 2 * cs.count '%' ≤
      cs.length + (givenUp p).length := by
  refine isEscaped_induction (fun p => ?_) (fun a b rest hab ih p => ?_)
    (fun c rest hc ih p => ?_) h
  · cases p <;> simp [unescape, decodeFrom, givenUp]
  · obtain ⟨byte, hbyte⟩ := Option.isSome_iff_exists.mp hab
    obtain ⟨out, next, hout, hlen⟩ := decodeFrom_cons p byte (unescape rest)
    rw [escapedByte?_isSome, Bool.and_eq_true] at hab
    have ha := (hexValue?_toUpper hab.1).2.1
    have hb := (hexValue?_toUpper hab.2).2.1
    have hrest := ih next
    rw [unescape_escaped hbyte, hout]
    simp only [List.length_append, List.length_cons, List.count_cons_self,
      List.count_cons_of_ne ha, List.count_cons_of_ne hb]
    omega
  · have hrest := ih none
    rw [unescape_cons hc, decodeFrom_utf8EncodeChar]
    simp only [List.length_append, List.length_cons, List.count_cons_of_ne hc, givenUp_none,
      List.length_nil] at hrest ⊢
    omega

theorem length_raiseEscapes (cs : List Char) : (raiseEscapes cs).length = cs.length := by
  fun_induction raiseEscapes cs with
  | case1 => simp_all
  | case2 => simp_all
  | case3 => simp_all
  | case4 => rfl

/-- A text that arrives as it was: it has no percent sign, or one that begins no escape, and the
digits of its escapes are in upper case. -/
def ArrivesWhole (cs : List Char) : Prop :=
  if isEscaped cs then '%' ∉ cs else raiseEscapes cs = cs

instance (cs : List Char) : Decidable (ArrivesWhole cs) :=
  inferInstanceAs (Decidable (if isEscaped cs then '%' ∉ cs else raiseEscapes cs = cs))

theorem length_arrival_le (cs : List Char) : (arrival cs).length ≤ cs.length := by
  cases h : isEscaped cs with
  | true =>
    have hlen := length_decodeFrom_unescape h none
    rw [arrival_of_isEscaped h]
    exact Nat.le_trans (Nat.le_add_right ..) hlen
  | false => exact Nat.le_of_eq (by rw [arrival_of_not_isEscaped h, length_raiseEscapes])

theorem arrival_eq_iff : arrival cs = cs ↔ ArrivesWhole cs := by
  unfold ArrivesWhole
  cases h : isEscaped cs with
  | true =>
    rw [arrival_of_isEscaped h, if_pos rfl]
    constructor
    · intro harr hp
      have hlen := length_decodeFrom_unescape h none
      have hcount := List.count_pos_iff.mpr hp
      rw [harr, givenUp_none, List.length_nil] at hlen
      omega
    · intro hp
      rw [unescape_of_notMem hp, decodeFrom_flatMap]
  | false => rw [arrival_of_not_isEscaped h, if_neg (by simp)]

section Append

variable {front : List Char} (hf : ∀ c ∈ front, isPathChar c = true)
include hf

theorem completeEscapes_append (cs : List Char) :
    completeEscapes isPathChar (front ++ cs) = front ++ completeEscapes isPathChar cs := by
  induction front with
  | nil => rfl
  | cons c front ih =>
    rw [List.forall_mem_cons] at hf
    have hc := ne_percent_of_isPathChar hf.1
    have hfront := ih hf.2
    simp only [completeEscapes, List.cons_append, isEscaped_cons hc, raiseEscapes_cons hc]
      at hfront ⊢
    rw [escape, List.flatMap_cons, if_pos (by simp [hf.1]), List.singleton_append]
    exact congrArg (c :: ·) hfront

theorem arrival_append (cs : List Char) : arrival (front ++ cs) = front ++ arrival cs := by
  rw [arrival, completeEscapes_append hf]
  induction front with
  | nil => rfl
  | cons c front ih =>
    rw [List.forall_mem_cons] at hf
    have hc := ne_percent_of_isPathChar hf.1
    rw [List.cons_append, unescape_cons hc, decodeFrom_utf8EncodeChar, ih hf.2]
    rfl

end Append

end Downlink.Http
