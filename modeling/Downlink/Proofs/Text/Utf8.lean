import Downlink.Text.Utf8
import Mathlib.Tactic.SplitIfs

/-! # Reading UTF-8 back

The bytes of a character are decoded to that character, whatever stands before
them: a character that was not completed is given up at the lead byte of the
next. No byte makes more than one character.
-/

namespace Downlink.Text

variable {p : Option Partial} {b lead : UInt8} {bytes : List UInt8}

theorem isTail_iff : isTail b = true ↔ 0x80 ≤ b.toNat ∧ b.toNat ≤ 0xbf := by
  simp [isTail, UInt8.le_iff_toNat_le]

theorem isFirstTail_iff : isFirstTail lead b = true ↔
    (if lead.toNat = 0xe0 then 0xa0 else if lead.toNat = 0xf0 then 0x90 else 0x80) ≤ b.toNat ∧
      b.toNat ≤
        (if lead.toNat = 0xed then 0x9f else if lead.toNat = 0xf4 then 0x8f else 0xbf) := by
  simp only [isFirstTail, Bool.and_eq_true, decide_eq_true_eq, UInt8.le_iff_toNat_le,
    ← UInt8.toNat_inj, apply_ite UInt8.toNat]
  rfl

theorem isTail_of_admits {p : Partial} (h : p.admits b = true) : isTail b = true := by
  simp only [Partial.admits] at h
  split at h
  · rw [isFirstTail_iff] at h
    rw [isTail_iff]
    grind
  · exact h

def givenUp (p : Option Partial) : List Char :=
  if p.isSome then [replacement] else []

@[simp] theorem givenUp_none : givenUp none = [] :=
  rfl

@[simp] theorem givenUp_some (p : Partial) : givenUp (some p) = [replacement] :=
  rfl

theorem decodeFrom_lead (h : isTail b = false) (p : Option Partial) :
    decodeFrom p (b :: bytes) =
      givenUp p ++ ((startByte b).1 ++ decodeFrom (startByte b).2 bytes) := by
  cases p with
  | none => rfl
  | some p =>
    have ha : p.admits b = false :=
      Bool.eq_false_iff.mpr fun ha => by simp [isTail_of_admits ha] at h
    simp [decodeFrom, ha]

theorem startByte_of_lt (h : b.toNat < 0x80) : startByte b = ([Char.ofNat b.toNat], none) := by
  have hc : tailCount? b = some 0 := by
    simp [tailCount?, UInt8.lt_iff_toNat_lt, h]
  simp [startByte, hc]

theorem startByte_of_tailCount? {n : Nat} (h : tailCount? b = some (n + 1)) :
    startByte b = ([], some ⟨leadBits b (n + 1), n + 1, b, true⟩) := by
  simp [startByte, h]

section Lead

variable {b₁ b₂ b₃ : UInt8}

theorem isTail_eq_false (h : 0xc0 ≤ b.toNat) : isTail b = false := by
  rw [Bool.eq_false_iff, Ne, isTail_iff]
  omega

theorem decodeFrom_two (h : 0xc2 ≤ b.toNat ∧ b.toNat ≤ 0xdf) (h₁ : isFirstTail b b₁ = true) :
    decodeFrom p (b :: b₁ :: bytes) = givenUp p ++
      Char.ofNat (b.toNat % 32 * 64 + b₁.toNat % 64) :: decodeFrom none bytes := by
  have hc : tailCount? b = some 1 := by
    simp only [tailCount?, UInt8.lt_iff_toNat_lt, UInt8.le_iff_toNat_le]
    grind
  rw [decodeFrom_lead (isTail_eq_false (by omega)), startByte_of_tailCount? hc]
  simp [decodeFrom, Partial.admits, h₁, leadBits]

theorem decodeFrom_three (h : 0xe0 ≤ b.toNat ∧ b.toNat ≤ 0xef) (h₁ : isFirstTail b b₁ = true)
    (h₂ : isTail b₂ = true) :
    decodeFrom p (b :: b₁ :: b₂ :: bytes) = givenUp p ++
      Char.ofNat ((b.toNat % 16 * 64 + b₁.toNat % 64) * 64 + b₂.toNat % 64) ::
        decodeFrom none bytes := by
  have hc : tailCount? b = some 2 := by
    simp only [tailCount?, UInt8.lt_iff_toNat_lt, UInt8.le_iff_toNat_le]
    grind
  rw [decodeFrom_lead (isTail_eq_false (by omega)), startByte_of_tailCount? hc]
  simp [decodeFrom, Partial.admits, h₁, h₂, leadBits]

theorem decodeFrom_four (h : 0xf0 ≤ b.toNat ∧ b.toNat ≤ 0xf4) (h₁ : isFirstTail b b₁ = true)
    (h₂ : isTail b₂ = true) (h₃ : isTail b₃ = true) :
    decodeFrom p (b :: b₁ :: b₂ :: b₃ :: bytes) = givenUp p ++
      Char.ofNat (((b.toNat % 8 * 64 + b₁.toNat % 64) * 64 + b₂.toNat % 64) * 64 +
        b₃.toNat % 64) :: decodeFrom none bytes := by
  have hc : tailCount? b = some 3 := by
    simp only [tailCount?, UInt8.lt_iff_toNat_lt, UInt8.le_iff_toNat_le]
    grind
  rw [decodeFrom_lead (isTail_eq_false (by omega)), startByte_of_tailCount? hc]
  simp [decodeFrom, Partial.admits, h₁, h₂, h₃, leadBits]

end Lead

theorem toNat_byte {n : Nat} (h : n < 256) : (UInt8.ofNat n).toNat = n := by
  simpa using h

theorem decodeFrom_utf8EncodeChar (c : Char) (p : Option Partial) (bytes : List UInt8) :
    decodeFrom p (String.utf8EncodeChar c ++ bytes) = givenUp p ++ c :: decodeFrom none bytes := by
  have hc : c.toNat < 0xd800 ∨ 0xdfff < c.toNat ∧ c.toNat < 0x110000 := c.valid
  have hread {n : Nat} (hn : n = c.toNat) : Char.ofNat n = c := by
    rw [hn, Char.ofNat_toNat]
  have hv : c.val.toNat = c.toNat := rfl
  simp only [String.utf8EncodeChar, hv]
  generalize c.toNat = v at hc hread
  have h₁ : (UInt8.ofNat (v % 64 + 128)).toNat = v % 64 + 128 := toNat_byte (by omega)
  have h₂ : (UInt8.ofNat (v / 64 % 64 + 128)).toNat = v / 64 % 64 + 128 := toNat_byte (by omega)
  have h₃ : (UInt8.ofNat (v / 4096 % 64 + 128)).toNat = v / 4096 % 64 + 128 := toNat_byte (by omega)
  split
  · have h₀ : (UInt8.ofNat v).toNat = v := toNat_byte (by omega)
    rw [List.singleton_append, decodeFrom_lead, startByte_of_lt (by omega), h₀, hread rfl]
    · rfl
    · rw [Bool.eq_false_iff, Ne, isTail_iff]
      omega
  split
  · have h₀ : (UInt8.ofNat (v / 64 % 32 + 192)).toNat = v / 64 % 32 + 192 := toNat_byte (by omega)
    rw [List.cons_append, List.singleton_append,
      decodeFrom_two (by omega) (by rw [isFirstTail_iff]; split_ifs <;> omega), hread (by omega)]
  split
  · have h₀ : (UInt8.ofNat (v / 4096 % 16 + 224)).toNat = v / 4096 % 16 + 224 :=
      toNat_byte (by omega)
    rw [List.cons_append, List.cons_append, List.singleton_append,
      decodeFrom_three (by omega) (by rw [isFirstTail_iff]; split_ifs <;> omega)
        (by rw [isTail_iff]; omega), hread (by omega)]
  · have h₀ : (UInt8.ofNat (v / 262144 % 8 + 240)).toNat = v / 262144 % 8 + 240 :=
      toNat_byte (by omega)
    rw [List.cons_append, List.cons_append, List.cons_append, List.singleton_append,
      decodeFrom_four (by omega) (by rw [isFirstTail_iff]; split_ifs <;> omega)
        (by rw [isTail_iff]; omega) (by rw [isTail_iff]; omega), hread (by omega)]

theorem decodeFrom_flatMap (cs : List Char) :
    decodeFrom none (cs.flatMap String.utf8EncodeChar) = cs := by
  induction cs with
  | nil => rfl
  | cons c cs ih => rw [List.flatMap_cons, decodeFrom_utf8EncodeChar, ih]; rfl

/-- A byte makes one character at most, unless it gives one up. -/
theorem decodeFrom_cons (p : Option Partial) (b : UInt8) (bytes : List UInt8) :
    ∃ out next, decodeFrom p (b :: bytes) = out ++ decodeFrom next bytes ∧
      out.length + (givenUp next).length ≤ (givenUp p).length + 1 := by
  have hstart : (startByte b).1.length + (givenUp (startByte b).2).length = 1 := by
    unfold startByte
    split <;> rfl
  cases p with
  | none => exact ⟨_, _, rfl, by rw [hstart]; exact Nat.le_add_left ..⟩
  | some p =>
    rw [decodeFrom]
    split
    · split
      · exact ⟨[_], none, rfl, by simp⟩
      · exact ⟨[], _, rfl, by simp⟩
    · refine ⟨_, _, rfl, ?_⟩
      simp only [List.length_cons, givenUp_some, List.length_nil]
      omega

end Downlink.Text
