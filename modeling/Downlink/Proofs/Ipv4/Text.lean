import Downlink.Ipv4.Parser
import Downlink.Proofs.Results
import Downlink.Text.Blank

/-! # Reading what was printed

Addresses and blocks are read back from their texts as they were. The dots and
the slash stand where the text is cut, since no number holds either, and what
stands between them is a number in its one decimal form.
-/

namespace Downlink

theorem Text.isBlank_of_isDigit {c : Char} (h : c.isDigit = true) : isBlank c = false := by
  simp only [Char.isDigit, Bool.and_eq_true, decide_eq_true_eq, UInt32.le_iff_toNat_le] at h
  have hn : 48 ≤ c.toNat ∧ c.toNat ≤ 57 := h
  simp only [isBlank, Bool.or_eq_false_iff, Bool.and_eq_false_iff, decide_eq_false_iff_not,
    beq_eq_false_iff_ne]
  omega

theorem Text.trimList_eq_self {blank : Char → Bool} {cs : List Char}
    (h : ∀ c ∈ cs, blank c = false) : trimList blank cs = cs := by
  have hdrop : ∀ ds : List Char, (∀ c ∈ ds, blank c = false) → ds.dropWhile blank = ds := by
    intro ds hd
    cases ds with
    | nil => rfl
    | cons d ds => simp [hd d]
  rw [trimList, hdrop cs h, hdrop _ (by simpa using h), List.reverse_reverse]

namespace Ipv4

open Text

theorem notMem_decimal {c : Char} (hc : c.isDigit = false) (n : Nat) : c ∉ decimal n := by
  intro hm
  rw [Nat.isDigit_of_mem_toDigits (by decide) (by decide) hm] at hc
  cases hc

theorem octet?_decimal (n : Fin 256) : octet? (decimal n.val) = .ok n := by
  have h : ∀ n : Fin 256, (octet? (decimal n.val)).toOption = some n := by decide +kernel
  exact eq_ok_of_toOption (h n)

theorem length?_decimal (n : Fin 33) : length? (decimal n.val) = .ok n := by
  have h : ∀ n : Fin 33, (length? (decimal n.val)).toOption = some n := by decide +kernel
  exact eq_ok_of_toOption (h n)

theorem Address.splitList_chars (x : Address) :
    splitList '.' x.chars =
      [decimal (x.octet 3), decimal (x.octet 2), decimal (x.octet 1), decimal (x.octet 0)] := by
  have hdot (n : Nat) : '.' ∉ decimal n := notMem_decimal rfl n
  simp only [chars, List.append_assoc, List.cons_append]
  rw [splitList_append _ (hdot _), splitList_append _ (hdot _), splitList_append _ (hdot _),
    splitList_eq_singleton (hdot _)]

theorem Address.ofChars?_chars (x : Address) : ofChars? x.chars = .ok x := by
  have hne : x.chars.isEmpty = false := by simp [chars]
  simp [ofChars?, hne, splitList_chars, octet?_decimal, mapError_ok, bind, Except.bind, pure,
    Except.pure, ofOctets_octet]

theorem Address.slash_notMem_chars (x : Address) : '/' ∉ x.chars := by
  have hslash (n : Nat) : '/' ∉ decimal n := notMem_decimal rfl n
  simp [chars, hslash]

theorem Interface.ofChars?_chars (shown : String) (i : Interface) :
    ofChars? shown i.chars = .ok i := by
  have hslash : '/' ∉ decimal i.length := notMem_decimal rfl _
  have hlen := length?_decimal ⟨i.length, Nat.lt_succ_of_le i.length_le⟩
  rw [ofChars?, chars, splitList_append _ i.address.slash_notMem_chars,
    splitList_eq_singleton hslash]
  simp [Address.ofChars?_chars, hlen, bind, Except.bind, pure, Except.pure]

theorem Interface.ofText?_text (i : Interface) : ofText? i.text = .ok i := by
  rw [ofText?, text, String.toList_ofList, ofChars?_chars]

theorem Interface.isBlank_of_mem_chars {i : Interface} {c : Char} (h : c ∈ i.chars) :
    isBlank c = false := by
  have hdigit {n : Nat} (hc : c ∈ decimal n) : isBlank c = false :=
    isBlank_of_isDigit (Nat.isDigit_of_mem_toDigits (by decide) (by decide) hc)
  simp only [chars, Address.chars, List.mem_append, List.mem_cons] at h
  rcases h with (((h | rfl | h) | rfl | h) | rfl | h) | rfl | h <;>
    first
    | exact hdigit h
    | decide

/-- Behind the slash any form of a mask may stand. -/
theorem Interface.ofText?_mask {mask : String} {n : Fin 33} (hm : '/' ∉ mask.toList)
    (hn : length? mask.toList = .ok n) (x : Address) :
    ofText? (x.text ++ "/" ++ mask) = .ok ⟨x, n.val, Nat.le_of_lt_succ n.isLt⟩ := by
  have hcs : (x.text ++ "/" ++ mask).toList = x.chars ++ '/' :: mask.toList := by
    simp [Address.text]
  rw [ofText?, hcs, ofChars?, splitList_append _ x.slash_notMem_chars, splitList_eq_singleton hm]
  simp [Address.ofChars?_chars, hn, bind, Except.bind, pure, Except.pure]

theorem Interface.ofJson?_text (i : Interface) : ofJson? (.str i.text) = .ok i := by
  simp only [ofJson?, Json.text, text, String.toList_ofList, ofChars?_chars]

theorem Interface.strictBlock?_interface (b : Block) : b.interface.strictBlock? = .ok b := by
  rw [strictBlock?, b.block_interface]
  exact if_pos rfl

theorem Block.ofText?_mask {mask : String} {n : Fin 33} (hm : '/' ∉ mask.toList)
    (hn : length? mask.toList = .ok n) {b : Block} (hb : b.length = n.val) :
    ofText? (b.first.text ++ "/" ++ mask) = .ok b := by
  have hi : (⟨b.first, n.val, Nat.le_of_lt_succ n.isLt⟩ : Interface) = b.interface := by
    simp only [interface, hb]
  rw [ofText?, Interface.ofText?_mask hm hn, hi]
  exact Interface.strictBlock?_interface b

theorem Block.ofJson?_text (b : Block) : ofJson? (.str b.text) = .ok b := by
  rw [ofJson?, text, Interface.ofJson?_text]
  exact Interface.strictBlock?_interface b

/-- What stands for a text in messages does not matter to how it is read. -/
theorem Interface.ofChars?_shown {shown : String} {cs : List Char} {i : Interface}
    (h : ofChars? shown cs = .ok i) (shown' : String) : ofChars? shown' cs = .ok i := by
  unfold ofChars? at h ⊢
  split at h
  · exact h
  · exact h
  · cases h

theorem Interface.length_of_ofInt? {n : Int} {i : Interface} (h : ofInt? n = .ok i) :
    i.length = 32 := by
  unfold ofInt? at h
  split at h
  · cases h
  · split at h <;> cases h
    rfl

theorem Interface.length_of_strictBlock? {i : Interface} {b : Block} (h : i.strictBlock? = .ok b) :
    b.length = i.length := by
  unfold strictBlock? at h
  split at h <;> cases h
  rfl

theorem Block.ofText?_of_ofJson? {v : Json} {b : Block} (h : ofJson? v = .ok b)
    (hl : b.length ≠ 32) : ofText? v.text = .ok b := by
  unfold ofJson? at h
  cases hi : Interface.ofJson? v with
  | error e => simp [hi, bind, Except.bind] at h
  | ok i =>
    simp only [hi, bind, Except.bind] at h
    have hlen : i.length ≠ 32 := Interface.length_of_strictBlock? h ▸ hl
    have ht : Interface.ofText? v.text = .ok i := by
      cases v with
      | int | bool => exact absurd (Interface.length_of_ofInt? hi) hlen
      | _ =>
        simp only [Interface.ofJson?] at hi
        exact Interface.ofChars?_shown hi _
    rw [ofText?, ht]
    exact h

end Ipv4

end Downlink
