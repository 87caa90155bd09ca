import Downlink.Proofs.Json.Nesting

/-! # What is left of a text

A reader takes what it reads from the head of a text. So it goes on with a shorter
one, and the fuel that a text is read with is never used up.
-/

namespace Downlink.Json

namespace Reader

open Text

variable {fuel room : Nat} {cs rest : List Char} {v : Json}

theorem skipBlanks_suffix (cs : List Char) : skipBlanks cs <:+ cs :=
  List.dropWhile_suffix _

theorem suffix_of_next {c : Char} {tail : List Char} (htail : tail <:+ cs)
    (h : skipBlanks tail = c :: rest) : rest <:+ cs :=
  (List.suffix_cons c rest).trans (h ▸ (skipBlanks_suffix tail).trans htail)

theorem suffix_of_pieces? {done ps : List Piece} (h : pieces? done cs = some (ps, rest)) :
    rest <:+ cs := by
  fun_induction pieces? done cs with
  | case1 => cases h
  | case2 done tail =>
    cases h
    exact List.suffix_cons _ _
  | case3 done a b c d tail ih =>
    obtain ⟨n, -, h⟩ := Option.bind_eq_some_iff.1 h
    exact (ih n h).trans (List.suffix_append ['\\', 'u', a, b, c, d] tail)
  | case4 done e tail _ ih =>
    obtain ⟨c, -, h⟩ := Option.bind_eq_some_iff.1 h
    exact (ih c h).trans (List.suffix_append ['\\', e] tail)
  | case5 => cases h
  | case6 done c tail _ _ _ _ ih => exact (ih h).trans (List.suffix_cons _ _)

theorem suffix_of_string? {s : String} (h : string? cs = .ok (s, rest)) : rest <:+ cs := by
  unfold string? at h
  split at h
  · next hp =>
    cases h
    exact suffix_of_pieces? hp
  · cases h

theorem fraction_suffix (cs : List Char) : (fraction cs).2 <:+ cs := by
  unfold fraction
  split
  · split
    · exact List.suffix_rfl
    · exact (List.dropWhile_suffix _).trans (List.suffix_cons _ _)
  · exact List.suffix_rfl

theorem exponentDigits_suffix (negative : Bool) (h : rest <:+ cs) :
    (exponentDigits negative cs rest).2 <:+ cs := by
  simp only [exponentDigits]
  split
  · exact List.suffix_rfl
  · exact (List.dropWhile_suffix _).trans h

theorem exponent_suffix (cs : List Char) : (exponent cs).2 <:+ cs := by
  unfold exponent
  split
  · next e tail =>
    split
    · split
      · next more => exact exponentDigits_suffix _ (List.suffix_append [e, '+'] more)
      · next more => exact exponentDigits_suffix _ (List.suffix_append [e, '-'] more)
      · exact exponentDigits_suffix _ (List.suffix_cons _ _)
    · exact List.suffix_rfl
  · exact List.suffix_rfl

theorem suffix_of_unsigned? {negative : Bool} (h : unsigned? negative cs = .ok (v, rest)) :
    rest <:+ cs := by
  have hrest : ∀ n, (exponent (fraction (cs.drop n)).2).2 <:+ cs := fun n =>
    (exponent_suffix _).trans ((fraction_suffix _).trans (List.drop_suffix n cs))
  simp only [unsigned?] at h
  repeat' split at h
  all_goals cases h <;> exact hrest _

theorem suffix_of_wordValue? {word : List Char} {value : Json}
    (h : wordValue? word value cs = .ok (v, rest)) : rest <:+ cs := by
  unfold wordValue? at h
  split at h <;> cases h
  exact List.drop_suffix _ _

theorem suffix_of_scalar? (h : scalar? cs = .ok (v, rest)) : rest <:+ cs := by
  unfold scalar? at h
  split at h
  case h_7 => exact (suffix_of_unsigned? h).trans (List.suffix_cons _ _)
  case h_8 => exact suffix_of_unsigned? h
  all_goals exact suffix_of_wordValue? h

/-- What is read with this fuel is taken from the head of the text. -/
def Consumes (fuel : Nat) : Prop :=
  ∀ room cs v rest, value? fuel room cs = .ok (v, rest) → rest <:+ cs

theorem suffix_of_items? (hfuel : ∀ n < fuel, Consumes n) {done : List Json}
    (h : items? fuel room done cs = .ok (v, rest)) : rest <:+ cs := by
  induction fuel generalizing done cs with
  | zero => cases h
  | succ fuel ih =>
    obtain ⟨⟨w, tail⟩, hw, h⟩ := bind_eq_ok.1 h
    have htail : tail <:+ cs := hfuel fuel (by omega) room cs w tail hw
    dsimp only at h
    split at h
    · next more hmore =>
      have hleft := ih (fun n hn => hfuel n (by omega)) h
      exact hleft.trans ((skipBlanks_suffix more).trans (suffix_of_next htail hmore))
    · next more hmore =>
      cases h
      exact suffix_of_next htail hmore
    · cases h

theorem suffix_of_fields? (hfuel : ∀ n < fuel, Consumes n) {done : List (String × Json)}
    (h : fields? fuel room done cs = .ok (v, rest)) : rest <:+ cs := by
  induction fuel generalizing done cs with
  | zero => cases h
  | succ fuel ih =>
    unfold fields? at h
    split at h
    · next first =>
      obtain ⟨⟨key, behindKey⟩, hkey, h⟩ := bind_eq_ok.1 h
      have hbehind : behindKey <:+ '"' :: first :=
        (suffix_of_string? hkey).trans (List.suffix_cons _ _)
      dsimp only at h
      split at h
      · next second hsecond =>
        obtain ⟨⟨w, tail⟩, hw, h⟩ := bind_eq_ok.1 h
        have htail : tail <:+ '"' :: first :=
          (hfuel fuel (by omega) room _ w tail hw).trans
            ((skipBlanks_suffix second).trans (suffix_of_next hbehind hsecond))
        dsimp only at h
        split at h
        · next more hmore =>
          have hleft := ih (fun n hn => hfuel n (by omega)) h
          exact hleft.trans ((skipBlanks_suffix more).trans (suffix_of_next htail hmore))
        · next more hmore =>
          cases h
          exact suffix_of_next htail hmore
        · cases h
      · cases h
    · cases h

theorem consumes (fuel : Nat) : Consumes fuel := by
  induction fuel using Nat.strongRecOn with
  | ind fuel ih =>
    intro room cs v rest h
    cases fuel with
    | zero => cases h
    | succ fuel =>
      have hfuel : ∀ n < fuel, Consumes n := fun n hn => ih n (by omega)
      have hopened (c : Char) (tail : List Char) : skipBlanks tail <:+ c :: tail :=
        (skipBlanks_suffix tail).trans (List.suffix_cons c tail)
      unfold value? at h
      split at h
      · next tail =>
        cases hs : string? tail with
        | error e => simp [hs, Except.map] at h
        | ok read =>
          rw [hs] at h
          cases h
          exact (suffix_of_string? hs).trans (List.suffix_cons _ _)
      · obtain ⟨left, rfl, h⟩ := enter_eq_ok h
        split at h
        · next hclosed =>
          cases h
          exact suffix_of_next (List.suffix_cons _ _) hclosed
        · exact (suffix_of_items? hfuel h).trans (hopened _ _)
      · obtain ⟨left, rfl, h⟩ := enter_eq_ok h
        split at h
        · next hclosed =>
          cases h
          exact suffix_of_next (List.suffix_cons _ _) hclosed
        · exact (suffix_of_fields? hfuel h).trans (hopened _ _)
      · exact suffix_of_scalar? h

/-- Texts of this length at most are read with any fuel of more than twice their length alike. -/
def Steady (n : Nat) : Prop :=
  ∀ fuel room cs, cs.length ≤ n → 2 * cs.length < fuel →
    value? (fuel + 1) room cs = value? fuel room cs

theorem items?_succ {n : Nat} (hn : Steady n) (done : List Json) (hcs : cs.length ≤ n)
    (hfuel : 2 * cs.length + 1 < fuel) :
    items? (fuel + 1) room done cs = items? fuel room done cs := by
  induction fuel generalizing done cs with
  | zero => omega
  | succ fuel ih =>
    unfold items?
    rw [hn fuel room cs hcs (by omega)]
    cases hw : value? fuel room cs with
    | error e => rfl
    | ok read =>
      have htail := ((skipBlanks_suffix read.2).trans (consumes fuel _ _ _ _ hw)).length_le
      simp only [Except.bind]
      split
      · next more hmore =>
        have hmore' := (skipBlanks_suffix more).length_le
        rw [hmore, List.length_cons] at htail
        exact ih _ (by omega) (by omega)
      · rfl
      · rfl

theorem fields?_succ {n : Nat} (hn : Steady n) (done : List (String × Json)) (hcs : cs.length ≤ n)
    (hfuel : 2 * cs.length + 1 < fuel) :
    fields? (fuel + 1) room done cs = fields? fuel room done cs := by
  induction fuel generalizing done cs with
  | zero => omega
  | succ fuel ih =>
    unfold fields?
    split
    · next first =>
      cases hkey : string? first with
      | error e => rfl
      | ok key =>
        have hafter := ((skipBlanks_suffix key.2).trans (suffix_of_string? hkey)).length_le
        simp only [Except.bind, List.length_cons] at hcs hfuel ⊢
        split
        · next second hsecond =>
          have hsecond' := (skipBlanks_suffix second).length_le
          rw [hsecond, List.length_cons] at hafter
          rw [hn fuel room _ (by omega) (by omega)]
          cases hw : value? fuel room (skipBlanks second) with
          | error e => rfl
          | ok read =>
            have htail := ((skipBlanks_suffix read.2).trans (consumes fuel _ _ _ _ hw)).length_le
            dsimp only
            split
            · next more hmore =>
              have hmore' := (skipBlanks_suffix more).length_le
              rw [hmore, List.length_cons] at htail
              exact ih _ (by omega) (by omega)
            · rfl
            · rfl
        · rfl
    · rfl

theorem steady (n : Nat) : Steady n := by
  -- The members of a collection stand behind its bracket, in a shorter text.
  induction n using Nat.strongRecOn with
  | ind n ih =>
    intro fuel room cs hcs hfuel
    obtain ⟨fuel, rfl⟩ := Nat.exists_eq_succ_of_ne_zero (Nat.ne_of_gt (Nat.zero_lt_of_lt hfuel))
    have hopened {c : Char} {tail : List Char} (hc : cs = c :: tail) :
        Steady tail.length ∧ 2 * (skipBlanks tail).length + 1 < fuel := by
      have hle := (skipBlanks_suffix tail).length_le
      rw [hc, List.length_cons] at hcs hfuel
      exact ⟨ih _ hcs, by omega⟩
    unfold value?
    split
    · rfl
    · next tail =>
      obtain ⟨hn, hfuel⟩ := hopened rfl
      cases room with
      | zero => rfl
      | succ room =>
        simp only [enter]
        split
        · rfl
        · exact items?_succ hn [] (skipBlanks_suffix tail).length_le hfuel
    · next tail =>
      obtain ⟨hn, hfuel⟩ := hopened rfl
      cases room with
      | zero => rfl
      | succ room =>
        simp only [enter]
        split
        · rfl
        · exact fields?_succ hn [] (skipBlanks_suffix tail).length_le hfuel
    · rfl

theorem value?_add (h : 2 * cs.length < fuel) (more : Nat) :
    value? (fuel + more) room cs = value? fuel room cs := by
  induction more with
  | zero => rfl
  | succ more ih => exact (steady _ (fuel + more) room cs (Nat.le_refl _) (by omega)).trans ih

end Reader

/-- A text is read as it would be with any more fuel. -/
theorem readChars?_eq_of_lt {cs : List Char} {fuel room : Nat} (h : 2 * cs.length < fuel) :
    readChars? room cs = (Reader.value? fuel room (Reader.skipBlanks cs)).bind fun (v, rest) =>
      if (Reader.skipBlanks rest).isEmpty then .ok v else .error .malformed := by
  have hle := (Reader.skipBlanks_suffix cs).length_le
  obtain ⟨more, rfl⟩ := Nat.exists_eq_add_of_le h
  rw [Reader.value?_add (by omega)]
  rfl

end Downlink.Json
