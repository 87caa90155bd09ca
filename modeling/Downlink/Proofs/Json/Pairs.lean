import Downlink.Proofs.Json.Nesting

/-! # The pairs of an object as they are written

The reader keeps one value for each key of an object. Here the object is read with all its pairs,
in the order in which they are written and with every repetition, and what the reader keeps is the
last value written under each key.
-/

namespace Downlink

def lastValue? {κ ν : Type} [DecidableEq κ] (k : κ) (es : List (κ × ν)) : Option ν :=
  valueAt? k es.reverse

def gather {κ ν : Type} [DecidableEq κ] (es done : List (κ × ν)) : List (κ × ν) :=
  es.foldl (fun done e => putEntry e.1 e.2 done) done

theorem valueAt?_gather {κ ν : Type} [DecidableEq κ] (k : κ) (es : List (κ × ν)) :
    valueAt? k (gather es []) = lastValue? k es := by
  rw [gather, List.foldl_eq_foldr_reverse, lastValue?]
  induction es.reverse with
  | nil => rfl
  | cons e es ih =>
    rw [List.foldr_cons, valueAt?_putEntry, ih, valueAt?]
    simp only [eq_comm]

namespace Json

namespace Reader

/-- The pairs from the first key of an object to its end. -/
def pairs? : Nat → Nat → List Char → Read (List (String × Json))
  | 0, _, _ => .error .malformed
  | fuel + 1, room, cs =>
    match cs with
    | '"' :: rest =>
      (string? rest).bind fun (key, rest) =>
        match skipBlanks rest with
        | ':' :: rest =>
          (value? fuel room (skipBlanks rest)).bind fun (v, rest) =>
            match skipBlanks rest with
            | ',' :: rest =>
              (pairs? fuel room (skipBlanks rest)).map fun (es, rest) => ((key, v) :: es, rest)
            | '\x7d' :: rest => .ok ([(key, v)], rest)
            | _ => .error .malformed
        | _ => .error .malformed
    | _ => .error .malformed

theorem fields?_eq_map_pairs? (fuel room : Nat) (done : List (String × Json)) (cs : List Char) :
    fields? fuel room done cs =
      (pairs? fuel room cs).map fun (es, rest) => (obj (gather es done), rest) := by
  induction fuel generalizing done cs with
  | zero => rfl
  | succ fuel ih =>
    unfold fields? pairs?
    split
    · next rest =>
      simp only [Except.bind]
      cases string? rest with
      | error e => rfl
      | ok read =>
        dsimp only
        generalize skipBlanks read.2 = tail
        split
        · next rest =>
          simp only [Except.map]
          cases value? fuel room (skipBlanks rest) with
          | error e => rfl
          | ok read =>
            dsimp only
            generalize skipBlanks read.2 = tail
            split
            · next rest =>
              simp only [ih]
              cases pairs? fuel room (skipBlanks rest) <;> rfl
            · rfl
            · simp
        · simp [Except.map]
    · simp [Except.map]

def object? (fuel room : Nat) (cs : List Char) : Read (List (String × Json)) :=
  enter .object room fun room =>
    match skipBlanks cs with
    | '\x7d' :: rest => .ok ([], rest)
    | rest => pairs? fuel room rest

theorem value?_brace (fuel room : Nat) (cs : List Char) :
    value? (fuel + 1) room ('\x7b' :: cs) =
      (object? fuel room cs).map fun (es, rest) => (obj (gather es []), rest) := by
  unfold value? object?
  cases room with
  | zero => rfl
  | succ room =>
    simp only [enter]
    generalize skipBlanks cs = tail
    split
    · rfl
    · simp [fields?_eq_map_pairs?]

theorem scalar?_ne_obj {cs rest : List Char} {fields : List (String × Json)} :
    scalar? cs ≠ .ok (obj fields, rest) := by
  intro h
  have hover : (obj fields).overflow? 0 = none := overflow?_of_scalar? h
  cases hover

theorem items?_ne_obj {fuel room : Nat} {done : List Json} {cs rest : List Char}
    {fields : List (String × Json)} : items? fuel room done cs ≠ .ok (obj fields, rest) := by
  intro h
  induction fuel generalizing done cs with
  | zero => cases h
  | succ fuel ih =>
    unfold items? at h
    cases hv : value? fuel room cs with
    | error e => simp [hv, Except.bind] at h
    | ok read =>
      simp only [hv, Except.bind] at h
      split at h
      · exact ih h
      · cases h
      · cases h

theorem exists_brace {fuel room : Nat} {cs rest : List Char} {fields : List (String × Json)}
    (h : value? fuel room cs = .ok (obj fields, rest)) : ∃ tail, cs = '\x7b' :: tail := by
  cases fuel with
  | zero => cases h
  | succ fuel =>
    unfold value? at h
    split at h
    · next tail =>
      cases hs : string? tail <;> simp [hs, Except.map] at h
    · unfold enter at h
      split at h
      · cases h
      · split at h
        · cases h
        · exact absurd h items?_ne_obj
    · exact ⟨_, rfl⟩
    · exact absurd h scalar?_ne_obj

end Reader

/-- The pairs that a text writes, if it is one object with blanks around it. -/
def written? (room : Nat) (s : String) : Option (List (String × Json)) :=
  match Reader.skipBlanks s.toList with
  | '\x7b' :: cs =>
    match Reader.object? (2 * s.toList.length) room cs with
    | .ok (es, rest) => if (Reader.skipBlanks rest).isEmpty then some es else none
    | .error _ => none
  | _ => none

theorem read?_eq_obj_iff {room : Nat} {s : String} {fields : List (String × Json)} :
    read? room s = .ok (.obj fields) ↔ ∃ es, written? room s = some es ∧ gather es [] = fields := by
  by_cases hb : ∃ cs, Reader.skipBlanks s.toList = '\x7b' :: cs
  · obtain ⟨cs, hcs⟩ := hb
    simp only [read?, readChars?, written?, hcs, Reader.value?_brace]
    cases Reader.object? (2 * s.toList.length) room cs with
    | error e => simp [Except.map, Except.bind]
    | ok read =>
      simp only [Except.map, Except.bind]
      split <;> simp
  · have hw : written? room s = none := by
      unfold written?
      split
      · next cs hcs => exact absurd ⟨cs, hcs⟩ hb
      · rfl
    have hr : ∀ rest, Reader.value? (2 * s.toList.length + 1) room (Reader.skipBlanks s.toList) ≠
        .ok (obj fields, rest) := fun rest h => hb (Reader.exists_brace h)
    simp only [hw, reduceCtorEq, false_and, exists_false, iff_false]
    intro h
    simp only [read?, readChars?] at h
    cases hv : Reader.value? (2 * s.toList.length + 1) room (Reader.skipBlanks s.toList) with
    | error e => simp [hv, Except.bind] at h
    | ok read =>
      obtain ⟨v, rest⟩ := read
      simp only [hv, Except.bind] at h
      split at h
      · cases h
        exact hr _ hv
      · cases h

end Json

end Downlink
