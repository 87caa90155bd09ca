/-! # Ledgers

A ledger maps keys to values and remembers the order of entry: a key that is put
again keeps its place, and one that was erased and is put again goes to the end.
-/

namespace Downlink

/-- Puts a value under a key, in place if the key is there and at the end if not. -/
def putEntry {κ ν : Type} [DecidableEq κ] (k : κ) (v : ν) : List (κ × ν) → List (κ × ν)
  | [] => [(k, v)]
  | e :: rest => if e.1 = k then (k, v) :: rest else e :: putEntry k v rest

def valueAt? {κ ν : Type} [DecidableEq κ] (k : κ) : List (κ × ν) → Option ν
  | [] => none
  | e :: rest => if e.1 = k then some e.2 else valueAt? k rest

section Entries

variable {κ ν : Type} [DecidableEq κ]

theorem keys_putEntry (k : κ) (v : ν) (es : List (κ × ν)) :
    (putEntry k v es).map Prod.fst =
      if k ∈ es.map Prod.fst then es.map Prod.fst else es.map Prod.fst ++ [k] := by
  induction es with
  | nil => simp [putEntry]
  | cons e es ih =>
    by_cases h : e.1 = k
    · simp [putEntry, h]
    · have h' : ¬ k = e.1 := fun hk => h hk.symm
      simp only [putEntry, h, if_false, List.map_cons, ih, List.mem_cons, h', false_or]
      split <;> simp

theorem valueAt?_putEntry (k l : κ) (v : ν) (es : List (κ × ν)) :
    valueAt? l (putEntry k v es) = if l = k then some v else valueAt? l es := by
  induction es with
  | nil => by_cases h : k = l <;> simp [putEntry, valueAt?, h, eq_comm]
  | cons e es ih =>
    by_cases h : e.1 = k
    · by_cases hl : k = l
      · simp [putEntry, valueAt?, h, hl]
      · simp [putEntry, valueAt?, h, hl, Ne.symm hl]
    · by_cases hl : e.1 = l
      · have hk : ¬ l = k := fun hk => h (hl.trans hk)
        simp [putEntry, valueAt?, hl, hk]
      · simp [putEntry, valueAt?, h, hl, ih]

theorem mem_putEntry {k : κ} {v : ν} {es : List (κ × ν)} {e : κ × ν} (h : e ∈ putEntry k v es) :
    e = (k, v) ∨ e ∈ es := by
  induction es with
  | nil => exact .inl (List.mem_singleton.1 h)
  | cons f es ih =>
    unfold putEntry at h
    split at h
    · exact (List.mem_cons.1 h).imp_right (List.mem_cons_of_mem f)
    · obtain rfl | h := List.mem_cons.1 h
      · exact .inr List.mem_cons_self
      · exact (ih h).imp_right (List.mem_cons_of_mem f)

theorem mem_of_valueAt? {k : κ} {v : ν} {es : List (κ × ν)} (h : valueAt? k es = some v) :
    (k, v) ∈ es := by
  induction es with
  | nil => cases h
  | cons e es ih =>
    unfold valueAt? at h
    split at h
    · next hk =>
      cases h
      exact hk ▸ List.mem_cons_self
    · exact List.mem_cons_of_mem e (ih h)

theorem valueAt?_filter (k l : κ) (es : List (κ × ν)) :
    valueAt? l (es.filter fun e => decide (e.1 ≠ k)) = if l = k then none else valueAt? l es := by
  induction es with
  | nil => simp [valueAt?]
  | cons e es ih =>
    by_cases h : e.1 = k
    · by_cases hl : l = k
      · simpa [h, hl] using ih
      · have hkl : ¬ k = l := fun hk => hl hk.symm
        simpa [valueAt?, h, hl, hkl] using ih
    · by_cases hl : e.1 = l
      · have hk : ¬ l = k := fun hk => h (hl.trans hk)
        simp [valueAt?, hl, hk]
      · simpa [valueAt?, h, hl] using ih

end Entries

@[ext]
structure Ledger (κ ν : Type) where
  entries : List (κ × ν)
  nodup : (entries.map Prod.fst).Nodup

namespace Ledger

variable {κ ν : Type} [DecidableEq κ]

def empty : Ledger κ ν :=
  ⟨[], List.nodup_nil⟩

def get? (t : Ledger κ ν) (k : κ) : Option ν :=
  valueAt? k t.entries

def keys (t : Ledger κ ν) : List κ :=
  t.entries.map Prod.fst

def values (t : Ledger κ ν) : List ν :=
  t.entries.map Prod.snd

def put (t : Ledger κ ν) (k : κ) (v : ν) : Ledger κ ν where
  entries := putEntry k v t.entries
  nodup := by
    rw [keys_putEntry]
    split
    · exact t.nodup
    · next h =>
      refine List.nodup_append.2 ⟨t.nodup, by simp, ?_⟩
      intro a ha b hb hab
      exact h (by rw [List.mem_singleton] at hb; rwa [← hb, ← hab])

def erase (t : Ledger κ ν) (k : κ) : Ledger κ ν where
  entries := t.entries.filter fun e => decide (e.1 ≠ k)
  nodup := t.nodup.sublist (List.filter_sublist.map _)

def ofList (entries : List (κ × ν)) : Ledger κ ν :=
  entries.foldl (fun t e => t.put e.1 e.2) empty

def others (t : Ledger κ ν) (k : κ) : List (κ × ν) :=
  t.entries.filter fun e => decide (e.1 ≠ k)

@[simp]
theorem get?_empty (k : κ) : (empty : Ledger κ ν).get? k = none :=
  rfl

theorem get?_put (t : Ledger κ ν) (k l : κ) (v : ν) :
    (t.put k v).get? l = if l = k then some v else t.get? l :=
  valueAt?_putEntry k l v t.entries

theorem get?_erase (t : Ledger κ ν) (k l : κ) :
    (t.erase k).get? l = if l = k then none else t.get? l :=
  valueAt?_filter k l t.entries

theorem keys_put (t : Ledger κ ν) (k : κ) (v : ν) :
    (t.put k v).keys = if k ∈ t.keys then t.keys else t.keys ++ [k] :=
  keys_putEntry k v t.entries

end Ledger

end Downlink
