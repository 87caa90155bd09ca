import Downlink.Proofs.Routine.Effect

/-! # Reading the history

The latest grant to a role and the latest record of a network, as the history of
a run has them. The blocks of a network are those of its latest record, and the
last address of a role is that of its latest grant.
-/

namespace Downlink

variable {ι β : Type}

/-- The value that `f` has at the last event where it has one. -/
def latest? (f : Event ι → Option β) (h : List (Event ι)) : Option β :=
  (h.filterMap f).getLast?

def Event.grantTo? (role : Role) : Event ι → Option (Ipv4.Interface × Origin)
  | granted r a o => if r = role then some (a, o) else none
  | _ => none

def Event.recordOf? (network : String) : Event ι → Option (List Ipv4.Block)
  | recorded n blocks => if n = network then some blocks else none
  | _ => none

def lastGrant? (role : Role) (h : List (Event ι)) : Option (Ipv4.Interface × Origin) :=
  latest? (Event.grantTo? role) h

def lastRecord? (network : String) (h : List (Event ι)) : Option (List Ipv4.Block) :=
  latest? (Event.recordOf? network) h

variable {f : Event ι → Option β} {h h' : List (Event ι)} {e : Event ι}

theorem latest?_append (f : Event ι → Option β) (h h' : List (Event ι)) :
    latest? f (h ++ h') = (latest? f h').or (latest? f h) := by
  rw [latest?, List.filterMap_append, List.getLast?_append]
  rfl

theorem latest?_singleton (f : Event ι → Option β) (e : Event ι) : latest? f [e] = f e := by
  cases he : f e <;> simp [latest?, he]

theorem latest?_eq_none_iff : latest? f h = none ↔ ∀ e ∈ h, f e = none := by
  simp [latest?]

theorem lastGrant?_concat (role : Role) (h : List (Event ι)) (e : Event ι) :
    lastGrant? role (h ++ [e]) = (e.grantTo? role).or (lastGrant? role h) := by
  rw [lastGrant?, latest?_append, latest?_singleton]
  rfl

theorem lastRecord?_concat (network : String) (h : List (Event ι)) (e : Event ι) :
    lastRecord? network (h ++ [e]) = (e.recordOf? network).or (lastRecord? network h) := by
  rw [lastRecord?, latest?_append, latest?_singleton]
  rfl

theorem latest?_append_of_none (hn : ∀ e ∈ h', f e = none) : latest? f (h ++ h') = latest? f h := by
  rw [latest?_append, latest?_eq_none_iff.mpr hn, Option.none_or]

theorem Event.grantTo?_eq_none_of_isEntry (he : e.isEntry = false) (role : Role) :
    e.grantTo? role = none := by
  cases e <;> simp_all [isEntry, grantTo?]

theorem Event.recordOf?_eq_none_of_isEntry (he : e.isEntry = false) (network : String) :
    e.recordOf? network = none := by
  cases e <;> simp_all [isEntry, recordOf?]

theorem forall_recordOf?_eq_none_iff {network : String} :
    (∀ e ∈ h, e.recordOf? network = none) ↔ ∀ blocks, .recorded network blocks ∉ h := by
  constructor
  · intro hn blocks hm
    simpa [Event.recordOf?] using hn _ hm
  · intro hn e he
    cases e with
    | recorded n blocks =>
      have hr : n ≠ network := fun hr => hn blocks (hr ▸ he)
      simp [Event.recordOf?, hr]
    | _ => rfl

theorem eq_nil_of_append_eq {l m t : List (Event ι)} (ht : l ++ [e] = m ++ t) (he : f e ≠ none)
    (hn : ∀ x ∈ t, f x = none) : t = [] := by
  rcases List.eq_nil_or_concat t with rfl | ⟨t, x, rfl⟩
  · rfl
  · rw [List.concat_eq_append, ← List.append_assoc] at ht
    have hx : e = x := by simpa using (List.append_inj' ht rfl).2
    exact (he (hn e (by simp [hx]))).elim

/-- What follows the last event with a value does not depend on how the history is cut there. -/
theorem tail_eq_of_append_eq {h₁ h₂ l₁ l₂ : List (Event ι)} {e e' : Event ι}
    (heq : h₁ ++ [e] ++ h₂ = l₁ ++ [e'] ++ l₂) (he : f e ≠ none) (he' : f e' ≠ none)
    (hh : ∀ x ∈ h₂, f x = none) (hl : ∀ x ∈ l₂, f x = none) : h₂ = l₂ := by
  rcases List.append_eq_append_iff.mp heq with ⟨t, ht, hht⟩ | ⟨t, ht, hht⟩
  · obtain rfl := eq_nil_of_append_eq ht he' fun x hx => hh x (by simp [hht, hx])
    simpa using hht
  · obtain rfl := eq_nil_of_append_eq ht he fun x hx => hl x (by simp [hht, hx])
    simpa using hht.symm

section Runs

variable [DecidableEq ι] {settings : Settings} {draws : DrawSource} {policy : Option Bool}
  {p q : Routine ι} {c : Coordinator ι}

theorem Routine.Reaches.blocksFor_eq (hr : p.Reaches (.start settings draws policy) h q c)
    (network : String) : c.uplinks.blocksFor network = (lastRecord? network h).getD [] := by
  refine hr.invariant
    (I := fun h c => c.uplinks.blocksFor network = (lastRecord? network h).getD []) rfl ?_
  intro h c es c' ih he
  cases he with
  | granted _ _ _ _ hu => simp [hu, ih, lastRecord?_concat, Event.recordOf?]
  | released _ _ hu => simp [hu, ih, lastRecord?_concat, Event.recordOf?]
  | recorded _ _ _ _ hu =>
    rw [hu, Uplinks.blocksFor_assign, lastRecord?_concat]
    split
    · next hn => simp [Event.recordOf?, hn]
    · next hn => simp [Event.recordOf?, Ne.symm hn, ih]
  | forgotten _ _ hu =>
    rw [hu, Uplinks.blocksFor_assign, lastRecord?_concat]
    split
    · next hn => simp [Event.recordOf?, hn]
    · next hn => simp [Event.recordOf?, Ne.symm hn, ih]
  | none hes _ _ hu =>
    have hn : ∀ e ∈ es, e.recordOf? network = none :=
      fun e he => Event.recordOf?_eq_none_of_isEntry (hes e he) network
    rw [hu, ih, lastRecord?, lastRecord?, latest?_append_of_none hn]

theorem Routine.Reaches.last_eq (hr : p.Reaches (.start settings draws policy) h q c)
    (role : Role) :
    c.reservations.last.get? role = (lastGrant? role h).map Prod.fst := by
  refine hr.invariant
    (I := fun h c => c.reservations.last.get? role = (lastGrant? role h).map Prod.fst) rfl ?_
  intro h c es c' ih he
  cases he with
  | granted _ _ _ ht =>
    rw [ht, Reservations.get?_last_reserve, lastGrant?_concat]
    split
    · next hrole => simp [Event.grantTo?, hrole]
    · next hrole => simp [Event.grantTo?, Ne.symm hrole, ih]
  | released _ ht => simp [ht, Reservations.last_release, ih, lastGrant?_concat, Event.grantTo?]
  | recorded _ _ _ ht => simp [ht, ih, lastGrant?_concat, Event.grantTo?]
  | forgotten _ ht => simp [ht, ih, lastGrant?_concat, Event.grantTo?]
  | none hes _ ht =>
    have hn : ∀ e ∈ es, e.grantTo? role = none :=
      fun e he => Event.grantTo?_eq_none_of_isEntry (hes e he) role
    rw [ht, ih, lastGrant?, lastGrant?, latest?_append_of_none hn]

theorem Routine.Reaches.last_eq_some_iff (hr : p.Reaches (.start settings draws policy) h q c)
    {role : Role} {a : Ipv4.Interface} :
    c.reservations.last.get? role = some a ↔ ∃ o, lastGrant? role h = some (a, o) := by
  rw [hr.last_eq role, Option.map_eq_some_iff]
  constructor
  · rintro ⟨⟨_, o⟩, h, rfl⟩
    exact ⟨o, h⟩
  · rintro ⟨o, h⟩
    exact ⟨_, h, rfl⟩

end Runs

end Downlink
