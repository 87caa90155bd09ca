import Downlink.Proofs.Coordinator.Update

/-! # The trail of a routine

Every point that a routine reaches lies on a trail of single steps: an operation,
the recording of a snapshot, a signal, a delivery. Operations and recordings on
the trail are those of calls that the routine reaches. What holds at the start
and is preserved by each step therefore holds wherever the routine comes by, in
the middle of updates as well.
-/

namespace Downlink.Routine

open Coordinator

variable {ι : Type} [DecidableEq ι] {p q q' : Routine ι} {c c₀ c' c'' : Coordinator ι}
  {h h' : List (Event ι)}

inductive Trail (p : Routine ι) (c₀ : Coordinator ι) : List (Event ι) → Coordinator ι → Prop where
  | start : Trail p c₀ [] c₀
  | performed {h : List (Event ι)} {op : Operation ι} {rest : Except Failure Unit → Routine ι}
      {c : Coordinator ι} :
      Trail p c₀ h c → p.Reaches c₀ h (.perform op rest) c →
      Trail p c₀ (h ++ (op.act c).events) (op.act c).state
  | recorded {h : List (Event ι)} {s : Snapshot} {ls : ι → Conflict → Routine ι}
      {rest : Except Failure (List Role) → Routine ι} {c : Coordinator ι} :
      Trail p c₀ h c → p.Reaches c₀ h (.update s ls rest) c →
      Trail p c₀ (h ++ (record s c).events) (record s c).state
  | signalled {h : List (Event ι)} {k : Conflict} {c : Coordinator ι} :
      Trail p c₀ h c → Trail p c₀ (h ++ [.signalled k]) c
  | delivered {h : List (Event ι)} {l : ι} {k : Conflict} {c : Coordinator ι} :
      Trail p c₀ h c → Trail p c₀ (h ++ [.delivered l k]) c

theorem Reaches.trans (hp : p.Reaches c h q c') (hq : q.Reaches c' h' q' c'') :
    p.Reaches c (h ++ h') q' c'' := by
  induction hp with
  | here => exact hq
  | inspected _ ih => exact .inspected (ih hq)
  | performed _ ih =>
    rw [List.append_assoc]
    exact .performed (ih hq)
  | updated _ ih =>
    rw [List.append_assoc]
    exact .updated (ih hq)
  | called hc _ ih =>
    rw [List.append_assoc]
    exact .called hc (ih hq)

theorem reaches_end (p : Routine ι) (c : Coordinator ι) :
    ∃ q, ((∃ f, q = .fail f) ∨ q = .done) ∧ p.Reaches c (p.act c).events q (p.act c).state := by
  induction p generalizing c with
  | done => exact ⟨_, Or.inr rfl, .here⟩
  | fail f => exact ⟨_, Or.inl ⟨f, rfl⟩, .here⟩
  | inspect rest ih =>
    obtain ⟨q, hq, hr⟩ := ih c c
    exact ⟨q, hq, .inspected hr⟩
  | perform op rest ih =>
    obtain ⟨q, hq, hr⟩ := ih (op.act c).result (op.act c).state
    exact ⟨q, hq, .performed hr⟩
  | update s ls rest _ ih =>
    obtain ⟨q, hq, hr⟩ := ih _ (Coordinator.update (fun l k => (ls l k).act) s c).state
    exact ⟨q, hq, .updated hr⟩

theorem Reaches.prefix_events (hr : p.Reaches c h q c') :
    h ++ (q.act c').events <+: (p.act c).events := by
  induction hr with
  | here => exact List.prefix_rfl
  | inspected _ ih => exact ih
  | performed _ ih =>
    rw [List.append_assoc]
    exact (List.prefix_append_right_inj _).mpr ih
  | updated _ ih =>
    rw [List.append_assoc]
    exact (List.prefix_append_right_inj _).mpr ih
  | called hc _ ih =>
    rw [List.append_assoc]
    refine ((List.prefix_append_right_inj _).mpr ih).trans ?_
    exact hc.prefix_events.trans (List.prefix_append ..)

/-- An update on the trail of `p`, where the trail goes on from each call of a listener to its
end. -/
theorem Trail.update {s : Snapshot} {ls : ι → Conflict → Routine ι}
    {rest : Except Failure (List Role) → Routine ι} (ht : p.Trail c₀ h c)
    (hr : p.Reaches c₀ h (.update s ls rest) c)
    (hl : ∀ l k {h' c'}, p.Trail c₀ h' c' → p.Reaches c₀ h' (ls l k) c' →
      p.Trail c₀ (h' ++ ((ls l k).act c').events) ((ls l k).act c').state) :
    p.Trail c₀ (h ++ (Coordinator.update (fun l k => (ls l k).act) s c).events)
        (Coordinator.update (fun l k => (ls l k).act) s c).state ∧
      ∀ h' l k c', UpdateCalls (fun l k => (ls l k).act) s c h' l k c' →
        p.Trail c₀ (h ++ h') c' := by
  refine update_keeps (fun _ _ _ _ => .signalled) (fun _ _ _ _ => .delivered) ?_ (ht.recorded hr)
  intro h' l k c' hc ht'
  rw [← List.append_assoc]
  exact hl l k ht' (by simpa using hr.trans (.called hc .here))

theorem Trail.act (ht : p.Trail c₀ h c) (hr : p.Reaches c₀ h q c) :
    p.Trail c₀ (h ++ (q.act c).events) (q.act c).state := by
  induction q generalizing h c with
  | done => simpa [Routine.act, Act.done] using ht
  | fail f => simpa [Routine.act, Act.fail] using ht
  | inspect rest ih => exact ih c ht (by simpa using hr.trans (.inspected .here))
  | perform op rest ih =>
    have hrest := hr.trans (.performed .here)
    rw [List.append_nil] at hrest
    simpa [Routine.act, Act.attempt] using ih _ (ht.performed hr) hrest
  | update s ls rest ihl ih =>
    have hrest := hr.trans (.updated .here)
    rw [List.append_nil] at hrest
    have hup := (ht.update hr fun l k {_ _} ht' hr' => ihl l k ht' hr').1
    simpa [Routine.act, Act.attempt] using ih _ hup hrest

theorem Trail.reach (ht : p.Trail c₀ h c) (hr : p.Reaches c₀ h q c) (hq : q.Reaches c h' q' c') :
    p.Trail c₀ (h ++ h') c' := by
  induction hq generalizing h with
  | here => simpa using ht
  | inspected _ ih => exact ih ht (by simpa using hr.trans (.inspected .here))
  | performed _ ih =>
    rw [← List.append_assoc]
    exact ih (ht.performed hr) (by simpa using hr.trans (.performed .here))
  | updated _ ih =>
    rw [← List.append_assoc]
    exact ih (ht.update hr fun l k {_ _} => Trail.act).1 (by simpa using hr.trans (.updated .here))
  | called hc _ ih =>
    rw [← List.append_assoc]
    exact ih ((ht.update hr fun l k {_ _} => Trail.act).2 _ _ _ _ hc)
      (by simpa using hr.trans (.called hc .here))

theorem Reaches.trail (hr : p.Reaches c₀ h q c) : p.Trail c₀ h c := by
  simpa using Trail.start.reach .here hr

end Downlink.Routine
