import Downlink.Proofs.Coordinator.Request
import Downlink.Proofs.Routine.Trail

/-! # Effects on the tables

All that a step can do to the reservations and the uplink blocks. The entries of
the history are the grants, the releases and the records; a step makes at most
one of them, and without one it leaves the tables alone.
-/

namespace Downlink

variable {ι : Type}

def Event.isEntry : Event ι → Bool
  | granted .. | released .. | recorded .. => true
  | _ => false

/-- What a step from `c` can do at a point where `q` is to be done only if `todo q`. -/
inductive Effect (todo : Routine ι → Prop) (c : Coordinator ι) :
    List (Event ι) → Coordinator ι → Prop where
  | granted {role : Role} {reuseLast : Bool} {rest : Except Failure Unit → Routine ι}
      {a : Ipv4.Interface} {o : Origin} {c' : Coordinator ι} :
      todo (.perform (.request role reuseLast) rest) → c.Grant role reuseLast a o →
      c'.settings = c.settings → c'.reservations = c.reservations.reserve role a →
      c'.uplinks = c.uplinks → Effect todo c [.granted role a o] c'
  | released {role : Role} {c' : Coordinator ι} :
      c'.settings = c.settings → c'.reservations = c.reservations.release role →
      c'.uplinks = c.uplinks → Effect todo c [.released role] c'
  | recorded {s : Snapshot} {ls : ι → Conflict → Routine ι}
      {rest : Except Failure (List Role) → Routine ι} {blocks : List Ipv4.Block}
      {c' : Coordinator ι} :
      todo (.update s ls rest) → Uplinks.reported? s.addresses s.transport = some blocks →
      c'.settings = c.settings → c'.reservations = c.reservations →
      c'.uplinks = c.uplinks.assign s.network blocks → Effect todo c [.recorded s.network blocks] c'
  | forgotten {network : String} {c' : Coordinator ι} :
      c'.settings = c.settings → c'.reservations = c.reservations →
      c'.uplinks = c.uplinks.assign network [] → Effect todo c [.recorded network []] c'
  | none {es : List (Event ι)} {c' : Coordinator ι} :
      (∀ e ∈ es, e.isEntry = false) → c'.settings = c.settings →
      c'.reservations = c.reservations → c'.uplinks = c.uplinks → Effect todo c es c'

variable [DecidableEq ι]

theorem Operation.act_request (role : Role) (reuseLast : Bool) (c : Coordinator ι) :
    (Operation.request role reuseLast).act c =
      ⟨(c.request role reuseLast).result.map fun _ => (), (c.request role reuseLast).state,
        (c.request role reuseLast).events⟩ := by
  simp only [Operation.act, Act.andThen, Act.done]
  cases (c.request role reuseLast).result <;> simp [Except.map]

theorem Operation.effect {todo : Routine ι → Prop} {op : Operation ι}
    {rest : Except Failure Unit → Routine ι} {c : Coordinator ι} (ht : todo (.perform op rest)) :
    Effect todo c (op.act c).events (op.act c).state := by
  cases op with
  | request role reuseLast =>
    rw [act_request]
    rcases c.grant_or_refusal role reuseLast with ⟨a, o, hg⟩ | ⟨f, hf⟩
    · rw [Coordinator.request_of_grant hg]
      exact .granted ht hg (by simp) rfl (by simp)
    · rw [Coordinator.request_of_refusal hf]
      exact .none (by simp [Event.isEntry]) (by simp) (by simp) (by simp)
  | release role =>
    change Effect todo c (Coordinator.release role c).events (Coordinator.release role c).state
    unfold Coordinator.release
    split
    · exact .none (by simp) rfl rfl rfl
    · exact .released rfl rfl rfl
  | forget network =>
    change Effect todo c (Coordinator.forget network c).events (Coordinator.forget network c).state
    unfold Coordinator.forget
    split
    · exact .forgotten rfl rfl rfl
    · exact .none (by simp) rfl rfl rfl
  | addListener l => exact .none (by simp [act]) rfl rfl rfl
  | removeListener l => exact .none (by simp [act]) rfl rfl rfl
  | answer dedicated => exact .none (by simp [act]) rfl rfl rfl
  | pin d =>
    have hp : ((c.pin? d).getD c).settings = c.settings ∧
        ((c.pin? d).getD c).reservations = c.reservations ∧
        ((c.pin? d).getD c).uplinks = c.uplinks := by
      unfold Coordinator.pin?
      split <;> exact ⟨rfl, rfl, rfl⟩
    exact .none (by simp [act]) hp.1 hp.2.1 hp.2.2

omit [DecidableEq ι] in
theorem Coordinator.record_effect {todo : Routine ι → Prop} {s : Snapshot}
    {ls : ι → Conflict → Routine ι} {rest : Except Failure (List Role) → Routine ι}
    {c : Coordinator ι} (ht : todo (.update s ls rest)) :
    Effect todo c (record s c).events (record s c).state := by
  unfold record
  split
  · exact .none (by simp) rfl rfl rfl
  · next hb => exact .recorded ht hb rfl rfl rfl

namespace Routine

variable {p q : Routine ι} {c c₀ : Coordinator ι} {h : List (Event ι)}

/-- What holds at the start and is preserved by all effects holds at every point that is reached. -/
theorem Reaches.invariant {I : List (Event ι) → Coordinator ι → Prop} (hr : p.Reaches c₀ h q c)
    (start : I [] c₀)
    (step : ∀ {h c es c'}, I h c → Effect (fun q => p.Reaches c₀ h q c) c es c' → I (h ++ es) c') :
    I h c := by
  have ht := hr.trail
  clear hr
  induction ht with
  | start => exact start
  | performed _ hr ih => exact step ih (Operation.effect hr)
  | recorded _ hr ih => exact step ih (Coordinator.record_effect hr)
  | signalled _ ih => exact step ih (.none (by simp [Event.isEntry]) rfl rfl rfl)
  | delivered _ ih => exact step ih (.none (by simp [Event.isEntry]) rfl rfl rfl)

theorem Reaches.settings (hr : p.Reaches c₀ h q c) : c.settings = c₀.settings := by
  refine hr.invariant (I := fun _ c => c.settings = c₀.settings) rfl ?_
  intro h c es c' ih he
  rw [← ih]
  cases he <;> assumption

end Routine

end Downlink
