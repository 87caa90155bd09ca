import Downlink.Proofs.ControlPlane.Run
import Downlink.Proofs.Routine.Effect

/-! # A run of the control plane as a routine

A command is a call of the coordinator, or none at all. What a control plane does from request to
request could therefore have been done by one client, and it takes up the coordinator where another
client has left it. So all that holds in the runs of routines holds behind HTTP as well.
-/

namespace Downlink

/-- Goes on with `q` when `p` has come to its end or has failed. -/
def Routine.followedBy {ι : Type} (p q : Routine ι) : Routine ι :=
  match p with
  | done => q
  | fail _ => q
  | inspect rest => inspect fun c => (rest c).followedBy q
  | perform operation rest => perform operation fun r => (rest r).followedBy q
  | update snapshot listeners rest => update snapshot listeners fun r => (rest r).followedBy q

theorem Routine.reaches_followedBy {ι : Type} [DecidableEq ι] (p q : Routine ι)
    (c : Coordinator ι) : (p.followedBy q).Reaches c (p.act c).events q (p.act c).state := by
  induction p generalizing c with
  | done => exact .here
  | fail => exact .here
  | inspect rest ih => exact .inspected (ih c c)
  | perform operation rest ih => exact .performed (ih _ _)
  | update snapshot listeners rest _ ih => exact .updated (ih _ _)

def Command.routine (k : Command) (q : Routine Subscriber) : Routine Subscriber :=
  match k with
  | request role reuseLast => .perform (.request role reuseLast) fun _ => q
  | release role => .perform (.release role) fun _ => q
  | update snapshot => .update snapshot (fun _ _ => .done) fun _ => q
  | forget network => .perform (.forget network) fun _ => q
  | drain => q

theorem Command.reaches_routine (k : Command) (q : Routine Subscriber)
    (c : Coordinator Subscriber) :
    (k.routine q).Reaches c (k.act c).events q (k.act c).state := by
  rw [← List.append_nil (k.act c).events]
  cases k with
  | request role reuseLast =>
    have h : (Operation.request role reuseLast).act c = (Command.request role reuseLast).act c :=
      Operation.act_request role reuseLast c
    rw [← h]
    exact .performed .here
  | release role => exact .performed .here
  | update snapshot => exact .updated .here
  | forget network => exact .performed .here
  | drain => exact .here

def Turn.events (t : Turn) : List (Event Subscriber) :=
  (t.before.outcomeOf t.request).events

namespace ControlPlane

variable {s s₀ : ControlPlane} {ts : List Turn}

theorem Reaches.exists_routine (h : s₀.Reaches ts s) (q : Routine Subscriber) :
    ∃ p : Routine Subscriber,
      p.Reaches s₀.coordinator (ts.flatMap Turn.events) q s.coordinator := by
  induction h generalizing q with
  | start => exact ⟨q, .here⟩
  | @served ts s r _ ih =>
    rw [List.flatMap_append, List.flatMap_singleton, coordinator_serve, Turn.events, outcomeOf]
    split
    · next k _ =>
      obtain ⟨p, hp⟩ := ih (k.routine q)
      exact ⟨p, hp.trans (k.reaches_routine q _)⟩
    · obtain ⟨p, hp⟩ := ih q
      exact ⟨p, hp.trans .here⟩
  | @answered ts s dedicated _ ih =>
    obtain ⟨p, hp⟩ := ih (.perform (.answer dedicated) fun _ => q)
    refine ⟨p, ?_⟩
    simpa [Operation.act] using hp.trans (.performed .here)
  | @pinned ts s d c _ hpin ih =>
    obtain ⟨p, hp⟩ := ih (.perform (.pin d) fun _ => q)
    refine ⟨p, ?_⟩
    simpa [Operation.act, hpin] using hp.trans (.performed .here)

/-- A control plane may be started on a coordinator that has been in use. -/
theorem Reaches.exists_routine_of_start {c : Coordinator Subscriber} {p : Routine Subscriber}
    {capacity : Option Nat} {room : Json.Room}
    (h : (ControlPlane.start (p.act c).state capacity room).Reaches ts s) :
    ∃ p' : Routine Subscriber,
      p'.Reaches c ((p.act c).events ++ ts.flatMap Turn.events) .done s.coordinator := by
  obtain ⟨q, hq⟩ := h.exists_routine .done
  refine ⟨p.followedBy (.perform (.addListener .queue) fun _ => q), ?_⟩
  exact (p.reaches_followedBy _ c).trans (.performed hq)

end ControlPlane

end Downlink
