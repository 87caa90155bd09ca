import Downlink.Proofs.ControlPlane.Run

/-! # Requests that are refused

As long as draws can be had, nothing breaks down but on a body that is nested too
deep: a request that does not succeed is turned down before it reaches the
coordinator, or it finds the pool exhausted and has cost one draw. Either way the
tables and the queue are left as they were.
-/

namespace Downlink

namespace ControlPlane

open Http

structure Untouched (s s' : ControlPlane) : Prop where
  reservations : s'.coordinator.reservations = s.coordinator.reservations
  uplinks : s'.coordinator.uplinks = s.coordinator.uplinks
  pending : s'.pending = s.pending

theorem Untouched.refl (s : ControlPlane) : s.Untouched s :=
  ⟨rfl, rfl, rfl⟩

variable {s : ControlPlane} {r : Request} {k : Command} {role : Role} {reuseLast : Bool}

/-- A command that does not succeed is a request that finds the pool exhausted. -/
theorem statusOf_cases (hd : s.coordinator.draws.next?.1 ≠ none) (k : Command) :
    s.statusOf k = 200 ∨
      s.statusOf k = 503 ∧ ∃ role reuseLast, k = .request role reuseLast ∧
        s.coordinator.Refusal role reuseLast (.exhausted role) := by
  have hc := k.course s.coordinator
  unfold statusOf
  generalize k.act s.coordinator = outcome at hc ⊢
  cases hc with
  | refused hf =>
    cases hf with
    | outOfDraws _ _ hn => exact absurd hn hd
    | exhausted hp hr hn hno => exact Or.inr ⟨rfl, _, _, rfl, .exhausted hp hr hn hno⟩
  | _ => exact Or.inl rfl

theorem obey_of_exhausted (hn : newest s.capacity s.pending = s.pending)
    (hf : s.coordinator.Refusal role reuseLast (.exhausted role)) :
    s.Untouched (s.obey (.request role reuseLast)) ∧
      (s.obey (.request role reuseLast)).coordinator.draws = s.coordinator.draws.next?.2 := by
  simp only [obey, run, Command.act, Act.void, Coordinator.request_of_refusal hf]
  exact ⟨⟨by simp, by simp, by simpa [delivered] using hn⟩, trivial⟩

theorem serve_refused (hd : s.coordinator.draws.next?.1 ≠ none)
    (hn : newest s.capacity s.pending = s.pending) (r : Request) :
    ((s.serve r).1.status = 500 → r.payload.IsTooDeep s.room) ∧
      ((s.serve r).1.status ≠ 200 → s.Untouched (s.serve r).2 ∧
        (s.serve r).2.coordinator.draws.calls =
          s.coordinator.draws.calls + if (s.serve r).1.status = 503 then 1 else 0) := by
  cases hk : command? s.room r with
  | none =>
    obtain ⟨hstatus, hs⟩ := serve_of_command?_none hk
    have h500 : (s.serve r).1.status = 500 → r.payload.IsTooDeep s.room := fun h =>
      hstatus.elim (fun hi => by simp [h, idleStatuses] at hi) And.right
    have h503 : (s.serve r).1.status ≠ 503 := fun h => by simp [h, idleStatuses] at hstatus
    rw [hs, if_neg h503]
    exact ⟨h500, fun _ => ⟨.refl s, rfl⟩⟩
  | some k =>
    obtain ⟨hstatus, hs⟩ := serve_of_command?_some hk
    rw [hs, hstatus]
    rcases statusOf_cases hd k with h200 | ⟨h503, role, reuseLast, rfl, hf⟩
    · exact ⟨by simp [h200], fun h => absurd h200 h⟩
    · obtain ⟨hu, hdraws⟩ := obey_of_exhausted hn hf
      rw [h503, hdraws, DrawSource.calls_next?]
      exact ⟨by simp, fun _ => ⟨hu, rfl⟩⟩

end ControlPlane

open ControlPlane

/-- A request of a run ends in an internal error only if its body is nested too deep. One that does
not succeed leaves the tables and the queue as they were, and it has taken a draw only if the pool
was exhausted. -/
theorem refusals_harmless (coordinator : Coordinator Subscriber) (capacity : Option Nat)
    (room : Json.Room) (hd : coordinator.draws.Endless) (ts : List Turn) (s : ControlPlane)
    (h : (start coordinator capacity room).Reaches ts s) :
    ∀ t ∈ ts, (t.response.status = 500 → t.request.payload.IsTooDeep room) ∧
      (t.response.status ≠ 200 → t.before.Untouched t.after ∧
        t.after.coordinator.draws.calls =
          t.before.coordinator.draws.calls + if t.response.status = 503 then 1 else 0) := by
  intro t ht
  have hdraw := (h.endless hd t ht).draw_ne_none
  have hn := (h.newest_pending newest_nil).2 t ht
  obtain rfl : t.before.room = room := h.room_eq.2 t ht
  unfold Turn.response Turn.after
  exact serve_refused hdraw hn t.request

/-- One attempt per request, and all draws are of the reserved 192.168.44.1. -/
def Coordinator.cornered : Coordinator Subscriber :=
  .start { Settings.standard with maxAttempts := 1, maxAttempts_pos := by decide }
    (.feed (fun _ => .ofInt 0x2c01) 0) none

def exhausting : Http.Request :=
  ⟨"POST", "/downstreams/wifi", .absent⟩

theorem exhausting_harmless :
    ((start .cornered none .usual).serve exhausting).1.status = 503 ∧
      (start .cornered none .usual).Untouched ((start .cornered none .usual).serve exhausting).2 ∧
      ((start .cornered none .usual).serve exhausting).2.coordinator.draws.calls = 1 := by
  have hr : (start .cornered none .usual).Reaches [⟨start .cornered none .usual, exhausting⟩]
      ((start .cornered none .usual).serve exhausting).2 :=
    .served exhausting .start
  have h503 : ((start .cornered none .usual).serve exhausting).1.status = 503 := by decide +kernel
  obtain ⟨hu, hc⟩ := (refusals_harmless _ none _ (DrawSource.endless_feed _ 0) _ _ hr _
    List.mem_cons_self).2 (by rw [Turn.response, h503]; decide)
  refine ⟨h503, hu, ?_⟩
  rw [Turn.response, h503] at hc
  exact hc

end Downlink
