import Downlink.Proofs.ControlPlane.Command
import Mathlib.Logic.Function.Iterate

/-! # Runs of the control plane

Requests come one after the other, and between them the device may change its
answer and the script of draws may be replaced. A run keeps a turn for each
request, which knows the control plane that the request has found. What all
commands and all such changes preserve holds throughout.
-/

namespace Downlink

structure Turn where
  before : ControlPlane
  request : Http.Request

namespace Turn

def response (t : Turn) : Http.Response :=
  (t.before.serve t.request).1

def after (t : Turn) : ControlPlane :=
  (t.before.serve t.request).2

def signals (t : Turn) : List Conflict :=
  signalsIn (t.before.outcomeOf t.request).events

end Turn

namespace DrawSource

/-- Every call is answered with a draw, however many there have been. -/
def Endless (d : DrawSource) : Prop :=
  ∀ n, ((fun d => d.next?.2)^[n] d).next?.1 ≠ none

theorem Endless.draw_ne_none {d : DrawSource} (h : d.Endless) : d.next?.1 ≠ none :=
  h 0

theorem Endless.next {d : DrawSource} (h : d.Endless) : d.next?.2.Endless :=
  fun n => h (n + 1)

theorem endless_feed (draw : Nat → Draw) (calls : Nat) : (feed draw calls).Endless := by
  intro n
  induction n generalizing calls with
  | zero => simp [next?]
  | succ n ih => exact ih (calls + 1)

theorem endless_scripted {s : Script} (h : s.repeats = true) : (scripted s).Endless := by
  intro n
  induction n generalizing s with
  | zero => cases hs : s.remaining <;> simp [next?, Script.next?, hs, h]
  | succ n ih =>
    refine ih (s := s.next?.2) ?_
    cases hs : s.remaining <;> simp [Script.next?, hs, h]

end DrawSource

theorem Coordinator.pin?_eq_some {ι : Type} {c c' : Coordinator ι} {d : Draw}
    (h : c.pin? d = some c') :
    ∃ script : Script, c' = { c with draws := .scripted (script.pin d) } := by
  unfold pin? at h
  split at h
  · next script _ => exact ⟨script, (Option.some.inj h).symm⟩
  · cases h

namespace ControlPlane

/-- `s.Reaches ts s'`: a run from `s` comes to `s'` by the turns `ts`. -/
inductive Reaches (s : ControlPlane) : List Turn → ControlPlane → Prop where
  | start : Reaches s [] s
  | served {ts : List Turn} {s' : ControlPlane} (r : Http.Request) :
      Reaches s ts s' → Reaches s (ts ++ [⟨s', r⟩]) (s'.serve r).2
  | answered {ts : List Turn} {s' : ControlPlane} (dedicated : Bool) : Reaches s ts s' →
      Reaches s ts { s' with coordinator :=
        { s'.coordinator with policy := s'.coordinator.policy.answering dedicated } }
  | pinned {ts : List Turn} {s' : ControlPlane} {d : Draw} {c : Coordinator Subscriber} :
      Reaches s ts s' → s'.coordinator.pin? d = some c →
      Reaches s ts { s' with coordinator := c }

variable {s s₀ : ControlPlane} {ts : List Turn}

def turns : List Http.Request → ControlPlane → List Turn
  | [], _ => []
  | r :: rs, s => ⟨s, r⟩ :: turns rs (s.serve r).2

def serveAll (rs : List Http.Request) (s : ControlPlane) : ControlPlane :=
  rs.foldl (fun s r => (s.serve r).2) s

theorem Reaches.append (h : s₀.Reaches ts s) (rs : List Http.Request) :
    s₀.Reaches (ts ++ s.turns rs) (s.serveAll rs) := by
  induction rs generalizing ts s with
  | nil => simpa [turns, serveAll] using h
  | cons r rs ih => simpa [turns, serveAll] using ih (h.served r)

theorem reaches_turns (rs : List Http.Request) (s : ControlPlane) :
    s.Reaches (s.turns rs) (s.serveAll rs) :=
  Reaches.start.append rs

theorem Reaches.invariant {I : ControlPlane → Prop} (h : s₀.Reaches ts s) (start : I s₀)
    (obeyed : ∀ s k, I s → I (s.obey k))
    (answered : ∀ s dedicated, I s → I { s with coordinator :=
      { s.coordinator with policy := s.coordinator.policy.answering dedicated } })
    (pinned : ∀ s d c, I s → s.coordinator.pin? d = some c → I { s with coordinator := c }) :
    I s ∧ ∀ t ∈ ts, I t.before := by
  induction h with
  | start => exact ⟨start, by simp⟩
  | @served ts s r _ ih =>
    refine ⟨?_, ?_⟩
    · cases hk : command? s.room r with
      | none => rw [(serve_of_command?_none hk).same]; exact ih.1
      | some k => rw [(serve_of_command?_some hk).2]; exact obeyed s k ih.1
    · intro t ht
      rcases List.mem_append.mp ht with ht | ht
      · exact ih.2 t ht
      · rw [List.mem_singleton.mp ht]
        exact ih.1
  | answered dedicated _ ih => exact ⟨answered _ dedicated ih.1, ih.2⟩
  | pinned _ hp ih => exact ⟨pinned _ _ _ ih.1 hp, ih.2⟩

section Newest

variable {α : Type} {capacity : Option Nat}

theorem newest_nil : newest capacity ([] : List α) = [] := by
  cases capacity <;> simp [newest]

/-- What a bounded queue drops does not come back. -/
theorem newest_newest_append (xs ys : List α) :
    newest capacity (newest capacity xs ++ ys) = newest capacity (xs ++ ys) := by
  cases capacity with
  | none => rfl
  | some n =>
    have hk : xs.drop (xs.length - n) ++ ys = (xs ++ ys).drop (xs.length - n) :=
      (List.drop_append_of_le_length (Nat.sub_le ..)).symm
    simp only [newest, hk, List.drop_drop, List.length_drop, List.length_append]
    congr 1
    omega

theorem newest_newest (xs : List α) :
    newest capacity (newest capacity xs) = newest capacity xs := by
  simpa using newest_newest_append xs []

theorem newest_sublist (xs : List α) : (newest capacity xs).Sublist xs := by
  cases capacity with
  | none => exact .refl xs
  | some n => exact List.drop_sublist ..

theorem exists_append_newest (capacity : Option Nat) (xs : List α) :
    ∃ lost, xs = lost ++ newest capacity xs ∧
      (lost ≠ [] → capacity = some (newest capacity xs).length) := by
  cases capacity with
  | none => exact ⟨[], rfl, by simp⟩
  | some n =>
    refine ⟨xs.take (xs.length - n), (List.take_append_drop ..).symm, fun hne => ?_⟩
    have hlt : n < xs.length := by
      by_contra hn
      exact hne (by simp [Nat.sub_eq_zero_of_le (Nat.le_of_not_lt hn)])
    simp only [newest, List.length_drop, Option.some.injEq]
    omega

end Newest

theorem Reaches.capacity_eq (h : s₀.Reaches ts s) : s.capacity = s₀.capacity :=
  (h.invariant (I := fun s => s.capacity = s₀.capacity) rfl (fun s k hs => by simpa using hs)
    (fun _ _ hs => hs) (fun _ _ _ hs _ => hs)).1

theorem Reaches.room_eq (h : s₀.Reaches ts s) :
    s.room = s₀.room ∧ ∀ t ∈ ts, t.before.room = s₀.room :=
  h.invariant (I := fun s => s.room = s₀.room) rfl (fun s k hs => by simpa using hs)
    (fun _ _ hs => hs) (fun _ _ _ hs _ => hs)

theorem Reaches.listeners (h : s₀.Reaches ts s) :
    s.coordinator.listeners = s₀.coordinator.listeners := by
  refine (h.invariant (I := fun s => s.coordinator.listeners = s₀.coordinator.listeners) rfl
    ?_ (fun _ _ hs => hs) ?_).1
  · intro s k hs
    rw [coordinator_obey, (k.course s.coordinator).listeners, hs]
  · intro s d c hs hp
    obtain ⟨script, rfl⟩ := Coordinator.pin?_eq_some hp
    exact hs

theorem Reaches.newest_pending (h : s₀.Reaches ts s)
    (h₀ : newest s₀.capacity s₀.pending = s₀.pending) :
    newest s.capacity s.pending = s.pending ∧
      ∀ t ∈ ts, newest t.before.capacity t.before.pending = t.before.pending := by
  refine h.invariant (I := fun s => newest s.capacity s.pending = s.pending) h₀
    ?_ (fun _ _ hs => hs) (fun _ _ _ hs _ => hs)
  intro s k hs
  cases k with
  | drain => exact newest_nil
  | _ => exact newest_newest _

theorem Reaches.endless (h : s₀.Reaches ts s) (h₀ : s₀.coordinator.draws.Endless) :
    ∀ t ∈ ts, t.before.coordinator.draws.Endless := by
  refine (h.invariant (I := fun s => s.coordinator.draws.Endless) h₀ ?_ (fun _ _ hs => hs) ?_).2
  · intro s k hs
    rw [coordinator_obey]
    rcases (k.course s.coordinator).draws with hd | hd <;> rw [hd]
    · exact hs
    · exact hs.next
  · intro s d c hs hp
    obtain ⟨script, rfl⟩ := Coordinator.pin?_eq_some hp
    exact DrawSource.endless_scripted rfl

end ControlPlane

end Downlink
