import Downlink.Proofs.Routine.Effect

/-! # Requests and the draws they take

A request that fails leaves the tables alone, and one that succeeds changes the
entries of its role only. It takes a draw unless the dedicated address or the last
one of the role answers it. So the draws that have been taken are those of the
answers in the history, and each of these belongs to a request of the run.
-/

namespace Downlink

variable {ι : Type}

def Event.isAnswer : Event ι → Bool
  | granted .. | refused _ => true
  | _ => false

/-- Whether the event is the answer to a request that has taken a draw, or has tried to. -/
def Event.isDraw : Event ι → Bool
  | granted _ _ .drawn | refused _ => true
  | _ => false

namespace Coordinator

variable {c : Coordinator ι} {role : Role} {reuseLast : Bool} {a : Ipv4.Interface} {o : Origin}
  {f : Failure}

/-- All that a request does. -/
structure RequestFrame (c : Coordinator ι) (role : Role) (reuseLast : Bool) : Prop where
  failed : ∀ f, (request role reuseLast c).result = .error f →
    (request role reuseLast c).state.reservations = c.reservations
  granted : ∀ a, (request role reuseLast c).result = .ok a →
    (request role reuseLast c).state.reservations.live.get? role = some a ∧
      (request role reuseLast c).state.reservations.last.get? role = some a
  others : (request role reuseLast c).state.reservations.live.others role =
      c.reservations.live.others role ∧
    (request role reuseLast c).state.reservations.last.others role =
      c.reservations.last.others role
  uplinks : (request role reuseLast c).state.uplinks = c.uplinks
  listeners : (request role reuseLast c).state.listeners = c.listeners
  calls : (request role reuseLast c).state.draws.calls =
    c.draws.calls + if c.NeedsDraw role reuseLast then 1 else 0
  undrawn : ∀ a, (request role reuseLast c).result = .ok a →
    (request role reuseLast c).state.draws.calls = c.draws.calls →
    a = ReservedRanges.wifiP2pAddress ∨ c.reservations.last.get? role = some a
  answer : ∃ e, (request role reuseLast c).events = [e] ∧ e.isAnswer = true ∧
    (e.isDraw = true ↔ c.NeedsDraw role reuseLast)

theorem Grant.calls_drawsAfter (hg : c.Grant role reuseLast a o) :
    (c.drawsAfter o).calls = c.draws.calls + if c.NeedsDraw role reuseLast then 1 else 0 := by
  simp only [hg.needsDraw_iff]
  cases o with
  | drawn => exact DrawSource.calls_next? _
  | _ => rfl

theorem Grant.eq_or_last (hg : c.Grant role reuseLast a o) (ho : o ≠ .drawn) :
    a = ReservedRanges.wifiP2pAddress ∨ c.reservations.last.get? role = some a := by
  cases hg with
  | dedicated => exact Or.inl rfl
  | reused _ hr => exact Or.inr (reusable?_eq_some_iff.mp hr).1
  | drawn => exact absurd rfl ho

theorem Grant.requestFrame (hg : c.Grant role reuseLast a o) : c.RequestFrame role reuseLast where
  failed f hf := by simp [request_of_grant hg] at hf
  granted b hb := by
    rw [request_of_grant hg, Except.ok.injEq] at hb
    simp [request_of_grant hg, Reservations.get?_live_reserve, Reservations.get?_last_reserve, hb]
  others := by
    simp only [request_of_grant hg, Reservations.reserve]
    exact ⟨Ledger.others_put .., Ledger.others_put ..⟩
  uplinks := by simp [request_of_grant hg]
  listeners := by simp [request_of_grant hg]
  calls := by
    rw [request_of_grant hg]
    exact hg.calls_drawsAfter
  undrawn b hb hc := by
    rw [request_of_grant hg, Except.ok.injEq] at hb
    rw [request_of_grant hg] at hc
    refine hb ▸ hg.eq_or_last ?_
    rintro rfl
    exact Nat.succ_ne_self _ ((DrawSource.calls_next? _).symm.trans hc)
  answer := by
    refine ⟨.granted role a o, by rw [request_of_grant hg], rfl, ?_⟩
    rw [hg.needsDraw_iff]
    cases o <;> simp [Event.isDraw]

theorem Refusal.requestFrame (hf : c.Refusal role reuseLast f) : c.RequestFrame role reuseLast where
  failed _ _ := by simp [request_of_refusal hf]
  granted b hb := by simp [request_of_refusal hf] at hb
  others := by simp [request_of_refusal hf]
  uplinks := by simp [request_of_refusal hf]
  listeners := by simp [request_of_refusal hf]
  calls := by
    rw [request_of_refusal hf, if_pos hf.needsDraw]
    exact DrawSource.calls_next? _
  undrawn b hb := by simp [request_of_refusal hf] at hb
  answer := by
    refine ⟨.refused role, by rw [request_of_refusal hf], rfl, ?_⟩
    simp [Event.isDraw, hf.needsDraw]

theorem requestFrame (c : Coordinator ι) (role : Role) (reuseLast : Bool) :
    c.RequestFrame role reuseLast := by
  rcases c.grant_or_refusal role reuseLast with ⟨a, o, hg⟩ | ⟨f, hf⟩
  · exact hg.requestFrame
  · exact hf.requestFrame

end Coordinator

variable [DecidableEq ι]

theorem Operation.events_cases (op : Operation ι) (c : Coordinator ι) :
    (∃ role reuseLast, op = .request role reuseLast) ∨
      (op.act c).events = [] ∨ ∃ e, (op.act c).events = [e] ∧ e.isAnswer = false := by
  cases op with
  | request role reuseLast => exact Or.inl ⟨role, reuseLast, rfl⟩
  | release role =>
    refine Or.inr ?_
    simp only [act, Coordinator.release]
    split
    · exact Or.inl rfl
    · exact Or.inr ⟨_, rfl, rfl⟩
  | forget network =>
    refine Or.inr ?_
    simp only [act, Coordinator.forget]
    split
    · exact Or.inr ⟨_, rfl, rfl⟩
    · exact Or.inl rfl
  | _ => exact Or.inr (Or.inl rfl)

theorem Operation.calls_act (op : Operation ι) (c : Coordinator ι) :
    (op.act c).state.draws.calls = c.draws.calls + (op.act c).events.countP Event.isDraw := by
  cases op with
  | request role reuseLast =>
    have hf := c.requestFrame role reuseLast
    obtain ⟨e, he, _, hd⟩ := hf.answer
    rw [act_request, hf.calls, he, List.countP_singleton]
    simp only [hd]
  | release role =>
    simp only [act, Coordinator.release]
    split <;> rfl
  | forget network =>
    simp only [act, Coordinator.forget]
    split <;> rfl
  | pin d =>
    simp only [act, Coordinator.pin?]
    split
    · next hs => simp [hs, DrawSource.calls, Script.pin]
    · rfl
  | _ => rfl

namespace Routine

variable {p q : Routine ι} {c c₀ : Coordinator ι} {h : List (Event ι)}

def Answered (p : Routine ι) (c₀ : Coordinator ι) (h : List (Event ι)) (e : Event ι) : Prop :=
  ∃ role reuseLast rest c, p.Reaches c₀ h (.perform (.request role reuseLast) rest) c ∧
    (c.request role reuseLast).events = [e] ∧ (e.isDraw = true ↔ c.NeedsDraw role reuseLast)

def AllAnswered (p : Routine ι) (c₀ : Coordinator ι) (h : List (Event ι)) : Prop :=
  ∀ h₁ e, h₁ ++ [e] <+: h → e.isAnswer = true → p.Answered c₀ h₁ e

theorem AllAnswered.concat {e : Event ι} (ha : p.AllAnswered c₀ h)
    (he : e.isAnswer = true → p.Answered c₀ h e) : p.AllAnswered c₀ (h ++ [e]) := by
  intro h₁ e' hp he'
  rcases List.prefix_concat_iff.mp hp with heq | hp
  · obtain ⟨rfl, hlast⟩ := List.append_inj' heq rfl
    obtain rfl : e' = e := by simpa using hlast
    exact he he'
  · exact ha h₁ e' hp he'

theorem Reaches.allAnswered (hr : p.Reaches c₀ h q c) : p.AllAnswered c₀ h := by
  have ht := hr.trail
  clear hr
  induction ht with
  | start =>
    intro h₁ e hp
    simp at hp
  | @performed h op rest c _ hr ih =>
    rcases op.events_cases c with ⟨role, reuseLast, rfl⟩ | hn | ⟨e, he, hf⟩
    · obtain ⟨e, he, _, hd⟩ := (c.requestFrame role reuseLast).answer
      rw [Operation.act_request, he]
      exact ih.concat fun _ => ⟨role, reuseLast, rest, c, hr, he, hd⟩
    · rwa [hn, List.append_nil]
    · rw [he]
      exact ih.concat fun ht => by simp [hf] at ht
  | @recorded h s ls rest c _ _ ih =>
    unfold Coordinator.record
    split
    · rwa [List.append_nil]
    · exact ih.concat fun ht => by cases ht
  | signalled _ ih => exact ih.concat fun ht => by cases ht
  | delivered _ ih => exact ih.concat fun ht => by cases ht

theorem Reaches.calls_eq (hr : p.Reaches c₀ h q c) :
    c.draws.calls = c₀.draws.calls + h.countP Event.isDraw := by
  have ht := hr.trail
  clear hr
  induction ht with
  | start => rfl
  | performed _ _ ih => rw [Operation.calls_act, ih, List.countP_append, Nat.add_assoc]
  | @recorded h s ls rest c _ _ ih =>
    unfold Coordinator.record
    split <;> simp [ih, Event.isDraw]
  | signalled _ ih => simp [ih, Event.isDraw]
  | delivered _ ih => simp [ih, Event.isDraw]

end Routine

/-- A request that fails leaves the tables alone, and one that succeeds changes the entries of its
role only. The draws taken in a run are those of its requests that neither the dedicated address nor
the last one has answered. -/
theorem requests_accounted (settings : Settings) (draws : DrawSource) (policy : Option Bool)
    (p q : Routine ι) (h : List (Event ι)) (c : Coordinator ι)
    (hr : p.Reaches (.start settings draws policy) h q c) :
    (∀ role reuseLast, c.RequestFrame role reuseLast) ∧
      c.draws.calls = draws.calls + h.countP Event.isDraw ∧
      p.AllAnswered (.start settings draws policy) h :=
  ⟨c.requestFrame, hr.calls_eq, hr.allAnswered⟩

/-- Two draws are to be had. The second one comes when an uplink has taken all of the base block,
and the third one does not come. -/
def Coordinator.scarce : Coordinator String :=
  .start .standard (.scripted ⟨[.ofInt 0x2b05, .ofInt 0x2b05], .ofInt 0x2b05, false, 0⟩) none

def Routine.shortage : Routine String :=
  .perform (.request .wifi false) fun _ =>
  .perform (.request .wifi true) fun _ =>
  .update ⟨"office", some .wifi, ["192.168.0.9/16"]⟩ (fun _ _ => .done) fun _ =>
  .perform (.request .wifi true) fun _ =>
  .perform (.request .wifi false) fun _ => .done

/-- The link keeps its address while an uplink takes the base block and while there are no draws,
and the request that is answered with it takes no draw. -/
theorem shortage_accounted :
    (Routine.shortage.act .scarce).events.countP Event.isAnswer = 4 ∧
      (Routine.shortage.act .scarce).state.draws.calls = 3 ∧
      (Routine.shortage.act .scarce).state.reservations.toList =
        [⟨.wifi, .inSubnet (.ofOctets 192 168 43 5)⟩] ∧
      (Coordinator.request .usb false (Routine.shortage.act .scarce).state).state.reservations =
        (Routine.shortage.act .scarce).state.reservations := by
  obtain ⟨_, -, hr⟩ := Routine.shortage.reaches_end .scarce
  obtain ⟨hf, hc, _⟩ := requests_accounted _ _ _ _ _ _ _ hr
  refine ⟨by decide +kernel, ?_, by decide +kernel, (hf .usb false).failed .outOfDraws ?_⟩
  · rw [hc]
    decide +kernel
  · rw [Coordinator.request_of_refusal (.outOfDraws (by decide +kernel) (by decide +kernel)
      (by decide +kernel))]

end Downlink
