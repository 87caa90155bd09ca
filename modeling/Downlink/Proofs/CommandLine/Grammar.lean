import Downlink.CommandLine.Command
import Downlink.Proofs.Results

/-! # What arguments are admitted

A word that parsing stores is one that its switch or operand has among its choices, or it stands for
a switch or an operand without choices. A switch may be given nothing.
-/

namespace Downlink.CommandLine

namespace Grammar

inductive Admits (g : Grammar) : String → Value → Prop where
  | nothing {s : Switch} : s ∈ g.switches → Admits g s.key .nothing
  | switch {s : Switch} {text : String} :
      s ∈ g.switches → s.choices = [] ∨ text ∈ s.choices → Admits g s.key (.word text)
  | operand {o : Operand} {text : String} :
      o ∈ g.operands → o.choices = [] ∨ text ∈ o.choices → Admits g o.name (.word text)

def Sound (g : Grammar) (p : Parsed) : Prop :=
  ∀ e ∈ p.values, g.Admits e.1 e.2

def Knows (g : Grammar) : Word → Prop
  | .switch _ (some hit) => hit.switch ∈ g.switches
  | _ => True

variable {g : Grammar} {p q : Parsed} {s : Switch} {o : Operand} {hit : Hit}
  {name text key : String}
  {cs : List Char} {w : Word} {ws rest : List Word} {j : Joined} {v : Value} {choices : List String}

theorem mem_of_named? (h : g.named? name = some s) : s ∈ g.switches :=
  List.mem_of_find?_eq_some h

theorem mem_of_mem_candidates (h : hit ∈ g.candidates cs) : hit.switch ∈ g.switches := by
  unfold candidates at h
  split at h
  · simp only [abbreviated, List.mem_flatMap, List.mem_map] at h
    obtain ⟨s, hs, name, -, rfl⟩ := h
    exact hs
  · unfold joined at h
    split at h
    · next s hs =>
      rw [List.mem_singleton] at h
      exact h ▸ mem_of_named? hs
    · cases h

theorem mem_of_fullHit? (h : g.fullHit? text = some hit) : hit.switch ∈ g.switches := by
  unfold fullHit? at h
  split at h
  · next s hs =>
    cases h
    exact mem_of_named? hs
  · simp only [Option.bind_eq_bind, Option.bind_eq_some_iff] at h
    obtain ⟨⟨name, value⟩, -, s, hs, hh⟩ := h
    cases hh
    exact mem_of_named? hs

theorem knows_of_classify? (h : g.classify? text = .ok w) : g.Knows w := by
  unfold classify? at h
  simp only at h
  split at h
  · cases h
    trivial
  · split at h
    · next hit hh =>
      cases h
      exact mem_of_fullHit? hh
    · split at h
      · cases h
        trivial
      · split at h
        · next hit hh =>
          cases h
          exact mem_of_mem_candidates (hh ▸ List.mem_singleton_self hit)
        · cases h
        · split at h <;> cases h <;> trivial

theorem knows_of_words? {args : List String} (h : g.words? args = .ok ws) :
    ∀ w ∈ ws, g.Knows w := by
  induction args generalizing ws with
  | nil =>
    cases h
    simp
  | cons text args ih =>
    unfold words? at h
    split at h
    · cases h
      simp [Knows]
    · obtain ⟨w, hw, h⟩ := bind_eq_ok.mp h
      obtain ⟨ws', hws, h⟩ := bind_eq_ok.mp h
      cases h
      exact List.forall_mem_cons.mpr ⟨knows_of_classify? hw, ih hws⟩

theorem mem_of_splitJoined? {marks : List Switch} (hs : s ∈ g.switches)
    (hm : ∀ m ∈ marks, m ∈ g.switches) (h : g.splitJoined? marks s cs = .ok j) :
    j.last ∈ g.switches ∧ ∀ m ∈ j.marks, m ∈ g.switches := by
  induction cs generalizing marks s with
  | nil =>
    cases h
    exact ⟨hs, hm⟩
  | cons c cs ih =>
    unfold splitJoined? at h
    split at h
    · cases h
      exact ⟨hs, hm⟩
    · split at h
      · next next hn =>
        refine ih (mem_of_named? hn) (fun m hmem => ?_) h
        rcases List.mem_append.mp hmem with hmem | hmem
        · exact hm m hmem
        · exact List.mem_singleton.mp hmem ▸ hs
      · cases h

theorem mem_of_joinedOf? (hh : hit.switch ∈ g.switches) (h : g.joinedOf? hit = .ok j) :
    j.last ∈ g.switches ∧ ∀ m ∈ j.marks, m ∈ g.switches := by
  unfold joinedOf? at h
  split at h
  · cases h
    exact ⟨hh, by simp⟩
  · split at h
    · cases h
      exact ⟨hh, by simp⟩
    · split at h
      · cases h
      · exact mem_of_splitJoined? hh (by simp) h

theorem Sound.addValue (hp : g.Sound p) (hv : g.Admits key v) :
    g.Sound (addValue p key v) := by
  intro e he
  rcases List.mem_append.mp he with he | he
  · exact hp e he
  · rw [List.mem_singleton.mp he]
    exact hv

theorem Sound.addExtra (hp : g.Sound p) (text : String) : g.Sound (addExtra p text) :=
  hp

theorem Sound.mark? (hp : g.Sound p) (hs : s ∈ g.switches) (h : Grammar.mark? p s = .ok q) :
    g.Sound q := by
  unfold Grammar.mark? at h
  split at h
  · cases h
  · cases h
    exact hp.addValue (.nothing hs)

theorem Sound.marks {marks : List Switch} (hp : g.Sound p) (hm : ∀ m ∈ marks, m ∈ g.switches)
    (h : marks.foldlM Grammar.mark? p = .ok q) : g.Sound q := by
  induction marks generalizing p with
  | nil =>
    cases h
    exact hp
  | cons m marks ih =>
    obtain ⟨hm, hms⟩ := List.forall_mem_cons.mp hm
    rw [List.foldlM_cons] at h
    obtain ⟨p', hq, h⟩ := bind_eq_ok.mp h
    exact ih (hp.mark? hm hq) hms h

theorem admit?_eq_ok (h : admit? choices text = .ok v) :
    v = .word text ∧ (choices = [] ∨ text ∈ choices) := by
  unfold admit? at h
  split at h
  · next hc =>
    cases h
    exact ⟨rfl, by simpa using hc⟩
  · cases h

theorem Sound.store? (hp : g.Sound p) (hs : s ∈ g.switches)
    (h : Grammar.store? p s text = .ok q) : g.Sound q := by
  unfold Grammar.store? at h
  cases hv : admit? s.choices text with
  | error e => simp [hv, Except.map] at h
  | ok v =>
    simp only [hv, Except.map, Except.ok.injEq] at h
    obtain ⟨rfl, hc⟩ := admit?_eq_ok hv
    exact h ▸ hp.addValue (.switch hs hc)

theorem Sound.storeAttached? (hp : g.Sound p) (hs : s ∈ g.switches)
    (h : Grammar.storeAttached? p s text = .ok q) : g.Sound q := by
  unfold Grammar.storeAttached? at h
  split at h
  · cases h
    exact hp.addValue (.nothing hs)
  · exact hp.store? hs h

theorem Sound.takeOperand? (hp : g.Sound p) (ho : o ∈ g.operands)
    (h : Grammar.takeOperand? p o text rest = .ok q) : g.Sound q := by
  unfold Grammar.takeOperand? at h
  obtain ⟨v, hv, h⟩ := bind_eq_ok.mp h
  obtain ⟨rfl, hc⟩ := admit?_eq_ok hv
  cases h
  split
  · exact hp.addValue (.operand ho hc)
  · exact hp.addValue (.operand ho hc)

theorem Sound.assign? {operands : List Operand} (hp : g.Sound p)
    (ho : ∀ o ∈ operands, o ∈ g.operands) (hw : ∀ w ∈ ws, g.Knows w)
    (h : g.assign? p operands ws = .ok q) : g.Sound q := by
  -- A step takes one word or two.
  induction hn : ws.length using Nat.strongRecOn generalizing p operands ws with
  | ind n ih =>
    have next : ∀ {rest : List Word} {operands : List Operand} {p : Parsed},
        rest.length < n → (∀ w ∈ rest, w ∈ ws) → (∀ o ∈ operands, o ∈ g.operands) → g.Sound p →
          g.assign? p operands rest = .ok q → g.Sound q := fun hl hr ho hp h =>
      ih _ hl hp ho (fun w hm => hw w (hr w hm)) h rfl
    unfold Grammar.assign? at h
    split at h
    · split at h <;> cases h
      exact hp
    · exact next (by simp at hn; omega) (by simp +contextual) ho (hp.addExtra _) h
    · next text hit rest =>
      obtain ⟨j, hj, h⟩ := bind_eq_ok.mp h
      have hit_mem : hit.switch ∈ g.switches := hw _ List.mem_cons_self
      obtain ⟨hlast, hmarks⟩ := mem_of_joinedOf? hit_mem hj
      split at h
      · obtain ⟨p₁, hp₁, h⟩ := bind_eq_ok.mp h
        obtain ⟨p₂, hp₂, h⟩ := bind_eq_ok.mp h
        exact next (by simp at hn; omega) (by simp +contextual) ho
          ((hp.marks hmarks hp₁).mark? hlast hp₂) h
      · split at h
        · obtain ⟨p₁, hp₁, h⟩ := bind_eq_ok.mp h
          obtain ⟨p₂, hp₂, h⟩ := bind_eq_ok.mp h
          exact next (by simp at hn; omega) (by simp +contextual) ho
            ((hp.marks hmarks hp₁).storeAttached? hlast hp₂) h
        · split at h
          · obtain ⟨p₁, hp₁, h⟩ := bind_eq_ok.mp h
            obtain ⟨p₂, hp₂, h⟩ := bind_eq_ok.mp h
            exact next (by simp at hn; omega) (by simp +contextual) ho
              ((hp.marks hmarks hp₁).store? hlast hp₂) h
          · cases h
    · exact next (by simp at hn; omega) (by simp +contextual) ho (hp.addExtra _) h
    · obtain ⟨ho, hos⟩ := List.forall_mem_cons.mp ho
      obtain ⟨p₁, hp₁, h⟩ := bind_eq_ok.mp h
      have hsound := hp.takeOperand? ho hp₁
      split at h
      · cases h
        exact hsound
      · split at h
        · exact next (by simp at hn; omega) (by simp +contextual) hos hsound h
        · exact next (by simp at hn; omega) (by simp +contextual) hos hsound h
    · exact next (by simp at hn; omega) (by simp +contextual) ho (hp.addExtra _) h
    · obtain ⟨ho, hos⟩ := List.forall_mem_cons.mp ho
      split at h
      · cases h
      · obtain ⟨p₁, hp₁, h⟩ := bind_eq_ok.mp h
        exact next (by simp at hn; omega) (by simp +contextual) hos (hp.takeOperand? ho hp₁) h
    · exact next (by simp at hn; omega) (by simp +contextual) ho (hp.addExtra _) h

theorem sound_of_parse? {args : List String} (h : g.parse? args = .ok p) : g.Sound p := by
  obtain ⟨ws, hws, h⟩ := bind_eq_ok.mp h
  exact Sound.assign? (by simp [Sound]) (fun _ ho => ho) (knows_of_words? hws) h

theorem Sound.admits_of_last? (hp : g.Sound p) (h : p.last? key = some v) : g.Admits key v := by
  rw [Parsed.last?, Option.map_eq_some_iff] at h
  obtain ⟨e, he, rfl⟩ := h
  have hmem := List.mem_of_getLast? he
  rw [List.mem_filter, decide_eq_true_eq] at hmem
  exact hmem.2 ▸ hp e hmem.1

end Grammar

section Uplink

variable {server name network : String} {args : List String} {url : Value} {p : Parsed} {v : Value}
  {given : Option Value} {addresses : List Value}

theorem Grammar.Admits.transport_name (h : (innerGrammar "upstream").Admits "--transport" v) :
    v = .nothing ∨ ∃ t : Transport, v = .word t.name := by
  have hs : ∀ s ∈ (innerGrammar "upstream").switches, s.key = "--transport" →
      s.choices = Transport.all.map Transport.name := by
    decide
  have ho : ∀ o ∈ (innerGrammar "upstream").operands, o.name ≠ "--transport" := by
    decide
  generalize hk : "--transport" = key at h
  cases h with
  | nothing => exact .inl rfl
  | switch hmem hc =>
    rw [hs _ hmem hk.symm] at hc
    obtain hc | hc := hc
    · cases hc
    · obtain ⟨t, -, rfl⟩ := List.mem_map.mp hc
      exact .inr ⟨t, rfl⟩
  | operand hmem _ => exact absurd hk.symm (ho _ hmem)

theorem command?_uplink (h : command? name p = some (.uplink network given addresses)) :
    name = "upstream" ∧ given = p.last? "--transport" := by
  unfold command? at h
  simp only [Option.bind_eq_bind, Option.pure_def] at h
  by_cases hname : name = "upstream"
  · subst hname
    simp only [String.reduceEq, if_false, if_true, Option.bind_eq_some_iff, Option.some.injEq,
      Command.uplink.injEq] at h
    obtain ⟨_, _, _, hgiven, _⟩ := h
    exact ⟨rfl, hgiven.symm⟩
  · simp only [if_neg hname] at h
    repeat' split at h
    all_goals simp [Option.bind_eq_some_iff] at h

/-- Where the transport of an uplink is given, it is a known one, or the switch is given nothing. -/
theorem transport_of_invocation?
    (h : invocation? server args = .ok ⟨url, .uplink network given addresses⟩) :
    given = none ∨ given = some .nothing ∨ ∃ t : Transport, given = some (.word t.name) := by
  obtain ⟨outer, -, h⟩ := bind_eq_ok.mp h
  obtain ⟨inner, hinner, h⟩ := bind_eq_ok.mp h
  cases hc : command? ((outer.word? "command").getD "") inner with
  | none =>
    simp only [hc] at h
    split at h <;> cases h
  | some command =>
    simp only [hc] at h
    split at h
    · cases h
    · cases h
      obtain ⟨hname, rfl⟩ := command?_uplink hc
      rw [hname] at hinner
      cases ht : inner.last? "--transport" with
      | none => exact .inl rfl
      | some v =>
        obtain rfl | ⟨t, rfl⟩ :=
          ((Grammar.sound_of_parse? hinner).admits_of_last? ht).transport_name
        · exact .inr (.inl rfl)
        · exact .inr (.inr ⟨t, rfl⟩)

end Uplink

end Downlink.CommandLine
