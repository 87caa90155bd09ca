import Downlink.CommandLine.Run
import Downlink.Proofs.CommandLine.Grammar
import Downlink.Proofs.CommandLine.Replies
import Downlink.Proofs.Json.Fuel
import Downlink.Proofs.Json.Pairs

/-! # How commands end

A command holds its exchanges with a party that may answer as it likes. If all its replies are
failures or tell what was asked for, the exit code says whether one has failed, and nothing is
printed unless none has. A request tells an exhausted pool apart from other failures.
-/

namespace Downlink

namespace Dialogue

variable {ε α β : Type} {party : List (Call × Reply) → Call → Reply} {past : List (Call × Reply)}

/-- A party that answers in the light of all exchanges so far, and the exchanges with this one. -/
def noting (party : List (Call × Reply) → Call → Reply) (call : Call) :
    StateM (List (Call × Reply)) Reply := fun past =>
  (party past call, past ++ [(call, party past call)])

/-- The result of a dialogue with a party, and the exchanges that were held. -/
def heldWith (d : Dialogue α) (party : List (Call × Reply) → Call → Reply) :
    α × List (Call × Reply) :=
  d.answeredBy (noting party) []

theorem answeredBy_hold (e : Exchange ε α) (next : Except ε α → Dialogue β)
    (party : List (Call × Reply) → Call → Reply) (past : List (Call × Reply)) :
    (hold e next).answeredBy (noting party) past =
      (next (e.read (party past e.call))).answeredBy (noting party)
        (past ++ [(e.call, party past e.call)]) :=
  rfl

theorem heldWith_hold {e : Exchange ε α} {next : Except ε α → Dialogue β}
    (h : ∀ r, ∃ b, next r = .done b) (party : List (Call × Reply) → Call → Reply) :
    ∃ b, next (e.read (party [] e.call)) = .done b ∧
      (hold e next).heldWith party = (b, [(e.call, party [] e.call)]) := by
  obtain ⟨b, hb⟩ := h (e.read (party [] e.call))
  refine ⟨b, hb, ?_⟩
  rw [heldWith, answeredBy_hold, hb]
  rfl

end Dialogue

namespace CommandLine

open Client

def Invocation.LacksValue (i : Invocation) : Prop :=
  i.url = .nothing ∨ ∃ network addresses, i.command = .uplink network (some .nothing) addresses

/-- The exchange has failed, or its reply tells what the command asks for. -/
def Command.Foresees (client : Client) (x : Call × Reply) : Command → Prop
  | .request _ _ => x.2.Fails ∨ ∃ a, x.2.Tells client.room (AddressIn · a)
  | .release _ => x.2.Fails ∨ ∃ held, x.2.Tells client.room (FlagIn · "released" held)
  | .uplink _ _ _ => x.2.Fails ∨ ∃ roles, x.2.Tells client.room (RolesIn · roles)
  | .dropUplink _ => x.2.Fails ∨ ∃ known, x.2.Tells client.room (FlagIn · "removed" known)
  | .conflicts => x.2.Fails ∨ ∃ ks, x.2.Tells client.room (ConflictsIn · ks)
  | .status => x.2.Fails ∨
      ((x.1 = client.reservations.call → ∃ rs, x.2.Tells client.room (ReservationsIn · rs)) ∧
        (x.1 = client.uplinks.call → ∃ rows, x.2.Tells client.room (UplinksIn · (uplinkRows rows))))

theorem reservations_call_ne (client : Client) :
    client.reservations.call ≠ client.uplinks.call := by
  intro h
  have hurl : client.base ++ "/downstreams" = client.base ++ "/upstreams" := congrArg Call.url h
  rw [String.ext_iff, String.toList_append, String.toList_append,
    List.append_cancel_left_eq] at hurl
  exact absurd hurl (by decide)

open ControlPlane in
/-- The replies of a control plane to the calls of a command. -/
inductive Command.Served (client : Client) (s : ControlPlane) : Command → Call × Reply → Prop where
  | request {role : Role} {reuseLast : Bool} {call : Call} (payload : Http.Payload) :
      Served client s (.request role reuseLast)
        (call, replyOf (s.requestAddress role payload).1)
  | release {role : Role} {call : Call} :
      Served client s (.release role) (call, replyOf (s.releaseAddress role).1)
  | uplink {network : String} {given : Option Value} {addresses : List Value} {call : Call}
      (payload : Http.Payload) : Served client s (.uplink network given addresses)
        (call, replyOf (s.updateUplink network payload).1)
  | dropUplink {network : String} {call : Call} :
      Served client s (.dropUplink network) (call, replyOf (s.removeUplink network).1)
  | conflicts {call : Call} : Served client s .conflicts (call, replyOf s.drainConflicts.1)
  | reservations :
      Served client s .status (client.reservations.call, replyOf s.listReservations)
  | uplinks : Served client s .status (client.uplinks.call, replyOf s.listUplinks)

open ControlPlane in
theorem Command.Served.foresees {client : Client} {s : ControlPlane} {command : Command}
    {x : Call × Reply} (h : command.Served client s x) : command.Foresees client x := by
  cases h with
  | request payload => exact s.replyOf_requestAddress client.room _ payload
  | release => exact .inr (s.replyOf_releaseAddress client.room _)
  | uplink payload => exact s.replyOf_updateUplink client.room _ payload
  | dropUplink => exact .inr (s.replyOf_removeUplink client.room _)
  | conflicts => exact .inr ⟨_, s.replyOf_drainConflicts client.room⟩
  | reservations =>
    exact .inr ⟨fun _ => ⟨_, s.replyOf_listReservations client.room⟩,
      fun h => absurd h (reservations_call_ne client)⟩
  | uplinks =>
    exact .inr ⟨fun h => absurd h.symm (reservations_call_ne client),
      fun _ => s.replyOf_listUplinks client.room⟩

/-- How a request ends on a reply. -/
structure RequestEnds (room : Json.Room) (reply : Reply) (report : Report) : Prop where
  exhausted : report.ending = .exit 2 ↔
    ∃ body fields, reply = .answered 503 body ∧ body.json? room = .ok (.obj fields)
  failed : report.ending = .exit 1 ↔
    reply.Fails ∧ ∀ body, reply = .answered 503 body →
      body.json? room = .error .malformed ∨ ∃ fault, body.json? room = .error (.tooDeep fault)
  /-- Status 503 with a body that is JSON but reads as no object, or cannot be read for the length
  of a number in it, ends in neither way. -/
  broken : (∃ fault, report.ending = .broken fault) ↔
    ∃ body, reply = .answered 503 body ∧
      ((∃ fault, body.json? room = .error (.tooManyDigits fault)) ∨
      ∃ v, body.json? room = .ok v ∧ ∀ fields, v ≠ .obj fields)
  granted : report.ending = .exit 0 ↔ ¬ reply.Fails
  address : ¬ reply.Fails → ∃ a, reply.Tells room (AddressIn · a) ∧ report.output = a.text ++ "\n"

def uplinkLine (row : String × List String) : String :=
  "  " ++ padded row.1 ++ " " ++ ", ".intercalate row.2

/-- How a command ends after some exchanges. -/
structure Ends (client : Client) (command : Command) (held : List (Call × Reply))
    (report : Report) : Prop where
  asked : held ≠ []
  silent : report.ending ≠ .exit 0 → report.output = ""
  request : ∀ role reuseLast, command = .request role reuseLast →
    ∃ reply, held = [((client.requestAddress role (.bool reuseLast)).call, reply)] ∧
      RequestEnds client.room reply report
  other : (∀ role reuseLast, command ≠ .request role reuseLast) →
    (report.ending = .exit 1 ↔ ∃ x ∈ held, x.2.Fails) ∧
      (report.ending = .exit 0 ↔ ∀ x ∈ held, ¬ x.2.Fails)
  conflicts : command = .conflicts → report.ending = .exit 0 →
    ∃ reply ks, held = [(client.drainConflicts.call, reply)] ∧
      reply.Tells client.room (ConflictsIn · ks) ∧
      report.output = lines (ks.map conflictLine)
  status : command = .status → report.ending = .exit 0 →
    ∃ first second rs rows,
      held = [(client.reservations.call, first), (client.uplinks.call, second)] ∧
        first.Tells client.room (ReservationsIn · rs) ∧
        second.Tells client.room (UplinksIn · (uplinkRows rows)) ∧
        report.output = lines (["Downstreams:"] ++ rs.map reservationLine ++ ["Upstreams:"] ++
          rows.map uplinkLine)

/-- The exit code says whether an exchange has failed, and only without a failure is anything
printed. -/
structure Tallies (held : List (Call × Reply)) (report : Report) : Prop where
  exit_one : report.ending = .exit 1 ↔ ∃ x ∈ held, x.2.Fails
  exit_zero : report.ending = .exit 0 ↔ ∀ x ∈ held, ¬ x.2.Fails
  silent : report.ending ≠ .exit 0 → report.output = ""

section Tallies

variable {held : List (Call × Reply)}

theorem tallies_of_fails (h : ∃ x ∈ held, x.2.Fails) (log : List (Level × String)) :
    Tallies held ⟨"", log, .exit 1⟩ where
  exit_one := iff_of_true rfl h
  exit_zero := by
    obtain ⟨x, hx, hf⟩ := h
    exact iff_of_false (by simp) fun hall => hall x hx hf
  silent _ := rfl

theorem tallies_of_tells (h : ∀ x ∈ held, ¬ x.2.Fails) (output : String)
    (log : List (Level × String)) : Tallies held (succeed output log) where
  exit_one := iff_of_false (by simp [succeed]) fun ⟨x, hx, hf⟩ => h x hx hf
  exit_zero := iff_of_true rfl h
  silent hne := absurd rfl hne

end Tallies

theorem ends_of_tallies {client : Client} {command : Command} {held : List (Call × Reply)}
    {report : Report} (hne : held ≠ []) (ht : Tallies held report)
    (hreq : ∀ role reuseLast, command ≠ .request role reuseLast) (hc : command ≠ .conflicts)
    (hs : command ≠ .status) : Ends client command held report where
  asked := hne
  silent := ht.silent
  request role reuseLast h := absurd h (hreq role reuseLast)
  other _ := ⟨ht.exit_one, ht.exit_zero⟩
  conflicts h := absurd h hc
  status h := absurd h hs

theorem ends_of_fails {client : Client} {command : Command} {held : List (Call × Reply)}
    (hreq : ∀ role reuseLast, command ≠ .request role reuseLast) (h : ∃ x ∈ held, x.2.Fails)
    (log : List (Level × String)) : Ends client command held ⟨"", log, .exit 1⟩ where
  asked := by
    obtain ⟨x, hx, -⟩ := h
    exact List.ne_nil_of_mem hx
  silent _ := rfl
  request role reuseLast hc := absurd hc (hreq role reuseLast)
  other _ := ⟨(tallies_of_fails h log).exit_one, (tallies_of_fails h log).exit_zero⟩
  conflicts _ he := by cases he
  status _ he := by cases he

variable {client : Client} {party : List (Call × Reply) → Call → Reply}

/-- A dialogue of one exchange, which ends with code 1 if that fails and with code 0 if not. -/
structure Single {α : Type} (room : Json.Room) (d : Dialogue Report) (R : Json → α → Prop)
    (e : Exchange Client.Fault α) (next : Except Client.Fault α → Dialogue Report) : Prop where
  eq : d = .hold e next
  reads : e.Reads room R
  done : ∀ r, ∃ report, next r = .done report
  failed : ∀ task detail, ∃ log, next (.error (.failed task detail)) = .done ⟨"", log, .exit 1⟩
  told : ∀ a, ∃ output log, next (.ok a) = .done (succeed output log)

theorem Single.tallies {α : Type} {room : Json.Room} {d : Dialogue Report} {R : Json → α → Prop}
    {e : Exchange Client.Fault α} {next : Except Client.Fault α → Dialogue Report}
    {report : Report} {held : List (Call × Reply)} (hd : Single room d R e next)
    (h : d.heldWith party = (report, held))
    (hx : ∀ x ∈ held, x.2.Fails ∨ ∃ a, x.2.Tells room (R · a)) :
    ∃ reply, held = [(e.call, reply)] ∧ Tallies [(e.call, reply)] report ∧
      (report.ending = .exit 0 → ∃ a, reply.Tells room (R · a) ∧ next (.ok a) = .done report) := by
  obtain ⟨report', hr, hheld⟩ := Dialogue.heldWith_hold hd.done party
  rw [← hd.eq, h] at hheld
  cases hheld
  refine ⟨_, rfl, ?_⟩
  have hf := hx _ (List.mem_singleton_self _)
  cases hread : e.read (party [] e.call) with
  | error f =>
    obtain ⟨hfail, task, detail, rfl⟩ := hd.reads.of_error hf hread
    obtain ⟨log, hlog⟩ := hd.failed task detail
    rw [hread, hlog] at hr
    cases hr
    exact ⟨tallies_of_fails ⟨_, List.mem_singleton_self _, hfail⟩ log, fun h => by cases h⟩
  | ok a =>
    have ha := hd.reads.of_ok hf hread
    obtain ⟨output, log, hout⟩ := hd.told a
    rw [hread] at hr
    refine ⟨?_, fun _ => ⟨a, ha, hr⟩⟩
    rw [hout] at hr
    cases hr
    exact tallies_of_tells (by simpa using ha.not_fails) output log

theorem single_release (client : Client) (role : Role) :
    ∃ next, Single client.room (dialogue client (.release role)) (FlagIn · "released")
      (client.release role)
      next := by
  refine ⟨_, by rw [dialogue], client.reads_release role, ?_, ?_, ?_⟩
  · rintro (f | (_ | _)) <;> exact ⟨_, rfl⟩
  · exact fun _ _ => ⟨_, rfl⟩
  · rintro (_ | _) <;> exact ⟨_, _, rfl⟩

theorem single_dropUplink (client : Client) (network : String) :
    ∃ next, Single client.room (dialogue client (.dropUplink network)) (FlagIn · "removed")
      (client.removeUplink network) next := by
  refine ⟨_, by rw [dialogue], client.reads_removeUplink network, ?_, ?_, ?_⟩
  · rintro (f | _) <;> exact ⟨_, rfl⟩
  · exact fun _ _ => ⟨_, rfl⟩
  · exact fun _ => ⟨_, _, rfl⟩

theorem single_uplink (client : Client) (network : String) {given : Option Value}
    (addresses : List Value)
    (hgiven : given = none ∨ ∃ t : Transport, given = some (.word t.name)) :
    ∃ transport next, Single client.room (dialogue client (.uplink network given addresses)) RolesIn
      (client.report (.str network) transport (addresses.map Value.toJson)) next := by
  obtain ⟨transport, ht⟩ : ∃ transport,
      Transport.ofJson? ((given.map Value.toJson).getD .null) = .ok transport := by
    obtain rfl | ⟨t, rfl⟩ := hgiven
    · exact ⟨none, rfl⟩
    · exact ⟨some t, Transport.ofJson?_ofOption (some t)⟩
  refine ⟨transport, _, by rw [dialogue, ht], client.reads_report .., ?_, ?_, ?_⟩
  · rintro (f | _) <;> exact ⟨_, rfl⟩
  · exact fun _ _ => ⟨_, rfl⟩
  · exact fun _ => ⟨_, _, rfl⟩

theorem single_conflicts (client : Client) :
    ∃ next, Single client.room (dialogue client .conflicts) ConflictsIn client.drainConflicts next ∧
      ∀ ks, next (.ok ks) = .done (succeed (lines (ks.map conflictLine)) []) := by
  refine ⟨_, ⟨by rw [dialogue], client.reads_drainConflicts, ?_, ?_, ?_⟩, ?_⟩
  · rintro (f | _) <;> exact ⟨_, rfl⟩
  · exact fun _ _ => ⟨_, rfl⟩
  · exact fun _ => ⟨_, _, rfl⟩
  · exact fun _ => rfl

theorem lines_append (xs ys : List String) : lines (xs ++ ys) = lines xs ++ lines ys := by
  simp [lines]

theorem textMembers?_ofStrings (texts : List String) :
    textMembers? (.ofStrings texts) = some texts := by
  change (texts.map Json.str).mapM _ = some texts
  induction texts with
  | nil => rfl
  | cons text texts ih =>
    rw [List.map_cons, List.mapM_cons, ih]
    rfl

theorem uplinkReport_rows (before : String) (rows : List (String × List String)) :
    uplinkReport before (rows.map fun row => (row.1, .ofStrings row.2)) =
      succeed (before ++ lines (rows.map uplinkLine)) [] := by
  induction rows generalizing before with
  | nil => simp [uplinkReport, lines]
  | cons row rows ih =>
    have hline : uplinkLine? (row.1, .ofStrings row.2) = some (uplinkLine row) := by
      rw [uplinkLine?, textMembers?_ofStrings]
      rfl
    rw [List.map_cons, uplinkReport, hline]
    simp only [ih]
    simp [lines, String.append_assoc]

theorem statusReport_rows (rs : List Reservation) (rows : List (String × List String)) :
    statusReport rs (uplinkRows rows) = succeed (lines (["Downstreams:"] ++
      rs.map reservationLine ++ ["Upstreams:"] ++ rows.map uplinkLine)) [] := by
  rw [lines_append, ← uplinkReport_rows]
  rfl

theorem ends_status {report : Report} {held : List (Call × Reply)}
    (h : (dialogue client .status).heldWith party = (report, held))
    (hx : ∀ x ∈ held, Command.status.Foresees client x) : Ends client .status held report := by
  have hreservations : ∀ reply, (client.reservations.call, reply) ∈ held →
      reply.Fails ∨ ∃ rs, reply.Tells client.room (ReservationsIn · rs) := fun reply hm =>
    (hx _ hm).imp_right fun ht => ht.1 rfl
  have huplinks : ∀ reply, (client.uplinks.call, reply) ∈ held →
      reply.Fails ∨ ∃ rows, reply.Tells client.room (UplinksIn · (uplinkRows rows)) :=
    fun reply hm =>
    (hx _ hm).imp_right fun ht => ht.2 rfl
  rw [Dialogue.heldWith, dialogue, Dialogue.answeredBy_hold] at h
  generalize party [] client.reservations.call = first at h
  cases hfirst : client.reservations.read first with
  | error f =>
    rw [hfirst] at h
    cases h
    obtain ⟨hf, task, detail, rfl⟩ :=
      client.reads_reservations.of_error (hreservations _ (List.mem_singleton_self _)) hfirst
    exact ends_of_fails (by simp) ⟨_, List.mem_singleton_self _, hf⟩ _
  | ok rs =>
    rw [hfirst] at h
    simp only [Dialogue.answeredBy_hold, List.nil_append, List.singleton_append] at h
    generalize party [(client.reservations.call, first)] client.uplinks.call = second at h
    cases hsecond : client.uplinks.read second with
    | error f =>
      rw [hsecond] at h
      cases h
      obtain ⟨hf, task, detail, rfl⟩ := client.reads_uplinks.of_error
        ((huplinks _ (by simp)).imp_right fun ⟨rows, hrows⟩ => ⟨_, hrows⟩) hsecond
      exact ends_of_fails (by simp) ⟨(client.uplinks.call, second), by simp, hf⟩ _
    | ok uplinks =>
      rw [hsecond] at h
      cases h
      have htells := client.reads_reservations.of_ok (hreservations _ (by simp)) hfirst
      obtain hf | ⟨rows, hrows⟩ := huplinks second (by simp)
      · obtain ⟨task, detail, hr⟩ := client.reads_uplinks.failed _ hf
        rw [hr] at hsecond
        cases hsecond
      · rw [client.reads_uplinks.told _ _ hrows] at hsecond
        cases hsecond
        rw [statusReport_rows]
        have hnone : ∀ x ∈ [(client.reservations.call, first), (client.uplinks.call, second)],
            ¬ x.2.Fails := by
          simpa using ⟨htells.not_fails, hrows.not_fails⟩
        exact {
          asked := by simp
          silent := (tallies_of_tells hnone _ _).silent
          request := by simp
          other := fun _ =>
            ⟨(tallies_of_tells hnone _ _).exit_one, (tallies_of_tells hnone _ _).exit_zero⟩
          conflicts := by simp
          status := fun _ _ => ⟨_, _, rs, rows, rfl, htells, hrows, rfl⟩ }

theorem ends_conflicts {report : Report} {held : List (Call × Reply)}
    (h : (dialogue client .conflicts).heldWith party = (report, held))
    (hx : ∀ x ∈ held, Command.conflicts.Foresees client x) :
    Ends client .conflicts held report := by
  obtain ⟨next, hd, hnext⟩ := single_conflicts client
  obtain ⟨reply, rfl, ht, hend⟩ := hd.tallies h hx
  exact {
    asked := by simp
    silent := ht.silent
    request := by simp
    other := fun _ => ⟨ht.exit_one, ht.exit_zero⟩
    conflicts := fun _ he => by
      obtain ⟨ks, hks, hr⟩ := hend he
      rw [hnext] at hr
      cases hr
      exact ⟨reply, ks, rfl, hks, rfl⟩
    status := by simp }

def requestReport : Except Client.Fault Ipv4.Interface → Report
  | .ok a => succeed (lines [a.text]) []
  | .error f => giveUpRequest f

section Request

variable {room : Json.Room} {reply : Reply}

theorem requestEnds_of_503 (room : Json.Room) (body : Http.Body) :
    RequestEnds room (.answered 503 body)
      (requestReport (readAddress room (.answered 503 body))) := by
  have hfails : (Reply.answered 503 body).Fails := .status (by decide) (by decide)
  rw [readAddress_503]
  cases hb : body.json? room with
  | error f => cases f <;> constructor <;> simp [requestReport, giveUpRequest, giveUp, hb, hfails]
  | ok v => cases v <;> constructor <;> simp [requestReport, giveUpRequest, giveUp, hb, hfails]

theorem requestEnds_of_fails (hf : reply.Fails) (h : ∀ body, reply ≠ .answered 503 body) :
    RequestEnds room reply (requestReport (readAddress room reply)) := by
  obtain ⟨detail, hr⟩ := readAddress_of_fails hf h
  rw [hr]
  constructor <;> simp [requestReport, giveUpRequest, giveUp, hf, h]

theorem requestEnds_of_tells {a : Ipv4.Interface} (h : reply.Tells room (AddressIn · a)) :
    RequestEnds room reply (requestReport (readAddress room reply)) := by
  have hne : ∀ body, reply ≠ .answered 503 body := by
    obtain ⟨body, v, rfl, -⟩ := h
    simp
  rw [readAddress_of_tells h]
  constructor <;> simp [requestReport, succeed, h.not_fails, hne]
  exact ⟨a, h, by simp [lines]⟩

theorem requestEnds (h : reply.Fails ∨ ∃ a, reply.Tells room (AddressIn · a)) :
    RequestEnds room reply (requestReport (readAddress room reply)) := by
  obtain hf | ⟨a, ha⟩ := h
  · by_cases h503 : ∃ body, reply = .answered 503 body
    · obtain ⟨body, rfl⟩ := h503
      exact requestEnds_of_503 room body
    · exact requestEnds_of_fails hf (not_exists.mp h503)
  · exact requestEnds_of_tells ha

end Request

theorem output_requestReport {r : Except Client.Fault Ipv4.Interface}
    (h : (requestReport r).ending ≠ .exit 0) : (requestReport r).output = "" := by
  cases r with
  | ok a => exact absurd rfl h
  | error f =>
    cases f with
    | reservation fault => obtain ⟨_ | _ | _ | _ | _⟩ := fault <;> rfl
    | conflict fault => obtain ⟨_ | _ | _ | _ | _⟩ := fault <;> rfl
    | _ => rfl

theorem dialogue_request (client : Client) (role : Role) (reuseLast : Bool) :
    dialogue client (.request role reuseLast) =
      .hold (client.requestAddress role (.bool reuseLast)) fun r => .done (requestReport r) := by
  rw [dialogue]
  refine congrArg _ (funext fun r => ?_)
  cases r <;> rfl

theorem ends_request {role : Role} {reuseLast : Bool} {report : Report} {held : List (Call × Reply)}
    (h : (dialogue client (.request role reuseLast)).heldWith party = (report, held))
    (hx : ∀ x ∈ held, (Command.request role reuseLast).Foresees client x) :
    Ends client (.request role reuseLast) held report := by
  rw [dialogue_request, Dialogue.heldWith, Dialogue.answeredBy_hold] at h
  cases h
  exact {
    asked := by simp
    silent := output_requestReport
    request := fun role' reuseLast' hc => by
      cases hc
      exact ⟨_, rfl, requestEnds (hx _ (List.mem_singleton_self _))⟩
    other := fun hne => absurd rfl (hne _ _)
    conflicts := by simp
    status := by simp }

theorem ends_dialogue {command : Command} {report : Report} {held : List (Call × Reply)}
    (hgiven : ∀ network given addresses, command = .uplink network given addresses →
      given = none ∨ ∃ t : Transport, given = some (.word t.name))
    (h : (dialogue client command).heldWith party = (report, held))
    (hx : ∀ x ∈ held, command.Foresees client x) : Ends client command held report := by
  cases command with
  | request role reuseLast => exact ends_request h hx
  | release role =>
    obtain ⟨next, hd⟩ := single_release client role
    obtain ⟨reply, rfl, ht, -⟩ := hd.tallies h hx
    exact ends_of_tallies (by simp) ht (by simp) (by simp) (by simp)
  | uplink network given addresses =>
    obtain ⟨transport, next, hd⟩ := single_uplink client network addresses (hgiven _ _ _ rfl)
    obtain ⟨reply, rfl, ht, -⟩ := hd.tallies h hx
    exact ends_of_tallies (by simp) ht (by simp) (by simp) (by simp)
  | dropUplink network =>
    obtain ⟨next, hd⟩ := single_dropUplink client network
    obtain ⟨reply, rfl, ht, -⟩ := hd.tallies h hx
    exact ends_of_tallies (by simp) ht (by simp) (by simp) (by simp)
  | conflicts => exact ends_conflicts h hx
  | status => exact ends_status h hx

/-- A run on arguments that are accepted, with a party that may answer as it likes. If a switch is
given nothing the run breaks before any exchange. Else, if the party only fails or tells what it is
asked for, the run ends as the command does; and a control plane does nothing else. -/
theorem commands_end (room : Json.Room) (server : String) (args : List String) (i : Invocation)
    (hargs : invocation? server args = .ok i) (party : List (Call × Reply) → Call → Reply)
    (report : Report) (held : List (Call × Reply))
    (h : (run room server args).heldWith party = (report, held)) :
    (i.LacksValue → held = [] ∧ report.output = "" ∧ ∃ fault, report.ending = .broken fault) ∧
      ∀ url, i.url = .word url → ¬ i.LacksValue →
        ((∀ x ∈ held, i.command.Foresees (.ofUrl url defaultTimeout room) x) →
          Ends (.ofUrl url defaultTimeout room) i.command held report) ∧
        ∀ s x, i.command.Served (.ofUrl url defaultTimeout room) s x →
          i.command.Foresees (.ofUrl url defaultTimeout room) x := by
  obtain ⟨url, command⟩ := i
  rw [run, hargs] at h
  constructor
  · rintro (rfl | ⟨network, addresses, rfl⟩)
    · cases h
      exact ⟨rfl, rfl, _, rfl⟩
    · cases url with
      | nothing =>
        cases h
        exact ⟨rfl, rfl, _, rfl⟩
      | word url =>
        obtain ⟨fault, ht⟩ : ∃ fault, Transport.ofJson? (.arr []) = .error fault := ⟨_, rfl⟩
        simp only [dialogue, Option.map_some, Value.toJson, Option.getD_some, ht] at h
        cases h
        exact ⟨rfl, rfl, _, rfl⟩
  · rintro url rfl hwhole
    refine ⟨fun hx => ends_dialogue (fun network given addresses hc => ?_) h hx,
      fun _ _ => Command.Served.foresees⟩
    obtain rfl : command = .uplink network given addresses := hc
    obtain hn | rfl | ht := transport_of_invocation? hargs
    · exact .inl hn
    · exact absurd (.inr ⟨network, addresses, rfl⟩) hwhole
    · exact .inr ht

/-- A server without reservations, which is exhausted by the second call. -/
def lateFailure (past : List (Call × Reply)) (_ : Call) : Reply :=
  if past.isEmpty then .answered 200 (.json (.obj [("reservations", .arr [])]))
  else .answered 503 (.text "")

/-- The status is not begun if the second exchange fails. -/
theorem status_withheld :
    let d := (run .usual defaultUrl ["status"]).heldWith lateFailure
    Ends (ofUrl defaultUrl defaultTimeout .usual) .status d.2 d.1 ∧ d.2.length = 2 ∧
      d.1.ending = .exit 1 ∧ d.1.output = "" := by
  have hargs : invocation? defaultUrl ["status"] = .ok ⟨.word defaultUrl, .status⟩ :=
    eq_ok_of_toOption (by decide +kernel)
  have hrun : (run .usual defaultUrl ["status"]).heldWith lateFailure =
      (⟨"", [(.error, "Status Failed: Listing upstreams failed: ")], .exit 1⟩,
        [((ofUrl defaultUrl defaultTimeout .usual).reservations.call,
            .answered 200 (.json (.obj [("reservations", .arr [])]))),
          ((ofUrl defaultUrl defaultTimeout .usual).uplinks.call, .answered 503 (.text ""))]) := by
    rw [run, hargs]
    rfl
  rw [hrun]
  refine ⟨((commands_end .usual defaultUrl ["status"] _ hargs lateFailure _ _ hrun).2 defaultUrl rfl
    ?_).1 ?_, rfl, rfl, rfl⟩
  · rintro (h | ⟨_, _, h⟩) <;> cases h
  · refine List.forall_mem_cons.mpr ⟨.inr ⟨fun _ => ?_, fun h =>
      absurd h (reservations_call_ne _)⟩,
      List.forall_mem_singleton.mpr (.inl (.status (by decide) (by decide)))⟩
    exact ⟨[], _, _, rfl, rfl, [], ⟨_, rfl, rfl⟩, .nil⟩

end CommandLine

namespace Json

namespace Reader

open Text

theorem takeWhile_ones (n : Nat) :
    (List.replicate n '1' ++ ['\x7d']).takeWhile isDecimalDigit = List.replicate n '1' := by
  induction n with
  | zero => rfl
  | succ n ih =>
    rw [List.replicate_succ, List.cons_append, List.takeWhile_cons_of_pos (by decide), ih]

theorem unsigned?_ones {n : Nat} (h : maxDigits < n) :
    unsigned? false (List.replicate n '1' ++ ['\x7d']) = .error (.tooManyDigits ⟨n⟩) := by
  obtain ⟨m, rfl⟩ : ∃ m, n = m + 1 := ⟨n - 1, by omega⟩
  have hw := takeWhile_ones (m + 1)
  rw [List.replicate_succ, List.cons_append] at hw ⊢
  have hd : ('1' :: (List.replicate m '1' ++ ['\x7d'])).drop (m + 1) = ['\x7d'] := by
    rw [List.drop_succ_cons, List.drop_left' (by simp)]
  simp only [unsigned?, hw]
  simp [hd, fraction, exponent, h]

theorem pairs?_eq_error {fuel room : Nat} {cs rest : List Char} {key : String} {e : ReadFault}
    (hk : string? cs = .ok (key, ':' :: rest))
    (hv : value? fuel room (skipBlanks rest) = .error e) :
    pairs? (fuel + 1) room ('"' :: cs) = .error e := by
  have hc : skipBlanks (':' :: rest) = ':' :: rest := rfl
  simp only [pairs?, hk, Except.bind, hc, hv]

end Reader

def usedText (n : Nat) : String :=
  "\x7b\"used\": " ++ String.ofList (List.replicate n '1') ++ "\x7d"

theorem read?_usedText {n room : Nat} (h : Text.maxDigits < n) :
    read? (room + 1) (usedText n) = .error (.tooManyDigits ⟨n⟩) := by
  obtain ⟨m, rfl⟩ : ∃ m, n = m + 1 := ⟨n - 1, by omega⟩
  have hcs : (usedText (m + 1)).toList =
      '\x7b' :: '"' :: 'u' :: 's' :: 'e' :: 'd' :: '"' :: ':' :: ' ' ::
        (List.replicate (m + 1) '1' ++ ['\x7d']) := by
    simp [usedText]
  have hk : Reader.string? ('u' :: 's' :: 'e' :: 'd' :: '"' :: ':' :: ' ' ::
      (List.replicate (m + 1) '1' ++ ['\x7d'])) =
        .ok ("used", ':' :: ' ' :: (List.replicate (m + 1) '1' ++ ['\x7d'])) :=
    rfl
  have hv (fuel : Nat) : Reader.value? (fuel + 1) room (Reader.skipBlanks
      (' ' :: (List.replicate (m + 1) '1' ++ ['\x7d']))) = .error (.tooManyDigits ⟨m + 1⟩) :=
    Reader.unsigned?_ones h
  have hb (cs : List Char) : Reader.skipBlanks ('\x7b' :: cs) = '\x7b' :: cs := rfl
  have ho (fuel : Nat) (cs : List Char) :
      Reader.object? fuel (room + 1) ('"' :: cs) = Reader.pairs? fuel room ('"' :: cs) := rfl
  have hfuel : 2 * (usedText (m + 1)).toList.length < 2 * (usedText (m + 1)).toList.length + 3 := by
    omega
  rw [read?, readChars?_eq_of_lt hfuel, hcs]
  simp only [hb, Reader.value?_brace, ho, Reader.pairs?_eq_error hk (hv _)]
  rfl

end Json

namespace CommandLine

open Client

theorem readAddress_usedText (room : Json.Room) {n : Nat} (h : Text.maxDigits < n) :
    readAddress room (.answered 503 (.text (Json.usedText n))) = .error (.tooManyDigits ⟨n⟩) := by
  obtain ⟨left, hleft⟩ : ∃ left, room.levels = left + 1 :=
    Nat.exists_eq_add_of_le' (Nat.le_trans (by decide) room.three_le)
  rw [readAddress_503, Http.Body.json?, hleft, Json.read?_usedText h]

/-- An exhausted pool is not told as such if the object that says so holds too long a number: the
request ends neither with code 2 nor with code 1. -/
theorem request_breaks :
    let d := (run .usual defaultUrl ["request", "wifi"]).heldWith fun _ _ =>
      .answered 503 (.text (Json.usedText 4301))
    d.2.map Prod.snd = [.answered 503 (.text (Json.usedText 4301))] ∧ d.1.ending ≠ .exit 2 ∧
      d.1.ending ≠ .exit 1 := by
  have hargs : invocation? defaultUrl ["request", "wifi"] =
      .ok ⟨.word defaultUrl, .request .wifi false⟩ :=
    eq_ok_of_toOption (by decide +kernel)
  have hread : readAddress .usual (.answered 503 (.text (Json.usedText 4301))) =
      .error (.tooManyDigits ⟨4301⟩) :=
    readAddress_usedText .usual (by decide)
  have hrun : (run .usual defaultUrl ["request", "wifi"]).heldWith (fun _ _ =>
      .answered 503 (.text (Json.usedText 4301))) =
        (requestReport (readAddress .usual (.answered 503 (.text (Json.usedText 4301)))),
          [(((ofUrl defaultUrl defaultTimeout .usual).requestAddress .wifi (.bool false)).call,
            .answered 503 (.text (Json.usedText 4301)))]) := by
    rw [run, hargs]
    simp only [dialogue_request]
    rfl
  simp only [hrun, hread]
  exact ⟨rfl, by simp [requestReport, giveUpRequest, giveUp],
    by simp [requestReport, giveUpRequest, giveUp]⟩

end CommandLine

end Downlink
