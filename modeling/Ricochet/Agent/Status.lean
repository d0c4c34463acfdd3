import Ricochet.Agent.Connectors
import Ricochet.Agent.Lifecycle

/-! The contact's status along every run. Only the loop writes `c.connection`, and the status a
contact shows is set by `ContactFromConfig`, `setConnection`, `clearConnection` and
`updateContactRequest` only; it stays derived from the rest of the contact: ONLINE exactly when a
session is adopted and no request is pending, REQUEST or REJECTED only while a request is
pending. A request, once no longer pending, never is again, so a contact whose request has been
accepted never shows REQUEST or REJECTED again. Once the loop has run its final
`clearConnection(nil)` and returned, no session is adopted and the contact is not ONLINE, in
every later state. -/

namespace Ricochet

namespace Contact

/-- The status a contact shows agrees with its connection and its request. -/
structure StatusAgrees (c : Contact) : Prop where
  online : c.status = .online ↔ c.connection ≠ none ∧ c.data.request.pending = false
  request : c.status = .request ∨ c.status = .rejected → c.data.request.pending = true

variable {c c' : Contact} {conns : Nat → OpenConnection} {now : Instant}

theorem StatusAgrees.congr (h : StatusAgrees c) (hs : c'.status = c.status)
    (hc : c'.connection = c.connection)
    (hp : c'.data.request.pending = c.data.request.pending) : StatusAgrees c' :=
  ⟨by rw [hs, hc, hp]; exact h.online, by rw [hs, hp]; exact h.request⟩

theorem StatusAgrees.ofConfig {isOnionValid : String → Bool} {id : Int} {data : ConfigContact}
    (hc : contactFromConfig isOnionValid id data = .ok c) : StatusAgrees c := by
  unfold contactFromConfig at hc
  split_ifs at hc <;> cases hc <;> exact ⟨by simp_all, by simp_all⟩

/-- The adoption half of `setConnection`: ONLINE with no request pending, or, for a dialed session
while a request is pending, the request and status kept and the request sent. -/
theorem assignConnection_status (c : Contact) (conns : Nat → OpenConnection) (p : Nat)
    (now : Instant) :
    (c.assignConnection conns p now).1.connection = some p ∧
      ((c.assignConnection conns p now).1.data.request.pending = false ∧
          (c.assignConnection conns p now).1.status = .online ∨
        (c.assignConnection conns p now).1.data.request = c.data.request ∧
          (c.assignConnection conns p now).1.status = c.status ∧
          c.data.request.pending = true ∧ (conns p).client = true) := by
  unfold assignConnection
  dsimp only
  split_ifs with hp hk
  · exact ⟨rfl, .inr ⟨rfl, rfl, hp, (Bool.and_eq_true _ _).mp hk |>.1⟩⟩
  · exact ⟨rfl, .inl ⟨rfl, rfl⟩⟩
  · exact ⟨rfl, .inl ⟨by simpa using hp, rfl⟩⟩

theorem setConnection_contact_cases (c : Contact) (conns : Nat → OpenConnection) (p : Nat)
    (now : Instant) :
    (c.setConnection conns p now).contact = c ∨
      ∃ c₀ : Contact, c₀.status = c.status ∧ c₀.data = c.data ∧
        (c.setConnection conns p now).contact = (c₀.assignConnection conns p now).1 := by
  unfold setConnection
  dsimp only
  split_ifs <;> try exact .inl rfl
  all_goals split <;> first | exact .inl rfl | exact .inr ⟨_, rfl, rfl, rfl⟩

theorem StatusAgrees.setConnection (h : StatusAgrees c) (p : Nat) :
    StatusAgrees (c.setConnection conns p now).contact := by
  rcases setConnection_contact_cases c conns p now with he | ⟨c₀, hs, hd, he⟩
  · rwa [he]
  rw [he]
  obtain ⟨hconn, ⟨hp, hon⟩ | ⟨hreq, hst, hpend, -⟩⟩ := assignConnection_status c₀ conns p now
  · exact ⟨by simp [hconn, hp, hon], fun hr => by rw [hon] at hr; simp at hr⟩
  · -- the request stays pending: the contact was not ONLINE, and is not now
    rw [hd] at hreq hpend
    have hp' : (c₀.assignConnection conns p now).1.data.request.pending = true := by
      rw [hreq, hpend]
    refine ⟨?_, fun _ => hp'⟩
    rw [hst, hs, hconn, hp']
    exact ⟨fun hon => absurd (h.online.mp hon).2 (by rw [hpend]; nofun), fun ⟨_, hf⟩ => nomatch hf⟩

theorem StatusAgrees.clearConnection (h : StatusAgrees c) (ifConn : Option Nat) :
    StatusAgrees (c.clearConnection conns ifConn now).contact := by
  rcases (clearConnection_spec c conns ifConn now).2 with he | ⟨hn, hs⟩
  · rwa [he]
  · exact ⟨by simp [hn, hs], fun hr => by rw [hs] at hr; simp at hr⟩

@[simp] theorem clearConnection_none_connection :
    (c.clearConnection conns none now).contact.connection = none := by
  unfold clearConnection
  split <;> simp [*]

theorem StatusAgrees.answerRequest (h : StatusAgrees c) (status : String) (now : Instant) :
    StatusAgrees (c.answerRequest status now) := by
  obtain ⟨-, hconn, hother, haccepted⟩ := answerRequest_spec c status now
  by_cases hs : status = "Accepted"
  · obtain ⟨hp, hst⟩ := haccepted hs
    constructor <;> simp only [hst, hconn, hp] <;> cases c.connection <;> simp
  · obtain ⟨hst, hp⟩ := hother hs
    exact h.congr hst hconn hp

theorem setConnection_status_rejected (p : Nat)
    (h : (c.setConnection conns p now).contact.status = .rejected) (hcl : (conns p).client = false) :
    (c.setConnection conns p now).contact = c := by
  rcases setConnection_contact_cases c conns p now with he | ⟨c₀, -, -, he⟩
  · exact he
  rw [he] at h
  rcases (assignConnection_status c₀ conns p now).2 with ⟨-, hon⟩ | ⟨-, -, -, hc⟩
  · rw [hon] at h; cases h
  · rw [hcl] at hc; cases hc

@[simp] theorem clearConnection_request (ifConn : Option Nat) :
    (c.clearConnection conns ifConn now).contact.data.request = c.data.request := by
  unfold clearConnection; split <;> (try split_ifs) <;> rfl

theorem setConnection_pending (p : Nat)
    (h : (c.setConnection conns p now).contact.data.request.pending = true) :
    c.data.request.pending = true := by
  rcases setConnection_contact_cases c conns p now with he | ⟨c₀, -, hd, he⟩
  · rwa [he] at h
  rw [he] at h
  rcases (assignConnection_status c₀ conns p now).2 with ⟨hp, -⟩ | ⟨hreq, -⟩
  · rw [hp] at h; cases h
  · rwa [hreq, hd] at h

theorem answerRequest_pending (status : String)
    (h : (c.answerRequest status now).data.request.pending = true) :
    c.data.request.pending = true := by
  obtain ⟨-, -, hother, haccepted⟩ := answerRequest_spec c status now
  by_cases hs : status = "Accepted"
  · rw [(haccepted hs).1] at h; cases h
  · rwa [(hother hs).2] at h

end Contact

namespace Agent

open Contact World

variable {w w' : World}

/-! ### How a step changes the contact -/

/-- A step changes the contact only through its methods: `setConnection`, `clearConnection`,
`OnConnectionAuthenticated`'s note, `updateContactRequest`, `StartConnection`, `StopConnection`. -/
theorem step_contact {a : Action} (hs : step w a = some w') :
    w'.contact = w.contact ∨
      (∃ now, a = .loop now ∧ ((∃ p, w'.contact = (w.contact.setConnection w.conns p now).contact) ∨
        w'.contact = (w.contact.clearConnection w.conns none now).contact)) ∨
      (∃ conn known, w'.contact = w.contact.noteAuthenticated conn known) ∨
      (∃ status now, w'.contact = w.contact.answerRequest status now) ∨
      ∃ e ch cch st, w'.contact = { w.contact with
        connEnabled := e, connChannel := ch, connClosedChannel := cch, connStopped := st } := by
  cases a with
  | loop now =>
    obtain ⟨-, -, -, -, hc | ⟨-, hc⟩⟩ := loopStep_cases hs
    · exact .inl hc
    · exact .inr (.inl ⟨now, rfl, hc⟩)
  | deliver i =>
    simp only [Agent.step] at hs
    unfold World.deliver at hs
    split at hs
    next b _ _ _ => split at hs <;> cases hs <;> exact .inl (by simp)
    · cases hs
  | loopChannelClosed => exact .inl (loopChannelClosed_cases hs).2.2.1
  | proc i now =>
    obtain ⟨_, _, -, -, -, -, -, -, -, -, hc | ⟨_, hc⟩ | ⟨_, hc⟩⟩ := procStep_frame hs
    · exact .inl hc
    · exact .inr (.inr (.inl ⟨_, _, hc⟩))
    · exact .inr (.inr (.inr (.inl ⟨_, _, hc⟩)))
  | handle i e =>
    obtain ⟨-, -, -, rfl | ⟨pr', rfl, -, -⟩⟩ := handle_cases hs <;> exact .inl rfl
  | accept conn =>
    obtain ⟨-, -, -, hc, -⟩ := accept_cases hs
    exact .inl hc
  | attemptStart j => exact .inl (attemptStart_cases hs).2.2.1
  | attemptDialed j =>
    obtain ⟨-, -, -, -, hc, -⟩ := attemptDialed_cases hs
    exact .inl hc
  | attemptCancelled j => exact .inl (attemptCancelled_cases hs).2.1
  | start =>
    obtain ⟨-, ⟨-, rfl⟩ | ⟨he, rfl⟩⟩ := startStep_cases hs
    · exact .inl rfl
    · exact .inr (.inr (.inr (.inr ⟨true, some 0, some 0, some 0, by
        simp [Contact.startConnection, he]⟩)))
  | stop =>
    obtain ⟨-, -, ⟨-, hc⟩ | ⟨-, -, hc⟩ | ⟨-, -, hc⟩⟩ := stopStep_cases hs
    · exact .inl hc
    · exact .inl hc
    · exact .inr (.inr (.inr (.inr ⟨_, _, _, _, hc⟩)))

/-- Only the loop writes `c.connection`, as `contactConnection`'s comment requires. -/
theorem connection_written_by_loop {a : Action} (hs : step w a = some w')
    (h : w'.contact.connection ≠ w.contact.connection) : ∃ now, a = .loop now := by
  rcases step_contact hs with hc | ⟨now, ha, -⟩ | ⟨conn, known, hc⟩ | ⟨st, now, hc⟩ | ⟨_, _, _, _, hc⟩
  · exact absurd (by rw [hc]) h
  · exact ⟨now, ha⟩
  · exact absurd (by rw [hc]; simp) h
  · exact absurd (by rw [hc]; exact (answerRequest_spec _ st now).2.1) h
  · exact absurd (by rw [hc]) h

/-! ### The status over every run -/

theorem statusAgrees_step (h : StatusAgrees w.contact) {a : Action}
    (hs : step w a = some w') : StatusAgrees w'.contact := by
  rcases step_contact hs with hc | ⟨now, -, ⟨p, hc⟩ | hc⟩ | ⟨conn, known, hc⟩ | ⟨st, now, hc⟩ | ⟨_, _, _, _, hc⟩ <;>
    rw [hc]
  · exact h
  · exact h.setConnection p
  · exact h.clearConnection none
  · exact h.congr (by simp) (by simp) (by simp)
  · exact h.answerRequest st now
  · exact h.congr rfl rfl rfl

theorem statusAgrees_reachable {isOnionValid : String → Bool} {id : Int} {data : ConfigContact}
    {c : Contact} (hc : contactFromConfig isOnionValid id data = .ok c) {myLabel : String}
    (hr : Reachable (init c myLabel) w) : StatusAgrees w.contact := by
  induction hr with
  | init => exact (StatusAgrees.ofConfig hc).congr (by simp [init]) (by simp [init]) (by simp [init])
  | step a _ hs ih => exact statusAgrees_step ih hs

/-- The status of a loaded contact stays derived in every reachable state: ONLINE exactly when a
session is adopted and no request is pending, REQUEST or REJECTED only while one is. -/
theorem status_derived_reachable {isOnionValid : String → Bool} {id : Int} {data : ConfigContact}
    {c : Contact} (hc : contactFromConfig isOnionValid id data = .ok c) {myLabel : String}
    (hr : Reachable (init c myLabel) w) :
    (w.contact.status = .online ↔
        w.contact.connection ≠ none ∧ w.contact.data.request.pending = false) ∧
      (w.contact.status = .request ∨ w.contact.status = .rejected →
        w.contact.data.request.pending = true) :=
  ⟨(statusAgrees_reachable hc hr).online, (statusAgrees_reachable hc hr).request⟩

/-- The contact adopts the session it dialed and goes ONLINE. -/
theorem status_derived_reachable_after_outbound_adoption :
    ∃ w, Reachable (init sampleContact sampleLabel) w ∧ w.contact.status = .online ∧
      (w.contact.status = .online ↔
          w.contact.connection ≠ none ∧ w.contact.data.request.pending = false) ∧
        (w.contact.status = .request ∨ w.contact.status = .rejected →
          w.contact.data.request.pending = true) := by
  have hrun : (run (init sampleContact sampleLabel) outboundAdoption).map (·.contact.status) =
      some .online := by decide
  obtain ⟨w, hw, he⟩ := Option.map_eq_some'.mp hrun
  have hr := run_reachable .init hw
  exact ⟨w, hr, he, status_derived_reachable sampleContact_fromConfig hr⟩

/-! ### Resolved requests -/

/-- No step makes a request pending. -/
theorem pending_of_step {a : Action} (hs : step w a = some w')
    (h : w'.contact.data.request.pending = true) : w.contact.data.request.pending = true := by
  rcases step_contact hs with hc | ⟨now, -, ⟨p, hc⟩ | hc⟩ | ⟨conn, known, hc⟩ | ⟨st, now, hc⟩ | ⟨_, _, _, _, hc⟩ <;>
    rw [hc] at h
  · exact h
  · exact setConnection_pending p h
  · simpa using h
  · simpa using h
  · exact answerRequest_pending st h
  · exact h

/-- A contact request, once no longer pending, is never revived: along every later run no
request is pending, and the contact shows neither REQUEST nor REJECTED again. -/
theorem resolved_request_stays_resolved {isOnionValid : String → Bool} {id : Int}
    {data : ConfigContact} {c : Contact} (hc : contactFromConfig isOnionValid id data = .ok c)
    {myLabel : String} (hr : Reachable (init c myLabel) w)
    (hp : w.contact.data.request.pending = false) {as : List Action} (hrun : run w as = some w') :
    w'.contact.data.request.pending = false ∧ w'.contact.status ≠ .request ∧
      w'.contact.status ≠ .rejected := by
  have hp' : w'.contact.data.request.pending = false :=
    run_invariant (P := fun v => v.contact.data.request.pending = false)
      (fun h hs => Bool.eq_false_iff.mpr fun h' => absurd (pending_of_step hs h') (by simpa using h))
      hp hrun
  have h := statusAgrees_reachable hc (run_reachable hr hrun)
  refine ⟨hp', fun hs => ?_, fun hs => ?_⟩ <;> rw [h.request (by simp [hs])] at hp' <;> cases hp'

/-- A pending request accepted by adopting an inbound session from the contact. -/
def inboundAcceptance : List Action :=
  [.loop sampleNow, .accept sampleInbound, .handle 0 (.authProof true true), .proc 0 sampleNow,
    .deliver 0, .loop sampleNow, .loop sampleNow]

/-- After the acceptance the session disconnects and the loop clears it. -/
theorem resolved_request_stays_resolved_after_disconnect :
    ∃ w w', Reachable (init pendingContact sampleLabel) w ∧
      w.contact.data.request.pending = false ∧
      run w [.loop sampleNow, .loop sampleNow, .loop sampleNow, .handle 0 .disconnect,
        .proc 0 sampleNow, .deliver 0, .loop sampleNow] = some w' ∧
      (w'.contact.data.request.pending = false ∧ w'.contact.status ≠ .request ∧
        w'.contact.status ≠ .rejected) := by
  have hrun : (run (init pendingContact sampleLabel) inboundAcceptance).map
      (·.contact.data.request.pending) = some false := by decide
  obtain ⟨w, hw, hp⟩ := Option.map_eq_some'.mp hrun
  have hlater : ((run (init pendingContact sampleLabel) inboundAcceptance).bind
      (run · [.loop sampleNow, .loop sampleNow, .loop sampleNow, .handle 0 .disconnect,
        .proc 0 sampleNow, .deliver 0, .loop sampleNow])).isSome = true := by decide
  rw [hw, Option.some_bind] at hlater
  obtain ⟨w', hw'⟩ := Option.isSome_iff_exists.mp hlater
  have hr := run_reachable .init hw
  exact ⟨w, w', hr, hp, hw', resolved_request_stays_resolved pendingContact_fromConfig hr hp hw'⟩

/-! ### After the loop has returned -/

/-- The loop has run its final `clearConnection(nil)`. -/
def LoopPc.cleared : LoopPc → Bool
  | .exitPublish | .exited => true
  | _ => false

theorem loopStep_cleared {now : Instant} (hs : w.loopStep now = some w')
    (h : w'.loop.cleared = true) :
    w.loop.cleared = true ∧ w'.contact = w.contact ∨ w'.contact.connection = none := by
  unfold World.loopStep at hs
  split at hs
  next => split_ifs at hs <;> cases hs <;> cases h -- top
  next => cases hs -- select
  next => cases hs -- exited
  next => cases hs -- unspawned
  next => split_ifs at hs; cases hs; cases h -- adopt
  next => -- assign
    split_ifs at hs
    dsimp only at hs
    split at hs <;> cases hs <;> cases h
  next => split_ifs at hs; cases hs; cases h -- publish
  next => split_ifs at hs; cases hs; cases h -- drain
  next => split_ifs at hs <;> cases hs <;> cases h -- discard
  next => split_ifs at hs; cases hs; revert h; split <;> nofun -- closed
  next => split_ifs at hs; cases hs; cases h -- clearPublish
  next => split_ifs at hs; cases hs; cases h -- exiting
  next => split_ifs at hs; cases hs; exact .inr (by simp) -- exitClear
  next hl => split_ifs at hs; cases hs; exact .inl ⟨by rw [hl]; rfl, rfl⟩ -- exitPublish

theorem step_loop {a : Action} (hs : step w a = some w') :
    (∃ now, a = .loop now) ∨ w'.loop = w.loop ∨ w'.loop.cleared = false := by
  cases a with
  | loop now => exact .inl ⟨now, rfl⟩
  | deliver i =>
    simp only [Agent.step] at hs
    unfold World.deliver at hs
    split at hs
    next => split at hs <;> cases hs <;> exact .inr (.inr (by simp [LoopPc.cleared]))
    · cases hs
  | loopChannelClosed => exact .inr (.inr (by rw [(loopChannelClosed_cases hs).2.2.2.2.2]; rfl))
  | proc i now =>
    obtain ⟨_, _, -, -, -, hl, -⟩ := procStep_frame hs
    exact .inr (.inl hl)
  | handle i e =>
    obtain ⟨-, -, -, rfl | ⟨pr', rfl, -, -⟩⟩ := handle_cases hs <;> exact .inr (.inl rfl)
  | accept conn =>
    obtain ⟨-, -, -, -, -, hl⟩ := accept_cases hs
    exact .inr (.inl hl)
  | attemptStart j => exact .inr (.inl (attemptStart_cases hs).2.2.2.2.2)
  | attemptDialed j =>
    obtain ⟨-, -, -, -, -, -, hl⟩ := attemptDialed_cases hs
    exact .inr (.inl hl)
  | attemptCancelled j => exact .inr (.inl (attemptCancelled_cases hs).2.2.2.2)
  | start =>
    obtain ⟨-, ⟨-, rfl⟩ | ⟨-, rfl⟩⟩ := startStep_cases hs
    · exact .inr (.inl rfl)
    · exact .inr (.inr rfl)
  | stop => exact .inr (.inl (stopStep_cases hs).2.1)

/-- Once the loop has run its final `clearConnection(nil)`, the contact has no connection. -/
def ExitCleared (w : World) : Prop :=
  w.loop.cleared = true → w.contact.connection = none

theorem ExitCleared.step (h : ExitCleared w) {a : Action} (hs : Agent.step w a = some w') :
    ExitCleared w' := by
  intro hcl
  have hloop : ∀ now, a = .loop now → w'.contact.connection = none := by
    rintro now rfl
    rcases loopStep_cleared hs hcl with ⟨hw, hc⟩ | hn
    · rw [hc]; exact h hw
    · exact hn
  -- only the loop writes the connection, and only its passes reach the last two states
  rcases step_loop hs with ⟨now, ha⟩ | hl | hf
  · exact hloop now ha
  · by_cases hc : w'.contact.connection = w.contact.connection
    · rw [hc]; exact h (hl ▸ hcl)
    · obtain ⟨now, ha⟩ := connection_written_by_loop hs hc
      exact hloop now ha
  · rw [hf] at hcl; cases hcl

theorem ExitCleared.reachable {c : Contact} {myLabel : String}
    (hr : Reachable (init c myLabel) w) : ExitCleared w := by
  induction hr with
  | init => exact nofun
  | step a _ hs ih => exact ih.step hs

/-- After `contactConnection` has returned, along every later run the loop stays exited, no session
is adopted, and the status is not ONLINE. -/
theorem exited_contact_stays_offline {isOnionValid : String → Bool} {id : Int}
    {data : ConfigContact} {c : Contact} (hc : contactFromConfig isOnionValid id data = .ok c)
    {myLabel : String} (hr : Reachable (init c myLabel) w) (hl : w.loop = .exited)
    {as : List Action} (hrun : run w as = some w') :
    w'.loop = .exited ∧ w'.contact.connection = none ∧ w'.contact.status ≠ .online := by
  have hr' := run_reachable hr hrun
  have hl' := exited_run (Lifecycle.reachable hr) hrun hl
  have hn : w'.contact.connection = none := ExitCleared.reachable hr' (by rw [hl']; rfl)
  exact ⟨hl', hn, fun hon => ((statusAgrees_reachable hc hr').online.mp hon).1 hn⟩

/-- The adopted session, then `StopConnection` until the loop has returned. -/
def stopAfterAdoption : List Action :=
  outboundAdoption ++
    [.stop, .stop, .loopChannelClosed, .loop sampleNow, .loop sampleNow, .loop sampleNow]

/-- The session that was adopted before the stop disconnects afterwards. -/
theorem exited_contact_stays_offline_after_disconnect :
    ∃ w w', Reachable (init sampleContact sampleLabel) w ∧ w.loop = .exited ∧
      run w [.stop, .handle 0 .disconnect, .proc 0 sampleNow] = some w' ∧
      (w'.loop = .exited ∧ w'.contact.connection = none ∧ w'.contact.status ≠ .online) := by
  have hrun : (run (init sampleContact sampleLabel) stopAfterAdoption).map (·.loop) =
      some .exited := by decide
  obtain ⟨w, hw, hl⟩ := Option.map_eq_some'.mp hrun
  have hlater : ((run (init sampleContact sampleLabel) stopAfterAdoption).bind
      (run · [.stop, .handle 0 .disconnect, .proc 0 sampleNow])).isSome = true := by decide
  rw [hw, Option.some_bind] at hlater
  obtain ⟨w', hw'⟩ := Option.isSome_iff_exists.mp hlater
  have hr := run_reachable .init hw
  exact ⟨w, w', hr, hl, hw', exited_contact_stays_offline sampleContact_fromConfig hr hl hw'⟩

end Agent

end Ricochet
