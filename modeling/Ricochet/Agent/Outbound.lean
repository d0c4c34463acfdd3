import Ricochet.Agent.Deadlock

/-! Outbound attempts. The loop starts a connector at its head when no session is adopted and
`shouldMakeOutboundConnections` holds, and the connector returns as soon as it has opened a
protocol session, before any authentication result. A dialed session that then fails
authentication, or disconnects first, never reaches the loop, and its close is ignored because it
was never adopted: nothing wakes the loop, which waits in its `select` with no attempt in
flight. And no step makes a contact REJECTED: a `Rejected` or `Error` answer only stamps
`WhenRejected`, a not-known result is a plain `setConnection` error, and the loop keeps
dialing. -/

namespace Ricochet.Agent

open Contact World

def LoopPc.inSelect : LoopPc → Bool
  | .select _ => true
  | _ => false

/-- The loop waits in its `select` with no session adopted, connections enabled and the contact
not REJECTED, while nothing is in flight towards it: every connector has returned, the goroutine
of every dialed session has exited, no goroutine is blocked sending to the loop, and
`connChannel` is open. -/
def Stalled (w : World) : Prop :=
  w.loop.inSelect = true ∧ w.contact.connection = none ∧ w.contact.connEnabled = true ∧
    w.contact.status ≠ .rejected ∧ (∀ t ∈ w.attempts, t.pc = .done) ∧
    (∀ pr ∈ w.procs, pr.conn.client = true → pr.pc = .exited) ∧
    (∀ pr ∈ w.procs, pr.pc.sendsToLoop = false) ∧ w.chanClosed = false

instance (w : World) : Decidable (Stalled w) :=
  inferInstanceAs (Decidable (w.loop.inSelect = true ∧ w.contact.connection = none ∧
    w.contact.connEnabled = true ∧ w.contact.status ≠ .rejected ∧
    (∀ t ∈ w.attempts, t.pc = .done) ∧
    (∀ pr ∈ w.procs, pr.conn.client = true → pr.pc = .exited) ∧
    (∀ pr ∈ w.procs, pr.pc.sendsToLoop = false) ∧ w.chanClosed = false))

/-- The steps of the outbound side: the loop, the connectors, and the goroutines of dialed
sessions. The others are an inbound session arriving or being processed, and a call of
`StartConnection` or `StopConnection`. -/
def Outbound (w : World) : Action → Prop
  | .loop _ | .deliver _ | .loopChannelClosed | .attemptStart _ | .attemptDialed _
  | .attemptCancelled _ => True
  | .proc i _ | .handle i _ => ∀ pr, w.procs[i]? = some pr → pr.conn.client = true
  | .accept _ | .start | .stop => False

variable {w : World}

/-- A stall lasts until an inbound session or `StopConnection` moves: no step of the outbound
side is enabled. -/
theorem Stalled.outbound_step (h : Stalled w) {a : Action} (ha : Outbound w a) :
    step w a = none := by
  obtain ⟨hsel, -, -, -, hatt, hdialed, hquiet, hopen⟩ := h
  have exited : ∀ {i : Nat} {pr : Proc}, w.procs[i]? = some pr → pr.conn.client = true →
      pr.pc = .exited := fun hi hc => hdialed _ (List.getElem?_mem hi) hc
  have done : ∀ {j : Nat} {t : Attempt}, w.attempts[j]? = some t → t.pc = .done :=
    fun hj => hatt _ (List.getElem?_mem hj)
  cases hs : step w a with
  | none => rfl
  | some w' =>
    exfalso
    cases a with
    | loop now =>
      cases hl : w.loop <;> simp [LoopPc.inSelect, hl] at hsel
      simp [Agent.step, loopStep_of_select hl] at hs
    | deliver i =>
      obtain ⟨-, pr, hi, hpc, -⟩ := deliver_cases hs
      have := hquiet _ (List.getElem?_mem hi)
      rcases hpc with hpc | hpc | hpc <;> simp [hpc, ProcPc.sendsToLoop] at this
    | loopChannelClosed => simp [(loopChannelClosed_cases hs).2.1] at hopen
    | proc i now =>
      obtain ⟨pr, hi, hf, -⟩ := procStep_cases hs
      rw [exited hi (ha pr hi)] at hf; cases hf
    | handle i e =>
      obtain ⟨pr, hi, hidle, -⟩ := handle_cases hs
      rw [exited hi (ha pr hi)] at hidle; cases hidle
    | attemptStart j =>
      obtain ⟨⟨t, hj, hst⟩, -⟩ := attemptStart_cases hs
      rw [done hj] at hst; cases hst
    | attemptDialed j =>
      obtain ⟨⟨t, hj, _, hd⟩, -⟩ := attemptDialed_cases hs
      rw [done hj] at hd; cases hd
    | attemptCancelled j =>
      obtain ⟨⟨t, hj, _, hd⟩, -⟩ := attemptCancelled_cases hs
      rw [done hj] at hd; cases hd
    | accept conn => exact ha.elim
    | start => exact ha.elim
    | stop => exact ha.elim

/-- The loop dials the contact and the dialed session fails authentication. -/
def failedAuthentication : List Action :=
  [.loop sampleNow, .attemptStart 0, .attemptDialed 0, .handle 0 (.authResult false false),
    .handle 0 .disconnect, .proc 0 sampleNow]

/-- A failed authentication stalls the agent: the loop waits with no live connector and nothing in
flight towards it, and no step of the outbound side is ever enabled again. -/
theorem failed_outbound_stalls :
    ∃ w, Reachable (init sampleContact sampleLabel) w ∧ Stalled w ∧
      ∀ a, Outbound w a → step w a = none := by
  have hrun : (run (init sampleContact sampleLabel) failedAuthentication).map
      (fun w => decide (Stalled w)) = some true := by decide
  obtain ⟨w, hw, hs⟩ := Option.map_eq_some'.mp hrun
  have hs : Stalled w := of_decide_eq_true hs
  exact ⟨w, run_reachable .init hw, hs, fun _ => hs.outbound_step⟩

/-! ### Rejection -/

/-- The status `ContactFromConfig` derives from a pending request: REJECTED once `WhenRejected`
is set, REQUEST before. -/
def StatusDerived (c : Contact) : Prop :=
  c.data.request.pending = true →
    c.status = if c.data.request.whenRejected ≠ "" then .rejected else .request

instance (c : Contact) : Decidable (StatusDerived c) :=
  inferInstanceAs (Decidable (c.data.request.pending = true →
    c.status = if c.data.request.whenRejected ≠ "" then .rejected else .request))

theorem contactFromConfig_statusDerived {isOnionValid : String → Bool} {id : Int}
    {data : ConfigContact} {c : Contact} (h : contactFromConfig isOnionValid id data = .ok c) :
    StatusDerived c := by
  unfold contactFromConfig at h
  split_ifs at h <;> cases h <;> simp_all [StatusDerived]

/-- A pending outbound request, not delivered yet. -/
def pendingData : ConfigContact :=
  ⟨"bbbbbbbbbbbbbbbb.onion", "", "", "", ⟨true, "", "", "", "alice", "hello"⟩⟩

def pendingContact : Contact :=
  ⟨0, pendingData, .request, false, none, none, none, none, 0, false⟩

theorem pendingContact_fromConfig :
    contactFromConfig (fun _ => true) 0 pendingData = .ok pendingContact := rfl

/-- The loop dials the contact, whose session says this side is not a known contact. -/
def notKnownOutbound : List Action :=
  [.loop sampleNow, .attemptStart 0, .attemptDialed 0, .handle 0 (.authResult true false),
    .proc 0 sampleNow, .deliver 0, .loop sampleNow, .loop sampleNow, .loop sampleNow,
    .loop sampleNow]

/-- Rejection is neither tracked nor honoured: the answer `Rejected` leaves a REQUEST contact's
status, and after an outbound session says we are unknown the loop dials again. -/
theorem rejection_not_honoured :
    (∃ c, contactFromConfig (fun _ => true) 0 pendingData = .ok c ∧ StatusDerived c ∧
      c.status = .request ∧
      ¬ StatusDerived (c.UpdateContactRequest "Rejected" sampleNow).contact) ∧
    (∃ w, Reachable (init sampleContact sampleLabel) w ∧ w.contact.status = .unknown ∧
      w.loop = .select (some 1) ∧ w.attempts.map (·.pc) = [.done, .start]) := by
  refine ⟨⟨pendingContact, pendingContact_fromConfig,
    contactFromConfig_statusDerived pendingContact_fromConfig, rfl, by decide⟩, ?_⟩
  have hrun : (run (init sampleContact sampleLabel) notKnownOutbound).map
      (fun w => (w.contact.status, w.loop, w.attempts.map (·.pc))) =
      some (.unknown, .select (some 1), [.done, .start]) := by decide
  obtain ⟨w, hw, he⟩ := Option.map_eq_some'.mp hrun
  simp only [Prod.mk.injEq] at he
  exact ⟨w, run_reachable .init hw, he⟩

end Ricochet.Agent
