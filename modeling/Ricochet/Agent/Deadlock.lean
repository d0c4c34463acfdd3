import Ricochet.Agent.Safety

/-! Deadlock of the agent. `OnConnectionAuthenticated` and `OnConnectionClosed` keep `c.mutex`
while they send to the loop on an unbuffered channel, and the loop takes `c.mutex` outside its
`select`: at its head in `shouldMakeOutboundConnections`, and in `setConnection`,
`clearConnection`, `Address`, `Data` and `Conversation`. A sender that takes the mutex while the
loop is outside its `select` waits for a loop that waits for it. Once there, nothing moves the
loop or frees the mutex again. -/

namespace Ricochet.Agent

open Contact World

/-- Whether the loop at this point waits to take `c.mutex`. At its head it calls
`shouldMakeOutboundConnections` only when no session is adopted. -/
def LoopPc.waitsForMutex (connected : Bool) : LoopPc → Bool
  | .top => !connected
  | .unspawned | .select _ | .exited => false
  | _ => true

/-- A protocol goroutine blocked in a send to the loop. -/
def ProcPc.sendsToLoop : ProcPc → Bool
  | .sending | .signalling | .resending => true
  | _ => false

/-- The loop waits for `c.mutex`, which protocol goroutine `i` holds while it is blocked
sending to the loop. -/
def Deadlock (w : World) : Prop :=
  w.loop.waitsForMutex w.contact.connection.isSome = true ∧
    ∃ i pc, w.mutex = some (.proc i) ∧ w.pcOf i = some pc ∧ pc.sendsToLoop = true

variable {w w' : World} {now : Instant}

theorem loopStep_none_of_waits (hl : w.loop.waitsForMutex w.contact.connection.isSome = true)
    (hm : w.mutex.isSome = true) : w.loopStep now = none := by
  unfold World.loopStep
  split <;> simp_all [LoopPc.waitsForMutex]

/-- What one step can do in a deadlock once `StartConnection` has run: no step moves the loop or
frees the mutex, and the holder stays blocked in its send. -/
theorem Deadlock.step (h : Deadlock w) (hg : Guarded w) {a : Action} (hs : step w a = some w') :
    Deadlock w' ∧ w'.loop = w.loop ∧ w'.mutex = w.mutex := by
  obtain ⟨hl, i, pc, hm, hpc, hsend⟩ := h
  have hsome : w.mutex.isSome = true := by simp [hm]
  have hselect : ∀ a, w.loop ≠ .select a := fun a he => by simp [he, LoopPc.waitsForMutex] at hl
  -- a step that keeps the loop, the mutex, the adopted session and the holder's place
  have keep : a.mover ≠ some i → w'.contact.connection = w.contact.connection → w'.loop = w.loop →
      w'.mutex = w.mutex → Deadlock w' ∧ w'.loop = w.loop ∧ w'.mutex = w.mutex :=
    fun hmv hc hl' hm' => ⟨⟨by rw [hl', hc]; exact hl, i, pc, by rw [hm', hm],
      step_pcOf_of_ne hs hmv hpc, hsend⟩, hl', hm'⟩
  -- a goroutine that sends nothing to the loop is not the holder
  have other : ∀ {j pr}, w.procs[j]? = some pr → pr.pc.sendsToLoop = false → some j ≠ some i := by
    rintro j pr hj hf ⟨⟩
    simp [pcOf, hj] at hpc
    simp [← hpc, hf] at hsend
  cases a with
  | loop now => simp [Agent.step, loopStep_none_of_waits hl hsome] at hs
  | deliver j => obtain ⟨⟨_, he⟩, -⟩ := deliver_cases hs; exact absurd he (hselect _)
  | loopChannelClosed =>
    obtain ⟨⟨_, he⟩, -⟩ := loopChannelClosed_cases hs; exact absurd he (hselect _)
  | proc j now =>
    obtain ⟨pr, hj, -, hfree | hpc' | ⟨⟨k, hk⟩, hm'⟩, -⟩ := procStep_cases hs
    · simp [hfree] at hm
    · -- no goroutine past the guard reaches the second `Unlock`
      obtain ⟨⟨k, hk⟩, -⟩ := hg.pastGuard j .unlocking (by simp [pcOf, hj, hpc']) rfl
      cases hk
    · -- the re-read of `connChannel` keeps the mutex, and its goroutine is not the holder
      obtain ⟨_, _, -, -, -, hl', -, -, -, -, hc⟩ := procStep_frame hs
      exact keep (other hj (by simp [hk, ProcPc.sendsToLoop]))
        (by rcases hc with hc | ⟨_, hc⟩ | ⟨_, hc⟩ <;> simp [hc]) hl' hm'
  | handle j e =>
    obtain ⟨pr, hj, hidle, hw'⟩ := handle_cases hs
    have hij := other hj (by simp [hidle, ProcPc.sendsToLoop])
    rcases hw' with rfl | ⟨pr', rfl, -⟩ <;> exact keep hij rfl rfl rfl
  | accept conn =>
    obtain ⟨x, -, -, hc, hm', hl'⟩ := accept_cases hs
    exact keep nofun (by rw [hc]) hl' hm'
  | attemptStart j => simp [(attemptStart_cases hs).2.1] at hm
  | attemptDialed j =>
    obtain ⟨-, x, -, -, hc, hm', hl'⟩ := attemptDialed_cases hs
    exact keep nofun (by rw [hc]) hl' hm'
  | attemptCancelled j =>
    obtain ⟨-, hc, hm', -, hl'⟩ := attemptCancelled_cases hs
    exact keep nofun (by rw [hc]) hl' hm'
  | start => simp [(startStep_cases hs).1] at hm
  | stop =>
    obtain ⟨-, hl', ⟨hm', hc⟩ | ⟨hfree, -⟩ | ⟨hfree, -⟩⟩ := stopStep_cases hs
    · exact keep nofun (by rw [hc]) hl' hm'
    all_goals simp [hfree] at hm

/-- A deadlock lasts: along every run from a deadlocked state the loop stays where it is and
the mutex keeps its holder. -/
theorem Deadlock.run (h : Deadlock w) (hg : Guarded w) {as : List Action}
    (hr : run w as = some w') : Deadlock w' ∧ w'.loop = w.loop ∧ w'.mutex = w.mutex :=
  (run_invariant (P := fun v => Deadlock v ∧ Guarded v ∧ v.loop = w.loop ∧ v.mutex = w.mutex)
    (fun ⟨h, hg, hl, hm⟩ hs => let ⟨h', hl', hm'⟩ := h.step hg hs
      ⟨h', hg.step hs, hl'.trans hl, hm'.trans hm⟩)
    ⟨h, hg, rfl, rfl⟩ hr).imp_right And.right

/-- An inbound session from the contact authenticates while the loop is at its head. -/
def inboundAtHead : List Action :=
  [.accept sampleInbound, .handle 0 (.authProof true true), .proc 0 sampleNow]

/-- The loop adopts a first inbound session; a second one authenticates while `setConnection`
is between its body and its `c.Data()`. -/
def inboundDuringAdoption : List Action :=
  [.accept sampleInbound, .handle 0 (.authProof true true), .loop sampleNow, .proc 0 sampleNow,
    .deliver 0, .loop sampleNow, .loop sampleNow, .accept sampleInbound,
    .handle 1 (.authProof true true), .proc 1 sampleNow]

/-- The agent deadlocks for good: an inbound session that authenticates while the loop is at its
head, or adopting another session, takes `c.mutex` and blocks in its send. -/
theorem agent_deadlocks :
    (∃ w, Reachable (init sampleContact sampleLabel) w ∧ Deadlock w ∧ w.loop = .top ∧
      ∀ as w', run w as = some w' → w'.loop = .top ∧ w'.mutex = w.mutex) ∧
    (∃ w, Reachable (init sampleContact sampleLabel) w ∧ Deadlock w ∧ w.loop = .publish 0 ∧
      ∀ as w', run w as = some w' → w'.loop = .publish 0 ∧ w'.mutex = w.mutex) := by
  have head : (run (init sampleContact sampleLabel) inboundAtHead).map
      (fun w => (w.loop, w.loop.waitsForMutex w.contact.connection.isSome, w.mutex, w.pcOf 0)) =
      some (.top, true, some (.proc 0), some .sending) := by decide
  have adoption : (run (init sampleContact sampleLabel) inboundDuringAdoption).map
      (fun w => (w.loop, w.loop.waitsForMutex w.contact.connection.isSome, w.mutex, w.pcOf 1)) =
      some (.publish 0, true, some (.proc 1), some .sending) := by decide
  obtain ⟨w₁, hw₁, he₁⟩ := Option.map_eq_some'.mp head
  obtain ⟨w₂, hw₂, he₂⟩ := Option.map_eq_some'.mp adoption
  simp only [Prod.mk.injEq] at he₁ he₂
  have hd₁ : Deadlock w₁ := ⟨he₁.2.1, 0, _, he₁.2.2.1, he₁.2.2.2, rfl⟩
  have hd₂ : Deadlock w₂ := ⟨he₂.2.1, 1, _, he₂.2.2.1, he₂.2.2.2, rfl⟩
  have hr₁ := run_reachable .init hw₁
  have hr₂ := run_reachable .init hw₂
  refine ⟨⟨w₁, hr₁, hd₁, he₁.1, fun as w' hr => ?_⟩, ⟨w₂, hr₂, hd₂, he₂.1, fun as w' hr => ?_⟩⟩
  · obtain ⟨-, hl, hm⟩ := hd₁.run (Guarded.reachable hr₁) hr
    exact ⟨hl.trans he₁.1, hm⟩
  · obtain ⟨-, hl, hm⟩ := hd₂.run (Guarded.reachable hr₂) hr
    exact ⟨hl.trans he₂.1, hm⟩

end Ricochet.Agent
