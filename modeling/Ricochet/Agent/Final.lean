import Ricochet.Agent.Outbound

/-! Goroutines that never move again, and what they leave behind. A protocol goroutine that
has returned, or is blocked for good, stays where it is along every run.

`OnDisconnect` reports a closed session to `pc.Contact` only, and `OnContactRequest` hands an
accepted request's session to the contact without setting `pc.Contact`. Such a session is adopted
like any other, but when it closes its goroutine returns without a close signal: the contact
keeps a dead session as its connection, ONLINE, and no goroutine will ever tell the loop. -/

namespace Ricochet.Agent

open Contact World

/-- A goroutine at a final point stays there: no step moves it. -/
theorem final_step {w w' : World} {a : Action} (hs : step w a = some w') {i : Nat} {pc : ProcPc}
    (h : w.pcOf i = some pc) (hf : pc.final = true) : w'.pcOf i = some pc := by
  refine step_pcOf_of_ne hs (fun hmv => ?_) h
  have hpc : ∀ {pr : Proc}, w.procs[i]? = some pr → pr.pc = pc := fun hi => by
    simpa [pcOf, hi] using h
  cases a <;> cases hmv
  case deliver =>
    obtain ⟨-, pr, hi, hpr, -⟩ := deliver_cases hs
    rw [hpc hi] at hpr
    rcases hpr with rfl | rfl | rfl <;> cases hf
  case proc =>
    obtain ⟨pr, hi, hpr, -⟩ := procStep_cases hs
    rw [hpc hi, hf] at hpr
    cases hpr
  case handle =>
    obtain ⟨pr, hi, hidle, -⟩ := handle_cases hs
    rw [hpc hi] at hidle
    subst hidle
    cases hf

theorem final_run {w w' : World} {as : List Action} (hr : run w as = some w') {i : Nat}
    {pc : ProcPc} (h : w.pcOf i = some pc) (hf : pc.final = true) : w'.pcOf i = some pc :=
  run_invariant (P := fun v => v.pcOf i = some pc) (fun h hs => final_step hs h hf) h hr

/-- The contact's inbound contact request is accepted at once; the loop adopts its session,
which then disconnects. -/
def acceptedRequest : List Action :=
  [.loop sampleNow, .accept sampleInbound, .handle 0 (.authProof true false),
    .handle 0 (.contactRequest .accepted), .proc 0 sampleNow, .deliver 0, .loop sampleNow,
    .loop sampleNow, .loop sampleNow, .loop sampleNow, .loop sampleNow, .handle 0 .disconnect]

/-- A session adopted from an accepted contact request is not bound to the contact: when it closes,
the contact keeps it as its ONLINE connection, and its goroutine never signals the loop. -/
theorem accepted_request_session_unbound :
    ∃ w, Reachable (init sampleContact sampleLabel) w ∧ w.contact.connection = some 0 ∧
      w.contact.status = .online ∧
      w.procs[0]?.map (fun pr => (pr.bound, pr.conn.closed, pr.pc)) = some (false, true, .exited) ∧
      ∀ as w', run w as = some w' → w'.pcOf 0 = some .exited := by
  have hrun : (run (init sampleContact sampleLabel) acceptedRequest).map
      (fun w => (w.contact.connection, w.contact.status,
        w.procs[0]?.map (fun pr => (pr.bound, pr.conn.closed, pr.pc)))) =
      some (some 0, .online, some (false, true, .exited)) := by decide
  obtain ⟨w, hw, he⟩ := Option.map_eq_some'.mp hrun
  simp only [Prod.mk.injEq] at he
  have hexited : w.pcOf 0 = some .exited := by
    obtain ⟨pr, hpr, hv⟩ := Option.map_eq_some'.mp he.2.2
    simp only [Prod.mk.injEq] at hv
    simp [pcOf, hpr, hv.2.2]
  exact ⟨w, run_reachable .init hw, he.1, he.2.1, he.2.2, fun _ _ hr => final_run hr hexited rfl⟩

end Ricochet.Agent
