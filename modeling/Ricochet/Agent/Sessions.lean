import Ricochet.Agent.Status

/-! The ends of every session. A session's direction and the labels of its two sides are fixed
when it is opened: the listener's sessions are inbound, and a connector's session is outbound,
from this side's label to the label of the hostname the connector read under `c.mutex`. Nothing
makes a contact REJECTED: a contact loaded as REJECTED keeps that status until a session is
adopted, and while it has it the loop spawns no connector, so no session to it is ever dialed or
adopted. -/

namespace Ricochet

/-- Who a session is between: its direction and the labels of its two sides. -/
def OpenConnection.ends (conn : OpenConnection) : Bool × String × String :=
  (conn.client, conn.myHostname, conn.otherHostname)

namespace Agent

open Contact World

variable {w w' : World}

/-! ### The ends of the sessions -/

namespace World

variable {i p q : Nat} {pr pr' x : Proc}

@[simp] theorem setProc_myLabel : (w.setProc i pr).myLabel = w.myLabel := rfl
@[simp] theorem closeConn_myLabel : (w.closeConn p).myLabel = w.myLabel := rfl

@[simp] theorem applyEffects_myLabel (es : List Effect) :
    (w.applyEffects es).myLabel = w.myLabel := by
  rw [applyEffects_eq]

@[simp] theorem cancelAttempt_myLabel (a : Option Nat) :
    (w.cancelAttempt a).myLabel = w.myLabel := by
  cases a <;> rfl

theorem ends_of_procs (h : w'.procs = w.procs) (p : Nat) :
    (w'.conns p).ends = (w.conns p).ends := by
  simp only [conns, h]

theorem conns_closeConn_ends : ((w.closeConn q).conns p).ends = (w.conns p).ends := by
  simp only [conns, closeConn, List.getElem?_modify]
  cases w.procs[p]? <;> simp
  split <;> rfl

theorem conns_applyEffects_ends (es : List Effect) :
    ((w.applyEffects es).conns p).ends = (w.conns p).ends := by
  induction es generalizing w with
  | nil => rfl
  | cons e es ih => cases e <;> simp only [applyEffects, ih, conns_closeConn_ends]

theorem conns_setProc_ends (h : w.procs[i]? = some pr) (hp : w'.procs = w.procs.set i pr')
    (hc : pr'.conn.ends = pr.conn.ends) : (w'.conns p).ends = (w.conns p).ends := by
  have hi : i < w.procs.length := (List.getElem?_eq_some_iff.mp h).1
  by_cases hip : i = p
  · subst hip; simp [conns, hp, hi, h, hc]
  · simp [conns, hp, List.getElem?_set, hip]

theorem conns_append (h : w'.procs = w.procs ++ [x]) (p : Nat) :
    w'.conns p = w.conns p ∨ p = w.procs.length ∧ w'.conns p = x.conn := by
  simp only [conns, h]
  by_cases hlt : p < w.procs.length
  · rw [List.getElem?_append_left hlt]; exact .inl rfl
  · have hn : w.procs[p]? = none := List.getElem?_eq_none (by omega)
    rw [List.getElem?_append_right (by omega), hn]
    cases hp : p - w.procs.length with
    | zero => exact .inr ⟨by omega, rfl⟩
    | succ n => exact .inl rfl

end World

theorem loopStep_ends {now : Instant} (hs : w.loopStep now = some w') :
    (∀ q, (w'.conns q).ends = (w.conns q).ends) ∧ w'.myLabel = w.myLabel := by
  unfold World.loopStep at hs
  split at hs
  next => split_ifs at hs <;> cases hs <;> exact ⟨fun _ => rfl, rfl⟩ -- top
  next => cases hs -- select
  next => cases hs -- exited
  next => cases hs -- unspawned
  next => split_ifs at hs; cases hs; exact ⟨fun _ => rfl, rfl⟩ -- adopt
  next _ p _ => -- assign
    split_ifs at hs
    dsimp only at hs
    split at hs <;> cases hs <;>
      exact ⟨fun _ => conns_applyEffects_ends
        (w := { w with contact := (w.contact.setConnection w.conns p now).contact })
        (w.contact.setConnection w.conns p now).effects, applyEffects_myLabel _⟩
  next => split_ifs at hs; cases hs; exact ⟨fun _ => rfl, rfl⟩ -- publish
  next => split_ifs at hs; cases hs; exact ⟨fun _ => rfl, rfl⟩ -- drain
  next => -- discard
    split_ifs at hs <;> cases hs
    · exact ⟨fun _ => conns_closeConn_ends, rfl⟩
    · exact ⟨fun _ => rfl, rfl⟩
  next => -- closed
    split_ifs at hs
    cases hs
    exact ⟨fun _ => conns_applyEffects_ends
      (w := { w with contact := (w.contact.clearConnection w.conns none now).contact })
      (w.contact.clearConnection w.conns none now).effects, applyEffects_myLabel _⟩
  next => split_ifs at hs; cases hs; exact ⟨fun _ => rfl, rfl⟩ -- clearPublish
  next => split_ifs at hs; cases hs; exact ⟨fun _ => rfl, rfl⟩ -- exiting
  next => -- exitClear
    split_ifs at hs
    cases hs
    exact ⟨fun _ => conns_applyEffects_ends
      (w := { w with contact := (w.contact.clearConnection w.conns none now).contact })
      (w.contact.clearConnection w.conns none now).effects, applyEffects_myLabel _⟩
  next => split_ifs at hs; cases hs; exact ⟨fun _ => rfl, rfl⟩ -- exitPublish

theorem deliver_ends {i : Nat} (hs : w.deliver i = some w') :
    (∀ q, (w'.conns q).ends = (w.conns q).ends) ∧ w'.myLabel = w.myLabel := by
  unfold World.deliver at hs
  split at hs
  next b _ _ hi =>
    split at hs <;> cases hs <;> cases b <;> exact ⟨fun _ => conns_setProc_ends hi rfl rfl, rfl⟩
  · cases hs

theorem procStep_ends {i : Nat} {now : Instant} (hs : w.procStep i now = some w') :
    (∀ q, (w'.conns q).ends = (w.conns q).ends) ∧ w'.myLabel = w.myLabel := by
  obtain ⟨pr, pr', hi, hp, hconn, -, -, -, -, hml, -⟩ := procStep_frame hs
  exact ⟨fun _ => conns_setProc_ends hi hp (by rw [hconn]; rfl), hml⟩

theorem handle_ends {i : Nat} {e : Event} (hs : w.handle i e = some w') :
    (∀ q, (w'.conns q).ends = (w.conns q).ends) ∧ w'.myLabel = w.myLabel := by
  unfold World.handle at hs
  cases hi : w.procs[i]? with
  | none => simp [hi] at hs
  | some pr =>
    simp only [hi] at hs
    split at hs
    · cases hs
    rcases e with _ | _ | (_ | _ | _) | _ | _ <;> dsimp only at hs <;> split_ifs at hs <;> cases hs
    all_goals first | exact ⟨fun _ => rfl, rfl⟩ | exact ⟨fun _ => conns_setProc_ends hi rfl rfl, rfl⟩

/-- What a step does to the sessions' ends: each keeps its own, or a session is appended, inbound
from the listener or dialed from this side's label to the label of the hostname it dials. -/
theorem step_ends {a : Action} (hs : step w a = some w') :
    w'.myLabel = w.myLabel ∧
      ((∀ p, (w'.conns p).ends = (w.conns p).ends) ∨
        (∃ x : Proc, w'.procs = w.procs ++ [x] ∧ x.conn.client = false) ∨
        ∃ (j : Nat) (t : Attempt) (h : String), w.attempts[j]? = some t ∧ t.pc = .dialing h ∧
          w'.procs = w.procs ++ [⟨⟨true, true, false, w.myLabel, h.take 16⟩, true, .idle⟩]) := by
  cases a with
  | loop now => exact ⟨(loopStep_ends hs).2, .inl (loopStep_ends hs).1⟩
  | deliver i => exact ⟨(deliver_ends hs).2, .inl (deliver_ends hs).1⟩
  | loopChannelClosed =>
    simp only [Agent.step] at hs
    unfold World.loopChannelClosed at hs
    split at hs
    next => split_ifs at hs; cases hs; exact ⟨by simp, .inl (ends_of_procs (cancelAttempt_procs _))⟩
    · cases hs
  | proc i now => exact ⟨(procStep_ends hs).2, .inl (procStep_ends hs).1⟩
  | handle i e => exact ⟨(handle_ends hs).2, .inl (handle_ends hs).1⟩
  | accept conn =>
    simp only [Agent.step] at hs
    unfold World.accept at hs
    split_ifs at hs with hc
    cases hs
    exact ⟨rfl, .inr (.inl ⟨_, rfl, by simpa using hc⟩)⟩
  | attemptStart j =>
    simp only [Agent.step] at hs
    unfold World.attemptStart at hs
    split at hs
    next => split_ifs at hs; cases hs; exact ⟨rfl, .inl (ends_of_procs rfl)⟩
    · cases hs
  | attemptDialed j =>
    simp only [Agent.step] at hs
    unfold World.attemptDialed at hs
    split at hs
    next ht => cases hs; exact ⟨rfl, .inr (.inr ⟨j, _, _, ht, rfl, rfl⟩)⟩
    · cases hs
  | attemptCancelled j =>
    simp only [Agent.step] at hs
    unfold World.attemptCancelled at hs
    split at hs
    next => cases hs; exact ⟨rfl, .inl (ends_of_procs rfl)⟩
    · cases hs
  | start =>
    obtain ⟨-, ⟨-, rfl⟩ | ⟨-, rfl⟩⟩ := startStep_cases hs <;> exact ⟨rfl, .inl (ends_of_procs rfl)⟩
  | stop =>
    simp only [Agent.step] at hs
    unfold World.stopStep at hs
    split at hs <;> (try split_ifs at hs) <;> cases hs
    all_goals exact ⟨rfl, .inl (ends_of_procs rfl)⟩

/-! ### A REJECTED contact never dials -/

/-- No step makes the contact REJECTED. -/
theorem rejected_of_step {a : Action} (hs : step w a = some w')
    (h : w'.contact.status = .rejected) : w.contact.status = .rejected := by
  rcases step_contact hs with hc | ⟨now, -, ⟨p, hc⟩ | hc⟩ | ⟨conn, known, hc⟩ | ⟨st, now, hc⟩ | ⟨_, _, _, _, hc⟩ <;>
    rw [hc] at h
  · exact h
  · rcases setConnection_contact_cases w.contact w.conns p now with he | ⟨c₀, hst, -, he⟩
    · rwa [he] at h
    · rw [he] at h
      rcases (assignConnection_status c₀ w.conns p now).2 with ⟨-, hon⟩ | ⟨-, hst', -⟩
      · rw [hon] at h; cases h
      · rwa [hst', hst] at h
  · rcases (clearConnection_spec w.contact w.conns none now).2 with he | ⟨-, hst⟩
    · rwa [he] at h
    · rw [hst] at h; cases h
  · simpa using h
  · obtain ⟨-, -, hother, haccepted⟩ := answerRequest_spec w.contact st now
    by_cases hst : st = "Accepted"
    · rw [(haccepted hst).2] at h
      split at h <;> cases h
    · rwa [(hother hst).1] at h
  · exact h

/-- While the contact is REJECTED, the loop has spawned no connector, no session is adopted,
and every session came in from the listener. -/
def RejectedQuiet (w : World) : Prop :=
  w.contact.status = .rejected →
    w.attempts = [] ∧ w.contact.connection = none ∧ ∀ p, (w.conns p).client = false

theorem RejectedQuiet.step (h : RejectedQuiet w) (he : w.contact.connEnabled = true) {a : Action}
    (hs : Agent.step w a = some w') : RejectedQuiet w' := by
  intro hrej
  obtain ⟨ha, hc, hcl⟩ := h (rejected_of_step hs hrej)
  refine ⟨?_, ?_, ?_⟩
  · -- the loop's head spawns no connector for a REJECTED contact
    rcases step_attempts hs he with ⟨-, e⟩ | ⟨-, j, t, -, ht, -⟩ | ⟨b, -, e⟩ | ⟨-, e | ⟨-, hsh, -⟩⟩ |
        ⟨-, e⟩
    · rw [e, ha]
    · simp [ha] at ht
    · rw [e]; cases b <;> simp [cancelAttempt, ha]
    · rw [e, ha]
    · simp [shouldMakeOutboundConnections, rejected_of_step hs hrej] at hsh
    · rw [e, ha]
  · -- a REJECTED contact adopts no inbound session without leaving REJECTED
    rcases step_contact hs with e | ⟨now, -, ⟨p, e⟩ | e⟩ | ⟨conn, known, e⟩ | ⟨st, now, e⟩ | ⟨_, _, _, _, e⟩
    · rw [e, hc]
    · rw [e] at hrej ⊢
      rw [setConnection_status_rejected p hrej (hcl p), hc]
    · rw [e]
      rcases (clearConnection_spec w.contact w.conns none now).2 with he | ⟨hn, -⟩
      · rw [he, hc]
      · exact hn
    · rw [e]; simpa using hc
    · rw [e, (answerRequest_spec _ st now).2.1, hc]
    · rw [e]; exact hc
  · -- the listener's sessions are inbound, and no connector dials
    rcases (step_ends hs).2 with e | ⟨x, hp, hx⟩ | ⟨j, t, -, ht, -, -⟩
    · exact fun p => (congrArg Prod.fst (e p)).trans (hcl p)
    · intro p
      rcases conns_append hp p with e | ⟨-, e⟩ <;> rw [e]
      exacts [hcl p, hx]
    · simp [ha] at ht

theorem RejectedQuiet.reachable {isOnionValid : String → Bool} {id : Int} {data : ConfigContact}
    {c : Contact} (hc : contactFromConfig isOnionValid id data = .ok c) {myLabel : String}
    (hr : Reachable (init c myLabel) w) : RejectedQuiet w := by
  induction hr with
  | init => exact fun _ => ⟨rfl, by simp [init, (contactFromConfig_spec hc).2.1], fun _ => rfl⟩
  | step a hr hs ih => exact ih.step (Guarded.reachable hr).enabled hs

/-- A contact loaded as REJECTED never dials: while it is REJECTED the loop has spawned no
connector, no session is adopted, and every session came in from the listener. -/
theorem rejected_never_dials {isOnionValid : String → Bool} {id : Int} {data : ConfigContact}
    {c : Contact} (hc : contactFromConfig isOnionValid id data = .ok c) {myLabel : String}
    (hr : Reachable (init c myLabel) w) (hrej : w.contact.status = .rejected) :
    w.attempts = [] ∧ w.contact.connection = none ∧ ∀ p, (w.conns p).client = false :=
  RejectedQuiet.reachable hc hr hrej

/-- The sample contact, its request rejected by the peer before it was saved. -/
def rejectedData : ConfigContact :=
  { sampleData with request := { ConfigContactRequest.zero with
      pending := true, whenRejected := "2017-01-01T00:00:00Z" } }

def rejectedContact : Contact :=
  ⟨0, rejectedData, .rejected, false, none, none, none, none, 0, false⟩

theorem rejectedContact_fromConfig :
    contactFromConfig (fun _ => true) 0 rejectedData = .ok rejectedContact := rfl

/-- The loop of a REJECTED contact passes its head without dialing, and an inbound session
authenticates. -/
theorem rejected_never_dials_with_inbound_session :
    ∃ w, Reachable (init rejectedContact sampleLabel) w ∧ w.contact.status = .rejected ∧
      w.procs.length = 1 ∧ w.attempts = [] ∧ w.contact.connection = none ∧
      ∀ p, (w.conns p).client = false := by
  have hrun : (run (init rejectedContact sampleLabel)
      [.loop sampleNow, .accept sampleInbound, .handle 0 (.authProof true true)]).map
      (fun w => (w.contact.status, w.procs.length)) = some (.rejected, 1) := by decide
  obtain ⟨w, hw, he⟩ := Option.map_eq_some'.mp hrun
  simp only [Prod.mk.injEq] at he
  have hr := run_reachable .init hw
  exact ⟨w, hr, he.1, he.2, rejected_never_dials rejectedContact_fromConfig hr he.1⟩


end Agent

end Ricochet
