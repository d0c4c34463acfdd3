import Ricochet.Agent.Final
import Ricochet.Agent.Lifecycle
import Ricochet.Contact.Locking

/-! The guard branches of the protocol handlers. `OnChatMessage` and `OnChatMessageAck` close a
session that has no `Contact` but do not return: the next line calls `Conversation()` on the nil
`Contact`, which dereferences it. `OnConnectionAuthenticated` with connections disabled unlocks
and closes `conn` but does not return either: it writes `outboundConnAuthKnown` for a dialed
session without the mutex, then sends on `c.connChannel`, which it reads again. On the nil channel
it blocks for good; on one a `StartConnection` made meanwhile it sends, then unlocks `c.mutex` a
second time. The World's steps of the two methods with lock traces end as those traces do, and
the chat handlers of a session the World adopts without binding its handler panic. -/

namespace Ricochet.Agent

open Contact World

/-! ### The chat handlers of `ProtocolConnection` -/

/-- The fields of `ProtocolConnection` the chat handlers read: the session `Conn` and the bound
`Contact`, nil for a session no contact has claimed. -/
structure ProtocolConnection where
  conn : Nat
  contact : Option Contact
  deriving DecidableEq, Repr

/-- The handler of protocol goroutine `i`: `Contact` is set once the handler is bound. -/
def World.protocolConnection (w : World) (i : Nat) : Option ProtocolConnection :=
  w.procs[i]?.map fun pr => ⟨i, if pr.bound then some w.contact else none⟩

/-- A call a chat handler makes: `pc.Conn.Close()`, `pc.Contact.Conversation()`,
`conversation.Receive`, `pc.Conn.AckChatMessage` or `conversation.UpdateSentStatus`. A
conversation is named by its contact's id. -/
inductive ChatCall
  | close
  | conversation (contact : Int)
  | receive (conversation : Int) (id : Nat) (timestamp : Int) (message : String)
  | ackChatMessage (channelID messageID : Int)
  | updateSentStatus (conversation : Int) (id : Nat) (success : Bool)
  deriving DecidableEq, Repr

/-- A method called on a nil `*Contact` reads its fields. -/
inductive Panic
  | nilDereference
  deriving DecidableEq, Repr

/-- A handler: the calls it makes, in order, up to its return or its panic. -/
abbrev Handler := ExceptT Panic (StateM (List ChatCall))

def Handler.call (x : ChatCall) : Handler Unit := modify (· ++ [x])

/-- Run a handler from its first call. -/
def Handler.exec {α : Type} (h : Handler α) : Except Panic α × List ChatCall := h.run.run []

/-- `uint64(x)` of a signed id: two's complement modulo 2^64. -/
def uint64 (x : Int) : Nat := (x % 18446744073709551616).toNat

/-- `Conversation()` takes `c.mutex` first, so a nil `Contact` panics at once. -/
def conversationOf : Option Contact → Handler Int
  | none => throw .nilDereference
  | some c => do Handler.call (.conversation c.id); pure c.id

/-- The head both chat handlers share: `if pc.Contact == nil { pc.Conn.Close() }`, then
`pc.Contact.Conversation()`. -/
def chatGuard (pc : ProtocolConnection) : Handler Int := do
  if pc.contact.isNone then Handler.call .close
  conversationOf pc.contact

/-- `OnChatMessage(channelID, messageID, message)` at Unix time `unixNow`. -/
def onChatMessage (pc : ProtocolConnection) (channelID messageID : Int) (message : String)
    (unixNow : Int) : Handler Unit := do
  let conversation ← chatGuard pc
  Handler.call (.receive conversation (uint64 messageID) unixNow message)
  Handler.call (.ackChatMessage channelID messageID)

/-- `OnChatMessageAck(channelID, messageID)`; `channelID` is only logged. -/
def onChatMessageAck (pc : ProtocolConnection) (_channelID messageID : Int) : Handler Unit := do
  let conversation ← chatGuard pc
  Handler.call (.updateSentStatus conversation (uint64 messageID) true)

theorem onChatMessage_exec (pc : ProtocolConnection) (channelID messageID : Int)
    (message : String) (unixNow : Int) :
    (onChatMessage pc channelID messageID message unixNow).exec = match pc.contact with
      | none => (.error .nilDereference, [.close])
      | some c => (.ok (), [.conversation c.id, .receive c.id (uint64 messageID) unixNow message,
          .ackChatMessage channelID messageID]) := by
  obtain ⟨_, _ | c⟩ := pc <;> rfl

theorem onChatMessageAck_exec (pc : ProtocolConnection) (channelID messageID : Int) :
    (onChatMessageAck pc channelID messageID).exec = match pc.contact with
      | none => (.error .nilDereference, [.close])
      | some c => (.ok (), [.conversation c.id, .updateSentStatus c.id (uint64 messageID) true]) := by
  obtain ⟨_, _ | c⟩ := pc <;> rfl

/-! ### `OnConnectionAuthenticated` with connections disabled -/

variable {w : World} {i : Nat} {pr : Proc} {now : Instant}

/-- The guard: with `connChannel` nil, goroutine `i` unlocks once and closes its session, and goes
on past the guard without the mutex. -/
theorem procStep_guard {known : Bool} (hi : w.procs[i]? = some pr)
    (hpc : pr.pc = .authenticated known) (hm : w.mutex = none) (hch : w.contact.connChannel = none) :
    step w (.proc i now) =
      some (w.setProc i { pr with conn.closed := true, pc := .unguarded known }) := by
  simp [Agent.step, procStep, hi, hm, hpc, hch]

/-- Past the guard the send reads `connChannel` again, after the unlocked write of
`outboundConnAuthKnown`: on nil it blocks for good, on a channel it waits without the mutex. -/
theorem procStep_unguarded {known : Bool} (hi : w.procs[i]? = some pr)
    (hpc : pr.pc = .unguarded known) :
    step w (.proc i now) =
      some ({ w with contact := w.contact.noteAuthenticated pr.conn known }.setProc i
        { pr with pc := if w.contact.connChannel.isSome then .resending else .stuck }) := by
  cases h : w.contact.connChannel <;> simp [Agent.step, procStep, hi, hpc, h]

theorem pcOf_setProc_self (hi : w.procs[i]? = some pr) (pr' : Proc) :
    (w.setProc i pr').pcOf i = some pr'.pc := by
  rw [pcOf_setProc hi, if_pos rfl]

/-! ### The guards together -/

/-- None of the guards returns. A chat handler with no contact closes the session, then panics on
the nil contact. `OnConnectionAuthenticated` with connections disabled unlocks, closes `conn`,
writes `outboundConnAuthKnown` and blocks on the nil channel, or unlocks again on a new one. -/
theorem guard_branches_fall_through (conn : Nat) (channelID messageID : Int) (message : String)
    (unixNow : Int) {known : Bool} (hi : w.procs[i]? = some pr)
    (hpc : pr.pc = .authenticated known) (hm : w.mutex = none)
    (hch : w.contact.connChannel = none) :
    (onChatMessage ⟨conn, none⟩ channelID messageID message unixNow).exec =
        (.error .nilDereference, [.close]) ∧
      (onChatMessageAck ⟨conn, none⟩ channelID messageID).exec =
        (.error .nilDereference, [.close]) ∧
      onConnectionAuthenticatedLocks w.contact none = [.lock, .unlock, .block] ∧
      (∀ ch, runLocks false (onConnectionAuthenticatedLocks w.contact (some ch)) = .unlocksFree) ∧
      ∃ w₁, step w (.proc i now) = some w₁ ∧ w₁.mutex = none ∧ (w₁.conns i).closed = true ∧
        w₁.contact = w.contact ∧ w₁.pcOf i = some (.unguarded known) ∧
        ∃ w₂, step w₁ (.proc i now) = some w₂ ∧
          w₂.contact.outboundConnAuthKnown =
            (if pr.conn.client then known else w.contact.outboundConnAuthKnown) ∧
          ∀ as w'', run w₂ as = some w'' → w''.pcOf i = some .stuck := by
  have hlen : i < w.procs.length := (List.getElem?_eq_some_iff.mp hi).1
  let w₁ := w.setProc i { pr with conn.closed := true, pc := .unguarded known }
  have hi₁ : w₁.procs[i]? = some { pr with conn.closed := true, pc := .unguarded known } := by
    simp [w₁, setProc, hlen]
  have hstuck : step w₁ (.proc i now) = _ := procStep_unguarded hi₁ rfl
  simp only [w₁, setProc_contact, hch, Option.isSome_none, Bool.false_eq_true, if_false] at hstuck
  refine ⟨onChatMessage_exec _ _ _ _ _, onChatMessageAck_exec _ _ _,
    by simp [onConnectionAuthenticatedLocks, hch],
    fun _ => by simp [onConnectionAuthenticatedLocks_run, hch], w₁, procStep_guard hi hpc hm hch,
    hm, by simp [w₁, conns, setProc, hlen], rfl, pcOf_setProc_self hi _, _, hstuck,
    by simp [w₁], fun as w'' hr => final_run hr (pcOf_setProc_self hi₁ _) rfl⟩

/-- The loop dials the contact and the session authenticates as a known contact; a stop closes
the loop's channel before the session's goroutine calls `OnConnectionAuthenticated`, and an
inbound session arrives, its handler bound to no contact yet. -/
def authenticatedAfterStop : List Action :=
  [.loop sampleNow, .attemptStart 0, .attemptDialed 0, .handle 0 (.authResult true true), .stop,
    .stop, .accept sampleInbound]

theorem guard_branches_fall_through_after_stop :
    ∃ w, Reachable (init sampleContact sampleLabel) w ∧ w.contact.outboundConnAuthKnown = false ∧
      w.protocolConnection 1 = some ⟨1, none⟩ ∧
      (onChatMessage ⟨1, none⟩ 1 1 "hi" 0).exec = (.error .nilDereference, [.close]) ∧
      (onChatMessageAck ⟨1, none⟩ 1 1).exec = (.error .nilDereference, [.close]) ∧
      onConnectionAuthenticatedLocks w.contact none = [.lock, .unlock, .block] ∧
      (∀ ch, runLocks false (onConnectionAuthenticatedLocks w.contact (some ch)) = .unlocksFree) ∧
      ∃ w₁, step w (.proc 0 sampleNow) = some w₁ ∧ w₁.mutex = none ∧ (w₁.conns 0).closed = true ∧
        w₁.contact = w.contact ∧ w₁.pcOf 0 = some (.unguarded true) ∧
        ∃ w₂, step w₁ (.proc 0 sampleNow) = some w₂ ∧ w₂.contact.outboundConnAuthKnown = true ∧
          ∀ as w'', run w₂ as = some w'' → w''.pcOf 0 = some .stuck := by
  have hrun : (run (init sampleContact sampleLabel) authenticatedAfterStop).map
      (fun w => (w.procs[0]?.map (fun pr => (pr.pc, pr.conn.client)), w.mutex,
        w.contact.connChannel, w.contact.outboundConnAuthKnown, w.procs[1]?.map (·.bound))) =
      some (some (.authenticated true, true), none, none, false, some false) := by decide
  obtain ⟨w, hw, he⟩ := Option.map_eq_some'.mp hrun
  simp only [Prod.mk.injEq] at he
  obtain ⟨⟨pr, hi, hpr⟩, hm, hch, hk, hb⟩ := And.imp_left Option.map_eq_some'.mp he
  have hpc : w.protocolConnection 1 = some ⟨1, none⟩ := by
    obtain ⟨pr₁, hi₁, hb₁⟩ := Option.map_eq_some'.mp hb
    simp [World.protocolConnection, hi₁, hb₁]
  simp only [Prod.mk.injEq] at hpr
  obtain ⟨h₁, h₂, h₃, h₄, w₁, hs, hm', hc', hcon, hu, w₂, hs₂, hk', hst⟩ :=
    @guard_branches_fall_through _ _ _ sampleNow 1 1 1 "hi" 0 _ hi hpr.1 hm hch
  rw [if_pos hpr.2] at hk'
  exact ⟨w, run_reachable .init hw, hk, hpc, h₁, h₂, h₃, h₄, w₁, hs, hm', hc', hcon, hu, w₂, hs₂,
    hk', hst⟩

/-! ### The World's steps and the lock traces -/

/-- Past the guard, the goroutine's next step ends as the lock trace does for the channel it reads
again: stuck for good on nil, sending without the mutex on a channel. -/
theorem unguarded_follows_locks {c : Contact} {known : Bool} (hc : c.connChannel = none)
    (hi : w.procs[i]? = some pr) (hpc : pr.pc = .unguarded known) :
    ∃ w', step w (.proc i now) = some w' ∧ w'.mutex = w.mutex ∧
      (runLocks false (onConnectionAuthenticatedLocks c w.contact.connChannel) = .halts false →
        ∀ as w'', run w' as = some w'' → w''.pcOf i = some .stuck) ∧
      (runLocks false (onConnectionAuthenticatedLocks c w.contact.connChannel) = .unlocksFree →
        w'.pcOf i = some .resending) := by
  have hlen : i < w.procs.length := (List.getElem?_eq_some_iff.mp hi).1
  have hself : ∀ q : ProcPc, ({ w with contact := w.contact.noteAuthenticated pr.conn known }.setProc
      i { pr with pc := q }).pcOf i = some q := fun _ => by simp [pcOf, setProc, hlen]
  refine ⟨_, procStep_unguarded hi hpc, rfl, fun ht as w'' hr => ?_, fun ht => ?_⟩ <;>
    cases hch : w.contact.connChannel <;>
    simp only [onConnectionAuthenticatedLocks_run, hc, hch, reduceCtorEq] at ht
  · exact final_run hr (by simpa [hch] using hself .stuck) rfl
  · simpa [hch] using hself .resending

/-- The second `Unlock` releases `c.mutex` whoever holds it, and on a free mutex the runtime's
fatal error stops the program. -/
theorem procStep_unlocking (hi : w.procs[i]? = some pr) (hpc : pr.pc = .unlocking) :
    ∃ w', step w (.proc i now) = some w' ∧ w'.mutex = none ∧
      w'.pcOf i = some (if w.mutex.isSome then .idle else .fatal) := by
  have hlen : i < w.procs.length := (List.getElem?_eq_some_iff.mp hi).1
  cases hm : w.mutex <;> simp [Agent.step, procStep, hi, hpc, hm, pcOf, setProc, hlen]

/-- `OnContactRequestAck` ends in the World as `UpdateContactRequest`'s lock trace does: holding
`c.mutex` for good where the trace relocks, idle with the mutex free where it returns. -/
theorem acking_follows_locks {status : String} (hi : w.procs[i]? = some pr)
    (hpc : pr.pc = .acking status) (hm : w.mutex = none) :
    ∃ w', step w (.proc i now) = some w' ∧
      (runLocks false (UpdateContactRequestLocks w.contact) = .relocks →
        w'.mutex = some (.proc i) ∧ ∀ as w'', run w' as = some w'' → w''.pcOf i = some .selfLocked) ∧
      (runLocks false (UpdateContactRequestLocks w.contact) = .returns false →
        w'.mutex = none ∧ w'.pcOf i = some .idle) := by
  cases hp : w.contact.data.request.pending
  · refine ⟨_, by simp [Agent.step, procStep, hi, hpc, hm, hp]; rfl, ?_, ?_⟩ <;>
      simp [UpdateContactRequestLocks, hp, runLocks, hm, pcOf_setProc_self hi]
  · refine ⟨_, by simp [Agent.step, procStep, hi, hpc, hm, hp]; rfl, fun _ => ⟨rfl, ?_⟩, ?_⟩
    · exact fun as w'' hr => final_run hr (pcOf_setProc_self hi _) rfl
    · simp [UpdateContactRequestLocks, hp, runLocks, dataLocks]

/-! ### The chat handlers on the World's sessions -/

end Ricochet.Agent
