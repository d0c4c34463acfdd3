import Ricochet.Contact.Basic

/-! The connection agent of one contact as a system of goroutines: the `contactConnection`
loop, the `connectOutbound` goroutines it spawns, one protocol goroutine per session running
`oc.Process` with a `ProtocolConnection` handler, and a caller of `StopConnection`. They share
the contact's fields under `c.mutex` and hand sessions and close signals to the loop over the
unbuffered channels `connChannel` and `connClosedChannel`.

A step runs one goroutine from one blocking point to the next: taking `c.mutex`, a rendezvous
on a channel, or the arrival of a protocol event. Between two such points every goroutine other
than the protocol goroutines releases the mutex it took, so a lock–body–unlock section is one
step, enabled when the mutex is free. The system starts before `StartConnection` (`unstarted`),
or just after it (`init`). -/

namespace Ricochet.Agent

open Contact

/-- The goroutines of the agent. -/
inductive Tid
  | loop
  | proc (i : Nat)
  | attempt (j : Nat)
  | stopper
  deriving DecidableEq, Repr

/-- Where the `contactConnection` loop is. `adopt`, `assign`, `publish` and `drain` are the calls
of `setConnection`: `c.Address()`, its body under the mutex, `c.Data()` and `c.Conversation()`;
`discard` logs `c.Address()` before closing a refused session. `closed` and `clearPublish` are
`clearConnection(nil)` and its `c.Data()` on a close signal, `exiting`, `exitClear` and
`exitPublish` the same calls on the way out. -/
inductive LoopPc
  /-- `StartConnection` has not spawned the loop yet. -/
  | unspawned
  | top
  /-- `attempt` is the connector whose context `outboundCancel` cancels. -/
  | select (attempt : Option Nat)
  | adopt (p : Nat)
  | assign (p : Nat)
  | publish (p : Nat)
  | drain (p : Nat)
  | discard (p : Nat)
  /-- A close signal came in from session `p`'s goroutine. -/
  | closed (p : Nat)
  | clearPublish
  | exiting
  | exitClear
  | exitPublish
  | exited
  deriving DecidableEq, Repr

/-- Where a protocol goroutine is. `authenticated`, `closing` and `acking` are about to call
`OnConnectionAuthenticated`, `OnConnectionClosed` and `UpdateContactRequest`. -/
inductive ProcPc
  | idle
  | authenticated (knownContact : Bool)
  /-- Holds `c.mutex`, blocked in `c.connChannel <- conn`. -/
  | sending
  /-- Past the guard of `OnConnectionAuthenticated`, which unlocked but did not return. -/
  | unguarded (knownContact : Bool)
  /-- Past the guard, blocked in `c.connChannel <- conn` without the mutex. -/
  | resending
  /-- Past the guard, its session sent: about to call `c.mutex.Unlock()` a second time. -/
  | unlocking
  /-- Blocked for good in a send on a nil `connChannel`. -/
  | stuck
  /-- `Unlock` of the free mutex: a fatal error of the runtime. -/
  | fatal
  | closing
  /-- Holds `c.mutex`, blocked in `c.connClosedChannel <- struct{}{}`. -/
  | signalling
  | acking (status : String)
  /-- Holds `c.mutex` and blocks for good taking it again in `c.Data()`. -/
  | selfLocked
  | exited
  deriving DecidableEq, Repr

/-- A session and the goroutine processing it. `bound` says whether the handler's `Contact` is
this contact. -/
structure Proc where
  conn : OpenConnection
  bound : Bool
  pc : ProcPc
  deriving DecidableEq, Repr

/-- Where a `connectOutbound` goroutine is: about to read the hostname under `c.mutex`, dialing
it with `NeverGiveUp` until its context is cancelled, or returned. -/
inductive AttemptPc
  | start
  | dialing (hostname : String)
  | done
  deriving DecidableEq, Repr

structure Attempt where
  cancelled : Bool
  pc : AttemptPc
  deriving DecidableEq, Repr

/-- Where the caller of `StopConnection` is; `waiting` waits on `stopped` for the loop. -/
inductive StopperPc
  | idle
  | stopping
  | waiting
  /-- Panicked closing a nil `connChannel`, still holding `c.mutex`. -/
  | crashed
  deriving DecidableEq, Repr

/-- Modelled from the spec: the answer of the contact list's `AddOrUpdateInboundContactRequest`
(§4.4): this contact, accepted; a pending request; or a rejected one. -/
inductive RequestAnswer
  | accepted | pending | rejected
  deriving DecidableEq, Repr

/-- A protocol event that `oc.Process` hands to the session's handler, after the handler's
method. -/
inductive Event
  /-- `known` is whether `GetContactByHostname` returns this contact. -/
  | authProof (valid known : Bool)
  | authResult (result knownContact : Bool)
  | contactRequest (answer : RequestAnswer)
  | contactRequestAck (status : String)
  | disconnect
  deriving DecidableEq, Repr

structure World where
  contact : Contact
  mutex : Option Tid
  loop : LoopPc
  /-- The loop's own `connChannel` has been closed by `StopConnection`. -/
  chanClosed : Bool
  procs : List Proc
  attempts : List Attempt
  stopper : StopperPc
  /-- `c.core.Identity.Address()[9:]`, the local label dialed sessions carry. -/
  myLabel : String
  deriving DecidableEq, Repr

/-- The contact just after `StartConnection`: connections enabled, channels `0`, the loop at its
head, no session and no connector. -/
def init (c : Contact) (myLabel : String) : World :=
  ⟨(c.startConnection 0).1, none, .top, false, [], [], .idle, myLabel⟩

namespace World

/-- A pointer that no session has; never dereferenced. -/
def dangling : OpenConnection := ⟨false, false, true, "", ""⟩

/-- The heap of sessions: pointer `i` is the session of protocol goroutine `i`. -/
def conns (w : World) (i : Nat) : OpenConnection :=
  (w.procs[i]?.map (·.conn)).getD dangling

def setProc (w : World) (i : Nat) (pr : Proc) : World :=
  { w with procs := w.procs.set i pr }

def closeConn (w : World) (p : Nat) : World :=
  { w with procs := w.procs.modify (fun pr => { pr with conn.closed := true }) p }

/-- Carry out the effects of a contact method: close the connections it closes. Sending the
contact request and saving the config leave the world as it is. -/
def applyEffects (w : World) : List Effect → World
  | [] => w
  | .close p :: es => (w.closeConn p).applyEffects es
  | _ :: es => w.applyEffects es

/-- `outboundCancel()`: cancel the context of the connector spawned this iteration. -/
def cancelAttempt (w : World) : Option Nat → World
  | none => w
  | some j => { w with attempts := w.attempts.modify (fun a => { a with cancelled := true }) j }

/-- The loop's next step outside `select`, or `none` while it waits for the mutex. -/
def loopStep (w : World) (now : Instant) : Option World :=
  match w.loop with
  | .top =>
    if w.contact.connection.isSome then some { w with loop := .select none }
    else if w.mutex.isSome then none
    else if w.contact.shouldMakeOutboundConnections then
      some { w with
        loop := .select (some w.attempts.length)
        attempts := w.attempts ++ [⟨false, .start⟩] }
    else some { w with loop := .select none }
  | .select _ | .exited | .unspawned => none
  | .adopt p => if w.mutex.isSome then none else some { w with loop := .assign p }
  | .assign p =>
    if w.mutex.isSome then none
    else
      let o := w.contact.setConnection w.conns p now
      let w' := { w with contact := o.contact }.applyEffects o.effects
      match o.result with
      | .ok () => some { w' with loop := .publish p }
      | .error _ => some { w' with loop := .discard p }
  | .publish p => if w.mutex.isSome then none else some { w with loop := .drain p }
  | .drain _ => if w.mutex.isSome then none else some { w with loop := .top }
  | .discard p =>
    if w.mutex.isSome then none
    else
      let w' := if !(w.conns p).closed && w.contact.connection ≠ some p then w.closeConn p else w
      some { w' with loop := .top }
  | .closed _ =>
    if w.mutex.isSome then none
    else
      let o := w.contact.clearConnection w.conns none now
      let w' := { w with contact := o.contact }.applyEffects o.effects
      some { w' with loop := if o.result then .clearPublish else .top }
  | .clearPublish => if w.mutex.isSome then none else some { w with loop := .top }
  | .exiting => if w.mutex.isSome then none else some { w with loop := .exitClear }
  | .exitClear =>
    if w.mutex.isSome then none
    else
      let o := w.contact.clearConnection w.conns none now
      let w' := { w with contact := o.contact }.applyEffects o.effects
      some { w' with loop := if o.result then .exitPublish else .exited }
  | .exitPublish => if w.mutex.isSome then none else some { w with loop := .exited }

/-- `select` receives from protocol goroutine `i`; one that took `c.mutex` then unlocks it. -/
def deliver (w : World) (i : Nat) : Option World :=
  match w.loop, w.procs[i]? with
  | .select a, some pr =>
    match pr.pc with
    | .sending =>
      some ({ w.setProc i { pr with pc := .idle } with mutex := none, loop := .adopt i }.cancelAttempt a)
    | .signalling =>
      some ({ w.setProc i { pr with pc := .exited } with mutex := none, loop := .closed i }.cancelAttempt a)
    | .resending =>
      some ({ w.setProc i { pr with pc := .unlocking } with loop := .adopt i }.cancelAttempt a)
    | _ => none
  | _, _ => none

/-- `select` receives from the closed `connChannel` and leaves the loop. -/
def loopChannelClosed (w : World) : Option World :=
  match w.loop with
  | .select a => if w.chanClosed then some ({ w with loop := .exiting }.cancelAttempt a) else none
  | _ => none

/-- Protocol goroutine `i` takes `c.mutex` for the call it is about to make; past the guard of
`OnConnectionAuthenticated` it goes on without it. -/
def procStep (w : World) (i : Nat) (now : Instant) : Option World :=
  match w.procs[i]? with
  | none => none
  | some pr =>
    match pr.pc with
    | .authenticated known =>
      if w.mutex.isSome then none
      else
        match w.contact.connChannel with
        | none => some (w.setProc i { pr with conn.closed := true, pc := .unguarded known })
        | some _ =>
          some { w.setProc i { pr with pc := .sending } with
            contact := w.contact.noteAuthenticated pr.conn known, mutex := some (.proc i) }
    | .unguarded known =>
      let w' := { w with contact := w.contact.noteAuthenticated pr.conn known }
      match w.contact.connChannel with
      | none => some (w'.setProc i { pr with pc := .stuck })
      | some _ => some (w'.setProc i { pr with pc := .resending })
    | .unlocking =>
      match w.mutex with
      | none => some (w.setProc i { pr with pc := .fatal })
      | some _ => some { w.setProc i { pr with pc := .idle } with mutex := none }
    | .closing =>
      if w.mutex.isSome then none
      else if w.contact.connection ≠ some i || w.contact.connClosedChannel.isNone then
        some (w.setProc i { pr with pc := .exited })
      else some { w.setProc i { pr with pc := .signalling } with mutex := some (.proc i) }
    | .acking status =>
      if w.mutex.isSome then none
      else if !w.contact.data.request.pending then some (w.setProc i { pr with pc := .idle })
      else
        let o := w.contact.updateContactRequest status now
        some { w.setProc i { pr with pc := .selfLocked } with
          contact := o.contact, mutex := some (.proc i) }
    | _ => none

/-- The handler of session `i` runs for protocol event `e`, up to its first call into the
contact. -/
def handle (w : World) (i : Nat) (e : Event) : Option World :=
  match w.procs[i]? with
  | none => none
  | some pr =>
    if pr.pc ≠ .idle then none
    else
      let conn := pr.conn
      match e with
      | .authProof valid known =>
        if conn.client then none
        else
          let result := valid && conn.otherHostname.utf8ByteSize == 16
          let bound := if result then known else pr.bound
          let pc := if result && bound then .authenticated true else .idle
          some (w.setProc i ⟨{ conn with isAuthed := result }, bound, pc⟩)
      | .authResult result knownContact =>
        if !conn.client then none
        else if !result then
          some (w.setProc i { pr with conn.isAuthed := false, conn.closed := true })
        else
          some (w.setProc i { pr with
            conn.isAuthed := true
            pc := if pr.bound then .authenticated knownContact else .idle })
      | .contactRequest answer =>
        if conn.client || !conn.isAuthed || pr.bound then some w
        else
          match answer with
          | .accepted => some (w.setProc i { pr with pc := .authenticated true })
          | .pending => some w
          | .rejected => some (w.setProc i { pr with conn.closed := true })
      | .contactRequestAck status =>
        if !conn.client || !pr.bound then some w
        else some (w.setProc i { pr with pc := .acking status })
      | .disconnect =>
        some (w.setProc i { pr with
          conn.closed := true
          pc := if pr.bound then .closing else .exited })

/-- An inbound session arrives on the listener; its handler has no contact yet. -/
def accept (w : World) (conn : OpenConnection) : Option World :=
  if conn.client then none
  else some { w with procs := w.procs ++ [⟨{ conn with isAuthed := false }, false, .idle⟩] }

/-- Connector `j` reads the hostname under `c.mutex`. -/
def attemptStart (w : World) (j : Nat) : Option World :=
  match w.attempts[j]? with
  | some a =>
    if a.pc = .start ∧ w.mutex.isNone then
      some { w with attempts := w.attempts.set j { a with pc := .dialing w.contact.data.hostname } }
    else none
  | none => none

/-- Connector `j` connects and opens a protocol session, hands it to a new protocol goroutine
(whose `OnReady` marks it authenticated and sets `MyHostname`), and returns. -/
def attemptDialed (w : World) (j : Nat) : Option World :=
  match w.attempts[j]? with
  | some ⟨cancelled, .dialing hostname⟩ =>
    some { w with
      attempts := w.attempts.set j ⟨cancelled, .done⟩
      procs := w.procs ++ [⟨⟨true, true, false, w.myLabel, hostname.take 16⟩, true, .idle⟩] }
  | _ => none

/-- Connector `j` sees its context cancelled and returns. -/
def attemptCancelled (w : World) (j : Nat) : Option World :=
  match w.attempts[j]? with
  | some ⟨true, .dialing _⟩ => some { w with attempts := w.attempts.set j ⟨true, .done⟩ }
  | _ => none

/-- `StopConnection`: called when idle, then its locked section, then its wait on `stopped`. -/
def stopStep (w : World) : Option World :=
  match w.stopper with
  | .idle => some { w with stopper := .stopping }
  | .stopping =>
    if w.mutex.isSome then none
    else if !w.contact.connEnabled then some { w with stopper := .idle }
    else if w.contact.connChannel.isNone then some { w with mutex := some .stopper, stopper := .crashed }
    else
      some { w with
        contact := { w.contact with connChannel := none, connClosedChannel := none, connStopped := none }
        chanClosed := true
        stopper := .waiting }
  | .waiting => if w.loop = .exited then some { w with stopper := .idle } else none
  | .crashed => none

/-- `StartConnection`, under `c.mutex`: the first call makes the channels and spawns the loop,
later ones return at once. -/
def startStep (w : World) : Option World :=
  if w.mutex.isSome then none
  else
    let o := w.contact.startConnection 0
    some { w with contact := o.1, loop := if o.2 then .top else w.loop }

end World

/-- Who moves in a step, and with what input from outside. -/
inductive Action
  | loop (now : Instant)
  | deliver (i : Nat)
  | loopChannelClosed
  | proc (i : Nat) (now : Instant)
  | handle (i : Nat) (e : Event)
  | accept (conn : OpenConnection)
  | attemptStart (j : Nat)
  | attemptDialed (j : Nat)
  | attemptCancelled (j : Nat)
  | start
  | stop
  deriving DecidableEq, Repr

def step (w : World) : Action → Option World
  | .loop now => w.loopStep now
  | .deliver i => w.deliver i
  | .loopChannelClosed => w.loopChannelClosed
  | .proc i now => w.procStep i now
  | .handle i e => w.handle i e
  | .accept conn => w.accept conn
  | .attemptStart j => w.attemptStart j
  | .attemptDialed j => w.attemptDialed j
  | .attemptCancelled j => w.attemptCancelled j
  | .start => w.startStep
  | .stop => w.stopStep

/-- Run the actions of a list in order; `none` if one of them is not enabled. -/
def run (w : World) : List Action → Option World
  | [] => some w
  | a :: as => (step w a).bind (run · as)

/-- The states the agent reaches from its start. -/
inductive Reachable (w₀ : World) : World → Prop
  | init : Reachable w₀ w₀
  | step {w w' : World} (a : Action) : Reachable w₀ w → step w a = some w' → Reachable w₀ w'

theorem run_reachable {w₀ : World} :
    ∀ {w w' : World} {as : List Action}, Reachable w₀ w → run w as = some w' → Reachable w₀ w'
  | w, w', [], h, hr => by cases hr; exact h
  | w, w', a :: as, h, hr => by
      simp only [run] at hr
      cases hs : step w a with
      | none => simp [hs] at hr
      | some w₁ =>
          rw [hs] at hr
          exact run_reachable (h.step a hs) hr

end Ricochet.Agent
