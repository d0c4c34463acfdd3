import Mathlib.Data.String.Basic

/-! The core's `Contact`: its persisted record, its status, and the connection it has adopted.
Each method here is the part of the Go method that runs under `c.mutex`; what it does outside
the contact (closing a connection, sending the contact request, saving the config) is returned
as a list of effects. Connections are `OpenConnection` objects addressed by pointer: a heap
`Nat → OpenConnection` gives each pointer its object. -/

namespace Ricochet

/-- `ricochet.Contact_Status`. -/
inductive ContactStatus
  | unknown | offline | online | request | rejected
  deriving DecidableEq, Repr

/-- Modelled from the spec: `ConfigContactRequest`, the `Request` block of a persisted contact
(§6: `Pending`, `WhenDelivered`, `WhenRejected`, `RemoteError`, `MyNickname`, `Message`). -/
structure ConfigContactRequest where
  pending : Bool
  whenDelivered : String
  whenRejected : String
  remoteError : String
  myNickname : String
  message : String
  deriving DecidableEq, Repr

/-- The zero value `ConfigContactRequest{}`. -/
def ConfigContactRequest.zero : ConfigContactRequest := ⟨false, "", "", "", "", ""⟩

/-- Modelled from the spec: `ConfigContact`, a persisted contact (§6: `Hostname`, `Nickname`,
`WhenCreated`, `LastConnected`, `Request`). -/
structure ConfigContact where
  hostname : String
  nickname : String
  whenCreated : String
  lastConnected : String
  request : ConfigContactRequest
  deriving DecidableEq, Repr

/-- The fields of go-ricochet's `OpenConnection` that the core reads. -/
structure OpenConnection where
  client : Bool
  isAuthed : Bool
  closed : Bool
  myHostname : String
  otherHostname : String
  deriving DecidableEq, Repr

/-- A reading of `time.Now()`: the nanoseconds `time.Since` compares, and its RFC 3339 text. -/
structure Instant where
  nanos : Int
  rfc3339 : String
  deriving DecidableEq, Repr

def second : Int := 1000000000

/-- The contact's fields. `connection` and the three channels are pointers; the mutex and the
event publisher are the agent model's. -/
structure Contact where
  id : Int
  data : ConfigContact
  status : ContactStatus
  connEnabled : Bool
  connection : Option Nat
  connChannel : Option Nat
  connClosedChannel : Option Nat
  connStopped : Option Nat
  timeConnected : Int
  outboundConnAuthKnown : Bool
  deriving DecidableEq, Repr

/-- What a method does outside the contact's fields. -/
inductive Effect
  | close (conn : Nat)
  | sendContactRequest (conn : Nat) (channel : Nat) (nickname message : String)
  | save (id : Int) (data : ConfigContact)
  deriving DecidableEq, Repr

/-- The contact after a method, the effects it had, and what it returned. -/
structure Outcome (α : Type) where
  contact : Contact
  effects : List Effect
  result : α

namespace Contact

/-- `ContactFromConfig`. `IsOnionValid` is not in the sources and is a parameter. -/
def contactFromConfig (isOnionValid : String → Bool) (id : Int) (data : ConfigContact) :
    Except String Contact :=
  if id < 0 then .error "Invalid contact ID '%d'"
  else if !isOnionValid data.hostname then .error "Invalid contact hostname '%s"
  else .ok
    { id, data
      status :=
        if data.request.pending then
          if data.request.whenRejected ≠ "" then .rejected else .request
        else .unknown
      connEnabled := false
      connection := none
      connChannel := none
      connClosedChannel := none
      connStopped := none
      timeConnected := 0
      outboundConnAuthKnown := false }

/-- The first 16 characters of the contact's hostname, its onion label. -/
def label (c : Contact) : String :=
  c.data.hostname.take 16

def shouldMakeOutboundConnections (c : Contact) : Bool :=
  c.status ≠ .rejected && c.connEnabled

/-- `StartConnection`: the three channels it makes are named `gen`. The result says whether it
started a connection loop. -/
def startConnection (c : Contact) (gen : Nat) : Contact × Bool :=
  if c.connEnabled then (c, false)
  else
    ({ c with
        connEnabled := true
        connChannel := some gen
        connClosedChannel := some gen
        connStopped := some gen }, true)

/-- The switch of `updateContactRequest`: the request record and status after the peer's
answer `status`. -/
def answerRequest (c : Contact) (status : String) (now : Instant) : Contact :=
  match status with
  | "Pending" => { c with data.request.whenDelivered := now.rfc3339 }
  | "Accepted" =>
    { c with
      data.request := .zero
      status := if c.connection.isSome then .online else .unknown }
  | "Rejected" => { c with data.request.whenRejected := now.rfc3339 }
  | "Error" =>
    { c with
      data.request.whenRejected := now.rfc3339
      data.request.remoteError := "error occurred" }
  | _ => c

/-- Update the status of a contact request and save the contact. Returns whether to keep the
channel open, which only a `Pending` answer does. -/
def updateContactRequest (c : Contact) (status : String) (now : Instant) : Outcome Bool :=
  let c := c.answerRequest status now
  ⟨c, [.save c.id c.data], status = "Pending"⟩

/-- `UpdateContactRequest`, the exported form: it does nothing unless a request is pending.
(Its `UPDATE` event, built with `c.Data()` while `c.mutex` is still held, is the locking
model's.) -/
def UpdateContactRequest (c : Contact) (status : String) (now : Instant) : Outcome Bool :=
  if !c.data.request.pending then ⟨c, [], false⟩
  else c.updateContactRequest status now

/-- Decide whether to replace the existing connection with `conn`. -/
def shouldReplaceConnection (c : Contact) (conns : Nat → OpenConnection) (now : Instant)
    (conn : OpenConnection) : Bool :=
  match c.connection with
  | none => true
  | some cur =>
    if (conns cur).closed then true
    else if (conns cur).client = conn.client then true
    else if 30 * second < now.nanos - c.timeConnected then true
    else decide (conn.myHostname < conn.otherHostname) = conn.client

inductive SetConnectionError
  | duplicate | invalidState | hostnameMismatch | notKnownContact | usingExisting
  deriving DecidableEq, Repr

/-- The format string of each error of `setConnection`. -/
def SetConnectionError.text : SetConnectionError → String
  | .duplicate => "Duplicate assignment of connection %v to contact %v"
  | .invalidState => "Connection %v is not in a valid state to assign to contact %v"
  | .hostnameMismatch =>
    "Connection hostname %s doesn't match contact hostname %s when assigning connection"
  | .notKnownContact => "Outbound connection says we are not a known contact"
  | .usingExisting => "Using existing connection"

/-- The second half of `setConnection`: adopt connection `p`, move the request or the status
on, and stamp and save `LastConnected`. -/
def assignConnection (c : Contact) (conns : Nat → OpenConnection) (p : Nat) (now : Instant) :
    Contact × List Effect :=
  let c := { c with connection := some p }
  let (c, effects) : Contact × List Effect :=
    if c.data.request.pending then
      if (conns p).client && !c.outboundConnAuthKnown then
        (c, [.sendContactRequest p 5 c.data.request.myNickname c.data.request.message])
      else
        let o := c.updateContactRequest "Accepted" now
        (o.contact, o.effects)
    else ({ c with status := .online }, [])
  let c := { c with timeConnected := now.nanos, data.lastConnected := now.rfc3339 }
  (c, effects ++ [.save c.id c.data])

/-- `setConnection` up to the point where it unlocks `c.mutex`. -/
def setConnection (c : Contact) (conns : Nat → OpenConnection) (p : Nat) (now : Instant) :
    Outcome (Except SetConnectionError Unit) :=
  let conn := conns p
  if c.connection = some p then ⟨c, [], .error .duplicate⟩
  else if !conn.isAuthed || conn.closed then ⟨c, [.close p], .error .invalidState⟩
  else if c.label ≠ conn.otherHostname then ⟨c, [.close p], .error .hostnameMismatch⟩
  else if conn.client && !c.outboundConnAuthKnown && !c.data.request.pending then
    ⟨c, [.close p], .error .notKnownContact⟩
  else
    match c.connection with
    | none =>
      let (c, effects) := c.assignConnection conns p now
      ⟨c, effects, .ok ()⟩
    | some cur =>
      if c.shouldReplaceConnection conns now conn then
        let (c, effects) := { c with connection := none }.assignConnection conns p now
        ⟨c, .close cur :: effects, .ok ()⟩
      else ⟨c, [.close p], .error .usingExisting⟩

/-- `clearConnection(ifConn)` up to the point where it unlocks `c.mutex`, with the close of the
old connection that follows when it is not closed yet. -/
def clearConnection (c : Contact) (conns : Nat → OpenConnection) (ifConn : Option Nat)
    (now : Instant) : Outcome Bool :=
  match c.connection with
  | none => ⟨c, [], false⟩
  | some p =>
    if ifConn.isSome ∧ ifConn ≠ some p then ⟨c, [], false⟩
    else
      let c := { c with connection := none, status := .offline, data.lastConnected := now.rfc3339 }
      ⟨c, .save c.id c.data :: (if (conns p).closed then [] else [.close p]), true⟩

/-- The write `OnConnectionAuthenticated` makes before it hands `conn` to the loop. -/
def noteAuthenticated (c : Contact) (conn : OpenConnection) (knownContact : Bool) : Contact :=
  if conn.client then { c with outboundConnAuthKnown := knownContact } else c

end Contact

end Ricochet
