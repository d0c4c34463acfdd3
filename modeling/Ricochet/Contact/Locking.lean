import Ricochet.Contact.Spec

/-! How `UpdateContactRequest` and `OnConnectionAuthenticated` use `c.mutex`, for the goroutine
that calls them without holding it. A method's lock trace lists its `Lock` and `Unlock` calls in
order, those of the methods it calls included, along the path its branches take on the given
contact. `sync.Mutex` is not reentrant: a goroutine that locks the mutex it holds blocks for
good. Nor has it an owner: `Unlock` releases it whoever holds it. -/

namespace Ricochet.Contact

/-- A step of a lock trace; `block` is a send on a nil channel, which blocks for good. -/
inductive LockStep
  | lock | unlock | block
  deriving DecidableEq, Repr

/-- How a call ends for the goroutine that makes it: it returns, holding the mutex or not; it
locks the mutex it holds; it unlocks a mutex it does not hold; or it blocks for good elsewhere. -/
inductive CallEnd
  | returns (held : Bool)
  | relocks
  | unlocksFree
  | halts (held : Bool)
  deriving DecidableEq, Repr

/-- Run a lock trace from `held`, whether the goroutine holds the mutex. -/
def runLocks : Bool → List LockStep → CallEnd
  | held, [] => .returns held
  | false, .lock :: steps => runLocks true steps
  | true, .lock :: _ => .relocks
  | true, .unlock :: steps => runLocks false steps
  | false, .unlock :: _ => .unlocksFree
  | held, .block :: _ => .halts held

/-- `c.Data()`: it takes the mutex and releases it through `defer`. -/
def dataLocks : List LockStep := [.lock, .unlock]

/-- `UpdateContactRequest(status)`: it locks with a deferred unlock, and on a pending request
builds its event with `c.Data()` before returning. -/
def UpdateContactRequestLocks (c : Contact) : List LockStep :=
  [.lock] ++ (if !c.data.request.pending then [] else dataLocks) ++ [.unlock]

/-- `OnConnectionAuthenticated(conn, knownContact)`, given `connChannel` at entry and `reread`,
its value when the send after the guard reads it again. With a nil channel at entry the guard
unlocks without returning; the send then blocks for good on a nil channel, or goes through on one
a `StartConnection` made meanwhile and unlocks a second time. -/
def onConnectionAuthenticatedLocks (c : Contact) (reread : Option Nat) : List LockStep :=
  match c.connChannel, reread with
  | none, none => [.lock, .unlock, .block]
  | none, some _ => [.lock, .unlock, .unlock]
  | some _, _ => [.lock, .unlock]

/-- Past its guard `OnConnectionAuthenticated` blocks for good, or unlocks a mutex it does not
hold. -/
theorem onConnectionAuthenticatedLocks_run (c : Contact) (reread : Option Nat) :
    runLocks false (onConnectionAuthenticatedLocks c reread) =
      match c.connChannel, reread with
      | none, none => .halts false
      | none, some _ => .unlocksFree
      | some _, _ => .returns false := by
  unfold onConnectionAuthenticatedLocks
  split <;> rfl

/-- On a pending request `UpdateContactRequest` locks `c.mutex` again in `c.Data()` under its
deferred unlock: the call never returns, and the mutex stays locked. -/
theorem UpdateContactRequest_relocks_when_pending (c : Contact)
    (h : c.data.request.pending = true) :
    runLocks false (UpdateContactRequestLocks c) = .relocks := by
  simp [UpdateContactRequestLocks, h, dataLocks, runLocks]

/-- A contact whose outbound request is pending, as `OnContactRequestAck` finds it. -/
theorem UpdateContactRequest_relocks_on_pending_request :
    let c : Contact := ⟨0, ⟨"bbbbbbbbbbbbbbbb.onion", "", "", "", ⟨true, "", "", "", "alice", "hello"⟩⟩,
      .request, true, none, some 0, some 0, some 0, 0, false⟩
    c.data.request.pending = true ∧ runLocks false (UpdateContactRequestLocks c) = .relocks :=
  ⟨rfl, UpdateContactRequest_relocks_when_pending _ rfl⟩

end Ricochet.Contact
