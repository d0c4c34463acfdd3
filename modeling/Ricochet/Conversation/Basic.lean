import Mathlib.Data.List.Basic
import Mathlib.Data.String.Basic

/-! The command-line client's `Conversation`: the backlog of one contact's messages, its
unread counter, and the calls that change them. Printing is not modelled, and the calls that
reach the backend return the request they send. -/

namespace Ricochet

/-- `ricochet.Message_Status`. -/
inductive MessageStatus
  | null | sending | queued | sent | delivered | read | unread | error
  deriving DecidableEq, Repr

/-- `ricochet.Entity`, one side of a message. -/
structure Entity where
  isSelf : Bool
  address : String
  deriving DecidableEq, Repr

/-- `ricochet.Message`; `sender` and `recipient` are pointers and may be nil. -/
structure Message where
  sender : Option Entity
  recipient : Option Entity
  identifier : UInt64
  status : MessageStatus
  text : String
  deriving DecidableEq, Repr

def maxMessageTextLength : Nat := 2000

/-- Messages kept before the first unread one when the backlog is trimmed. -/
def backlogContextNum : Nat := 3

def backlogSoftLimit : Nat := 100

def backlogHardLimit : Nat := 200

/-- The client's conversation with one contact. The two addresses are read through
`c.Client.Identity` and `c.Contact.Data` and never change. -/
structure Conversation where
  selfAddress : String
  contactAddress : String
  messages : List Message
  numUnread : Int
  active : Bool
  deriving Repr

namespace Conversation

/-- A conversation as the client creates it: no messages, nothing unread, not active. -/
def empty (selfAddress contactAddress : String) : Conversation :=
  ⟨selfAddress, contactAddress, [], 0, false⟩

/-- Validate that a message is well-formed, sane, and belongs to this conversation. -/
def validateMessage (c : Conversation) (msg : Message) : Except String Unit :=
  match msg.sender, msg.recipient with
  | some sender, some recipient =>
    let localEntity := if sender.isSelf then sender else recipient
    let remoteEntity := if sender.isSelf then recipient else sender
    if !localEntity.isSelf ||
        (!localEntity.address.isEmpty && localEntity.address != c.selfAddress) then
      .error "Invalid self entity on message"
    else if remoteEntity.isSelf || remoteEntity.address != c.contactAddress then
      .error "Invalid remote entity on message"
    else if msg.status = .null then
      .error "Message has null status"
    else if msg.text.utf8ByteSize = 0 || maxMessageTextLength < msg.text.utf8ByteSize then
      .error "Message text is unacceptable"
    else
      .ok ()
  | _, _ => .error "Message entities are incomplete"

/-- The number of UNREAD messages in a backlog. -/
def unreadCount (messages : List Message) : Nat :=
  messages.countP (·.status = .unread)

def recountUnread (c : Conversation) : Conversation :=
  { c with numUnread := unreadCount c.messages }

/-- The scan of `trimBacklog` over a backlog of length `n`, from the message at index `i`:
the index of the first message kept. -/
def keepIndex (n : Nat) : Nat → List Message → Nat
  | _, [] => 0
  | i, m :: ms =>
    if m.status = .unread then i - backlogContextNum
    else if n - i ≤ backlogSoftLimit then i
    else keepIndex n (i + 1) ms

/-- The hard cut: keep the last `backlogHardLimit` messages and recount. -/
def trimHard (c : Conversation) : Conversation :=
  if backlogHardLimit < c.messages.length then
    recountUnread { c with messages := c.messages.drop (c.messages.length - backlogHardLimit) }
  else c

/-- The soft cut: drop the messages before the index `keepIndex` finds. -/
def trimSoft (c : Conversation) : Conversation :=
  if c.messages.length ≤ backlogSoftLimit then c
  else { c with messages := c.messages.drop (keepIndex c.messages.length 0 c.messages) }

def trimBacklog (c : Conversation) : Conversation :=
  c.trimHard.trimSoft

/-- Add a message to the conversation. Printing it, and asking the backend to mark it read
when the conversation is active and not `populating`, do not change the conversation. -/
def addMessage (c : Conversation) (msg : Message) (_populating : Bool) : Conversation :=
  match c.validateMessage msg with
  | .error _ => c
  | .ok () =>
    trimBacklog { c with
      messages := c.messages ++ [msg]
      numUnread := if msg.status = .unread then c.numUnread + 1 else c.numUnread }

/-- The backward search of `UpdateMessage`: replace the last message satisfying `p` by `upd`,
returning the message replaced. -/
def replaceLast (p : Message → Bool) (upd : Message) :
    List Message → Option (Message × List Message)
  | [] => none
  | m :: ms =>
    match replaceLast p upd ms with
    | some (old, ms') => some (old, m :: ms')
    | none => if p m then some (m, upd :: ms) else none

/-- The messages `UpdateMessage` matches against `upd`: same direction, same identifier. -/
def sameMessage (upd m : Message) : Bool :=
  m.sender.map (·.isSelf) == upd.sender.map (·.isSelf) && m.identifier == upd.identifier

def updateMessage (c : Conversation) (upd : Message) : Conversation :=
  match c.validateMessage upd with
  | .error _ => c
  | .ok () =>
    match replaceLast (sameMessage upd) upd c.messages with
    | none => c
    | some (old, messages) =>
      { c with
        messages := messages
        numUnread := if old.status = .unread ∧ upd.status ≠ .unread then c.numUnread - 1
          else c.numUnread }

/-- The scan of `MarkAsRead` over the backlog from its newest message: the first UNREAD
message, stopping at the first READ one. -/
def lastRecvMsg : List Message → Option Message
  | [] => none
  | m :: ms =>
    match m.status with
    | .unread => some m
    | .read => none
    | _ => lastRecvMsg ms

/-- `ricochet.MarkConversationReadRequest`. -/
structure MarkConversationReadRequest where
  entity : Option Entity
  lastRecvIdentifier : UInt64
  deriving DecidableEq, Repr

/-- `MarkAsReadBefore`; `backend` is the backend's answer to `MarkConversationRead`, whose
error it returns. -/
def markAsReadBefore (c : Conversation) (backend : MarkConversationReadRequest → Except String Unit)
    (message : Message) : Except String Unit :=
  match c.validateMessage message with
  | .error e => .error e
  | .ok () =>
    if message.sender.map (·.isSelf) = some true then
      .error "Outbound messages cannot be marked as read"
    else backend ⟨message.sender, message.identifier⟩

/-- Mark all unread messages as read on the backend. -/
def markAsRead (c : Conversation) (backend : MarkConversationReadRequest → Except String Unit) :
    Except String Unit :=
  match lastRecvMsg c.messages.reverse with
  | none => .ok ()
  | some m => c.markAsReadBefore backend m

/-- Printing the context and marking everything read on activation do not change the
conversation. -/
def setActive (c : Conversation) (active : Bool) : Conversation :=
  if active = c.active then c else { c with active := active }

/-- The calls of the conversation's public interface. -/
inductive Op
  | addMessage (msg : Message) (populating : Bool)
  | updateMessage (msg : Message)
  | markAsRead
  | setActive (active : Bool)

def apply (c : Conversation) : Op → Conversation
  | .addMessage msg populating => c.addMessage msg populating
  | .updateMessage msg => c.updateMessage msg
  | .markAsRead => c
  | .setActive active => c.setActive active

def run (c : Conversation) (ops : List Op) : Conversation :=
  ops.foldl apply c

@[simp] theorem run_nil (c : Conversation) : c.run [] = c := rfl

@[simp] theorem run_cons (c : Conversation) (op : Op) (ops : List Op) :
    c.run (op :: ops) = (c.apply op).run ops := rfl

/-- A conversation property kept by every call holds after every run. -/
theorem run_induction (P : Conversation → Prop) (hstep : ∀ c op, P c → P (c.apply op)) :
    ∀ (ops : List Op) (c : Conversation), P c → P (c.run ops)
  | [], _, h => h
  | op :: ops, c, h => run_induction P hstep ops _ (hstep c op h)

/-! ### Frame lemmas: the addresses never change -/

@[simp] theorem trimHard_selfAddress (c : Conversation) :
    c.trimHard.selfAddress = c.selfAddress := by
  unfold trimHard recountUnread; split <;> simp

@[simp] theorem trimHard_contactAddress (c : Conversation) :
    c.trimHard.contactAddress = c.contactAddress := by
  unfold trimHard recountUnread; split <;> simp

@[simp] theorem trimSoft_selfAddress (c : Conversation) :
    c.trimSoft.selfAddress = c.selfAddress := by
  unfold trimSoft; split <;> simp

@[simp] theorem trimSoft_contactAddress (c : Conversation) :
    c.trimSoft.contactAddress = c.contactAddress := by
  unfold trimSoft; split <;> simp

@[simp] theorem trimBacklog_selfAddress (c : Conversation) :
    c.trimBacklog.selfAddress = c.selfAddress := by
  simp [trimBacklog]

@[simp] theorem trimBacklog_contactAddress (c : Conversation) :
    c.trimBacklog.contactAddress = c.contactAddress := by
  simp [trimBacklog]

@[simp] theorem addMessage_selfAddress (c : Conversation) (msg : Message) (populating : Bool) :
    (c.addMessage msg populating).selfAddress = c.selfAddress := by
  unfold addMessage; split <;> simp

@[simp] theorem addMessage_contactAddress (c : Conversation) (msg : Message) (populating : Bool) :
    (c.addMessage msg populating).contactAddress = c.contactAddress := by
  unfold addMessage; split <;> simp

@[simp] theorem updateMessage_selfAddress (c : Conversation) (upd : Message) :
    (c.updateMessage upd).selfAddress = c.selfAddress := by
  unfold updateMessage; split <;> try split
  all_goals rfl

@[simp] theorem updateMessage_contactAddress (c : Conversation) (upd : Message) :
    (c.updateMessage upd).contactAddress = c.contactAddress := by
  unfold updateMessage; split <;> try split
  all_goals rfl

@[simp] theorem setActive_selfAddress (c : Conversation) (active : Bool) :
    (c.setActive active).selfAddress = c.selfAddress := by
  unfold setActive; split <;> rfl

@[simp] theorem setActive_contactAddress (c : Conversation) (active : Bool) :
    (c.setActive active).contactAddress = c.contactAddress := by
  unfold setActive; split <;> rfl

@[simp] theorem apply_selfAddress (c : Conversation) (op : Op) :
    (c.apply op).selfAddress = c.selfAddress := by
  cases op <;> simp [apply]

@[simp] theorem apply_contactAddress (c : Conversation) (op : Op) :
    (c.apply op).contactAddress = c.contactAddress := by
  cases op <;> simp [apply]

@[simp] theorem run_selfAddress (c : Conversation) (ops : List Op) :
    (c.run ops).selfAddress = c.selfAddress :=
  run_induction (·.selfAddress = c.selfAddress) (fun _ _ h => by simpa using h) ops c rfl

@[simp] theorem run_contactAddress (c : Conversation) (ops : List Op) :
    (c.run ops).contactAddress = c.contactAddress :=
  run_induction (·.contactAddress = c.contactAddress) (fun _ _ h => by simpa using h) ops c rfl

end Conversation

end Ricochet
