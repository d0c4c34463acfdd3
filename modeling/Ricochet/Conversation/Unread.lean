import Ricochet.Conversation.Trim

/-! The unread counter against the backlog. `AddMessage` and both cuts keep `numUnread` equal
to the number of UNREAD messages. `UpdateMessage` lowers the counter when a message leaves
UNREAD, but does not raise it when a message enters UNREAD. -/

namespace Ricochet.Conversation

/-- The counter equals the number of UNREAD messages in the backlog. -/
def UnreadExact (c : Conversation) : Prop :=
  c.numUnread = unreadCount c.messages

variable {c : Conversation}

/-! ### Adding and trimming -/

theorem UnreadExact.trimHard (h : UnreadExact c) : UnreadExact c.trimHard := by
  by_cases hl : backlogHardLimit < c.messages.length
  · exact trimHard_numUnread_of_lt hl
  · rwa [trimHard_of_le (Nat.not_lt.mp hl)]

theorem UnreadExact.trimSoft (h : UnreadExact c) : UnreadExact c.trimSoft := by
  simpa [UnreadExact] using h

theorem UnreadExact.trimBacklog (h : UnreadExact c) : UnreadExact c.trimBacklog :=
  h.trimHard.trimSoft

theorem UnreadExact.addMessage (h : UnreadExact c) (msg : Message) (populating : Bool) :
    UnreadExact (c.addMessage msg populating) := by
  unfold Conversation.addMessage
  split
  · exact h
  · apply UnreadExact.trimBacklog
    unfold UnreadExact at h ⊢
    simp only [unreadCount_append, unreadCount_singleton]
    split_ifs <;> omega

/-! ### Updating -/

theorem replaceLast_eq_some {p : Message → Bool} {upd : Message} :
    ∀ {l : List Message} {old : Message} {l' : List Message},
      replaceLast p upd l = some (old, l') →
        ∃ front back, l = front ++ old :: back ∧ l' = front ++ upd :: back
  | [], _, _, h => by simp [replaceLast] at h
  | m :: ms, old, l', h => by
      unfold replaceLast at h
      split at h
      · rename_i old' ms' hr
        obtain ⟨rfl, rfl⟩ := Prod.mk.inj (Option.some.inj h)
        obtain ⟨front, back, rfl, rfl⟩ := replaceLast_eq_some hr
        exact ⟨m :: front, back, rfl, rfl⟩
      · split at h
        · obtain ⟨rfl, rfl⟩ := Prod.mk.inj (Option.some.inj h)
          exact ⟨[], ms, rfl, rfl⟩
        · cases h

theorem unreadCount_replaceLast {p : Message → Bool} {upd old : Message} {l l' : List Message}
    (h : replaceLast p upd l = some (old, l')) :
    unreadCount l' + (if old.status = .unread then 1 else 0) =
      unreadCount l + (if upd.status = .unread then 1 else 0) := by
  obtain ⟨front, back, rfl, rfl⟩ := replaceLast_eq_some h
  simp only [unreadCount_append, unreadCount_cons]
  omega

theorem updateMessage_of_replaceLast {upd old : Message} {messages : List Message}
    (hv : c.validateMessage upd = .ok ())
    (hr : replaceLast (sameMessage upd) upd c.messages = some (old, messages)) :
    (c.updateMessage upd).messages = messages ∧
      (c.updateMessage upd).numUnread =
        if old.status = .unread ∧ upd.status ≠ .unread then c.numUnread - 1 else c.numUnread := by
  simp [Conversation.updateMessage, hv, hr]

theorem updateMessage_of_replaceLast_none {upd : Message}
    (hr : replaceLast (sameMessage upd) upd c.messages = none) : c.updateMessage upd = c := by
  unfold Conversation.updateMessage
  split <;> simp [hr]

theorem updateMessage_of_error {upd : Message} {e : String}
    (hv : c.validateMessage upd = .error e) : c.updateMessage upd = c := by
  simp [Conversation.updateMessage, hv]

theorem updateMessage_length (c : Conversation) (upd : Message) :
    (c.updateMessage upd).messages.length = c.messages.length := by
  cases hv : c.validateMessage upd with
  | error e => rw [updateMessage_of_error hv]
  | ok u =>
      cases hr : replaceLast (sameMessage upd) upd c.messages with
      | none => rw [updateMessage_of_replaceLast_none hr]
      | some r =>
          obtain ⟨front, back, hl, hm⟩ := replaceLast_eq_some hr
          rw [(updateMessage_of_replaceLast hv hr).1, hl, hm]
          simp

/-- An update that does not carry UNREAD keeps the counter exact. -/
theorem UnreadExact.updateMessage (h : UnreadExact c) {upd : Message}
    (hu : upd.status ≠ .unread) : UnreadExact (c.updateMessage upd) := by
  cases hv : c.validateMessage upd with
  | error e => rwa [updateMessage_of_error hv]
  | ok u =>
      cases hr : replaceLast (sameMessage upd) upd c.messages with
      | none => rwa [updateMessage_of_replaceLast_none hr]
      | some r =>
          obtain ⟨old, messages⟩ := r
          obtain ⟨hm, hn⟩ := updateMessage_of_replaceLast hv hr
          have hc := unreadCount_replaceLast hr
          simp only [UnreadExact, hm, hn, hu, ne_eq, not_false_eq_true, and_true, if_false,
            add_zero] at h hc ⊢
          split_ifs at hc ⊢ <;> omega

/-! ### Repeated updates -/

@[simp] theorem sameMessage_self (upd : Message) : sameMessage upd upd = true := by
  simp [sameMessage]

/-- After a replacement nothing later in the backlog matches, so searching again finds the
message just put in. -/
theorem replaceLast_replaceLast {p : Message → Bool} {upd : Message} (hp : p upd = true) :
    ∀ {l : List Message} {old : Message} {l' : List Message},
      replaceLast p upd l = some (old, l') → replaceLast p upd l' = some (upd, l')
  | [], _, _, h => by simp [replaceLast] at h
  | m :: ms, old, l', h => by
      unfold replaceLast at h
      split at h
      · rename_i old' ms' hr
        obtain ⟨rfl, rfl⟩ := Prod.mk.inj (Option.some.inj h)
        simp [replaceLast, replaceLast_replaceLast hp hr]
      · rename_i hr
        split at h
        · obtain ⟨rfl, rfl⟩ := Prod.mk.inj (Option.some.inj h)
          simp [replaceLast, hr, hp]
        · cases h

/-- The same update delivered twice changes nothing the second time: the message it replaced
is already the update, and the counter is not lowered again. -/
theorem updateMessage_idempotent (c : Conversation) (upd : Message) :
    (c.updateMessage upd).updateMessage upd = c.updateMessage upd := by
  cases hv : c.validateMessage upd with
  | error e => rw [updateMessage_of_error hv, updateMessage_of_error hv]
  | ok u =>
    cases hr : replaceLast (sameMessage upd) upd c.messages with
    | none => rw [updateMessage_of_replaceLast_none hr, updateMessage_of_replaceLast_none hr]
    | some r =>
      have hv' : (c.updateMessage upd).validateMessage upd = .ok () := by
        rw [← hv]
        simp only [validateMessage, updateMessage_selfAddress, updateMessage_contactAddress]
      have hr' := replaceLast_replaceLast (sameMessage_self upd) hr
      rw [← (updateMessage_of_replaceLast hv hr).1] at hr'
      generalize c.updateMessage upd = c' at hv' hr' ⊢
      simp [Conversation.updateMessage, hv', hr']

/-! ### Runs -/

theorem UnreadExact.empty (selfAddress contactAddress : String) :
    UnreadExact (Conversation.empty selfAddress contactAddress) := rfl

theorem UnreadExact.apply (h : UnreadExact c) {op : Op}
    (hop : ∀ msg, op = .updateMessage msg → msg.status ≠ .unread) : UnreadExact (c.apply op) := by
  cases op with
  | addMessage msg populating => exact h.addMessage msg populating
  | updateMessage msg => exact h.updateMessage (hop msg rfl)
  | markAsRead => exact h
  | setActive active =>
      show UnreadExact (c.setActive active)
      unfold Conversation.setActive
      split <;> exact h

/-- On every run whose updates never carry UNREAD the counter stays exact. -/
theorem unreadExact_run_of_updates_not_unread (selfAddress contactAddress : String)
    (ops : List Op) (hops : ∀ msg, Op.updateMessage msg ∈ ops → msg.status ≠ .unread) :
    UnreadExact ((Conversation.empty selfAddress contactAddress).run ops) := by
  suffices ∀ c : Conversation, UnreadExact c → UnreadExact (c.run ops) from
    this _ (UnreadExact.empty _ _)
  induction ops with
  | nil => exact fun c h => h
  | cons op ops ih =>
      intro c h
      exact ih (fun msg hm => hops msg (List.mem_cons_of_mem _ hm)) _
        (h.apply fun msg hop => hops msg (hop ▸ List.mem_cons_self _ _))

/-- An UNREAD message arrives and is then marked READ by an update. -/
theorem unreadExact_run_of_updates_not_unread_on_read_receipt :
    let msg : Message := ⟨some ⟨false, "peer"⟩, some ⟨true, ""⟩, 1, .unread, "hello"⟩
    UnreadExact ((Conversation.empty "me" "peer").run
      [.addMessage msg false, .updateMessage { msg with status := .read }]) :=
  unreadExact_run_of_updates_not_unread _ _ _ (by simp)

/-- Reading a message, re-marking it UNREAD and marking it READ again drives the counter
below zero while the backlog holds no UNREAD message. -/
theorem numUnread_negative_after_reread :
    let msg : Message :=
      ⟨some ⟨false, "peer"⟩, some ⟨true, ""⟩, 1, .read, "hello"⟩
    let c := (Conversation.empty "me" "peer").run
      [.addMessage msg false, .updateMessage { msg with status := .unread }, .updateMessage msg]
    c.numUnread = -1 ∧ unreadCount c.messages = 0 := by
  decide

end Ricochet.Conversation
