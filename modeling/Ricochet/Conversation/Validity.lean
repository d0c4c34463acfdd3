import Ricochet.Conversation.Unread

/-! Every message in the backlog passed `validateMessage`, so it names both sides of this
conversation, has a status and a text of acceptable length. The validator does not look at the
status of outbound messages, and `MarkAsRead` can select an outbound UNREAD message. -/

namespace Ricochet.Conversation

/-- Every message of the backlog validates against this conversation. -/
def BacklogValid (c : Conversation) : Prop :=
  ∀ m ∈ c.messages, c.validateMessage m = .ok ()

/-- `validateMessage` reads only the two addresses of the conversation. -/
theorem validateMessage_congr {c c' : Conversation} (hs : c'.selfAddress = c.selfAddress)
    (hc : c'.contactAddress = c.contactAddress) : c'.validateMessage = c.validateMessage := by
  funext msg
  simp only [validateMessage, hs, hc]

theorem empty_or_eq_of_isEmpty {a s : String} (h : a.isEmpty = false → a = s) :
    a = "" ∨ a = s := by
  by_cases ha : a = ""
  · exact .inl ha
  · exact .inr (h (Bool.eq_false_iff.mpr fun he => ha ((String.isEmpty_iff a).mp he)))

theorem validateMessage_eq_ok {c : Conversation} {m : Message} (h : c.validateMessage m = .ok ()) :
    ∃ sender recipient, m.sender = some sender ∧ m.recipient = some recipient ∧
      (if sender.isSelf then
        (sender.address = "" ∨ sender.address = c.selfAddress) ∧
          recipient.isSelf = false ∧ recipient.address = c.contactAddress
      else
        recipient.isSelf = true ∧ (recipient.address = "" ∨ recipient.address = c.selfAddress) ∧
          sender.address = c.contactAddress) ∧
      m.status ≠ .null ∧ 0 < m.text.utf8ByteSize ∧ m.text.utf8ByteSize ≤ maxMessageTextLength := by
  obtain ⟨_ | ⟨ss, sa⟩, _ | ⟨rs, ra⟩, id, st, txt⟩ := m <;> simp only [validateMessage] at h
  · cases h
  · cases h
  · cases h
  refine ⟨_, _, rfl, rfl, ?_⟩
  cases ss <;> simp only [Bool.false_eq_true, if_false, if_true] at h ⊢ <;>
    split_ifs at h with h1 h2 h3 h4 <;> try cases h
  · simp_all
    exact ⟨empty_or_eq_of_isEmpty h1.2, Nat.pos_of_ne_zero h4.1⟩
  · simp_all
    exact ⟨empty_or_eq_of_isEmpty h1, Nat.pos_of_ne_zero h4.1⟩

variable {c : Conversation}

theorem BacklogValid.trimBacklog (h : BacklogValid c) : BacklogValid c.trimBacklog := by
  intro m hm
  rw [validateMessage_congr (trimBacklog_selfAddress c) (trimBacklog_contactAddress c)]
  exact h m (mem_of_mem_trimBacklog hm)

theorem BacklogValid.addMessage (h : BacklogValid c) (msg : Message) (populating : Bool) :
    BacklogValid (c.addMessage msg populating) := by
  unfold Conversation.addMessage
  split
  · exact h
  · rename_i hv
    apply BacklogValid.trimBacklog
    intro m hm
    rcases List.mem_append.mp hm with hm | hm
    · exact h m hm
    · rwa [List.mem_singleton.mp hm]

theorem BacklogValid.updateMessage (h : BacklogValid c) (upd : Message) :
    BacklogValid (c.updateMessage upd) := by
  cases hv : c.validateMessage upd with
  | error e => rwa [updateMessage_of_error hv]
  | ok u =>
      cases hr : replaceLast (sameMessage upd) upd c.messages with
      | none => rwa [updateMessage_of_replaceLast_none hr]
      | some r =>
          obtain ⟨old, messages⟩ := r
          obtain ⟨front, back, hl, rfl⟩ := replaceLast_eq_some hr
          intro m hm
          rw [(updateMessage_of_replaceLast hv hr).1] at hm
          rw [validateMessage_congr (updateMessage_selfAddress c upd)
            (updateMessage_contactAddress c upd)]
          rcases List.mem_append.mp hm with hm | hm
          · exact h m (hl ▸ List.mem_append_left _ hm)
          · rcases List.mem_cons.mp hm with rfl | hm
            · exact hv
            · exact h m (hl ▸ List.mem_append_right _ (List.mem_cons_of_mem _ hm))

theorem BacklogValid.apply (h : BacklogValid c) (op : Op) : BacklogValid (c.apply op) := by
  cases op with
  | addMessage msg populating => exact h.addMessage msg populating
  | updateMessage msg => exact h.updateMessage msg
  | markAsRead => exact h
  | setActive active =>
      show BacklogValid (c.setActive active)
      unfold Conversation.setActive
      split <;> exact h

/-! ### Marking read -/

theorem lastRecvMsg_spec : ∀ {l : List Message} {m : Message}, lastRecvMsg l = some m →
    m ∈ l ∧ m.status = .unread
  | [], _, h => by simp [lastRecvMsg] at h
  | x :: xs, m, h => by
      unfold lastRecvMsg at h
      split at h
      · cases h; exact ⟨List.mem_cons_self _ _, ‹_›⟩
      · cases h
      · exact (lastRecvMsg_spec h).imp_left (List.mem_cons_of_mem _)

variable {backend : MarkConversationReadRequest → Except String Unit}

/-- On a message that validates, `MarkAsReadBefore` fails with its refusal of an outbound
message, or with the backend's error on an inbound one. -/
theorem markAsReadBefore_error_of_valid {m : Message} {e : String}
    (hv : c.validateMessage m = .ok ()) (he : c.markAsReadBefore backend m = .error e) :
    e = "Outbound messages cannot be marked as read" ∨
      m.sender.map (·.isSelf) ≠ some true ∧ backend ⟨m.sender, m.identifier⟩ = .error e := by
  unfold markAsReadBefore at he
  rw [hv] at he
  split_ifs at he with hs
  · exact .inl (Except.error.inj he).symm
  · exact .inr ⟨hs, he⟩

theorem BacklogValid.markAsRead_error (h : BacklogValid c) {e : String}
    (he : c.markAsRead backend = .error e) :
    e = "Outbound messages cannot be marked as read" ∨
      ∃ m ∈ c.messages, m.status = .unread ∧ m.sender.map (·.isSelf) ≠ some true ∧
        backend ⟨m.sender, m.identifier⟩ = .error e := by
  unfold Conversation.markAsRead at he
  split at he
  · cases he
  · rename_i m hm
    obtain ⟨hmem, hst⟩ := lastRecvMsg_spec hm
    have hmem := List.mem_reverse.mp hmem
    exact (markAsReadBefore_error_of_valid (h m hmem) he).imp_right fun hb => ⟨m, hmem, hst, hb⟩

/-- Every backlog message of every reachable state passes `validateMessage`, so `MarkAsRead` fails
only refusing an outbound message, or with the backend's error on an inbound UNREAD one. -/
theorem backlog_messages_validate (selfAddress contactAddress : String) (ops : List Op) :
    let c := (Conversation.empty selfAddress contactAddress).run ops
    (∀ m ∈ c.messages, ∃ sender recipient, m.sender = some sender ∧ m.recipient = some recipient ∧
      (if sender.isSelf then
        (sender.address = "" ∨ sender.address = selfAddress) ∧
          recipient.isSelf = false ∧ recipient.address = contactAddress
      else
        recipient.isSelf = true ∧ (recipient.address = "" ∨ recipient.address = selfAddress) ∧
          sender.address = contactAddress) ∧
      m.status ≠ .null ∧ 0 < m.text.utf8ByteSize ∧ m.text.utf8ByteSize ≤ maxMessageTextLength) ∧
    ∀ backend e, c.markAsRead backend = .error e →
      e = "Outbound messages cannot be marked as read" ∨
        ∃ m ∈ c.messages, m.status = .unread ∧ m.sender.map (·.isSelf) ≠ some true ∧
          backend ⟨m.sender, m.identifier⟩ = .error e := by
  intro c
  have hv : BacklogValid c :=
    run_induction BacklogValid (fun c op h => h.apply op) ops _ (fun _ hm => by cases hm)
  have hs : c.selfAddress = selfAddress := run_selfAddress _ ops
  have hc : c.contactAddress = contactAddress := run_contactAddress _ ops
  exact ⟨fun m hm => hs ▸ hc ▸ validateMessage_eq_ok (hv m hm), fun _ _ he => hv.markAsRead_error he⟩

/-- An inbound UNREAD message, then an outbound UNREAD one: both are stored, and `MarkAsRead`
selects the outbound one and refuses it, whatever the backend would answer. -/
theorem markAsRead_selects_outbound_unread :
    let inbound : Message := ⟨some ⟨false, "peer"⟩, some ⟨true, ""⟩, 1, .unread, "hi"⟩
    let outbound : Message := ⟨some ⟨true, ""⟩, some ⟨false, "peer"⟩, 1, .unread, "hello"⟩
    let c := (Conversation.empty "me" "peer").run
      [.addMessage inbound false, .addMessage outbound false]
    c.messages = [inbound, outbound] ∧
      ∀ backend, c.markAsRead backend = .error "Outbound messages cannot be marked as read" :=
  ⟨by decide, fun _ => rfl⟩

end Ricochet.Conversation
