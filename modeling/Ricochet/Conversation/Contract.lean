import Ricochet.Conversation.Unread

/-! The trimming contract. `trimBacklog` keeps a suffix of the backlog of at most
`backlogHardLimit` messages. Its soft cut drops no UNREAD message, and with none left it cuts
down to `backlogSoftLimit`. Where the soft cut stops is exactly computed: `backlogContextNum`
messages before the first UNREAD one, unless the scan reaches the soft limit first. Then fewer
than `backlogContextNum` messages of context survive, one or two, when the first UNREAD message
lies just past the cut point. Trimming a trimmed backlog changes nothing, and both cuts keep the
newest message, so `AddMessage` never loses the message it adds. -/

namespace Ricochet.Conversation

variable {c : Conversation}

/-! ### The two cuts together -/

theorem trimBacklog_messages (c : Conversation) :
    c.trimBacklog.messages = c.trimHard.messages.drop
      (if c.trimHard.messages.length ≤ backlogSoftLimit then 0
        else keepIndex c.trimHard.messages.length 0 c.trimHard.messages) :=
  trimSoft_messages c.trimHard

theorem trimBacklog_length_le (c : Conversation) :
    c.trimBacklog.messages.length ≤ backlogHardLimit := by
  rw [trimBacklog_messages, List.length_drop, trimHard_messages, List.length_drop]
  omega

theorem apply_length_le (h : c.messages.length ≤ backlogHardLimit) (op : Op) :
    (c.apply op).messages.length ≤ backlogHardLimit := by
  cases op with
  | addMessage msg populating =>
      show (c.addMessage msg populating).messages.length ≤ _
      unfold Conversation.addMessage
      split
      · exact h
      · exact trimBacklog_length_le _
  | updateMessage msg => exact (updateMessage_length c msg).trans_le h
  | markAsRead => exact h
  | setActive active =>
      show (c.setActive active).messages.length ≤ _
      unfold Conversation.setActive
      split <;> exact h

theorem keepIndex_of_no_unread {M : List Message} (hn : backlogSoftLimit < M.length)
    (h : ∀ m ∈ M, m.status ≠ .unread) : keepIndex M.length 0 M = M.length - backlogSoftLimit :=
  keepIndex_of_limit hn (j := M.length) (Nat.sub_lt (by omega) (by decide))
    (by rwa [List.take_length])

/-- The soft cut drops a prefix of the hard cut's result that holds no UNREAD message. -/
theorem trimBacklog_cut (c : Conversation) :
    ∃ k, c.trimBacklog.messages = c.trimHard.messages.drop k ∧
      ∀ m ∈ c.trimHard.messages.take k, m.status ≠ .unread := by
  refine ⟨_, trimBacklog_messages c, ?_⟩
  split
  · simp
  · simpa using keepIndex_prefix_not_unread c.trimHard.messages.length 0 c.trimHard.messages

theorem trimBacklog_length_of_no_unread (c : Conversation)
    (hclear : ∀ m ∈ c.trimBacklog.messages, m.status ≠ .unread) :
    c.trimBacklog.messages.length = min c.messages.length backlogSoftLimit := by
  have hsoft : backlogSoftLimit = 100 := rfl
  have hhard : backlogHardLimit = 200 := rfl
  have hlen : c.trimHard.messages.length =
      c.messages.length - (c.messages.length - backlogHardLimit) := by
    rw [trimHard_messages, List.length_drop]
  obtain ⟨k, hk, hpre⟩ := trimBacklog_cut c
  have hnone : ∀ m ∈ c.trimHard.messages, m.status ≠ .unread := by
    intro m hm
    rw [← List.take_append_drop k c.trimHard.messages, List.mem_append] at hm
    exact hm.elim (hpre m) (hk ▸ hclear m)
  rw [trimBacklog_messages]
  split
  · rw [List.drop_zero]
    omega
  · rw [keepIndex_of_no_unread (by omega) hnone, List.length_drop]
    omega

/-- The trimming contract: the result is what a cut dropping no UNREAD message leaves of the last
`backlogHardLimit` messages, `min (len L) backlogSoftLimit` of them when none is UNREAD; and no
run of calls exceeds the hard limit. -/
theorem trimBacklog_contract (c : Conversation) (selfAddress contactAddress : String)
    (ops : List Op) :
    let L := c.messages
    let M := L.drop (L.length - backlogHardLimit)
    let R := c.trimBacklog.messages
    R <:+ L ∧ R.length ≤ backlogHardLimit ∧
      (∃ k, R = M.drop k ∧ ∀ m ∈ M.take k, m.status ≠ .unread) ∧
      ((∀ m ∈ R, m.status ≠ .unread) → R.length = min L.length backlogSoftLimit) ∧
      ((Conversation.empty selfAddress contactAddress).run ops).messages.length ≤
        backlogHardLimit := by
  obtain ⟨k, hk⟩ := trimBacklog_messages_eq_drop c
  refine ⟨hk ▸ List.drop_suffix k _, trimBacklog_length_le c, ?_,
    trimBacklog_length_of_no_unread c,
    run_induction (fun c => c.messages.length ≤ backlogHardLimit)
      (fun _ op h => apply_length_le h op) ops _ (Nat.zero_le _)⟩
  rw [← trimHard_messages]
  exact trimBacklog_cut c

/-- Where the soft cut stops, the first UNREAD message of the last `backlogHardLimit` being at
index `u`: `backlogContextNum` messages before it, or at the soft limit if that comes first. -/
theorem trimBacklog_keeps_from_first_unread (c : Conversation) {u : Nat}
    (hu : c.trimHard.messages[u]?.map (·.status) = some .unread)
    (hfirst : ∀ m ∈ c.trimHard.messages.take u, m.status ≠ .unread) :
    c.trimHard.messages = c.messages.drop (c.messages.length - backlogHardLimit) ∧
      c.trimBacklog.messages = c.trimHard.messages.drop
        (if c.trimHard.messages.length ≤ backlogSoftLimit then 0
          else if u + backlogSoftLimit ≤ c.trimHard.messages.length then u - backlogContextNum
          else c.trimHard.messages.length - backlogSoftLimit) := by
  refine ⟨trimHard_messages c, ?_⟩
  rw [trimBacklog_messages]
  split_ifs with hn hlim
  · rfl
  · rw [keepIndex_of_unread hu hfirst hlim]
  · rw [keepIndex_of_limit (by omega) (by omega) hfirst]

/-! ### Trimming again, and the newest message -/

theorem keepIndex_add_le (n : Nat) :
    ∀ (i : Nat) (l : List Message), i + backlogSoftLimit ≤ n →
      keepIndex n i l + backlogSoftLimit ≤ n
  | _, [], h => by simp only [keepIndex]; omega
  | i, m :: ms, h => by
      unfold keepIndex
      split_ifs
      · omega
      · exact h
      · exact keepIndex_add_le n (i + 1) ms (by omega)

theorem keepIndex_shift (n d : Nat) :
    ∀ (i : Nat) (l : List Message), d ≤ i → keepIndex (n - d) (i - d) l = keepIndex n i l - d
  | _, [], _ => by simp only [keepIndex, Nat.zero_sub]
  | i, m :: ms, h => by
      unfold keepIndex
      rw [show n - d - (i - d) = n - i by omega, show i - d + 1 = i + 1 - d by omega,
        keepIndex_shift n d (i + 1) ms (by omega)]
      split_ifs <;> omega

/-- Restarted where it cut, the scan stops at once: a backlog the soft cut has left is not cut
again. -/
theorem trimSoft_trimSoft (c : Conversation) : c.trimSoft.trimSoft = c.trimSoft := by
  by_cases hn : c.messages.length ≤ backlogSoftLimit
  · have h : c.trimSoft = c := if_pos hn
    rw [h, h]
  · have h : c.trimSoft =
        { c with messages := c.messages.drop (keepIndex c.messages.length 0 c.messages) } :=
      if_neg hn
    set M := c.messages
    set k := keepIndex M.length 0 M with hk
    have hle : k + backlogSoftLimit ≤ M.length := keepIndex_add_le _ 0 M (by omega)
    -- the scan passes the messages it cut over again, and stops where it stopped
    have hrestart : keepIndex M.length k (M.drop k) = k := by
      have := @keepIndex_append M.length (M.take k)
        (by simpa using keepIndex_prefix_not_unread M.length 0 M) 0 (M.drop k)
        (by rw [List.length_take]; omega)
      rw [List.take_append_drop, List.length_take, Nat.zero_add, Nat.min_eq_left (by omega)] at this
      exact this.symm.trans hk.symm
    have hzero : keepIndex (M.drop k).length 0 (M.drop k) = 0 := by
      rw [List.length_drop, ← Nat.sub_self k, keepIndex_shift _ _ _ _ le_rfl, hrestart,
        Nat.sub_self]
    rw [h]
    unfold trimSoft
    split
    · rfl
    · simp only [hzero, List.drop_zero]

/-- Trimming a trimmed backlog changes nothing. -/
theorem trimBacklog_idempotent (c : Conversation) :
    c.trimBacklog.trimBacklog = c.trimBacklog := by
  show c.trimBacklog.trimHard.trimSoft = c.trimBacklog
  rw [trimHard_of_le (trimBacklog_length_le c)]
  exact trimSoft_trimSoft c.trimHard

theorem trimBacklog_getLast? (c : Conversation) :
    c.trimBacklog.messages.getLast? = c.messages.getLast? := by
  have hH : c.trimHard.messages.getLast? = c.messages.getLast? := by
    rw [trimHard_messages, List.getLast?_drop]
    split_ifs with h
    · rw [List.length_eq_zero.mp (show c.messages.length = 0 by unfold backlogHardLimit at h; omega)]
      rfl
    · rfl
  have hk := keepIndex_add_le c.trimHard.messages.length 0 c.trimHard.messages
  rw [trimBacklog_messages, List.getLast?_drop, ← hH]
  split_ifs with h₁ h₂ h₂
  · rw [List.length_eq_zero.mp (show c.trimHard.messages.length = 0 by omega)]; rfl
  · rfl
  · unfold backlogSoftLimit at *; omega
  · rfl

/-- A message that validates is never lost to trimming: `AddMessage` leaves it the newest
message of the backlog. One that does not validate leaves the conversation as it was. -/
theorem addMessage_keeps_newest (c : Conversation) (msg : Message) (populating : Bool) :
    (c.validateMessage msg = .ok () → (c.addMessage msg populating).messages.getLast? = some msg) ∧
      (c.validateMessage msg ≠ .ok () → c.addMessage msg populating = c) := by
  unfold addMessage
  split
  next e he => exact ⟨fun h => (by rw [h] at he; cases he), fun _ => rfl⟩
  next he =>
    refine ⟨fun _ => ?_, fun h => absurd he h⟩
    rw [trimBacklog_getLast?, List.getLast?_append]
    rfl

/-- A read message from the contact. -/
def readMessage : Message := ⟨some ⟨false, "peer"⟩, some ⟨true, ""⟩, 1, .read, "hi"⟩

/-- 101 messages, the third of them UNREAD. -/
def shortContextBacklog : Conversation :=
  ⟨"me", "peer", [readMessage, readMessage, { readMessage with status := .unread }] ++
    List.replicate 98 readMessage, 1, false⟩

/-- There the scan reaches the soft limit at index 1 before the UNREAD message at index 2:
the cut drops the first message, and one message of context is left where two were there. -/
theorem trimBacklog_keeps_from_first_unread_short_context :
    shortContextBacklog.trimBacklog.messages = shortContextBacklog.messages.drop 1 := by
  obtain ⟨hM, hR⟩ := trimBacklog_keeps_from_first_unread shortContextBacklog (u := 2)
    (by decide) (by decide)
  rw [hR, hM]
  decide

end Ricochet.Conversation
