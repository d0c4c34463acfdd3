import Ricochet.Conversation.Basic

/-! What trimming keeps: both cuts drop a prefix of the backlog, and the soft cut drops no
UNREAD message, so it leaves the count of UNREAD messages as it was. -/

namespace Ricochet.Conversation

/-! ### The scan of the soft cut -/

/-- Every message the scan passes over before its cut point is not UNREAD. -/
theorem keepIndex_prefix_not_unread (n : Nat) :
    ∀ (i : Nat) (l : List Message), ∀ m ∈ l.take (keepIndex n i l - i), m.status ≠ .unread
  | _, [] => by simp
  | i, m :: ms => by
      unfold keepIndex
      split_ifs with hu hn
      · simp [backlogContextNum]
      · simp
      · have hms := keepIndex_prefix_not_unread n (i + 1) ms
        cases h : keepIndex n (i + 1) ms - i with
        | zero => simp
        | succ k =>
            have hk : keepIndex n (i + 1) ms - (i + 1) = k := by omega
            rw [hk] at hms
            simpa [hu] using hms

theorem keepIndex_append (n : Nat) {l₁ : List Message} (h₁ : ∀ m ∈ l₁, m.status ≠ .unread) :
    ∀ {i : Nat} (l₂ : List Message), i + l₁.length + backlogSoftLimit ≤ n →
      keepIndex n i (l₁ ++ l₂) = keepIndex n (i + l₁.length) l₂ := by
  induction l₁ with
  | nil => intro i l₂ _; rfl
  | cons m ms ih =>
    intro i l₂ hn
    simp only [List.length_cons] at hn
    have hrest : keepIndex n (i + 1) (ms ++ l₂) = keepIndex n (i + 1 + ms.length) l₂ :=
      ih (fun x hx => h₁ x (List.mem_cons_of_mem _ hx)) l₂ (by omega)
    rw [List.cons_append, keepIndex, if_neg (h₁ m (List.mem_cons_self _ _)),
      if_neg (by omega), hrest, List.length_cons]
    congr 1
    omega

/-- The scan stops at the first UNREAD message when it comes before the soft limit, and keeps
`backlogContextNum` messages before it. -/
theorem keepIndex_of_unread {M : List Message} {u : Nat}
    (hu : M[u]?.map (·.status) = some .unread) (hpre : ∀ m ∈ M.take u, m.status ≠ .unread)
    (hlim : u + backlogSoftLimit ≤ M.length) :
    keepIndex M.length 0 M = u - backlogContextNum := by
  obtain ⟨m, hm, hs⟩ := Option.map_eq_some'.mp hu
  obtain ⟨hlt, rfl⟩ := List.getElem?_eq_some_iff.mp hm
  have hlen : (M.take u).length = u := by simp only [List.length_take]; omega
  have h := keepIndex_append M.length hpre (i := 0) (M.drop u) (by omega)
  rw [List.take_append_drop] at h
  rw [h, hlen, Nat.zero_add, List.drop_eq_getElem_cons hlt, keepIndex, if_pos hs]

/-- With no UNREAD message before it, the scan stops where `backlogSoftLimit` messages
remain. -/
theorem keepIndex_of_limit {M : List Message} {j : Nat} (hn : backlogSoftLimit < M.length)
    (hj : M.length - backlogSoftLimit < j) (hpre : ∀ m ∈ M.take j, m.status ≠ .unread) :
    keepIndex M.length 0 M = M.length - backlogSoftLimit := by
  have hk : M.length - backlogSoftLimit < M.length := Nat.sub_lt (by omega) (by decide)
  have hlen : (M.take (M.length - backlogSoftLimit)).length = M.length - backlogSoftLimit := by
    simp only [List.length_take]; omega
  have h := keepIndex_append M.length
    (fun m hm => hpre m (List.take_subset_take_left M hj.le hm)) (i := 0)
    (M.drop (M.length - backlogSoftLimit)) (by omega)
  have hkeep : M[M.length - backlogSoftLimit].status ≠ .unread :=
    hpre _ (List.mem_iff_getElem.mpr ⟨M.length - backlogSoftLimit, by simp; omega, by simp⟩)
  rw [List.take_append_drop] at h
  rw [h, hlen, Nat.zero_add, List.drop_eq_getElem_cons hk, keepIndex, if_neg hkeep,
    if_pos (by omega)]

theorem unreadCount_append (l l' : List Message) :
    unreadCount (l ++ l') = unreadCount l + unreadCount l' :=
  List.countP_append _ _ _

theorem unreadCount_cons (m : Message) (l : List Message) :
    unreadCount (m :: l) = unreadCount l + if m.status = .unread then 1 else 0 := by
  simp [unreadCount, List.countP_cons]

@[simp] theorem unreadCount_singleton (m : Message) :
    unreadCount [m] = if m.status = .unread then 1 else 0 := by
  simp [unreadCount, List.countP_cons]

theorem unreadCount_drop_of_not_unread {l : List Message} {k : Nat}
    (h : ∀ m ∈ l.take k, m.status ≠ .unread) : unreadCount (l.drop k) = unreadCount l := by
  have hz : unreadCount (l.take k) = 0 := List.countP_eq_zero.mpr (by simpa using h)
  calc unreadCount (l.drop k) = unreadCount (l.take k) + unreadCount (l.drop k) := by
        rw [hz, Nat.zero_add]
    _ = unreadCount l := by rw [← unreadCount_append, List.take_append_drop]

/-! ### The two cuts -/

theorem trimHard_messages (c : Conversation) :
    c.trimHard.messages = c.messages.drop (c.messages.length - backlogHardLimit) := by
  unfold trimHard
  split
  · simp only [recountUnread]
  · rw [Nat.sub_eq_zero_of_le (by omega), List.drop_zero]

theorem trimSoft_messages (c : Conversation) :
    c.trimSoft.messages = c.messages.drop
      (if c.messages.length ≤ backlogSoftLimit then 0 else keepIndex c.messages.length 0 c.messages) := by
  unfold trimSoft
  split <;> simp [*]

theorem trimBacklog_messages_eq_drop (c : Conversation) :
    ∃ k, c.trimBacklog.messages = c.messages.drop k :=
  ⟨_, by rw [trimBacklog, trimSoft_messages, trimHard_messages, List.drop_drop]⟩

theorem mem_of_mem_trimBacklog {c : Conversation} {m : Message}
    (h : m ∈ c.trimBacklog.messages) : m ∈ c.messages := by
  obtain ⟨k, hk⟩ := trimBacklog_messages_eq_drop c
  exact List.mem_of_mem_drop (hk ▸ h)

@[simp] theorem trimSoft_numUnread (c : Conversation) : c.trimSoft.numUnread = c.numUnread := by
  unfold trimSoft; split <;> rfl

/-- The soft cut drops no UNREAD message. -/
@[simp] theorem unreadCount_trimSoft (c : Conversation) :
    unreadCount c.trimSoft.messages = unreadCount c.messages := by
  unfold trimSoft
  split
  · rfl
  · exact unreadCount_drop_of_not_unread (by simpa using keepIndex_prefix_not_unread _ 0 c.messages)

theorem trimHard_numUnread_of_lt {c : Conversation} (h : backlogHardLimit < c.messages.length) :
    c.trimHard.numUnread = unreadCount c.trimHard.messages := by
  simp [trimHard, h, recountUnread]

theorem trimHard_of_le {c : Conversation} (h : c.messages.length ≤ backlogHardLimit) :
    c.trimHard = c := by
  simp [trimHard, Nat.not_lt.mpr h]

end Ricochet.Conversation
