import Ricochet.Contact.Basic

/-! What each contact method does to the fields the invariants read: the hostname, the adopted
connection, the status and the pending request. One lemma per method; the agent model cites
these and never unfolds the methods. -/

namespace Ricochet.Contact

variable {c : Contact} {conns : Nat → OpenConnection} {now : Instant}

/-- An ONLINE contact has a connection and no pending request. -/
def OnlineConnected (c : Contact) : Prop :=
  c.status = .online → c.connection.isSome ∧ c.data.request.pending = false

/-! ### `updateContactRequest` -/

@[simp] theorem updateContactRequest_contact (status : String) :
    (c.updateContactRequest status now).contact = c.answerRequest status now := rfl

theorem answerRequest_spec (c : Contact) (status : String) (now : Instant) :
    let c' := c.answerRequest status now
    c'.data.hostname = c.data.hostname ∧ c'.connection = c.connection ∧
      (status ≠ "Accepted" → c'.status = c.status ∧
        c'.data.request.pending = c.data.request.pending) ∧
      (status = "Accepted" → c'.data.request.pending = false ∧
        c'.status = if c.connection.isSome then .online else .unknown) := by
  unfold answerRequest
  split <;> simp_all [ConfigContactRequest.zero]

@[simp] theorem answerRequest_connection (status : String) :
    (c.answerRequest status now).connection = c.connection :=
  (answerRequest_spec c status now).2.1

@[simp] theorem answerRequest_connEnabled (status : String) :
    (c.answerRequest status now).connEnabled = c.connEnabled := by
  unfold answerRequest; split <;> rfl

@[simp] theorem answerRequest_connChannel (status : String) :
    (c.answerRequest status now).connChannel = c.connChannel := by
  unfold answerRequest; split <;> rfl

theorem OnlineConnected.answerRequest (h : OnlineConnected c) (status : String) :
    OnlineConnected (c.answerRequest status now) := by
  obtain ⟨-, hconn, hother, haccepted⟩ := answerRequest_spec c status now
  intro hon
  rw [hconn]
  by_cases hs : status = "Accepted"
  · obtain ⟨hp, hst⟩ := haccepted hs
    rw [hst] at hon
    split at hon
    · exact ⟨‹_›, hp⟩
    · cases hon
  · obtain ⟨hst, hp⟩ := hother hs
    rw [hst] at hon
    rw [hp]
    exact h hon

theorem OnlineConnected.UpdateContactRequest (h : OnlineConnected c) (status : String) :
    OnlineConnected (c.UpdateContactRequest status now).contact := by
  unfold Contact.UpdateContactRequest
  split
  · exact h
  · exact h.answerRequest status

/-! ### `setConnection` -/

theorem assignConnection_spec (c : Contact) (conns : Nat → OpenConnection) (p : Nat)
    (now : Instant) (h : c.status = .online → c.data.request.pending = false) :
    let c' := (c.assignConnection conns p now).1
    c'.data.hostname = c.data.hostname ∧ c'.connection = some p ∧ OnlineConnected c' := by
  unfold assignConnection
  dsimp only
  split_ifs with hp hk
  · refine ⟨rfl, rfl, fun hon => ?_⟩
    exact absurd (h hon) (by simp [hp])
  · obtain ⟨hh, hc, -, hacc⟩ := answerRequest_spec { c with connection := some p } "Accepted" now
    exact ⟨hh, hc, fun _ => ⟨by simp [hc], (hacc rfl).1⟩⟩
  · exact ⟨rfl, rfl, fun _ => ⟨rfl, by simpa using hp⟩⟩

@[simp] theorem assignConnection_connEnabled (p : Nat) :
    (c.assignConnection conns p now).1.connEnabled = c.connEnabled := by
  unfold assignConnection; dsimp only; split_ifs <;> simp [updateContactRequest]

@[simp] theorem assignConnection_connChannel (p : Nat) :
    (c.assignConnection conns p now).1.connChannel = c.connChannel := by
  unfold assignConnection; dsimp only; split_ifs <;> simp [updateContactRequest]

@[simp] theorem setConnection_connEnabled (p : Nat) :
    (c.setConnection conns p now).contact.connEnabled = c.connEnabled := by
  unfold setConnection; dsimp only
  split_ifs <;> try rfl
  all_goals split <;> simp

@[simp] theorem setConnection_connChannel (p : Nat) :
    (c.setConnection conns p now).contact.connChannel = c.connChannel := by
  unfold setConnection; dsimp only
  split_ifs <;> try rfl
  all_goals split <;> simp

/-- What `setConnection` does: on success it adopts `p`, which was authenticated, open and
labelled as this contact; on failure it changes nothing. -/
theorem setConnection_spec (c : Contact) (conns : Nat → OpenConnection) (p : Nat)
    (now : Instant) (h : OnlineConnected c) :
    let o := c.setConnection conns p now
    o.contact.data.hostname = c.data.hostname ∧ OnlineConnected o.contact ∧
      (o.result = .ok () → o.contact.connection = some p ∧ (conns p).isAuthed = true ∧
        (conns p).closed = false ∧ (conns p).otherHostname = c.label) ∧
      (o.result ≠ .ok () → o.contact = c) := by
  unfold setConnection
  dsimp only
  split_ifs with h1 h2 h3 h4 hr
  all_goals try exact ⟨rfl, h, by simp, fun _ => rfl⟩
  all_goals
    have hchecks : (conns p).isAuthed = true ∧ (conns p).closed = false ∧
        (conns p).otherHostname = c.label := by
      simp only [Bool.or_eq_true, Bool.not_eq_true', not_or, Bool.not_eq_false] at h2
      exact ⟨h2.1, by simpa using h2.2, (not_not.mp h3).symm⟩
    have hpend : c.status = .online → c.data.request.pending = false := fun hon => (h hon).2
    rcases hc : c.connection with _ | cur <;> simp only [hc]
    · obtain ⟨hh, hconn, hon⟩ := assignConnection_spec c conns p now hpend
      exact ⟨hh, hon, fun _ => ⟨hconn, hchecks⟩, fun hne => absurd rfl hne⟩
  · obtain ⟨hh, hconn, hon⟩ := assignConnection_spec { c with connection := none } conns p now hpend
    exact ⟨hh, hon, fun _ => ⟨hconn, hchecks⟩, fun hne => absurd rfl hne⟩
  · exact ⟨trivial, h, by simp, fun _ => trivial⟩

/-- What a rejection does: `setConnection` leaves the contact as it was, and closes nothing
or only the candidate, which then is not the adopted connection. -/
theorem setConnection_error {p : Nat} (h : (c.setConnection conns p now).result ≠ .ok ()) :
    (c.setConnection conns p now).contact = c ∧
      ((c.setConnection conns p now).effects = [] ∨
        (c.setConnection conns p now).effects = [.close p] ∧ c.connection ≠ some p) := by
  unfold setConnection at h ⊢
  by_cases h1 : c.connection = some p
  · simp [h1]
  simp only [if_neg h1] at h ⊢
  rcases hc : c.connection with _ | cur <;> simp only [hc] at h ⊢ <;> split_ifs at h ⊢ <;>
    first | exact ⟨rfl, .inr ⟨rfl, hc ▸ h1⟩⟩ | exact absurd rfl h

/-! ### `clearConnection` -/

/-- What `clearConnection` does: it leaves the contact as it was, or drops the connection and
marks the contact OFFLINE. -/
theorem clearConnection_spec (c : Contact) (conns : Nat → OpenConnection) (ifConn : Option Nat)
    (now : Instant) :
    let o := c.clearConnection conns ifConn now
    o.contact.data.hostname = c.data.hostname ∧
      (o.contact = c ∨ (o.contact.connection = none ∧ o.contact.status = .offline)) := by
  unfold clearConnection
  split
  · exact ⟨rfl, .inl rfl⟩
  · split_ifs
    · exact ⟨rfl, .inl rfl⟩
    all_goals exact ⟨rfl, .inr ⟨rfl, rfl⟩⟩

@[simp] theorem clearConnection_connEnabled (ifConn : Option Nat) :
    (c.clearConnection conns ifConn now).contact.connEnabled = c.connEnabled := by
  unfold clearConnection; split <;> (try split_ifs) <;> rfl

@[simp] theorem clearConnection_connChannel (ifConn : Option Nat) :
    (c.clearConnection conns ifConn now).contact.connChannel = c.connChannel := by
  unfold clearConnection; split <;> (try split_ifs) <;> rfl

theorem OnlineConnected.clearConnection (h : OnlineConnected c) (ifConn : Option Nat) :
    OnlineConnected (c.clearConnection conns ifConn now).contact := by
  rcases (clearConnection_spec c conns ifConn now).2 with he | ⟨-, hs⟩
  · rw [he]; exact h
  · intro hon; rw [hs] at hon; cases hon

/-! ### Loading, starting and the authentication note -/

/-- A contact loaded from the config has no connection, is not ONLINE and is not started. -/
theorem contactFromConfig_spec {isOnionValid : String → Bool} {id : Int} {data : ConfigContact}
    (h : contactFromConfig isOnionValid id data = .ok c) :
    c.data = data ∧ c.connection = none ∧ c.status ≠ .online ∧ c.connEnabled = false := by
  unfold contactFromConfig at h
  split_ifs at h <;> cases h <;> exact ⟨rfl, rfl, nofun, rfl⟩

theorem OnlineConnected.of_not_online (h : c.status ≠ .online) : OnlineConnected c :=
  fun hon => absurd hon h

@[simp] theorem startConnection_data (gen : Nat) : (c.startConnection gen).1.data = c.data := by
  unfold startConnection; split <;> rfl

@[simp] theorem startConnection_status (gen : Nat) :
    (c.startConnection gen).1.status = c.status := by
  unfold startConnection; split <;> rfl

@[simp] theorem startConnection_connection (gen : Nat) :
    (c.startConnection gen).1.connection = c.connection := by
  unfold startConnection; split <;> rfl

@[simp] theorem startConnection_connEnabled (gen : Nat) :
    (c.startConnection gen).1.connEnabled = true := by
  unfold startConnection; split <;> simp [*]

theorem startConnection_of_enabled (gen : Nat) (h : c.connEnabled = true) :
    c.startConnection gen = (c, false) := by
  simp [startConnection, h]

@[simp] theorem noteAuthenticated_data (conn : OpenConnection) (known : Bool) :
    (c.noteAuthenticated conn known).data = c.data := by
  unfold noteAuthenticated; split <;> rfl

@[simp] theorem noteAuthenticated_status (conn : OpenConnection) (known : Bool) :
    (c.noteAuthenticated conn known).status = c.status := by
  unfold noteAuthenticated; split <;> rfl

@[simp] theorem noteAuthenticated_connection (conn : OpenConnection) (known : Bool) :
    (c.noteAuthenticated conn known).connection = c.connection := by
  unfold noteAuthenticated; split <;> rfl

@[simp] theorem noteAuthenticated_connEnabled (conn : OpenConnection) (known : Bool) :
    (c.noteAuthenticated conn known).connEnabled = c.connEnabled := by
  unfold noteAuthenticated; split <;> rfl

@[simp] theorem noteAuthenticated_connChannel (conn : OpenConnection) (known : Bool) :
    (c.noteAuthenticated conn known).connChannel = c.connChannel := by
  unfold noteAuthenticated; split <;> rfl

@[simp] theorem noteAuthenticated_outboundConnAuthKnown (conn : OpenConnection) (known : Bool) :
    (c.noteAuthenticated conn known).outboundConnAuthKnown =
      if conn.client then known else c.outboundConnAuthKnown := by
  unfold noteAuthenticated; split <;> simp [*]

theorem OnlineConnected.congr {c' : Contact} (h : OnlineConnected c) (hs : c'.status = c.status)
    (hc : c'.connection = c.connection) (hd : c'.data = c.data) : OnlineConnected c' := by
  unfold OnlineConnected; rw [hs, hc, hd]; exact h

end Ricochet.Contact
