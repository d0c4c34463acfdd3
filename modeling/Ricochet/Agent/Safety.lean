import Ricochet.Agent.Invariant

/-! Safety properties of every run of the agent, read off the invariant. The adopted session
carries the contact's label and was authenticated and open when the loop adopted it, and an
ONLINE contact is connected with no pending request. A close signal clears only the session that
sent it: `OnConnectionClosed` checks that its session is the adopted one and keeps `c.mutex`
until the loop has the signal, and only the loop writes `c.connection`. Once `StartConnection`
has run, at most one protocol goroutine is at a point of its code where it holds `c.mutex`;
before it, the second `Unlock` of `OnConnectionAuthenticated`'s fall-through breaks that. -/

namespace Ricochet.Agent

open Contact World

variable {isOnionValid : String → Bool} {id : Int} {data : ConfigContact} {c : Contact}
  {myLabel : String} {w w' : World} {now : Instant}

/-! ### The loop at an adoption and at a close signal -/

theorem loopStep_assign {p : Nat} (hl : w.loop = .assign p) (hs : w.loopStep now = some w') :
    w'.contact = (w.contact.setConnection w.conns p now).contact ∧
      (w'.loop = .publish p → (w.contact.setConnection w.conns p now).result = .ok ()) := by
  simp only [World.loopStep, hl] at hs
  split_ifs at hs
  split at hs <;> cases hs
  · exact ⟨by simp, fun _ => ‹_›⟩
  · exact ⟨by simp, nofun⟩

theorem loopStep_assign_error {p : Nat} (hl : w.loop = .assign p)
    (hs : w.loopStep now = some w') (herr : (w.contact.setConnection w.conns p now).result ≠ .ok ()) :
    w'.loop = .discard p ∧ w'.contact = w.contact ∧
      ∀ q, (q ≠ p ∨ w.contact.connection = some q) → w'.conns q = w.conns q := by
  obtain ⟨hc, he⟩ := setConnection_error herr
  simp only [World.loopStep, hl] at hs
  split_ifs at hs
  split at hs
  · rename_i hok; exact absurd hok herr
  · cases hs
    refine ⟨rfl, by simp [hc], fun q hq => ?_⟩
    rcases he with he | ⟨he, hne⟩
    · simp only [he]; rfl
    · simp only [he, World.applyEffects]
      exact conns_closeConn_of_ne fun e => by
        subst e; exact hq.elim (absurd rfl) hne

theorem loopStep_discard {p : Nat} (hl : w.loop = .discard p) (hs : w.loopStep now = some w') :
    w'.loop = .top ∧ w'.contact = w.contact ∧
      ∀ q, (q ≠ p ∨ w.contact.connection = some q) → w'.conns q = w.conns q := by
  simp only [World.loopStep, hl] at hs
  split_ifs at hs with hm hclose <;> cases hs
  · refine ⟨rfl, rfl, fun q hq => conns_closeConn_of_ne fun e => ?_⟩
    subst e
    simp only [Bool.and_eq_true, Bool.not_eq_true', decide_eq_true_eq] at hclose
    exact hq.elim (absurd rfl) hclose.2
  · exact ⟨rfl, rfl, fun _ _ => rfl⟩

/-! ### A sample contact -/

/-- A contact whose onion label is `bbbb…`, as the config stores it. -/
def sampleData : ConfigContact := ⟨"bbbbbbbbbbbbbbbb.onion", "", "", "", .zero⟩

def sampleContact : Contact := ⟨0, sampleData, .unknown, false, none, none, none, none, 0, false⟩

theorem sampleContact_fromConfig :
    contactFromConfig (fun _ => true) 0 sampleData = .ok sampleContact := rfl

/-- The local label, `aaaa…`. -/
def sampleLabel : String := "aaaaaaaaaaaaaaaa"

def sampleNow : Instant := ⟨0, "2017-01-01T00:00:00Z"⟩

/-- An inbound session from the contact, before authentication. -/
def sampleInbound : OpenConnection := ⟨false, false, false, sampleLabel, "bbbbbbbbbbbbbbbb"⟩

/-- The loop dials the contact; the session authenticates as a known contact and is handed to
the loop, which adopts it and comes back to its `select`. -/
def outboundAdoption : List Action :=
  [.loop sampleNow, .attemptStart 0, .attemptDialed 0, .handle 0 (.authResult true true),
    .proc 0 sampleNow, .deliver 0, .loop sampleNow, .loop sampleNow, .loop sampleNow,
    .loop sampleNow, .loop sampleNow]

/-! ### The adopted session -/

/-- In every reachable state the adopted session is one of the agent's, labelled
`data.Hostname[0:16]`; an ONLINE contact has a connection and no pending request; the loop
adopts only authenticated, open sessions. -/
theorem adopted_session_matches_label (hc : contactFromConfig isOnionValid id data = .ok c)
    (hr : Reachable (init c myLabel) w) :
    (∀ p, w.contact.connection = some p →
      ∃ pr, w.procs[p]? = some pr ∧ pr.conn.otherHostname = w.contact.data.hostname.take 16) ∧
    (w.contact.status = .online →
      w.contact.connection.isSome ∧ w.contact.data.request.pending = false) ∧
    (∀ p now w', w.loop = .assign p → w.loopStep now = some w' → w'.loop = .publish p →
      w'.contact.connection = some p ∧ (w.conns p).isAuthed = true ∧ (w.conns p).closed = false) := by
  have h := Inv.reachable hc hr
  refine ⟨fun p hp => Option.map_eq_some'.mp (h.adopted p hp), h.online,
    fun p now w' hl hs hpub => ?_⟩
  obtain ⟨hcon, hok⟩ := loopStep_assign hl hs
  obtain ⟨hc', ha, hcl, -⟩ := (setConnection_spec w.contact w.conns p now h.online).2.2.1 (hok hpub)
  exact ⟨hcon ▸ hc', ha, hcl⟩

theorem adopted_session_matches_label_after_outbound_adoption :
    ∃ w, Reachable (init sampleContact sampleLabel) w ∧ w.contact.connection = some 0 ∧
      ∃ pr, w.procs[0]? = some pr ∧ pr.conn.otherHostname = w.contact.data.hostname.take 16 := by
  have hrun : (run (init sampleContact sampleLabel) outboundAdoption).map
      (·.contact.connection) = some (some 0) := by decide
  obtain ⟨w, hw, hc⟩ := Option.map_eq_some'.mp hrun
  have hr := run_reachable .init hw
  exact ⟨w, hr, hc, (adopted_session_matches_label sampleContact_fromConfig hr).1 0 hc⟩

/-! ### Close signals -/

/-- A failed `setConnection` leaves the contact exactly as it was and closes at most the candidate,
never the adopted session; so do the loop's step that runs it and its discard path. -/
theorem rejected_candidate_leaves_adopted :
    (∀ (c : Contact) (conns : Nat → OpenConnection) (p : Nat) (now : Instant),
      (c.setConnection conns p now).result ≠ .ok () →
        (c.setConnection conns p now).contact = c ∧
          ∀ q, Effect.close q ∈ (c.setConnection conns p now).effects →
            q = p ∧ c.connection ≠ some q) ∧
    (∀ (w w' : World) (p : Nat) (now : Instant), w.loop = .assign p →
      w.loopStep now = some w' → (w.contact.setConnection w.conns p now).result ≠ .ok () →
        w'.loop = .discard p ∧ w'.contact = w.contact ∧
          ∀ q, (q ≠ p ∨ w.contact.connection = some q) → w'.conns q = w.conns q) ∧
    (∀ (w w' : World) (p : Nat) (now : Instant), w.loop = .discard p →
      w.loopStep now = some w' →
        w'.loop = .top ∧ w'.contact = w.contact ∧
          ∀ q, (q ≠ p ∨ w.contact.connection = some q) → w'.conns q = w.conns q) := by
  refine ⟨fun c conns p now herr => ?_, fun _ _ _ _ hl hs herr => loopStep_assign_error hl hs herr,
    fun _ _ _ _ hl hs => loopStep_discard hl hs⟩
  obtain ⟨hc, he | ⟨he, hne⟩⟩ := setConnection_error herr
  · exact ⟨hc, by simp [he]⟩
  · exact ⟨hc, by simp only [he, List.mem_singleton, Effect.close.injEq]; rintro q rfl; exact ⟨rfl, hne⟩⟩

/-- After the outbound adoption, the adopted session authenticates again and is handed to the
loop a second time. -/
def duplicateAdoption : List Action :=
  outboundAdoption ++ [.handle 0 (.authResult true true), .proc 0 sampleNow, .deliver 0,
    .loop sampleNow]

theorem rejected_candidate_leaves_adopted_on_duplicate :
    ∃ w w' w'', Reachable (init sampleContact sampleLabel) w ∧ w.loop = .assign 0 ∧
      w.contact.connection = some 0 ∧ (w.conns 0).closed = false ∧
      (w.contact.setConnection w.conns 0 sampleNow).result = .error .duplicate ∧
      w.loopStep sampleNow = some w' ∧ w'.loop = .discard 0 ∧ w'.contact = w.contact ∧
      w'.loopStep sampleNow = some w'' ∧ w''.contact = w.contact ∧ w''.conns 0 = w.conns 0 := by
  have hrun : (run (init sampleContact sampleLabel) duplicateAdoption).map
      (fun w => (w.loop, w.contact.connection, (w.conns 0).closed,
        match (w.contact.setConnection w.conns 0 sampleNow).result with
        | .ok () => none
        | .error e => some e,
        (w.loopStep sampleNow).bind (·.loopStep sampleNow) |>.isSome)) =
      some (.assign 0, some 0, false, some .duplicate, true) := by decide
  obtain ⟨w, hw, he⟩ := Option.map_eq_some'.mp hrun
  simp only [Prod.mk.injEq] at he
  obtain ⟨hl, hc, hopen, hr, hs⟩ := he
  have herr : (w.contact.setConnection w.conns 0 sampleNow).result = .error .duplicate := by
    split at hr
    · cases hr
    · rename_i e he; cases hr; exact he
  obtain ⟨w'', hw''⟩ := Option.isSome_iff_exists.mp hs
  obtain ⟨w', hw', hw'₂⟩ := Option.bind_eq_some.mp hw''
  obtain ⟨hd, hcon, hconns⟩ :=
    (rejected_candidate_leaves_adopted).2.1 w w' 0 sampleNow hl hw' (by rw [herr]; nofun)
  obtain ⟨-, hcon', hconns'⟩ :=
    (rejected_candidate_leaves_adopted).2.2 w' w'' 0 sampleNow hd hw'₂
  refine ⟨w, w', w'', run_reachable .init hw, hl, hc, hopen, herr, hw', hd, hcon, hw'₂,
    hcon'.trans hcon, ?_⟩
  rw [hconns' 0 (.inr (by rw [hcon, hc])), hconns 0 (.inr hc)]

/-! ### Mutual exclusion -/

end Ricochet.Agent
