import Ricochet.Agent.Outbound

/-! Outbound connectors. Each pass of `contactConnection` that finds no connection spawns a
`connectOutbound` goroutine, and both ways out of its `select` call `outboundCancel()`. So in
every state the agent reaches at most one connector runs with a live context, and it is the one
the loop's `select` is waiting on: while the loop adopts, discards or clears a session, or exits,
no connector is live. -/

namespace Ricochet.Agent

open World

namespace World

variable {w : World} {i p : Nat} {pr : Proc}

@[simp] theorem setProc_attempts : (w.setProc i pr).attempts = w.attempts := rfl
@[simp] theorem closeConn_attempts : (w.closeConn p).attempts = w.attempts := rfl

@[simp] theorem applyEffects_attempts (es : List Effect) :
    (w.applyEffects es).attempts = w.attempts := by
  rw [applyEffects_eq]

@[simp] theorem applyEffects_loop (es : List Effect) : (w.applyEffects es).loop = w.loop := by
  rw [applyEffects_eq]

end World

/-- Connector `j` runs with its context not cancelled. -/
def Live (w : World) (j : Nat) : Prop :=
  ∃ a, w.attempts[j]? = some a ∧ a.cancelled = false ∧ a.pc ≠ .done

/-- Every live connector is the one the loop's `select` is waiting on. -/
def OneConnector (w : World) : Prop :=
  ∀ j, Live w j → w.loop = .select (some j)

variable {w w' : World} {j : Nat}

/-! ### What the steps do to the connectors -/

theorem live_of_attempts_eq (h : w'.attempts = w.attempts) (hj : Live w' j) : Live w j := by
  rwa [Live, h] at hj

theorem live_cancelAttempt {a : Option Nat} (hj : Live (w.cancelAttempt a) j) :
    Live w j ∧ a ≠ some j := by
  obtain ⟨t, ht, hc, hd⟩ := hj
  cases a with
  | none => exact ⟨⟨t, ht, hc, hd⟩, nofun⟩
  | some k =>
    simp only [cancelAttempt, List.getElem?_modify] at ht
    cases hw : w.attempts[j]? with
    | none => simp [hw] at ht
    | some t₀ =>
      by_cases hk : k = j
      · simp [hw, hk] at ht
        rw [← ht] at hc
        cases hc
      · simp only [hw, hk, if_false, Option.map_eq_map, Option.map_some', Option.some.injEq] at ht
        subst ht
        exact ⟨⟨_, hw, hc, hd⟩, fun e => hk (Option.some.inj e)⟩

theorem live_set {a b : Attempt} (ha : w.attempts[j]? = some a)
    (hw' : w'.attempts = w.attempts.set j b)
    (hb : b.cancelled = false → b.pc ≠ .done → a.cancelled = false ∧ a.pc ≠ .done)
    {k : Nat} (hk : Live w' k) : Live w k := by
  obtain ⟨t, ht, hc, hd⟩ := hk
  rw [hw', List.getElem?_set] at ht
  split_ifs at ht with hjk
  · subst hjk
    obtain ⟨hac, had⟩ := hb (by simp_all) (by simp_all)
    exact ⟨a, ha, hac, had⟩
  · exact ⟨t, ht, hc, hd⟩

theorem loopStep_attempts {now : Instant} (hs : w.loopStep now = some w') :
    (w.loop = .top ∧ (w'.attempts = w.attempts ∨
      w.contact.connection = none ∧ w.contact.shouldMakeOutboundConnections = true ∧
        w'.attempts = w.attempts ++ [⟨false, .start⟩] ∧
        w'.loop = .select (some w.attempts.length))) ∨
      ((∀ b, w.loop ≠ .select b) ∧ w'.attempts = w.attempts) := by
  unfold World.loopStep at hs
  split at hs
  next hl =>
    refine .inl ⟨hl, ?_⟩
    split_ifs at hs with hc hm hsh <;> cases hs
    · exact .inl rfl
    · exact .inr ⟨by simpa using hc, hsh, rfl, rfl⟩
    · exact .inl rfl
  all_goals
    (try split_ifs at hs) <;> (try dsimp only at hs) <;> (try split at hs) <;> cases hs
  all_goals exact .inr ⟨by simp [*], by simp⟩

/-- What each step does to the connectors: only the loop's head spawns one, `select` cancels its own
on every way out, and a connector that starts dialing dials the contact's hostname. -/
theorem step_attempts {a : Action} (hs : step w a = some w') (he : w.contact.connEnabled = true) :
    (w'.loop = w.loop ∧ w'.attempts = w.attempts) ∨
      (w'.loop = w.loop ∧ ∃ j t t', w.attempts[j]? = some t ∧
        w'.attempts = w.attempts.set j t' ∧
        (t'.cancelled = false → t'.pc ≠ .done → t.cancelled = false ∧ t.pc ≠ .done) ∧
        (t'.pc = .done ∨ t'.pc = .dialing w.contact.data.hostname)) ∨
      (∃ b, w.loop = .select b ∧ w'.attempts = (w.cancelAttempt b).attempts) ∨
      (w.loop = .top ∧ (w'.attempts = w.attempts ∨
        w.contact.connection = none ∧ w.contact.shouldMakeOutboundConnections = true ∧
          w'.attempts = w.attempts ++ [⟨false, .start⟩] ∧
          w'.loop = .select (some w.attempts.length))) ∨
      ((∀ b, w.loop ≠ .select b) ∧ w'.attempts = w.attempts) := by
  cases a with
  | loop now => exact .inr (.inr (.inr (loopStep_attempts hs)))
  | deliver i =>
    simp only [Agent.step] at hs
    unfold World.deliver at hs
    split at hs
    next b _ hl _ => split at hs <;> cases hs <;> exact .inr (.inr (.inl ⟨b, hl, by cases b <;> rfl⟩))
    · cases hs
  | loopChannelClosed =>
    simp only [Agent.step] at hs
    unfold World.loopChannelClosed at hs
    split at hs
    next b hl => split_ifs at hs; cases hs; exact .inr (.inr (.inl ⟨b, hl, by cases b <;> rfl⟩))
    · cases hs
  | proc i now =>
    obtain ⟨_, _, -, -, -, hl, ha, -⟩ := procStep_frame hs
    exact .inl ⟨hl, ha⟩
  | handle i e =>
    obtain ⟨-, -, -, rfl | ⟨pr', rfl, -, -⟩⟩ := handle_cases hs <;> exact .inl ⟨rfl, rfl⟩
  | accept conn =>
    simp only [Agent.step] at hs
    unfold World.accept at hs
    split_ifs at hs
    cases hs
    exact .inl ⟨rfl, rfl⟩
  | attemptStart k =>
    simp only [Agent.step] at hs
    unfold World.attemptStart at hs
    split at hs
    next t ht =>
      split_ifs at hs with h
      cases hs
      exact .inr (.inl ⟨rfl, k, t, _, ht, rfl, fun hc _ => ⟨hc, by rw [h.1]; nofun⟩, .inr rfl⟩)
    · cases hs
  | attemptDialed k =>
    simp only [Agent.step] at hs
    unfold World.attemptDialed at hs
    split at hs
    next ht => cases hs; exact .inr (.inl ⟨rfl, k, _, _, ht, rfl, fun _ hd => absurd rfl hd, .inl rfl⟩)
    · cases hs
  | attemptCancelled k =>
    simp only [Agent.step] at hs
    unfold World.attemptCancelled at hs
    split at hs
    next ht => cases hs; exact .inr (.inl ⟨rfl, k, _, _, ht, rfl, fun _ hd => absurd rfl hd, .inl rfl⟩)
    · cases hs
  | start =>
    obtain ⟨-, ⟨-, rfl⟩ | ⟨he', -⟩⟩ := startStep_cases hs
    · exact .inl ⟨rfl, rfl⟩
    · rw [he] at he'; cases he'
  | stop =>
    simp only [Agent.step] at hs
    unfold World.stopStep at hs
    split at hs <;> (try split_ifs at hs) <;> cases hs
    all_goals exact .inl ⟨rfl, rfl⟩

theorem live_append {x : Attempt} (hw' : w'.attempts = w.attempts ++ [x]) (hj : Live w' j) :
    Live w j ∨ j = w.attempts.length := by
  obtain ⟨t, ht, hc, hd⟩ := hj
  rw [hw'] at ht
  by_cases hlt : j < w.attempts.length
  · rw [List.getElem?_append_left hlt] at ht
    exact .inl ⟨t, ht, hc, hd⟩
  · rw [List.getElem?_append_right (by omega)] at ht
    cases h : j - w.attempts.length with
    | zero => exact .inr (by omega)
    | succ n => rw [h] at ht; simp at ht

/-! ### Every reachable state -/

namespace OneConnector

theorem init (c : Contact) (myLabel : String) : OneConnector (Agent.init c myLabel) :=
  fun _ ⟨_, ht, _⟩ => by simp [Agent.init] at ht

theorem step (h : OneConnector w) (he : w.contact.connEnabled = true) {a : Action}
    (hs : Agent.step w a = some w') : OneConnector w' := by
  intro j hj
  -- a connector that was live already is the loop's, so the loop was in `select`
  have hsel : Live w j → w.loop = .select (some j) := h j
  rcases step_attempts hs he with ⟨hl, ha⟩ | ⟨hl, k, t, t', hk, ha, ht, -⟩ | ⟨b, hl, ha⟩ |
      ⟨htop, ha | ⟨-, -, ha, hl'⟩⟩ | ⟨hnsel, ha⟩
  · rw [hl]; exact hsel (live_of_attempts_eq ha hj)
  · rw [hl]; exact hsel (live_set hk ha ht hj)
  · obtain ⟨hw, hne⟩ := live_cancelAttempt (by rwa [Live, ha] at hj)
    rw [hsel hw] at hl
    exact absurd (LoopPc.select.inj hl).symm hne
  · have := hsel (live_of_attempts_eq ha hj)
    rw [htop] at this; cases this
  · rcases live_append ha hj with hw | rfl
    · have := hsel hw
      rw [htop] at this; cases this
    · exact hl'
  · exact absurd (hsel (live_of_attempts_eq ha hj)) (hnsel _)

theorem reachable {c : Contact} {myLabel : String} (hr : Reachable (Agent.init c myLabel) w) :
    OneConnector w := by
  induction hr with
  | init => exact OneConnector.init c myLabel
  | step a hr hs ih => exact ih.step (Guarded.reachable hr).enabled hs

end OneConnector

/-- At most one outbound connector runs with a live context in every state the agent reaches: the
one spawned by the loop's current pass, whose `select` is waiting. -/
theorem live_connector_unique {c : Contact} {myLabel : String}
    (hr : Reachable (init c myLabel) w) {j k : Nat} (hj : Live w j) (hk : Live w k) :
    j = k ∧ w.loop = .select (some j) := by
  have h := OneConnector.reachable hr
  exact ⟨Option.some.inj (LoopPc.select.inj ((h j hj).symm.trans (h k hk))), h j hj⟩

/-- After the loop discards a dialed session that says it does not know us, it spawns a second
connector; the first one, cancelled and returned, is not live. -/
theorem live_connector_unique_after_discard :
    ∃ w, Reachable (init sampleContact sampleLabel) w ∧ w.attempts.length = 2 ∧ Live w 1 ∧
      w.loop = .select (some 1) := by
  have hrun : (run (init sampleContact sampleLabel) notKnownOutbound).map (·.attempts) =
      some [⟨true, .done⟩, ⟨false, .start⟩] := by decide
  obtain ⟨w, hw, he⟩ := Option.map_eq_some'.mp hrun
  have hr := run_reachable .init hw
  have hl : Live w 1 := ⟨⟨false, .start⟩, by rw [he]; rfl, rfl, nofun⟩
  exact ⟨w, hr, by rw [he]; rfl, hl, (live_connector_unique hr hl hl).2⟩

end Ricochet.Agent
