import Ricochet.Agent.Frame
import Ricochet.Contact.Spec

/-! The agent's safety invariant, kept by every step of every goroutine. A protocol goroutine
that is at a point where it holds `c.mutex` owns it; the one blocked sending a close signal
belongs to the adopted session; once the loop has taken a close signal, the session that sent
it is still the adopted one; the adopted session is a session of the world, labelled as the
contact; and an ONLINE contact has a connection and no pending request.

The second `Unlock` of `OnConnectionAuthenticated`'s fall-through releases the mutex whoever
holds it, so the invariant rests on `Guarded`: once `StartConnection` has run, connections stay
enabled, a nil `connChannel` is never made again, and a goroutine past the guard finds it nil and
blocks for good before it reaches that `Unlock`. -/

namespace Ricochet.Agent

open Contact World

/-- Connections are enabled, and every goroutine past the guard of `OnConnectionAuthenticated`
is about to read `connChannel` again, which is nil. -/
structure Guarded (w : World) : Prop where
  enabled : w.contact.connEnabled = true
  pastGuard : ∀ i pc, w.pcOf i = some pc → pc.pastGuard = true →
    (∃ k, pc = .unguarded k) ∧ w.contact.connChannel = none

namespace Guarded

variable {w w' : World} {i : Nat} {pr : Proc} {now : Instant}

theorem of_frame (h : Guarded w) (he : w'.contact.connEnabled = w.contact.connEnabled)
    (hch : w'.contact.connChannel = none ∨ w'.contact.connChannel = w.contact.connChannel)
    (hpc : ∀ j pc, w'.pcOf j = some pc → pc.pastGuard = true → w.pcOf j = some pc) :
    Guarded w' where
  enabled := he.trans h.enabled
  pastGuard j pc hj hp := by
    obtain ⟨hk, hn⟩ := h.pastGuard j pc (hpc j pc hj hp) hp
    exact ⟨hk, hch.elim id (·.trans hn)⟩

theorem of_procs (h : Guarded w) (he : w'.contact.connEnabled = w.contact.connEnabled)
    (hch : w'.contact.connChannel = none ∨ w'.contact.connChannel = w.contact.connChannel)
    (hp : w'.procs = w.procs) : Guarded w' :=
  h.of_frame he hch fun _ _ hj _ => by rwa [pcOf, hp] at hj

theorem of_append (h : Guarded w) {x : Proc} (hp : w'.procs = w.procs ++ [x]) (hx : x.pc = .idle)
    (hc : w'.contact = w.contact) : Guarded w' :=
  h.of_frame (by rw [hc]) (.inr (by rw [hc])) fun _ _ hj hpg => by
    rcases pcOf_of_append hp hj with hj | rfl
    · exact hj
    · rw [hx] at hpg; cases hpg

theorem pcOf_of_setProc (hi : w.procs[i]? = some pr) (pr' : Proc) (hq : pr'.pc.pastGuard = false)
    {j : Nat} {pc : ProcPc} (hj : (w.setProc i pr').pcOf j = some pc) (hp : pc.pastGuard = true) :
    w.pcOf j = some pc := by
  rcases pcOf_setProc_cases hi pr' hj with ⟨-, rfl⟩ | ⟨-, hj⟩
  · rw [hq] at hp; cases hp
  · exact hj

theorem setProc (h : Guarded w) (hi : w.procs[i]? = some pr) {pr' : Proc} {v : World}
    (hv : v = w.setProc i pr' ∨ ∃ c m,
      c.connEnabled = w.contact.connEnabled ∧ c.connChannel = w.contact.connChannel ∧
        v = { w.setProc i pr' with contact := c, mutex := m })
    (hq : pr'.pc.pastGuard = false) : Guarded v := by
  rcases hv with rfl | ⟨c, m, he, hch, rfl⟩
  · exact h.of_frame rfl (.inr rfl) fun _ _ => pcOf_of_setProc hi pr' hq
  · exact h.of_frame he (.inr hch) fun _ _ => pcOf_of_setProc hi pr' hq

theorem loopStep (h : Guarded w) (hs : w.loopStep now = some w') : Guarded w' := by
  obtain ⟨hpc, -, -, -, hc⟩ := loopStep_cases hs
  refine h.of_frame ?_ ?_ fun j _ hj _ => (hpc j).symm.trans hj
  all_goals rcases hc with hc | ⟨-, ⟨p, hc⟩ | hc⟩ <;> simp [hc]

theorem deliver (h : Guarded w) (hs : w.deliver i = some w') : Guarded w' := by
  unfold World.deliver at hs
  split at hs
  next a pr _ hi =>
    have hpi : w.pcOf i = some pr.pc := by simp [pcOf, hi]
    split at hs <;> cases hs
    next =>
      exact h.of_frame (by simp) (.inr (by simp)) fun j pc hj =>
        pcOf_of_setProc hi { pr with pc := .idle } rfl (by rwa [pcOf_cancelAttempt] at hj)
    next =>
      exact h.of_frame (by simp) (.inr (by simp)) fun j pc hj =>
        pcOf_of_setProc hi { pr with pc := .exited } rfl (by rwa [pcOf_cancelAttempt] at hj)
    next hpc => -- a goroutine past the guard never has a channel to send on
      obtain ⟨⟨k, hk⟩, -⟩ := h.pastGuard i .resending (by rw [hpi, hpc]) rfl
      cases hk
  next => cases hs

theorem procStep (h : Guarded w) (hs : w.procStep i now = some w') : Guarded w' := by
  unfold World.procStep at hs
  cases hi : w.procs[i]? with
  | none => simp [hi] at hs
  | some pr =>
    simp only [hi] at hs
    have hpi : w.pcOf i = some pr.pc := by simp [pcOf, hi]
    split at hs
    next known hpc => -- `OnConnectionAuthenticated`: the guard, or the send under the mutex
      split_ifs at hs
      split at hs <;> cases hs
      · rename_i hch
        refine ⟨h.enabled, fun j pc hj hp => ?_⟩
        rcases pcOf_setProc_cases hi _ hj with ⟨-, rfl⟩ | ⟨-, hj⟩
        · exact ⟨⟨known, rfl⟩, hch⟩
        · exact h.pastGuard j pc hj hp
      · exact h.setProc hi (.inr ⟨_, _, by simp, by simp, rfl⟩) rfl
    next known hpc => -- past the guard, `connChannel` read again
      have hch := (h.pastGuard i (.unguarded known) (by rw [hpi, hpc]) rfl).2
      split at hs <;> rename_i hch' <;> rw [hch] at hch' <;> cases hch'
      cases hs
      exact h.setProc hi (.inr ⟨_, w.mutex, by simp, by simp, rfl⟩) rfl
    next hpc => -- the second `Unlock`
      obtain ⟨⟨k, hk⟩, -⟩ := h.pastGuard i .unlocking (by rw [hpi, hpc]) rfl
      cases hk
    next => -- `OnConnectionClosed`
      split_ifs at hs <;> cases hs
      · exact h.setProc hi (.inl rfl) rfl
      · exact h.setProc hi (.inr ⟨_, _, rfl, rfl, rfl⟩) rfl
    next => -- `UpdateContactRequest`
      split_ifs at hs <;> cases hs
      · exact h.setProc hi (.inl rfl) rfl
      · exact h.setProc hi (.inr ⟨_, _, by simp, by simp, rfl⟩) rfl
    next => cases hs

theorem step (h : Guarded w) {a : Action} (hs : Agent.step w a = some w') : Guarded w' := by
  cases a with
  | loop now => exact h.loopStep hs
  | deliver i => exact h.deliver hs
  | loopChannelClosed =>
    obtain ⟨-, -, hc, -, hp, -⟩ := loopChannelClosed_cases hs
    exact h.of_procs (by rw [hc]) (.inr (by rw [hc])) hp
  | proc i now => exact h.procStep hs
  | handle i e =>
    obtain ⟨pr, hi, -, rfl | ⟨pr', rfl, -, hq, -⟩⟩ := handle_cases hs
    · exact h
    · exact h.setProc hi (.inl rfl) hq
  | accept conn =>
    obtain ⟨x, hp, hx, hc, -⟩ := accept_cases hs
    exact h.of_append hp hx hc
  | attemptStart j =>
    obtain ⟨-, -, hc, -, hp, -⟩ := attemptStart_cases hs
    exact h.of_procs (by rw [hc]) (.inr (by rw [hc])) hp
  | attemptDialed j =>
    obtain ⟨-, x, hp, hx, hc, -⟩ := attemptDialed_cases hs
    exact h.of_append hp hx hc
  | attemptCancelled j =>
    obtain ⟨-, hc, -, hp, -⟩ := attemptCancelled_cases hs
    exact h.of_procs (by rw [hc]) (.inr (by rw [hc])) hp
  | start =>
    -- connections are enabled already: `StartConnection` returns at once
    obtain ⟨-, ⟨-, rfl⟩ | ⟨he, -⟩⟩ := startStep_cases hs
    · exact h
    · rw [h.enabled] at he; cases he
  | stop =>
    obtain ⟨hp, -, ⟨-, hc⟩ | ⟨-, -, hc⟩ | ⟨-, -, hc⟩⟩ := stopStep_cases hs
    · exact h.of_procs (by rw [hc]) (.inr (by rw [hc])) hp
    · exact h.of_procs (by rw [hc]) (.inr (by rw [hc])) hp
    · exact h.of_procs (by rw [hc]) (.inl (by rw [hc])) hp

theorem init (c : Contact) (myLabel : String) : Guarded (Agent.init c myLabel) where
  enabled := by simp [Agent.init]
  pastGuard _ _ hj := by simp [pcOf, Agent.init] at hj

/-- Once `StartConnection` has run, no goroutine past the guard ever finds a channel. -/
theorem reachable {c : Contact} {myLabel : String} (hr : Reachable (Agent.init c myLabel) w) :
    Guarded w := by
  induction hr with
  | init => exact Guarded.init c myLabel
  | step a _ hs ih => exact ih.step hs

end Guarded

structure Inv (w : World) : Prop where
  holder : ∀ i pc, w.pcOf i = some pc → pc.holdsMutex = true → w.mutex = some (.proc i)
  signal : ∀ i, w.pcOf i = some .signalling → w.contact.connection = some i
  clear : ∀ i, w.loop = .closed i → w.contact.connection = some i
  adopted : ∀ p, w.contact.connection = some p → w.hostOf p = some w.contact.label
  online : OnlineConnected w.contact

namespace Inv

variable {w w' : World} {i : Nat} {pr : Proc} {now : Instant}

theorem holdsMutex_false (h : Inv w) (hm : w.mutex = none) {j : Nat} {pc : ProcPc}
    (hj : w.pcOf j = some pc) : pc.holdsMutex = false := by
  cases hpc : pc.holdsMutex
  · rfl
  · simp [h.holder j pc hj hpc] at hm

/-- At most one protocol goroutine holds the mutex. -/
theorem holder_unique (h : Inv w) {j : Nat} {pc pc' : ProcPc} (hi : w.pcOf i = some pc)
    (hpc : pc.holdsMutex = true) (hj : w.pcOf j = some pc') (hpc' : pc'.holdsMutex = true) :
    j = i := by
  have e := (h.holder j pc' hj hpc').symm.trans (h.holder i pc hi hpc)
  simpa using e

/-! ### Shapes of steps -/

/-- The general frame: a step that creates no holder, keeps an owned mutex's owner, takes no new
close signal, and leaves the adopted session and every label alone. -/
theorem of_frame (h : Inv w)
    (hmutex : ∀ j, w.mutex = some (.proc j) → w'.mutex = some (.proc j))
    (hpc : ∀ j pc, w'.pcOf j = some pc → pc.holdsMutex = true → w.pcOf j = some pc)
    (hloop : ∀ j, w'.loop = .closed j → w.loop = .closed j)
    (hconn : w'.contact.connection = w.contact.connection)
    (hlabel : w'.contact.label = w.contact.label)
    (hon : OnlineConnected w'.contact)
    (hhost : ∀ j l, w.hostOf j = some l → w'.hostOf j = some l) : Inv w' where
  holder j pc hj hpc' := hmutex j (h.holder j pc (hpc j pc hj hpc') hpc')
  signal j hj := by rw [hconn]; exact h.signal j (hpc j _ hj rfl)
  clear j hj := by rw [hconn]; exact h.clear j (hloop j hj)
  adopted p hp := by
    rw [hlabel]; exact hhost p _ (h.adopted p (hconn ▸ hp))
  online := hon

theorem of_loop (h : Inv w) (hc : w'.contact = w.contact) (hm : w'.mutex = w.mutex)
    (hp : w'.procs = w.procs) (hl : ∀ j, w'.loop = .closed j → w.loop = .closed j) : Inv w' :=
  h.of_frame (fun _ hj => hm ▸ hj) (fun _ _ hj _ => by rwa [pcOf, hp] at hj) hl
    (by rw [hc]) (by rw [hc]) (hc ▸ h.online) (fun _ _ hj => by rwa [hostOf, hp])

theorem cancelAttempt (h : Inv w) (a : Option Nat) : Inv (w.cancelAttempt a) :=
  h.of_loop (by simp) (by simp) (by simp) (fun _ => by simp)

theorem of_unlocked (h : Inv w) (hm : w.mutex = none)
    (hpc : ∀ j, w'.pcOf j = w.pcOf j) (hloop : ∀ j, w'.loop ≠ .closed j)
    (hon : OnlineConnected w'.contact)
    (hadopt : ∀ p, w'.contact.connection = some p → w'.hostOf p = some w'.contact.label) :
    Inv w' where
  holder j pc hj hpc' := by
    rw [hpc] at hj; rw [h.holdsMutex_false hm hj] at hpc'; cases hpc'
  signal j hj := by
    rw [hpc] at hj; cases h.holdsMutex_false hm hj
  clear j hj := absurd hj (hloop j)
  adopted := hadopt
  online := hon

theorem setContact (h : Inv w) {c : Contact} (hconn : c.connection = w.contact.connection)
    (hlabel : c.label = w.contact.label) (hon : OnlineConnected c) : Inv { w with contact := c } :=
  h.of_frame (fun _ => id) (fun _ _ hj _ => hj) (fun _ => id) hconn hlabel hon (fun _ _ => id)

theorem setProc (h : Inv w) (hi : w.procs[i]? = some pr) {pr' : Proc}
    (hq : pr'.pc.holdsMutex = false) (hh : pr'.conn.otherHostname = pr.conn.otherHostname) :
    Inv (w.setProc i pr') :=
  h.of_frame (fun _ => id)
    (fun _ _ hj hpc => by
      rcases pcOf_setProc_cases hi _ hj with ⟨-, rfl⟩ | ⟨-, hj⟩
      · rw [hq] at hpc; cases hpc
      · exact hj)
    (fun _ => id) rfl rfl h.online (fun j _ hj => by rwa [hostOf_setProc hi pr' hh])

theorem append (h : Inv w) {x : Proc} (hp : w'.procs = w.procs ++ [x]) (hx : x.pc = .idle)
    (hc : w'.contact = w.contact) (hm : w'.mutex = w.mutex) (hl : w'.loop = w.loop) : Inv w' :=
  h.of_frame (fun _ hj => hm ▸ hj)
    (fun _ _ hj hpc => by
      rcases pcOf_of_append hp hj with hj | rfl
      · exact hj
      · rw [hx] at hpc; cases hpc)
    (fun _ hj => hl ▸ hj) (by rw [hc]) (by rw [hc]) (hc ▸ h.online)
    (fun _ _ hj => hostOf_append_left hp hj)

theorem take (h : Inv w) (hm : w.mutex = none) (hi : w.procs[i]? = some pr) {q : ProcPc}
    {c : Contact} (hconn : c.connection = w.contact.connection)
    (hlabel : c.label = w.contact.label) (hon : OnlineConnected c)
    (hsig : q = .signalling → w.contact.connection = some i) :
    Inv { w.setProc i { pr with pc := q } with contact := c, mutex := some (.proc i) } where
  holder j pc hj hpc := by
    rcases pcOf_setProc_cases hi { pr with pc := q } hj with ⟨rfl, -⟩ | ⟨-, hj⟩
    · rfl
    · rw [h.holdsMutex_false hm hj] at hpc; cases hpc
  signal j hj := by
    rcases pcOf_setProc_cases hi { pr with pc := q } hj with ⟨rfl, rfl⟩ | ⟨-, hj⟩
    · rw [hconn]; exact hsig rfl
    · cases h.holdsMutex_false hm hj
  clear j hj := by rw [hconn]; exact h.clear j hj
  adopted p hp := by
    change (w.setProc i _).hostOf p = _
    rw [hostOf_setProc hi { pr with pc := q } rfl, hlabel]
    exact h.adopted p (hconn ▸ hp)
  online := hon

theorem release (h : Inv w) (hi : w.procs[i]? = some pr) (hpr : pr.pc.holdsMutex = true)
    {q : ProcPc} (hq : q.holdsMutex = false) {l : LoopPc}
    (hl : ∀ j, l = .closed j → j = i ∧ pr.pc = .signalling) (a : Option Nat) :
    Inv ({ w.setProc i { pr with pc := q } with mutex := none, loop := l }.cancelAttempt a) := by
  have hpi : w.pcOf i = some pr.pc := by simp [pcOf, hi]
  refine Inv.cancelAttempt ?_ a
  constructor
  · intro j pc hj hpc
    rcases pcOf_setProc_cases hi { pr with pc := q } hj with ⟨-, rfl⟩ | ⟨hij, hj⟩
    · rw [hq] at hpc; cases hpc
    · exact absurd (h.holder_unique hpi hpr hj hpc).symm hij
  · intro j hj
    rcases pcOf_setProc_cases hi { pr with pc := q } hj with ⟨-, hpc⟩ | ⟨hij, hj⟩
    · cases hpc; cases hq
    · exact absurd (h.holder_unique hpi hpr hj rfl).symm hij
  · intro j hj
    obtain ⟨rfl, hs⟩ := hl j hj
    exact h.signal j (hs ▸ hpi)
  · intro p hp
    change (w.setProc i _).hostOf p = _
    rw [hostOf_setProc hi { pr with pc := q } rfl]
    exact h.adopted p hp
  · exact h.online

/-- What `setConnection` leaves adopted is a session of the world labelled as the contact: the
session it adopts was authenticated, and only a real session is. -/
theorem adopted_setConnection (h : Inv w) (p : Nat) {q : Nat}
    (hq : (w.contact.setConnection w.conns p now).contact.connection = some q) :
    w.hostOf q = some (w.contact.setConnection w.conns p now).contact.label := by
  obtain ⟨hh, -, hok, herr⟩ := setConnection_spec w.contact w.conns p now h.online
  have hlabel : (w.contact.setConnection w.conns p now).contact.label = w.contact.label := by
    unfold Contact.label; rw [hh]
  rw [hlabel]
  by_cases hr : (w.contact.setConnection w.conns p now).result = .ok ()
  · obtain ⟨hc, hauth, -, hhost⟩ := hok hr
    rw [hc] at hq; cases hq
    rw [hostOf_of_isAuthed hauth, hhost]
  · rw [herr hr] at hq
    exact h.adopted q hq

/-! ### Each goroutine's step -/

theorem loopStep (h : Inv w) (hs : w.loopStep now = some w') : Inv w' := by
  obtain ⟨hpc, hhost, hm, hl, hc⟩ := loopStep_cases hs
  rcases hc with hc | ⟨hfree, ⟨p, hc⟩ | hc⟩
  · exact h.of_frame (fun _ hj => hm ▸ hj) (fun j _ hj _ => (hpc j).symm.trans hj)
      (fun j hj => absurd hj (hl j)) (by rw [hc]) (by rw [hc]) (hc ▸ h.online)
      (fun j _ hj => (hhost j).trans hj)
  · refine h.of_unlocked hfree hpc hl
      (hc ▸ (setConnection_spec w.contact w.conns p now h.online).2.1) (fun q hq => ?_)
    rw [hc] at hq ⊢
    rw [hhost]
    exact h.adopted_setConnection p hq
  · refine h.of_unlocked hfree hpc hl (hc ▸ h.online.clearConnection none) (fun q hq => ?_)
    rw [hc] at hq ⊢
    rw [hhost]
    rcases (clearConnection_spec w.contact w.conns none now).2 with he | ⟨hn, -⟩
    · rw [he] at hq ⊢; exact h.adopted q hq
    · rw [hn] at hq; cases hq

theorem deliver (h : Inv w) (hg : Guarded w) (hs : w.deliver i = some w') : Inv w' := by
  unfold World.deliver at hs
  split at hs
  next a pr _ hi =>
    split at hs <;> cases hs
    next hpc => exact h.release hi (by rw [hpc]; rfl) (by rfl) (fun _ => by exact nofun) a
    next hpc =>
      exact h.release hi (by rw [hpc]; rfl) (by rfl)
        (fun _ hj => by exact ⟨(LoopPc.closed.inj hj).symm, hpc⟩) a
    next hpc =>
      obtain ⟨⟨k, hk⟩, -⟩ := hg.pastGuard i .resending (by simp [pcOf, hi, hpc]) rfl
      cases hk
  next => cases hs

theorem loopChannelClosed (h : Inv w) (hs : w.loopChannelClosed = some w') : Inv w' := by
  obtain ⟨-, -, hc, hm, hp, hl⟩ := loopChannelClosed_cases hs
  exact h.of_loop hc hm hp (fun _ hj => by rw [hl] at hj; cases hj)

theorem procStep (h : Inv w) (hg : Guarded w) (hs : w.procStep i now = some w') : Inv w' := by
  unfold World.procStep at hs
  cases hi : w.procs[i]? with
  | none => simp [hi] at hs
  | some pr =>
    simp only [hi] at hs
    have hpi : w.pcOf i = some pr.pc := by simp [pcOf, hi]
    have hnote : ∀ known, Inv { w with contact := w.contact.noteAuthenticated pr.conn known } :=
      fun _ => h.setContact (by simp) (by simp [Contact.label])
        (h.online.congr (by simp) (by simp) (by simp))
    split at hs
    next known _ => -- `OnConnectionAuthenticated`: the guard, or the send under the mutex
      split_ifs at hs with hm
      have hm : w.mutex = none := by simpa using hm
      split at hs <;> cases hs
      · exact h.setProc hi rfl rfl
      · exact h.take hm hi (by simp) (by simp [Contact.label])
          (h.online.congr (by simp) (by simp) (by simp)) nofun
    next known hpc => -- past the guard: `connChannel` is nil again
      have hch := (hg.pastGuard i (.unguarded known) (by rw [hpi, hpc]) rfl).2
      split at hs <;> rename_i hch' <;> rw [hch] at hch' <;> cases hch'
      cases hs
      exact (hnote known).setProc hi rfl rfl
    next hpc => -- no goroutine past the guard reaches the second `Unlock`
      obtain ⟨⟨k, hk⟩, -⟩ := hg.pastGuard i .unlocking (by rw [hpi, hpc]) rfl
      cases hk
    next => -- `OnConnectionClosed`
      split_ifs at hs with hm hc <;> cases hs
      · exact h.setProc hi rfl rfl
      · simp only [Bool.or_eq_true, decide_eq_true_eq, not_or, not_not] at hc
        exact h.take (by simpa using hm) hi rfl rfl h.online (fun _ => hc.1)
    next _ status _ => -- `UpdateContactRequest`
      split_ifs at hs with hm <;> cases hs
      · exact h.setProc hi rfl rfl
      · obtain ⟨hh, -⟩ := answerRequest_spec w.contact status now
        exact h.take (by simpa using hm) hi (by simp) (by simp [Contact.label, hh])
          (by simpa using h.online.answerRequest status) nofun
    next => cases hs

theorem handle (h : Inv w) {e : Event} (hs : w.handle i e = some w') : Inv w' := by
  obtain ⟨pr, hi, -, rfl | ⟨pr', rfl, hq, -, hh⟩⟩ := handle_cases hs
  · exact h
  · exact h.setProc hi hq hh

theorem accept (h : Inv w) {conn : OpenConnection} (hs : w.accept conn = some w') : Inv w' := by
  obtain ⟨x, hp, hx, hc, hm, hl⟩ := accept_cases hs
  exact h.append hp hx hc hm hl

theorem attemptStart (h : Inv w) {j : Nat} (hs : w.attemptStart j = some w') : Inv w' := by
  obtain ⟨-, -, hc, hm, hp, hl⟩ := attemptStart_cases hs
  exact h.of_loop hc hm hp (fun _ hj => hl ▸ hj)

theorem attemptDialed (h : Inv w) {j : Nat} (hs : w.attemptDialed j = some w') : Inv w' := by
  obtain ⟨-, x, hp, hx, hc, hm, hl⟩ := attemptDialed_cases hs
  exact h.append hp hx hc hm hl

theorem attemptCancelled (h : Inv w) {j : Nat} (hs : w.attemptCancelled j = some w') :
    Inv w' := by
  obtain ⟨-, hc, hm, hp, hl⟩ := attemptCancelled_cases hs
  exact h.of_loop hc hm hp (fun _ hj => hl ▸ hj)

theorem stopStep (h : Inv w) (hs : w.stopStep = some w') : Inv w' := by
  obtain ⟨hp, hl, ⟨hm, hc⟩ | ⟨hfree, hm, hc⟩ | ⟨-, hm, hc⟩⟩ := stopStep_cases hs
  · exact h.of_loop hc hm hp (fun _ hj => hl ▸ hj)
  · -- the stopper panics holding the mutex, which no protocol goroutine held
    exact h.of_frame (fun _ hj => by rw [hfree] at hj; cases hj)
      (fun _ _ hj _ => by rwa [pcOf, hp] at hj) (fun _ hj => hl ▸ hj) (by rw [hc]) (by rw [hc])
      (hc ▸ h.online) (fun _ _ hj => by rwa [hostOf, hp])
  · -- the channels are cleared
    exact h.of_frame (fun _ hj => hm ▸ hj) (fun _ _ hj _ => by rwa [pcOf, hp] at hj)
      (fun _ hj => hl ▸ hj) (by rw [hc]) (by rw [hc, Contact.label]; rfl) (by rw [hc]; exact h.online)
      (fun _ _ hj => by rwa [hostOf, hp])

theorem startStep (h : Inv w) (hg : Guarded w) (hs : w.startStep = some w') : Inv w' := by
  obtain ⟨-, ⟨-, rfl⟩ | ⟨he, -⟩⟩ := startStep_cases hs
  · exact h
  · rw [hg.enabled] at he; cases he

/-- Every step keeps the invariant, once `StartConnection` has run. -/
theorem step (h : Inv w) (hg : Guarded w) {a : Action} (hs : Agent.step w a = some w') :
    Inv w' := by
  cases a with
  | loop now => exact h.loopStep hs
  | deliver i => exact h.deliver hg hs
  | loopChannelClosed => exact h.loopChannelClosed hs
  | proc i now => exact h.procStep hg hs
  | handle i e => exact h.handle hs
  | accept conn => exact h.accept hs
  | attemptStart j => exact h.attemptStart hs
  | attemptDialed j => exact h.attemptDialed hs
  | attemptCancelled j => exact h.attemptCancelled hs
  | start => exact h.startStep hg hs
  | stop => exact h.stopStep hs

theorem init {c : Contact} (hc : c.connection = none) (hon : c.status ≠ .online)
    (myLabel : String) : Inv (Agent.init c myLabel) where
  holder _ _ hj := by simp [pcOf, Agent.init] at hj
  signal _ hj := by simp [pcOf, Agent.init] at hj
  clear _ hj := by cases hj
  adopted _ hp := by simp [Agent.init, hc] at hp
  online := OnlineConnected.of_not_online (by simpa [Agent.init] using hon)

/-- Every state the agent reaches from a contact loaded from the config is in the invariant. -/
theorem reachable {isOnionValid : String → Bool} {id : Int} {data : ConfigContact} {c : Contact}
    (hc : contactFromConfig isOnionValid id data = .ok c) {myLabel : String}
    (hr : Reachable (Agent.init c myLabel) w) : Inv w := by
  obtain ⟨-, hconn, hon, -⟩ := contactFromConfig_spec hc
  induction hr with
  | init => exact Inv.init hconn hon myLabel
  | step a hr hs ih => exact ih.step (Guarded.reachable hr) hs

end Inv

end Ricochet.Agent
