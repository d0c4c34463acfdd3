import Ricochet.Agent.Basic

/-! The views of a world that the agent's invariants read, and what each helper of the step
functions does to them: where each protocol goroutine is (`pcOf`), and the peer label of each
session (`hostOf`). Sessions are only ever appended, and no step rewrites a session's peer
label. -/

namespace Ricochet.Agent

open Contact

/-- Whether a protocol goroutine at this point holds `c.mutex`. -/
def ProcPc.holdsMutex : ProcPc → Bool
  | .sending | .signalling | .selfLocked => true
  | _ => false

/-- Whether a protocol goroutine at this point never moves again: it has returned, it is blocked
for good on a nil channel or re-locking `c.mutex`, or the program has stopped. -/
def ProcPc.final : ProcPc → Bool
  | .exited | .stuck | .selfLocked | .fatal => true
  | _ => false

/-- Whether a goroutine at this point is past the guard of `OnConnectionAuthenticated`, which
unlocked `c.mutex` without returning. -/
def ProcPc.pastGuard : ProcPc → Bool
  | .unguarded _ | .resending | .unlocking | .fatal => true
  | _ => false

namespace World

variable {w w' : World} {i j p : Nat} {pr pr' : Proc}

/-- Where protocol goroutine `i` is, if it exists. -/
def pcOf (w : World) (i : Nat) : Option ProcPc := w.procs[i]?.map (·.pc)

/-- The peer label of session `i`, if it exists. -/
def hostOf (w : World) (i : Nat) : Option String := w.procs[i]?.map (·.conn.otherHostname)

/-! ### Helpers that touch only the sessions -/

@[simp] theorem setProc_contact : (w.setProc i pr).contact = w.contact := rfl
@[simp] theorem setProc_mutex : (w.setProc i pr).mutex = w.mutex := rfl
@[simp] theorem setProc_loop : (w.setProc i pr).loop = w.loop := rfl
@[simp] theorem setProc_chanClosed : (w.setProc i pr).chanClosed = w.chanClosed := rfl

theorem pcOf_setProc (h : w.procs[i]? = some pr) (pr' : Proc) (j : Nat) :
    (w.setProc i pr').pcOf j = if i = j then some pr'.pc else w.pcOf j := by
  have hi : i < w.procs.length := (List.getElem?_eq_some_iff.mp h).1
  by_cases hij : i = j
  · subst hij; simp [pcOf, setProc, hi]
  · simp [pcOf, setProc, hij]

theorem pcOf_setProc_cases (h : w.procs[i]? = some pr) (pr' : Proc) {pc : ProcPc}
    (hj : (w.setProc i pr').pcOf j = some pc) : j = i ∧ pc = pr'.pc ∨ i ≠ j ∧ w.pcOf j = some pc := by
  rw [pcOf_setProc h] at hj
  split at hj
  next hij => exact .inl ⟨hij.symm, (Option.some.inj hj).symm⟩
  next hij => exact .inr ⟨hij, hj⟩

theorem hostOf_setProc (h : w.procs[i]? = some pr) (pr' : Proc)
    (hh : pr'.conn.otherHostname = pr.conn.otherHostname) (j : Nat) :
    (w.setProc i pr').hostOf j = w.hostOf j := by
  by_cases hij : i = j
  · subst hij
    have hi : i < w.procs.length := (List.getElem?_eq_some_iff.mp h).1
    simp [hostOf, setProc, hi, h, hh]
  · simp [hostOf, setProc, hij]

@[simp] theorem closeConn_contact : (w.closeConn p).contact = w.contact := rfl
@[simp] theorem closeConn_mutex : (w.closeConn p).mutex = w.mutex := rfl
@[simp] theorem closeConn_loop : (w.closeConn p).loop = w.loop := rfl
@[simp] theorem closeConn_chanClosed : (w.closeConn p).chanClosed = w.chanClosed := rfl

@[simp] theorem pcOf_closeConn : (w.closeConn p).pcOf j = w.pcOf j := by
  simp only [pcOf, closeConn, List.getElem?_modify]
  cases w.procs[j]? <;> simp only [Option.map_none', Option.map_some', Option.map_eq_map]
  split <;> rfl

@[simp] theorem hostOf_closeConn : (w.closeConn p).hostOf j = w.hostOf j := by
  simp only [hostOf, closeConn, List.getElem?_modify]
  cases w.procs[j]? <;> simp only [Option.map_none', Option.map_some', Option.map_eq_map]
  split <;> rfl

theorem conns_closeConn_of_ne (h : p ≠ q) : (w.closeConn p).conns q = w.conns q := by
  simp [conns, closeConn, List.getElem?_modify, h]

theorem applyEffects_eq (w : World) (es : List Effect) :
    w.applyEffects es = { w with procs := (w.applyEffects es).procs } := by
  induction es generalizing w with
  | nil => rfl
  | cons e es ih =>
    cases e with
    | close p => simp only [applyEffects]; exact ih _
    | sendContactRequest => exact ih w
    | save => exact ih w

@[simp] theorem applyEffects_contact (es : List Effect) :
    (w.applyEffects es).contact = w.contact := by
  rw [applyEffects_eq]

@[simp] theorem applyEffects_mutex (es : List Effect) : (w.applyEffects es).mutex = w.mutex := by
  rw [applyEffects_eq]

@[simp] theorem applyEffects_chanClosed (es : List Effect) :
    (w.applyEffects es).chanClosed = w.chanClosed := by
  rw [applyEffects_eq]

@[simp] theorem pcOf_applyEffects (es : List Effect) : (w.applyEffects es).pcOf j = w.pcOf j := by
  induction es generalizing w with
  | nil => rfl
  | cons e es ih => cases e <;> simp [applyEffects, ih]

@[simp] theorem hostOf_applyEffects (es : List Effect) :
    (w.applyEffects es).hostOf j = w.hostOf j := by
  induction es generalizing w with
  | nil => rfl
  | cons e es ih => cases e <;> simp [applyEffects, ih]

@[simp] theorem cancelAttempt_contact (a : Option Nat) : (w.cancelAttempt a).contact = w.contact := by
  cases a <;> rfl
@[simp] theorem cancelAttempt_mutex (a : Option Nat) : (w.cancelAttempt a).mutex = w.mutex := by
  cases a <;> rfl
@[simp] theorem cancelAttempt_loop (a : Option Nat) : (w.cancelAttempt a).loop = w.loop := by
  cases a <;> rfl
@[simp] theorem cancelAttempt_procs (a : Option Nat) : (w.cancelAttempt a).procs = w.procs := by
  cases a <;> rfl
@[simp] theorem cancelAttempt_chanClosed (a : Option Nat) :
    (w.cancelAttempt a).chanClosed = w.chanClosed := by
  cases a <;> rfl
@[simp] theorem pcOf_cancelAttempt (a : Option Nat) : (w.cancelAttempt a).pcOf j = w.pcOf j := by
  cases a <;> rfl

/-! ### Sessions appended at the end -/

theorem pcOf_of_append {x : Proc} (hp : w'.procs = w.procs ++ [x]) {pc : ProcPc}
    (h : w'.pcOf j = some pc) : w.pcOf j = some pc ∨ pc = x.pc := by
  simp only [pcOf, hp] at h ⊢
  by_cases hj : j < w.procs.length
  · rw [List.getElem?_append_left hj] at h
    exact .inl h
  · rw [List.getElem?_append_right (by omega)] at h
    obtain ⟨y, hy, rfl⟩ := Option.map_eq_some'.mp h
    rcases hk : j - w.procs.length with _ | k <;> simp_all

theorem pcOf_append_left {t : List Proc} (hp : w'.procs = w.procs ++ t) {pc : ProcPc}
    (h : w.pcOf j = some pc) : w'.pcOf j = some pc := by
  obtain ⟨y, hy, rfl⟩ := Option.map_eq_some'.mp h
  have hj : j < w.procs.length := (List.getElem?_eq_some_iff.mp hy).1
  simp [pcOf, hp, List.getElem?_append_left hj, hy]

theorem hostOf_append_left {t : List Proc} (hp : w'.procs = w.procs ++ t) {l : String}
    (h : w.hostOf j = some l) : w'.hostOf j = some l := by
  obtain ⟨y, hy, rfl⟩ := Option.map_eq_some'.mp h
  have hj : j < w.procs.length := (List.getElem?_eq_some_iff.mp hy).1
  simp [hostOf, hp, List.getElem?_append_left hj, hy]

/-! ### The heap -/

theorem conns_of_getElem? (h : w.procs[p]? = some pr) : w.conns p = pr.conn := by
  simp [conns, h]

theorem hostOf_of_isAuthed (h : (w.conns p).isAuthed = true) :
    w.hostOf p = some (w.conns p).otherHostname := by
  cases hp : w.procs[p]? with
  | none => simp [conns, hp, dangling] at h
  | some pr => simp [hostOf, hp, conns_of_getElem? hp]

/-! ### What a step of the loop can do -/

section LoopStep

variable {c : Contact} {es : List Effect} {l : LoopPc}

theorem pcOf_effects (j : Nat) :
    { ({ w with contact := c }.applyEffects es) with loop := l }.pcOf j = w.pcOf j := by
  change (World.applyEffects _ _).pcOf j = _
  rw [pcOf_applyEffects]
  rfl

theorem hostOf_effects (j : Nat) :
    { ({ w with contact := c }.applyEffects es) with loop := l }.hostOf j = w.hostOf j := by
  change (World.applyEffects _ _).hostOf j = _
  rw [hostOf_applyEffects]
  rfl

theorem loopStep_of_select {now : Instant} {a : Option Nat} (h : w.loop = .select a) :
    w.loopStep now = none := by
  simp [World.loopStep, h]

/-- A step of the loop moves no protocol goroutine, relabels no session and takes no close signal;
it rewrites the contact only in `setConnection` or `clearConnection`, under the free mutex. -/
theorem loopStep_cases {now : Instant} (hs : w.loopStep now = some w') :
    (∀ j, w'.pcOf j = w.pcOf j) ∧ (∀ j, w'.hostOf j = w.hostOf j) ∧ w'.mutex = w.mutex ∧
      (∀ j, w'.loop ≠ .closed j) ∧
      (w'.contact = w.contact ∨ w.mutex = none ∧
        ((∃ p, w'.contact = (w.contact.setConnection w.conns p now).contact) ∨
          w'.contact = (w.contact.clearConnection w.conns none now).contact)) := by
  have free : ¬ w.mutex.isSome = true → w.mutex = none := by simp
  unfold World.loopStep at hs
  split at hs
  next => split_ifs at hs <;> cases hs <;> exact ⟨fun _ => rfl, fun _ => rfl, rfl, fun _ => nofun, .inl rfl⟩ -- top
  next => cases hs -- select
  next => cases hs -- exited
  next => cases hs -- unspawned
  next => split_ifs at hs; cases hs; exact ⟨fun _ => rfl, fun _ => rfl, rfl, fun _ => nofun, .inl rfl⟩ -- adopt
  next _ p _ => -- assign
    split_ifs at hs with hm
    dsimp only at hs
    split at hs <;> cases hs <;>
      exact ⟨pcOf_effects, hostOf_effects, by simp, fun _ => nofun, .inr ⟨free hm, .inl ⟨p, by simp⟩⟩⟩
  next => split_ifs at hs; cases hs; exact ⟨fun _ => rfl, fun _ => rfl, rfl, fun _ => nofun, .inl rfl⟩ -- publish
  next => split_ifs at hs; cases hs; exact ⟨fun _ => rfl, fun _ => rfl, rfl, fun _ => nofun, .inl rfl⟩ -- drain
  next _ p _ => -- discard
    split_ifs at hs <;> cases hs
    · exact ⟨fun _ => pcOf_closeConn, fun _ => hostOf_closeConn, rfl, fun _ => nofun, .inl rfl⟩
    · exact ⟨fun _ => rfl, fun _ => rfl, rfl, fun _ => nofun, .inl rfl⟩
  next => -- closed
    split_ifs at hs with hm
    cases hs
    exact ⟨pcOf_effects, hostOf_effects, by simp, fun _ => by split <;> exact nofun,
      .inr ⟨free hm, .inr (by simp)⟩⟩
  next => split_ifs at hs; cases hs; exact ⟨fun _ => rfl, fun _ => rfl, rfl, fun _ => nofun, .inl rfl⟩ -- clearPublish
  next => split_ifs at hs; cases hs; exact ⟨fun _ => rfl, fun _ => rfl, rfl, fun _ => nofun, .inl rfl⟩ -- exiting
  next => -- exitClear
    split_ifs at hs with hm
    cases hs
    exact ⟨pcOf_effects, hostOf_effects, by simp, fun _ => by split <;> exact nofun,
      .inr ⟨free hm, .inr (by simp)⟩⟩
  next => split_ifs at hs; cases hs; exact ⟨fun _ => rfl, fun _ => rfl, rfl, fun _ => nofun, .inl rfl⟩ -- exitPublish

end LoopStep

/-! ### What the steps of the environment can do -/

theorem handle_cases {e : Event} (hs : w.handle i e = some w') :
    ∃ pr, w.procs[i]? = some pr ∧ pr.pc = .idle ∧
      (w' = w ∨ ∃ pr', w' = w.setProc i pr' ∧ pr'.pc.holdsMutex = false ∧
        pr'.pc.pastGuard = false ∧ pr'.conn.otherHostname = pr.conn.otherHostname) := by
  unfold World.handle at hs
  cases hi : w.procs[i]? with
  | none => simp [hi] at hs
  | some pr =>
    simp only [hi] at hs
    split at hs
    · cases hs
    rename_i hidle
    refine ⟨pr, rfl, by simpa using hidle, ?_⟩
    rcases e with _ | _ | (_ | _ | _) | _ | _ <;> dsimp only at hs <;> split_ifs at hs <;> cases hs
    all_goals first
      | exact .inl rfl
      | exact .inr ⟨_, rfl, by simp_all [ProcPc.holdsMutex], by simp_all [ProcPc.pastGuard], rfl⟩

theorem deliver_cases (hs : w.deliver i = some w') :
    (∃ a, w.loop = .select a) ∧ ∃ pr, w.procs[i]? = some pr ∧
      (pr.pc = .sending ∨ pr.pc = .signalling ∨ pr.pc = .resending) ∧
      ∀ j, i ≠ j → w'.pcOf j = w.pcOf j := by
  unfold World.deliver at hs
  split at hs
  next a _ hl hi =>
    split at hs <;> cases hs
    all_goals
      refine ⟨⟨a, hl⟩, _, hi, by simp [*], fun j hij => ?_⟩
      rw [pcOf_cancelAttempt]
      change (w.setProc i _).pcOf j = _
      rw [pcOf_setProc hi, if_neg hij]
  next => cases hs

/-- A protocol goroutine's step moves only itself. It needs the free mutex, unless it is past the
guard of `OnConnectionAuthenticated`, where it keeps the mutex as it is or unlocks it again. -/
theorem procStep_cases {now : Instant} (hs : w.procStep i now = some w') :
    ∃ pr, w.procs[i]? = some pr ∧ pr.pc.final = false ∧
      (w.mutex = none ∨ pr.pc = .unlocking ∨ (∃ k, pr.pc = .unguarded k) ∧ w'.mutex = w.mutex) ∧
      ∀ j, i ≠ j → w'.pcOf j = w.pcOf j := by
  unfold World.procStep at hs
  cases hi : w.procs[i]? with
  | none => simp [hi] at hs
  | some pr =>
    simp only [hi] at hs
    have other : ∀ {v : World} (pr' : Proc), v.procs = w.procs →
        ∀ j, i ≠ j → (v.setProc i pr').pcOf j = w.pcOf j := fun _ hv j hij => by
      simp only [pcOf, setProc, hv, List.getElem?_set_ne hij]
    split at hs <;> (try split_ifs at hs with hm) <;> (try split at hs) <;> cases hs
    all_goals first
      | exact ⟨pr, rfl, by simp [*, ProcPc.final], .inl (by simpa using hm), other _ rfl⟩
      | exact ⟨pr, rfl, by simp [*, ProcPc.final], .inr (.inl ‹_›), other _ rfl⟩
      | exact ⟨pr, rfl, by simp [*, ProcPc.final], .inr (.inr ⟨⟨_, ‹_›⟩, rfl⟩), other _ rfl⟩

/-- A protocol goroutine's step rewrites only its own place, whether its session is closed, the
mutex, and the contact by `OnConnectionAuthenticated`'s note or `updateContactRequest`. -/
theorem procStep_frame {now : Instant} (hs : w.procStep i now = some w') :
    ∃ pr pr', w.procs[i]? = some pr ∧ w'.procs = w.procs.set i pr' ∧
      pr'.conn = { pr.conn with closed := pr'.conn.closed } ∧ w'.loop = w.loop ∧
      w'.attempts = w.attempts ∧ w'.chanClosed = w.chanClosed ∧ w'.stopper = w.stopper ∧
      w'.myLabel = w.myLabel ∧
      (w'.contact = w.contact ∨ (∃ k, w'.contact = w.contact.noteAuthenticated pr.conn k) ∨
        ∃ st, w'.contact = w.contact.answerRequest st now) := by
  unfold World.procStep at hs
  cases hi : w.procs[i]? with
  | none => simp [hi] at hs
  | some pr =>
    simp only [hi] at hs
    split at hs <;> (try split_ifs at hs) <;> (try split at hs) <;> cases hs
    all_goals first
      | exact ⟨pr, _, rfl, rfl, rfl, rfl, rfl, rfl, rfl, rfl, .inl rfl⟩
      | exact ⟨pr, _, rfl, rfl, rfl, rfl, rfl, rfl, rfl, rfl, .inr (.inl ⟨_, rfl⟩)⟩
      | exact ⟨pr, _, rfl, rfl, rfl, rfl, rfl, rfl, rfl, rfl, .inr (.inr ⟨_, rfl⟩)⟩

theorem accept_cases {conn : OpenConnection} (hs : w.accept conn = some w') :
    ∃ x : Proc, w'.procs = w.procs ++ [x] ∧ x.pc = .idle ∧
      w'.contact = w.contact ∧ w'.mutex = w.mutex ∧ w'.loop = w.loop := by
  unfold World.accept at hs
  split_ifs at hs
  cases hs
  exact ⟨_, rfl, rfl, rfl, rfl, rfl⟩

theorem attemptDialed_cases (hs : w.attemptDialed j = some w') :
    (∃ t : Attempt, w.attempts[j]? = some t ∧ ∃ h, t.pc = .dialing h) ∧
      ∃ x : Proc, w'.procs = w.procs ++ [x] ∧ x.pc = .idle ∧
        w'.contact = w.contact ∧ w'.mutex = w.mutex ∧ w'.loop = w.loop := by
  unfold World.attemptDialed at hs
  split at hs
  next hj => cases hs; exact ⟨⟨_, hj, _, rfl⟩, _, rfl, rfl, rfl, rfl, rfl⟩
  · cases hs

theorem attemptStart_cases (hs : w.attemptStart j = some w') :
    (∃ t : Attempt, w.attempts[j]? = some t ∧ t.pc = .start) ∧ w.mutex = none ∧
      w'.contact = w.contact ∧ w'.mutex = w.mutex ∧ w'.procs = w.procs ∧ w'.loop = w.loop := by
  unfold World.attemptStart at hs
  split at hs
  next t hj =>
    split_ifs at hs with h
    cases hs
    exact ⟨⟨t, hj, h.1⟩, by simpa using h.2, rfl, rfl, rfl, rfl⟩
  · cases hs

theorem attemptCancelled_cases (hs : w.attemptCancelled j = some w') :
    (∃ t : Attempt, w.attempts[j]? = some t ∧ ∃ h, t.pc = .dialing h) ∧
      w'.contact = w.contact ∧ w'.mutex = w.mutex ∧ w'.procs = w.procs ∧ w'.loop = w.loop := by
  unfold World.attemptCancelled at hs
  split at hs
  next hj => cases hs; exact ⟨⟨_, hj, _, rfl⟩, rfl, rfl, rfl, rfl⟩
  · cases hs

theorem loopChannelClosed_cases (hs : w.loopChannelClosed = some w') :
    (∃ a, w.loop = .select a) ∧ w.chanClosed = true ∧ w'.contact = w.contact ∧
      w'.mutex = w.mutex ∧ w'.procs = w.procs ∧ w'.loop = .exiting := by
  unfold World.loopChannelClosed at hs
  split at hs
  next a hl =>
    split_ifs at hs with hc
    cases hs
    exact ⟨⟨a, hl⟩, hc, by simp⟩
  · cases hs

theorem stopStep_cases (hs : w.stopStep = some w') :
    w'.procs = w.procs ∧ w'.loop = w.loop ∧
      ((w'.mutex = w.mutex ∧ w'.contact = w.contact) ∨
        (w.mutex = none ∧ w'.mutex = some .stopper ∧ w'.contact = w.contact) ∨
        (w.mutex = none ∧ w'.mutex = w.mutex ∧ w'.contact =
          { w.contact with connChannel := none, connClosedChannel := none, connStopped := none })) := by
  unfold World.stopStep at hs
  split at hs
  · cases hs; exact ⟨rfl, rfl, .inl ⟨rfl, rfl⟩⟩
  · split_ifs at hs with hm <;> cases hs
    · exact ⟨rfl, rfl, .inl ⟨rfl, rfl⟩⟩
    · exact ⟨rfl, rfl, .inr (.inl ⟨by simpa using hm, rfl, rfl⟩)⟩
    · exact ⟨rfl, rfl, .inr (.inr ⟨by simpa using hm, rfl, rfl⟩)⟩
  · split_ifs at hs
    cases hs
    exact ⟨rfl, rfl, .inl ⟨rfl, rfl⟩⟩
  · cases hs

theorem startStep_cases (hs : w.startStep = some w') :
    w.mutex = none ∧ (w.contact.connEnabled = true ∧ w' = w ∨
      w.contact.connEnabled = false ∧
        w' = { w with contact := (w.contact.startConnection 0).1, loop := .top }) := by
  unfold World.startStep at hs
  split_ifs at hs with hm
  cases hs
  refine ⟨by simpa using hm, ?_⟩
  cases he : w.contact.connEnabled
  · exact .inr ⟨rfl, by simp [Contact.startConnection, he]⟩
  · exact .inl ⟨rfl, by simp [Contact.startConnection, he]⟩

end World

/-- What every step keeps, every run keeps. -/
theorem run_invariant {P : World → Prop}
    (hstep : ∀ {w w' : World} {a : Action}, P w → step w a = some w' → P w') :
    ∀ {w w' : World} {as : List Action}, P w → run w as = some w' → P w'
  | _, _, [], h, hr => by cases hr; exact h
  | w, _, a :: as, h, hr => by
    simp only [run] at hr
    cases hs : step w a with
    | none => simp [hs] at hr
    | some w₁ => rw [hs] at hr; exact run_invariant hstep (hstep h hs) hr

/-- The protocol goroutine an action moves, if any. -/
def Action.mover : Action → Option Nat
  | .deliver i | .proc i _ | .handle i _ => some i
  | _ => none

theorem step_pcOf_of_ne {w w' : World} {a : Action} (hs : step w a = some w') {j : Nat}
    (hj : a.mover ≠ some j) {pc : ProcPc} (hpc : w.pcOf j = some pc) : w'.pcOf j = some pc := by
  cases a with
  | loop now => rw [(World.loopStep_cases hs).1]; exact hpc
  | deliver i =>
    obtain ⟨-, -, -, -, hother⟩ := World.deliver_cases hs
    rw [hother j (fun h => hj (congrArg some h))]; exact hpc
  | loopChannelClosed =>
    obtain ⟨-, -, -, -, hp, -⟩ := World.loopChannelClosed_cases hs
    rwa [World.pcOf, hp]
  | proc i now =>
    obtain ⟨-, -, -, -, hother⟩ := World.procStep_cases hs
    rw [hother j (fun h => hj (congrArg some h))]; exact hpc
  | handle i e =>
    obtain ⟨pr, hi, -, rfl | ⟨pr', rfl, -, -⟩⟩ := World.handle_cases hs
    · exact hpc
    · rw [World.pcOf_setProc hi, if_neg (fun h => hj (congrArg some h))]; exact hpc
  | accept conn =>
    obtain ⟨x, hp, -⟩ := World.accept_cases hs
    exact World.pcOf_append_left hp hpc
  | attemptStart i =>
    obtain ⟨-, -, -, -, hp, -⟩ := World.attemptStart_cases hs
    rwa [World.pcOf, hp]
  | attemptDialed i =>
    obtain ⟨-, x, hp, -⟩ := World.attemptDialed_cases hs
    exact World.pcOf_append_left hp hpc
  | attemptCancelled i =>
    obtain ⟨-, -, -, hp, -⟩ := World.attemptCancelled_cases hs
    rwa [World.pcOf, hp]
  | start =>
    obtain ⟨-, ⟨-, rfl⟩ | ⟨-, rfl⟩⟩ := World.startStep_cases hs <;> exact hpc
  | stop =>
    obtain ⟨hp, -⟩ := World.stopStep_cases hs
    rwa [World.pcOf, hp]

end Ricochet.Agent
