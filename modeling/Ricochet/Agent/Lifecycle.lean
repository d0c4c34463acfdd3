import Ricochet.Agent.Safety

/-! Starting and stopping the agent. `StartConnection` returns at once when `connEnabled` is set,
and `StopConnection` closes `connChannel` and clears the three channels but never clears
`connEnabled`. So once started, connections stay enabled in every state; `connChannel` is nil
from the first stop on; and the loop leaves its `select` for the way out only after that stop.
When a stop has run until the loop exited, `StartConnection` starts nothing, the loop never runs
again, and a second `StopConnection` closes the nil channel and panics. -/

namespace Ricochet.Agent

open Contact World

/-- The loop is on its way out, after `select` received from the closed `connChannel`. -/
def LoopPc.onExitPath : LoopPc → Bool
  | .exiting | .exitClear | .exitPublish | .exited => true
  | _ => false

/-- What every state keeps of `StartConnection` and `StopConnection`. -/
structure Lifecycle (w : World) : Prop where
  enabled : w.contact.connEnabled = true
  channel : w.chanClosed = true → w.contact.connChannel = none
  exit : w.loop.onExitPath = true → w.chanClosed = true

variable {w w' : World} {now : Instant}

/-! ### What each step does to the lifecycle -/

theorem loopStep_lifecycle (hs : w.loopStep now = some w') :
    w'.chanClosed = w.chanClosed ∧ (w'.loop.onExitPath = true → w.loop.onExitPath = true) := by
  unfold World.loopStep at hs
  split at hs
  next => split_ifs at hs <;> cases hs <;> exact ⟨rfl, nofun⟩ -- top
  next => cases hs -- select
  next => cases hs -- exited
  next => cases hs -- unspawned
  next => split_ifs at hs; cases hs; exact ⟨rfl, nofun⟩ -- adopt
  next => -- assign
    split_ifs at hs
    dsimp only at hs
    split at hs <;> cases hs <;> exact ⟨by simp, nofun⟩
  next => split_ifs at hs; cases hs; exact ⟨rfl, nofun⟩ -- publish
  next => split_ifs at hs; cases hs; exact ⟨rfl, nofun⟩ -- drain
  next => split_ifs at hs <;> cases hs <;> exact ⟨rfl, nofun⟩ -- discard
  next => -- closed
    split_ifs at hs
    cases hs
    exact ⟨by simp, by split <;> exact nofun⟩
  next => split_ifs at hs; cases hs; exact ⟨rfl, nofun⟩ -- clearPublish
  next hl => split_ifs at hs; cases hs; exact ⟨rfl, fun _ => by rw [hl]; rfl⟩ -- exiting
  next hl => -- exitClear
    split_ifs at hs
    cases hs
    exact ⟨by simp, fun _ => by rw [hl]; rfl⟩
  next hl => split_ifs at hs; cases hs; exact ⟨rfl, fun _ => by rw [hl]; rfl⟩ -- exitPublish

/-- Once connections are enabled every step keeps them so; only `StopConnection` closes the loop's
channel, clearing `connChannel`, and an exited loop stays exited. -/
theorem step_lifecycle {a : Action} (hs : step w a = some w') (he : w.contact.connEnabled = true) :
    w'.contact.connEnabled = w.contact.connEnabled ∧
      (w'.chanClosed = w.chanClosed ∧ w'.contact.connChannel = w.contact.connChannel ∨
        w'.chanClosed = true ∧ w'.contact.connChannel = none) ∧
      (w'.loop.onExitPath = true → w.loop.onExitPath = true ∨ w.chanClosed = true) ∧
      (w.loop = .exited → w'.loop = .exited) := by
  -- a step that leaves the lifecycle fields, the channel and the loop alone
  have keep : w'.contact.connEnabled = w.contact.connEnabled →
      w'.contact.connChannel = w.contact.connChannel → w'.chanClosed = w.chanClosed →
      w'.loop = w.loop →
      w'.contact.connEnabled = w.contact.connEnabled ∧
        (w'.chanClosed = w.chanClosed ∧ w'.contact.connChannel = w.contact.connChannel ∨
          w'.chanClosed = true ∧ w'.contact.connChannel = none) ∧
        (w'.loop.onExitPath = true → w.loop.onExitPath = true ∨ w.chanClosed = true) ∧
        (w.loop = .exited → w'.loop = .exited) :=
    fun he hc hcl hl => ⟨he, .inl ⟨hcl, hc⟩, fun h => .inl (hl ▸ h), fun h => hl ▸ h⟩
  cases a with
  | loop now =>
    obtain ⟨-, -, -, -, hc⟩ := loopStep_cases hs
    obtain ⟨hcl, hex⟩ := loopStep_lifecycle hs
    have hch : w'.contact.connEnabled = w.contact.connEnabled ∧
        w'.contact.connChannel = w.contact.connChannel := by
      rcases hc with hc | ⟨-, ⟨p, hc⟩ | hc⟩ <;> simp [hc]
    refine ⟨hch.1, .inl ⟨hcl, hch.2⟩, fun h => .inl (hex h), fun h => ?_⟩
    simp [Agent.step, World.loopStep, h] at hs
  | deliver i =>
    simp only [Agent.step] at hs
    unfold World.deliver at hs
    split at hs
    · split at hs <;> cases hs <;> simp [LoopPc.onExitPath, *]
    · cases hs
  | loopChannelClosed =>
    simp only [Agent.step] at hs
    unfold World.loopChannelClosed at hs
    split at hs
    · split_ifs at hs with hcl
      cases hs
      simp [hcl, *]
    · cases hs
  | proc i now =>
    obtain ⟨_, _, -, -, -, hl, -, hcl, -, -, hc⟩ := procStep_frame hs
    refine keep ?_ ?_ hcl hl <;> rcases hc with hc | ⟨_, hc⟩ | ⟨_, hc⟩ <;> simp [hc]
  | handle i e =>
    obtain ⟨pr, -, -, rfl | ⟨pr', rfl, -, -⟩⟩ := handle_cases hs <;> exact keep rfl rfl rfl rfl
  | accept _ | attemptStart _ | attemptDialed _ | attemptCancelled _ =>
    -- new sessions and the connectors touch neither the contact, the channel nor the loop
    simp only [Agent.step, World.accept, World.attemptStart, World.attemptDialed,
      World.attemptCancelled] at hs
    split at hs <;> (try split_ifs at hs) <;> cases hs
    all_goals exact keep rfl rfl rfl rfl
  | start =>
    obtain ⟨-, ⟨-, rfl⟩ | ⟨he', -⟩⟩ := startStep_cases hs
    · exact keep rfl rfl rfl rfl
    · rw [he] at he'; cases he'
  | stop =>
    simp only [Agent.step] at hs
    unfold World.stopStep at hs
    -- only the stop that closes the channel changes it, clearing `connChannel`
    split at hs <;> (try split_ifs at hs) <;> cases hs <;>
      first | exact keep rfl rfl rfl rfl | exact ⟨rfl, .inr ⟨rfl, rfl⟩, fun h => .inl h, id⟩

/-! ### Every reachable state -/

namespace Lifecycle

theorem init (c : Contact) (myLabel : String) : Lifecycle (Agent.init c myLabel) where
  enabled := by unfold Agent.init Contact.startConnection; split <;> simp [*]
  channel := nofun
  exit := nofun

theorem step (h : Lifecycle w) {a : Action} (hs : Agent.step w a = some w') : Lifecycle w' := by
  obtain ⟨he, hch, hex, -⟩ := step_lifecycle hs h.enabled
  refine ⟨he.trans h.enabled, fun hc => ?_, fun ho => ?_⟩
  · rcases hch with ⟨hcl, hc'⟩ | ⟨-, hc'⟩
    · exact hc'.trans (h.channel (hcl ▸ hc))
    · exact hc'
  · rcases hch with ⟨hcl, -⟩ | ⟨hcl, -⟩
    · exact hcl.trans ((hex ho).elim h.exit id)
    · exact hcl

theorem reachable {c : Contact} {myLabel : String} (hr : Reachable (Agent.init c myLabel) w) :
    Lifecycle w := by
  induction hr with
  | init => exact Lifecycle.init c myLabel
  | step a _ hs ih => exact ih.step hs

end Lifecycle

/-- Once started, an exited loop stays exited along every run. -/
theorem exited_run (h : Lifecycle w) {as : List Action} (hr : run w as = some w')
    (hl : w.loop = .exited) : w'.loop = .exited :=
  (run_invariant (P := fun v => Lifecycle v ∧ v.loop = .exited)
    (fun ⟨h, hl⟩ hs => ⟨h.step hs, (step_lifecycle hs h.enabled).2.2.2 hl⟩) ⟨h, hl⟩ hr).2

/-- Once the loop is on its way out, `StopConnection` finds `connEnabled` still set and
`connChannel` nil: it closes the nil channel and panics. -/
theorem Lifecycle.stop_crashes (h : Lifecycle w) (hl : w.loop.onExitPath = true)
    (hs : w.stopper = .idle) (hm : w.mutex = none) :
    ∃ w', run w [.stop, .stop] = some w' ∧ w'.stopper = .crashed := by
  have hch := h.channel (h.exit hl)
  simp [run, Agent.step, World.stopStep, hs, hm, h.enabled, hch]

/-- A stop that ran until the loop exited leaves nothing to start again: `StartConnection` returns
without a loop, no loop ever runs again, and the next `StopConnection` panics. -/
theorem stopped_agent_restarts_nothing {c : Contact} {myLabel : String}
    (hr : Reachable (Agent.init c myLabel) w) (hl : w.loop = .exited) :
    (∀ gen, w.contact.startConnection gen = (w.contact, false)) ∧
      (∀ as w', run w as = some w' → w'.loop = .exited) ∧
      (w.stopper = .idle → w.mutex = none →
        ∃ w', run w [.stop, .stop] = some w' ∧ w'.stopper = .crashed) := by
  have h := Lifecycle.reachable hr
  refine ⟨fun gen => by simp [Contact.startConnection, h.enabled], fun as w' hr' => exited_run h hr' hl,
    h.stop_crashes (by rw [hl]; rfl)⟩

/-- `StartConnection`, then a `StopConnection` that runs until the loop has exited. -/
def startStop : List Action :=
  [.loop sampleNow, .stop, .stop, .loopChannelClosed, .loop sampleNow, .loop sampleNow, .stop]

theorem stopped_agent_restarts_nothing_after_stop :
    ∃ w, Reachable (init sampleContact sampleLabel) w ∧ w.loop = .exited ∧ w.stopper = .idle ∧
      w.mutex = none ∧ (∀ gen, w.contact.startConnection gen = (w.contact, false)) ∧
      (∀ as w', run w as = some w' → w'.loop = .exited) ∧
      ∃ w', run w [.stop, .stop] = some w' ∧ w'.stopper = .crashed := by
  have hrun : (run (init sampleContact sampleLabel) startStop).map
      (fun w => (w.loop, w.stopper, w.mutex)) = some (.exited, .idle, none) := by decide
  obtain ⟨w, hw, he⟩ := Option.map_eq_some'.mp hrun
  simp only [Prod.mk.injEq] at he
  have hr := run_reachable .init hw
  obtain ⟨h₁, h₂, h₃⟩ := stopped_agent_restarts_nothing hr he.1
  exact ⟨w, hr, he.1, he.2.1, he.2.2, h₁, h₂, h₃ he.2.1 he.2.2⟩

end Ricochet.Agent
