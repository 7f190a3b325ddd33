import FlowchartSync.Proofs.Workbench.Waiting

/-!
# The newest render wins

Renders go out one after the other and their outcomes come back in any order.  Each render has a
later generation than all before it, and an outcome is shown only if its generation is the latest.
So once the outcome of the newest render is back, the preview shows it until another render is
issued, whatever comes back before or after; and if the newest render was of a blank buffer, the
preview is empty (`newestWins_of_run`).

What an event does to the preview is one of three things.  It issues a render, which empties the
preview if the buffer is blank (`Draws`); it leaves the preview and the generations alone
(`Leaves`); or it hands an outcome back.

Before the first render the latest generation is 0, and an outcome that is handed back for it is
shown though no render was issued (`shown_before_first_render`).
-/

namespace FlowchartSync

/-- What the preview shows of an outcome. -/
def Preview.ofOutcome : Except RenderError String → Preview
  | .ok markup => .svg markup
  | .error complaint => .error complaint.message

/-- The complaint that a preview shows. -/
def Preview.message? : Preview → Option String
  | .error message => some message
  | _ => none

theorem Preview.message?_eq_some_iff
    {preview : Preview} {message : String} :
    preview.message? = some message ↔ preview = .error message := by
  cases preview <;> simp [message?]

namespace Workbench

variable {bench after opened : Workbench} {now : Nat} {event : Event} {events : List Event}
  {request : Option RenderRequest}

section Steps

/-- The generation whose outcome an event hands back. -/
def Event.completed? : Event → Option Nat
  | .completeRender generation _ => some generation
  | _ => none

/-- Whether a render of the buffer after an event was issued in it, and shown if the buffer is
blank. -/
structure Draws (bench after : Workbench) (request : Option RenderRequest) : Prop extends
    Issues bench after request where
  preview : after.preview = bench.previewFor after.text
  error : after.error = bench.errorFor after.text

/-- Whether no render was issued and the preview is as it was. -/
structure Leaves (bench after : Workbench) (request : Option RenderRequest) : Prop where
  generations : after.generations = bench.generations
  request : request = none
  preview : after.preview = bench.preview
  error : after.error = bench.error

theorem draws_renderNow
    (bench : Workbench) :
    Draws bench bench.renderNow.1 bench.renderNow.2 := by
  rw [renderNow_eq]
  exact ⟨⟨rfl, rfl⟩, rfl, rfl⟩

theorem draws_loadText
    (bench : Workbench) (now : Nat) (text : String) :
    Draws bench (bench.loadText now text).1 (bench.loadText now text).2 := by
  rw [loadText_eq]
  exact ⟨⟨rfl, rfl⟩, rfl, rfl⟩

theorem leaves_editGraph
    (bench : Workbench) (now : Nat) (edit : GraphEdit) :
    Leaves bench (bench.editGraph now edit).1 none := by
  rcases editGraph_cases bench now edit with
    ⟨_, heq⟩ | ⟨_, _, _, ⟨_, _, heq⟩ | ⟨_, heq⟩ | ⟨_, _, heq⟩⟩ <;> rw [heq]
  all_goals exact ⟨rfl, rfl, rfl, rfl⟩

theorem tick_draws_or_leaves
    (h : bench.UpToDate) :
    Draws bench (bench.tick now).1 (bench.tick now).2 ∨
      Leaves bench (bench.tick now).1 (bench.tick now).2 := by
  obtain ⟨drafts, files, draft, diagram, session, reparse, hread⟩ :=
    tickReparse_tickDraft_eq bench now
  rw [tick, hread]
  rcases tickRender_cases { bench with
      drafts := drafts
      files := files
      draft := draft
      diagram := diagram
      session := session
      reparse := reparse } now with ⟨_, heq⟩ | ⟨text, _, hheld, heq⟩ <;> rw [heq]
  · exact Or.inr ⟨rfl, rfl, rfl, rfl⟩
  · obtain rfl := h.render text hheld
    exact Or.inl ⟨⟨rfl, rfl⟩, rfl, rfl⟩

theorem step_draws_or_leaves
    (h : bench.UpToDate)
    (hevent : event.completed? = none) :
    Draws bench (bench.step event).1 (bench.step event).2.request? ∨
      Leaves bench (bench.step event).1 (bench.step event).2.request? := by
  cases event with
  | editText now text =>
      right
      simp only [step, editText]
      split <;> exact ⟨rfl, rfl, rfl, rfl⟩
  | paste now text =>
      simp only [step, Prod.map_fst, Prod.map_snd, id_eq, paste]
      exact Or.inl (draws_loadText bench now (Fence.extract text))
  | editGraph now edit =>
      exact Or.inr (leaves_editGraph bench now edit)
  | select ids =>
      exact Or.inr ⟨rfl, rfl, rfl, rfl⟩
  | tick now =>
      exact tick_draws_or_leaves h
  | renderNow =>
      simp only [step, Prod.map_fst, Prod.map_snd, id_eq]
      exact Or.inl (draws_renderNow bench)
  | setTheme themeId =>
      left
      simp only [step, Prod.map_fst, Prod.map_snd, id_eq, setTheme]
      have hdraws :=
        draws_renderNow { bench with config := { bench.config with themeId := themeId } }
      exact ⟨⟨hdraws.generations, hdraws.request⟩, hdraws.preview, hdraws.error⟩
  | newDiagram now =>
      simp only [step, Prod.map_fst, Prod.map_snd, id_eq, newDiagram]
      exact Or.inl (draws_loadText bench now bench.config.newDiagram)
  | importFile now path =>
      simp only [step, Prod.map_fst, Prod.map_snd, id_eq, importFile]
      cases bench.files.importDiagram path with
      | error error =>
          exact Or.inr ⟨rfl, rfl, rfl, rfl⟩
      | ok text =>
          exact Or.inl (draws_loadText bench now text)
  | exportFile path =>
      obtain ⟨files, heq⟩ := exportFile_eq bench path
      right
      simp only [step, Prod.map_fst, Prod.map_snd, id_eq]
      rw [heq]
      exact ⟨rfl, rfl, rfl, rfl⟩
  | completeRender generation outcome =>
      cases hevent

theorem completeRender_of_ne
    {generation : Nat}
    (h : generation ≠ bench.generations.latest)
    (outcome : Except RenderError String) :
    bench.completeRender generation outcome = (bench, false) := by
  unfold completeRender Generations.isCurrent
  rw [if_neg (by simpa using h)]

theorem completeRender_latest
    (bench : Workbench) (outcome : Except RenderError String) :
    bench.completeRender bench.generations.latest outcome =
      ({ bench with
          preview := .ofOutcome outcome
          error := (Preview.ofOutcome outcome).message? }, true) := by
  unfold completeRender Generations.isCurrent
  rw [if_pos (by simp)]
  cases outcome <;> rfl

end Steps

section Runs

/-- A render as it is issued: its generation, the buffer that it is of, and the request that goes
out for it, unless the buffer is blank. -/
structure Render where
  generation : Nat
  text : String
  request : Option RenderRequest

/-- The render that an event issues. -/
def issued? (bench : Workbench) (event : Event) : Option Render :=
  if (bench.step event).1.generations = bench.generations then none
  else
    some ⟨(bench.step event).1.generations.latest, (bench.step event).1.text,
      (bench.step event).2.request?⟩

/-- The last render that the events of a run issue. -/
def newest? (opened : Workbench) : List Event → Option Render
  | [] => none
  | event :: events => ((opened.step event).1.newest? events).or (opened.issued? event)

/-- The requests that go out in a run, in order. -/
def sent (opened : Workbench) : List Event → List RenderRequest
  | [] => []
  | event :: events => (opened.step event).2.request?.toList ++ (opened.step event).1.sent events

theorem newest?_concat
    (opened : Workbench) (events : List Event) (event : Event) :
    opened.newest? (events ++ [event]) =
      ((opened.run events).issued? event).or (opened.newest? events) := by
  induction events generalizing opened with
  | nil =>
      simp [newest?, run]
  | cons first events ih =>
      rw [List.cons_append, newest?, ih, newest?, Option.or_assoc]
      rfl

theorem sent_append
    (opened : Workbench) (events later : List Event) :
    opened.sent (events ++ later) = opened.sent events ++ (opened.run events).sent later := by
  induction events generalizing opened with
  | nil =>
      rfl
  | cons first events ih =>
      rw [List.cons_append, sent, ih, sent, List.append_assoc]
      rfl

/-- What holds of the renders and the preview after a run: the newest render has the latest
generation and the request that its buffer asks for, requests go out with ascending generations,
the last of them for the newest render or an earlier one, and the complaint is the one shown. -/
structure Tracks (opened : Workbench) (events : List Event) : Prop where
  latest : ((opened.newest? events).map Render.generation).getD 0 =
    (opened.run events).generations.latest
  request : ∀ render, opened.newest? events = some render →
    ∃ theme, render.request = requestFor ⟨render.generation⟩ render.text theme
  sent : ∀ request ∈ opened.sent events,
    request.generation < (opened.run events).generations.latest ∨
      ∃ render, opened.newest? events = some render ∧ render.request = some request
  ascending : ((opened.sent events).map RenderRequest.generation).Pairwise (· < ·)
  error : (opened.run events).error = (opened.run events).preview.message?

theorem generation_of_requestFor
    {generations : Generations} {text : String} {theme : Theme} {request : RenderRequest}
    (h : requestFor generations text theme = some request) :
    request.generation = generations.latest := by
  unfold requestFor at h
  split at h
  · cases h
  · cases h
    rfl

/-- What an event at the end of a run does to the newest render and to the preview: it issues a
render, leaves both alone, or hands back an outcome that is shown or is stale. -/
inductive Shows (opened : Workbench) (events : List Event) : Event → Prop
  | drawn
      {event : Event}
      (hcompleted : event.completed? = none)
      (hnewest : opened.newest? (events ++ [event]) =
        some ⟨(opened.run events).generations.latest + 1, (opened.run (events ++ [event])).text,
          ((opened.run events).step event).2.request?⟩)
      (hpreview : (opened.run (events ++ [event])).preview =
        (opened.run events).previewFor (opened.run (events ++ [event])).text) :
      Shows opened events event
  | left
      {event : Event}
      (hcompleted : event.completed? = none)
      (hnewest : opened.newest? (events ++ [event]) = opened.newest? events)
      (hpreview : (opened.run (events ++ [event])).preview = (opened.run events).preview) :
      Shows opened events event
  | shown
      (outcome : Except RenderError String)
      (hnewest : opened.newest?
          (events ++ [.completeRender (opened.run events).generations.latest outcome]) =
        opened.newest? events)
      (hpreview : (opened.run
          (events ++ [.completeRender (opened.run events).generations.latest outcome])).preview =
        .ofOutcome outcome) :
      Shows opened events (.completeRender (opened.run events).generations.latest outcome)
  | stale
      (generation : Nat) (outcome : Except RenderError String)
      (hstale : generation ≠ (opened.run events).generations.latest)
      (hnewest : opened.newest? (events ++ [.completeRender generation outcome]) =
        opened.newest? events)
      (hpreview : (opened.run (events ++ [.completeRender generation outcome])).preview =
        (opened.run events).preview) :
      Shows opened events (.completeRender generation outcome)

namespace Tracks

theorem generation_of_request
    (h : opened.Tracks events)
    {render : Render} {request : RenderRequest}
    (hnewest : opened.newest? events = some render)
    (hrequest : render.request = some request) :
    request.generation = (opened.run events).generations.latest := by
  obtain ⟨theme, hfor⟩ := h.request render hnewest
  have hlatest := h.latest
  rw [hnewest] at hlatest
  rw [generation_of_requestFor (hfor.symm.trans hrequest), ← hlatest]
  rfl

theorem generation_le
    (h : opened.Tracks events)
    {request : RenderRequest}
    (hrequest : request ∈ opened.sent events) :
    request.generation ≤ (opened.run events).generations.latest := by
  rcases h.sent request hrequest with hearlier | ⟨render, hnewest, hsent⟩
  · exact Nat.le_of_lt hearlier
  · exact Nat.le_of_eq (h.generation_of_request hnewest hsent)

theorem start
    (config : Config) (drafts : DraftStore) (files : FileTree) :
    (start config drafts files).Tracks [] := by
  refine ⟨rfl, ?_, ?_, List.Pairwise.nil, rfl⟩
  · intro render hrender
    cases hrender
  · intro request hrequest
    cases hrequest

/-- An event that issues no render and sends no request keeps the newest render. -/
theorem concat_of_eq
    (h : opened.Tracks events)
    (hgenerations : ((opened.run events).step event).1.generations =
      (opened.run events).generations)
    (hrequest : ((opened.run events).step event).2.request? = none)
    (herror : ((opened.run events).step event).1.error =
      ((opened.run events).step event).1.preview.message?) :
    opened.newest? (events ++ [event]) = opened.newest? events ∧
      opened.Tracks (events ++ [event]) := by
  have hnewest : opened.newest? (events ++ [event]) = opened.newest? events := by
    rw [newest?_concat, issued?, if_pos hgenerations, Option.none_or]
  have hsent : opened.sent (events ++ [event]) = opened.sent events := by
    rw [sent_append, Workbench.sent, hrequest]
    simp [Workbench.sent]
  refine ⟨hnewest, ?_, ?_, ?_, ?_, ?_⟩
  · rw [hnewest, run_concat, hgenerations]
    exact h.latest
  · rw [hnewest]
    exact h.request
  · rw [hnewest, hsent, run_concat, hgenerations]
    exact h.sent
  · rw [hsent]
    exact h.ascending
  · rw [run_concat]
    exact herror

theorem concat_of_draws
    (h : opened.Tracks events)
    (hdraws : Draws (opened.run events) ((opened.run events).step event).1
      ((opened.run events).step event).2.request?) :
    opened.newest? (events ++ [event]) =
        some ⟨(opened.run events).generations.latest + 1,
          ((opened.run events).step event).1.text,
          ((opened.run events).step event).2.request?⟩ ∧
      opened.Tracks (events ++ [event]) := by
  have hlatest : ((opened.run events).step event).1.generations.latest =
      (opened.run events).generations.latest + 1 := by
    rw [hdraws.generations]
    rfl
  have hadvanced : ((opened.run events).step event).1.generations ≠
      (opened.run events).generations := by
    intro hsame
    rw [hsame] at hlatest
    omega
  have hnewest : opened.newest? (events ++ [event]) =
      some ⟨(opened.run events).generations.latest + 1,
        ((opened.run events).step event).1.text,
        ((opened.run events).step event).2.request?⟩ := by
    rw [newest?_concat, issued?, if_neg hadvanced, hlatest, Option.some_or]
  have hsent : opened.sent (events ++ [event]) =
      opened.sent events ++ ((opened.run events).step event).2.request?.toList := by
    rw [sent_append]
    simp [Workbench.sent]
  have hnew : ∀ request, ((opened.run events).step event).2.request? = some request →
      request.generation = (opened.run events).generations.latest + 1 := by
    intro request hrequest
    rw [hdraws.request] at hrequest
    rw [generation_of_requestFor hrequest, hlatest]
  refine ⟨hnewest, ?_, ?_, ?_, ?_, ?_⟩
  · rw [hnewest, run_concat, hlatest]
    rfl
  · rw [hnewest]
    rintro render ⟨⟩
    refine ⟨((opened.run events).step event).1.config.theme, ?_⟩
    rw [hdraws.request, currentRequest, hdraws.generations]
    rfl
  · intro request hrequest
    rw [hsent, List.mem_append, Option.mem_toList] at hrequest
    rw [hnewest, run_concat, hlatest]
    rcases hrequest with hold | hadded
    · have hle := h.generation_le hold
      exact Or.inl (by omega)
    · exact Or.inr ⟨_, rfl, hadded⟩
  · rw [hsent, List.map_append, List.pairwise_append]
    refine ⟨h.ascending, ?_, ?_⟩
    · cases ((opened.run events).step event).2.request? <;> simp
    · intro earlier hearlier generation hgeneration
      obtain ⟨old, hold, rfl⟩ := List.mem_map.mp hearlier
      obtain ⟨request, hrequest, rfl⟩ := List.mem_map.mp hgeneration
      have hle := h.generation_le hold
      rw [hnew request (Option.mem_toList.mp hrequest)]
      omega
  · rw [run_concat, hdraws.preview, hdraws.error]
    unfold previewFor errorFor
    split
    · rfl
    · exact h.error

theorem concat_completeRender
    (h : opened.Tracks events)
    (generation : Nat) (outcome : Except RenderError String) :
    opened.Tracks (events ++ [.completeRender generation outcome]) ∧
      opened.Shows events (.completeRender generation outcome) := by
  by_cases hcurrent : generation = (opened.run events).generations.latest
  · subst hcurrent
    have hstep : ((opened.run events).step
        (.completeRender (opened.run events).generations.latest outcome)).1 =
          { opened.run events with
            preview := .ofOutcome outcome
            error := (Preview.ofOutcome outcome).message? } := by
      simp only [step, completeRender_latest, Prod.map_fst, id_eq]
    obtain ⟨hnewest, htracks⟩ :=
      h.concat_of_eq (by rw [hstep]) rfl (by rw [hstep])
    exact ⟨htracks, .shown outcome hnewest (by rw [run_concat, hstep])⟩
  · have hstep : ((opened.run events).step (.completeRender generation outcome)).1 =
        opened.run events := by
      simp only [step, completeRender_of_ne hcurrent, Prod.map_fst, id_eq]
    obtain ⟨hnewest, htracks⟩ :=
      h.concat_of_eq (by rw [hstep]) rfl (by rw [hstep, h.error])
    exact ⟨htracks, .stale generation outcome hcurrent hnewest (by rw [run_concat, hstep])⟩

/-- Every event keeps track, and does one of three things to the preview. -/
theorem concat
    (h : opened.Tracks events)
    (hupToDate : (opened.run events).UpToDate)
    (event : Event) :
    opened.Tracks (events ++ [event]) ∧ opened.Shows events event := by
  cases hcompleted : event.completed? with
  | none =>
      rcases step_draws_or_leaves hupToDate hcompleted with hdraws | hleaves
      · obtain ⟨hnewest, htracks⟩ := h.concat_of_draws hdraws
        rw [← run_concat] at hnewest
        refine ⟨htracks, .drawn hcompleted hnewest ?_⟩
        rw [run_concat, hdraws.preview]
      · have herror : ((opened.run events).step event).1.error =
            ((opened.run events).step event).1.preview.message? := by
          rw [hleaves.error, hleaves.preview, h.error]
        obtain ⟨hnewest, htracks⟩ := h.concat_of_eq hleaves.generations hleaves.request herror
        refine ⟨htracks, .left hcompleted hnewest ?_⟩
        rw [run_concat, hleaves.preview]
  | some completed =>
      cases event with
      | completeRender generation outcome =>
          exact h.concat_completeRender generation outcome
      | _ =>
          cases hcompleted

theorem run
    (config : Config) (drafts : DraftStore) (files : FileTree) (events : List Event) :
    (Workbench.start config drafts files).Tracks events := by
  induction events using List.reverseRecOn with
  | nil =>
      exact start config drafts files
  | append_singleton events event ih =>
      exact (ih.concat ((upToDate_start config drafts files).run events) event).1

end Tracks

end Runs

section Outcomes

/-- Whether every outcome that is handed back in a run is of a request that went out before, and
none is handed back twice. -/
structure HandsBack (opened : Workbench) (events : List Event) : Prop where
  asked : ∀ before generation outcome rest,
    events = before ++ .completeRender generation outcome :: rest →
      ∃ request ∈ opened.sent before, request.generation = generation
  once : (events.filterMap Event.completed?).Nodup

namespace HandsBack

theorem of_concat
    (h : opened.HandsBack (events ++ [event])) :
    opened.HandsBack events := by
  constructor
  · rintro before generation outcome rest rfl
    exact h.asked before generation outcome (rest ++ [event]) (by simp)
  · have honce := h.once
    rw [List.filterMap_append] at honce
    exact (List.nodup_append.mp honce).1

theorem exists_request
    (h : opened.HandsBack events)
    {generation : Nat} {outcome : Except RenderError String}
    (hmem : .completeRender generation outcome ∈ events) :
    ∃ request ∈ opened.sent events, request.generation = generation := by
  obtain ⟨before, rest, rfl⟩ := List.append_of_mem hmem
  obtain ⟨request, hrequest, hgeneration⟩ := h.asked before generation outcome rest rfl
  refine ⟨request, ?_, hgeneration⟩
  rw [sent_append]
  exact List.mem_append_left _ hrequest

theorem not_mem_of_concat
    {generation : Nat} {outcome : Except RenderError String}
    (h : opened.HandsBack (events ++ [.completeRender generation outcome]))
    (other : Except RenderError String) :
    .completeRender generation other ∉ events := by
  intro hmem
  have honce := h.once
  rw [List.filterMap_append, List.nodup_append] at honce
  exact honce.2.2 generation (List.mem_filterMap.mpr ⟨_, hmem, rfl⟩) generation
    (by simp [Event.completed?]) rfl

end HandsBack

/-- Whether the preview shows a render: its outcome if that has been handed back, and nothing if
the render is of a blank buffer. -/
structure ShowsRender (opened : Workbench) (events : List Event) (render : Render) : Prop where
  outcome : ∀ request outcome, render.request = some request →
    .completeRender request.generation outcome ∈ events →
      (opened.run events).preview = .ofOutcome outcome
  blank : (Text.trim render.text.toList).isEmpty = true → (opened.run events).preview = .empty

/-- A render is still shown when the preview stays as it is and no outcome of the render comes
back. -/
theorem ShowsRender.concat
    {render : Render}
    (h : opened.ShowsRender events render)
    (hpreview : (opened.run (events ++ [event])).preview = (opened.run events).preview)
    (hback : ∀ request outcome, render.request = some request →
      event ≠ .completeRender request.generation outcome) :
    opened.ShowsRender (events ++ [event]) render := by
  constructor
  · intro request outcome hrequest hmem
    rw [hpreview]
    apply h.outcome request outcome hrequest
    rcases List.mem_append.mp hmem with hold | hlast
    · exact hold
    · exact absurd (List.mem_singleton.mp hlast).symm (hback request outcome hrequest)
  · rw [hpreview]
    exact h.blank

/-- The newest render is shown as soon as it is issued: nothing of it can have come back yet. -/
theorem Tracks.showsRender_of_drawn
    {render : Render}
    (h : opened.Tracks events)
    (hlater : opened.Tracks (events ++ [event]))
    (hback : opened.HandsBack events)
    (hcompleted : event.completed? = none)
    (hnewest : opened.newest? (events ++ [event]) = some render)
    (hgeneration : render.generation = (opened.run events).generations.latest + 1)
    (hpreview : (opened.run (events ++ [event])).preview =
      (opened.run events).previewFor render.text) :
    opened.ShowsRender (events ++ [event]) render := by
  constructor
  · intro request outcome hrequest hmem
    rcases List.mem_append.mp hmem with hold | hlast
    · obtain ⟨old, hold, hsame⟩ := hback.exists_request hold
      have hle := h.generation_le hold
      obtain ⟨theme, hfor⟩ := hlater.request render hnewest
      have hnew := generation_of_requestFor (hfor.symm.trans hrequest)
      simp only at hnew
      omega
    · rw [← List.mem_singleton.mp hlast] at hcompleted
      cases hcompleted
  · intro hblank
    rw [hpreview, previewFor, if_pos hblank]

/-- The newest render is shown once its outcome is back, for it comes back but once and a blank
buffer is not sent out. -/
theorem Tracks.showsRender_of_shown
    {outcome : Except RenderError String} {render : Render}
    (h : opened.Tracks events)
    (hback : opened.HandsBack
      (events ++ [.completeRender (opened.run events).generations.latest outcome]))
    (hnewest : opened.newest? events = some render)
    (hpreview : (opened.run
        (events ++ [.completeRender (opened.run events).generations.latest outcome])).preview =
      .ofOutcome outcome) :
    opened.ShowsRender
      (events ++ [.completeRender (opened.run events).generations.latest outcome]) render := by
  constructor
  · intro request other hrequest hmem
    rw [h.generation_of_request hnewest hrequest] at hmem
    rcases List.mem_append.mp hmem with hold | hlast
    · exact absurd hold (hback.not_mem_of_concat other)
    · cases List.mem_singleton.mp hlast
      exact hpreview
  · intro hblank
    obtain ⟨asked, hasked, hlatest⟩ := hback.asked events _ outcome [] rfl
    rcases h.sent asked hasked with hearlier | ⟨newest, hnewest', hsent⟩
    · omega
    · rw [hnewest] at hnewest'
      obtain rfl := Option.some.inj hnewest'
      obtain ⟨theme, hfor⟩ := h.request render hnewest
      rw [hsent, requestFor, if_pos hblank] at hfor
      cases hfor

/-- The preview shows the newest render, whatever order the outcomes come back in. -/
theorem showsRender_newest?
    (config : Config) (drafts : DraftStore) (files : FileTree) {events : List Event}
    (h : (start config drafts files).HandsBack events)
    {render : Render}
    (hrender : (start config drafts files).newest? events = some render) :
    (start config drafts files).ShowsRender events render := by
  induction events using List.reverseRecOn generalizing render with
  | nil =>
      cases hrender
  | append_singleton events event ih =>
      have htracks := Tracks.run config drafts files events
      obtain ⟨hlater, hshows⟩ :=
        htracks.concat ((upToDate_start config drafts files).run events) event
      cases hshows with
      | drawn hcompleted hnewest hpreview =>
          rw [hnewest] at hrender
          obtain rfl := Option.some.inj hrender
          exact htracks.showsRender_of_drawn hlater h.of_concat hcompleted hnewest rfl hpreview
      | left hcompleted hnewest hpreview =>
          rw [hnewest] at hrender
          apply (ih h.of_concat hrender).concat hpreview
          rintro request outcome - rfl
          cases hcompleted
      | shown outcome hnewest hpreview =>
          rw [hnewest] at hrender
          exact htracks.showsRender_of_shown h hrender hpreview
      | stale generation outcome hstale hnewest hpreview =>
          rw [hnewest] at hrender
          apply (ih h.of_concat hrender).concat hpreview
          rintro request other hrequest heq
          cases heq
          exact hstale (htracks.generation_of_request hrender hrequest)

/-- What a run guarantees about renders: requests go out with ascending generations; an outcome of
any other generation than the newest one issued, or 0 before the first, changes nothing; if outcomes
come back only for requests, and once for each, the preview shows the newest render; and the
complaint is always the one shown. -/
structure NewestWins (opened : Workbench) (events : List Event) : Prop where
  ascending : ((opened.sent events).map RenderRequest.generation).Pairwise (· < ·)
  stale : ∀ generation outcome,
    generation ≠ ((opened.newest? events).map Render.generation).getD 0 →
      (opened.run events).completeRender generation outcome = (opened.run events, false)
  shown : opened.HandsBack events →
    ∀ render, opened.newest? events = some render → opened.ShowsRender events render
  error : ∀ message,
    (opened.run events).error = some message ↔ (opened.run events).preview = .error message

/-- In every run the newest render wins, whatever the order of the outcomes. -/
theorem newestWins_of_run
    (config : Config) (drafts : DraftStore) (files : FileTree) (events : List Event) :
    (start config drafts files).NewestWins events := by
  have htracks := Tracks.run config drafts files events
  refine ⟨htracks.ascending, ?_, ?_, ?_⟩
  · intro generation outcome hne
    rw [htracks.latest] at hne
    exact completeRender_of_ne hne outcome
  · intro hback render hrender
    exact showsRender_newest? config drafts files hback hrender
  · intro message
    rw [htracks.error]
    exact Preview.message?_eq_some_iff

/-- Before the first render, an outcome of generation 0 is shown though no generation has been
issued. -/
theorem shown_before_first_render :
    ¬ ∀ (events : List Event) (generation : Nat) (outcome : Except RenderError String),
      ((start .standard (.ofDraft none) .empty).newest? events).map Render.generation ≠
          some generation →
        ((start .standard (.ofDraft none) .empty).run events).completeRender generation outcome =
          ((start .standard (.ofDraft none) .empty).run events, false) := by
  intro h
  have hstale := h [] 0 (.ok "<svg/>") (by simp [newest?])
  have hshown :
      ((start .standard (.ofDraft none) .empty).completeRender 0 (.ok "<svg/>")).2 = true := rfl
  have hrefused := congrArg Prod.snd hstale
  exact absurd (hshown.symm.trans hrefused) (by decide)

end Outcomes

end Workbench
end FlowchartSync
