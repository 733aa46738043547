/-
  File:      Resolver/Supervisor/Phases.lean
  Subject:   THE PHASES OF A CALL: what it does before it turns to the queues, and the rules of
             dispatch in every run.

  * `Call.source` -- the state in which a call turns to the queues;
  * `call_source`, `call_quiet` -- every call is of one of the two kinds, but for a shutdown and a
    round of events that could not read its timer;
  * `run_workConserved`, `run_dispatchDiscipline` -- **the rules of dispatch**.
-/
import MinecraftRelay.Resolver.Supervisor.Dispatch

namespace MinecraftRelay

open Function (update update_idem update_of_ne update_self)

variable {limits : SupervisorLimits} {s s' : Supervisor} {q : Bool} {i : Nat} {j : JobId}
  {job : Job} {now : Timespec} {e : EntryId} {p : Priority}

variable {env : CallEnv} {s₁ : Supervisor} {c : Call}

/-! ## 1. Completions -/

theorem completionTake_quiet (h : AtRest limits q s) :
    Quiet s (completionTake limits s).1 := by
  unfold completionTake
  split
  · exact .refl s
  · rename_i j rest hcompletions
    obtain ⟨job, hj, hs, _⟩ := h.completed (j := j) (by rw [hcompletions]; exact List.mem_cons_self)
    rw [hj]
    obtain ⟨metrics, hmetered⟩ := incrementAttempt_metered s job.entry .completionTaken
    dsimp only
    rw [hmetered]
    refine ⟨rfl, rfl, rfl, ?_, id, fun k => ?_⟩
    · show (if s.jobCount > 0 then s.jobCount - 1 else s.jobCount) ≤ s.jobCount
      split <;> omega
    · show (update s.jobs j none k).bind _ = _
      grind [Function.update_apply, Job.waitsFor]

/-! ## 2. Calls that dispatch -/

/-- Where a call turns to the queues, if it does. -/
def Call.source (limits : SupervisorLimits) (s : Supervisor) : Call → Option Source
  | .schedule e priority now env =>
    (scheduleSource limits s e priority now env).map (⟨·, now, env.assigns, env.timerSet⟩)
  | .release e priority now env =>
    (releaseSource limits s e priority now env).map (⟨·, now, env.assigns, env.timerSet⟩)
  | .events now env =>
    (eventsSource limits s now env).map (⟨·, now, env.assigns, env.timerSet⟩)
  | _ => none

/-! ## 3. Shutdown -/

theorem helperShutdown_shuttingDown :
    (helperShutdown limits now s i).shuttingDown = s.shuttingDown := by
  obtain ⟨_, heq, _⟩ := helperShutdown_spec limits now s i
  rw [heq]
  rfl

/-- What each turn of a loop keeps, the loop keeps. -/
theorem foldl_shuttingDown {α : Type} {f : Supervisor → α → Supervisor}
    (hf : ∀ s a, (f s a).shuttingDown = s.shuttingDown) (l : List α) :
    (l.foldl f s).shuttingDown = s.shuttingDown :=
  List.foldlRecOn (motive := fun s' : Supervisor => s'.shuttingDown = s.shuttingDown) l f rfl
    fun s' hs a _ => (hf s' a).trans hs

/-- **A shutdown** gives everything up and arms the timer, or changes nothing. -/
theorem supervisorShutdown_phases (set : Bool) :
    Quiet s (supervisorShutdown limits s now set).1 ∨
      ∃ s₁ : Supervisor, s₁.shuttingDown = true ∧
        supervisorShutdown limits s now set = timerRearm limits s₁ set := by
  unfold supervisorShutdown
  split
  · exact Or.inl (.of_fields rfl rfl rfl rfl rfl rfl)
  · rename_i s₀ htime
    split
    · exact Or.inl (timeUpdate_quiet htime)
    · refine Or.inr ⟨_, ?_, rfl⟩
      rw [foldl_shuttingDown fun s i => helperShutdown_shuttingDown]
      exact foldl_shuttingDown (fun s j => shutdownJob_shuttingDown) _

/-! ## 4. Calls -/

/-- A round of events reads its timer; that is the one step whose failure leaves work undone. -/
def Call.Drained : Call → Prop
  | .events _ env => env.timerDrained = true
  | _ => True

/-- **A call that turns to the queues** ends in dispatch and the arming of the timer. -/
theorem call_source {d : Source} (h : AtRest limits q s) (hd : c.source limits s = some d) :
    AtRest limits q d.state ∧
      ∃ metrics, s.call limits c = { (d.outcome limits).1 with metrics } := by
  cases c with
  | schedule e p now env =>
    obtain ⟨s₁, hs, rfl⟩ := Option.map_eq_some_iff.1 hd
    have hcall := (entrySchedulePriority_dispatched e p now env h).1
    rw [hs] at hcall
    refine ⟨hcall.placed h, (entrySchedule limits s e p now env).1.metrics, ?_⟩
    rw [← hcall.2]
    rfl
  | release e p now env =>
    obtain ⟨s₁, hs, rfl⟩ := Option.map_eq_some_iff.1 hd
    have hcall := entryReleaseInterest_dispatched e p now env h
    rw [hs] at hcall
    exact ⟨hcall.placed h, _, hcall.2⟩
  | events now env =>
    obtain ⟨s₁, hs, rfl⟩ := Option.map_eq_some_iff.1 hd
    have hcall := eventsProcess_dispatched now env h (Or.inr (by rw [hs]; nofun))
    rw [hs] at hcall
    exact ⟨hcall.placed h, _, hcall.2⟩
  | _ => cases hd

/-- **Every other call** leaves the helpers and the timer alone, or is a shutdown. -/
theorem call_quiet (h : AtRest limits q s) (hdrained : c.Drained) (hd : c.source limits s = none) :
    Quiet s (s.call limits c) ∨
      ∃ (now : Timespec) (set : Bool) (s₁ : Supervisor), c = .shutdown now set ∧
        s₁.shuttingDown = true ∧ s.call limits c = (timerRearm limits s₁ set).1 := by
  cases c with
  | schedule e p now env =>
    have hquiet := (entrySchedulePriority_dispatched e p now env h).1
    rw [Option.map_eq_none_iff.1 hd] at hquiet
    exact Or.inl (Quiet.trans hquiet.1 (.of_fields rfl rfl rfl rfl rfl rfl))
  | release e p now env =>
    have hquiet := entryReleaseInterest_dispatched e p now env h
    rw [Option.map_eq_none_iff.1 hd] at hquiet
    exact Or.inl hquiet.1
  | events now env =>
    have hquiet := eventsProcess_dispatched now env h (Or.inl hdrained)
    rw [Option.map_eq_none_iff.1 hd] at hquiet
    exact Or.inl hquiet.1
  | completionTake => exact Or.inl (completionTake_quiet h)
  | completionDestroy completion => exact Or.inl (.of_fields rfl rfl rfl rfl rfl rfl)
  | observationTake =>
    refine Or.inl ?_
    show Quiet s (MinecraftRelay.observationTake limits s).1
    unfold MinecraftRelay.observationTake
    split <;> exact .of_fields rfl rfl rfl rfl rfl rfl
  | shutdown now set =>
    refine (supervisorShutdown_phases set).imp id fun hdown => ?_
    obtain ⟨s₁, hs, heq⟩ := hdown
    exact ⟨now, set, s₁, rfl, hs, congrArg Prod.fst heq⟩
  | cacheAcquire queryName queryType allocated => exact Or.inl (.of_fields rfl rfl rfl rfl rfl rfl)
  | cacheRetain e => exact Or.inl (.of_fields rfl rfl rfl rfl rfl rfl)
  | cacheRelease e => exact Or.inl (.of_fields rfl rfl rfl rfl rfl rfl)
  | cacheView e now => exact Or.inl (.of_fields rfl rfl rfl rfl rfl rfl)

theorem timerRearm_shuttingDown (set : Bool) :
    (timerRearm limits s set).1.shuttingDown = s.shuttingDown := by
  unfold timerRearm
  split <;> rfl

theorem timerRearm_workConserved (set : Bool) :
    WorkConserved limits (timerRearm limits s set).1 ↔ WorkConserved limits s := by
  unfold timerRearm
  split <;> exact Iff.rfl

/-! ## 5. Work conservation -/

/-- A call that turns to the queues leaves no helper idle while a job is queued. -/
theorem call_source_workConserved {d : Source} (h : AtRest limits q s)
    (hd : c.source limits s = some d) (hup : (s.call limits c).shuttingDown = false) :
    WorkConserved limits (s.call limits c) := by
  obtain ⟨hplaced, metrics, heq⟩ := call_source h hd
  rw [heq] at hup ⊢
  have hup : (timerRearm limits (dispatch limits d.state d.now d.assigns)
      d.timerSet).1.shuttingDown = false := hup
  show WorkConserved limits
    (timerRearm limits (dispatch limits d.state d.now d.assigns) d.timerSet).1
  rw [timerRearm_shuttingDown] at hup
  rw [timerRearm_workConserved]
  cases hdown : d.state.shuttingDown with
  | false => exact dispatch_workConserved d.assigns hplaced hdown
  | true =>
    unfold dispatch at hup
    rw [if_pos hdown, hdown] at hup
    cases hup

/-- **One call**, the timer read. -/
theorem call_workConserved (h : AtRest limits q s)
    (hdrained : c.Drained) (hw : s.shuttingDown = false → WorkConserved limits s)
    (hup : (s.call limits c).shuttingDown = false) : WorkConserved limits (s.call limits c) := by
  cases hd : c.source limits s with
  | some d => exact call_source_workConserved h hd hup
  | none =>
    rcases call_quiet h hdrained hd with hquiet | ⟨now, set, s₁, _, hs₁, heq⟩
    · intro i hi hidle
      rw [hquiet.helpers] at hidle
      exact hquiet.unqueued (hw (hquiet.shuttingDown.symm.trans hup) i hi hidle)
    · rw [heq, timerRearm_shuttingDown, hs₁] at hup
      cases hup

theorem supervisorCreate_queuedCount (cache : Cache) (spawns : Nat → Spawn) :
    queuedCount (supervisorCreate limits cache now spawns) = 0 := by
  have hplaced : AtRest limits false (supervisorCreate limits cache now spawns) :=
    (supervisorCreate_course now cache spawns).placed (placed_supervisorEmpty cache now)
  have hjobs : ∀ k, (supervisorCreate limits cache now spawns).jobs k = none :=
    supervisorCreate_jobs now cache spawns
  generalize supervisorCreate limits cache now spawns = s at hplaced hjobs
  rw [← queueFirst_eq_none]
  cases hfirst : queueFirst s with
  | none => rfl
  | some j =>
    obtain ⟨p, hmem⟩ := queueFirst_mem hfirst
    obtain ⟨job, hj, _⟩ := hplaced.queued hmem
    rw [hjobs j] at hj
    cases hj

/-- **A run whose rounds of events all read their timer.** -/
theorem run_workConserved (spawns : Nat → Spawn) (calls : List Call)
    (hdrained : ∀ c ∈ calls, c.Drained) (hup : (run limits now spawns calls).shuttingDown = false) :
    WorkConserved limits (run limits now spawns calls) := by
  induction calls using List.reverseRecOn with
  | nil =>
    intro i _ _
    exact supervisorCreate_queuedCount _ spawns
  | append_singleton calls c ih =>
    have hstep : run limits now spawns (calls ++ [c]) =
        (run limits now spawns calls).call limits c :=
      List.foldl_concat ..
    rw [hstep] at hup ⊢
    exact call_workConserved (run_placed spawns calls) (hdrained c (by simp))
      (ih fun c hc => hdrained c (List.mem_append_left _ hc)) hup

/-- The hand-overs of a call: the state in which a job is given to a helper, and the job. -/
def Call.handOvers (limits : SupervisorLimits) (s : Supervisor) (c : Call) :
    List (Supervisor × JobId) :=
  ((c.source limits s).map fun d => dispatchHandOvers limits d.state d.now d.assigns).getD []

/-- The rules of dispatch, for the runs of a supervisor. -/
structure DispatchDiscipline (limits : SupervisorLimits) (now : Timespec) (spawns : Nat → Spawn)
    (calls : List Call) : Prop where
  /-- No helper is idle while a job is queued, in a run whose rounds of events all read their
      timer. -/
  conserved : (∀ c ∈ calls, c.Drained) → (run limits now spawns calls).shuttingDown = false →
    WorkConserved limits (run limits now spawns calls)
  /-- In any run: after a call that turned to the queues. -/
  dispatched : ∀ c d, Call.source limits (run limits now spawns calls) c = some d →
    ((run limits now spawns calls).call limits c).shuttingDown = false →
    WorkConserved limits ((run limits now spawns calls).call limits c)
  /-- A background job is handed to a helper only when no interactive job is queued. -/
  priority : ∀ c, ∀ turn ∈ Call.handOvers limits (run limits now spawns calls) c,
    ∃ job, turn.1.jobs turn.2 = some job ∧ job.state = .queued ∧
      (job.priority = .background → (turn.1.queues .interactive).ids = [])
  /-- The job that a background schedule creates leaves the reserve free. -/
  reserve : ∀ e t env s₁,
    scheduleSource limits (run limits now spawns calls) e .background t env = some s₁ →
    s₁.jobCount = (run limits now spawns calls).jobCount + 1 ∧
      s₁.jobCount ≤ limits.jobLimit - limits.interactiveReserve
  /-- No background schedule raises the number of jobs into the reserve. -/
  admitted : ∀ e t env,
    ((run limits now spawns calls).call limits (.schedule e .background t env)).jobCount ≤
      max (run limits now spawns calls).jobCount (limits.jobLimit - limits.interactiveReserve)
  /-- The loop for a helper ends, whatever the kernel answers: however long it is let run, it makes
      at most one turn more than there are queued jobs. -/
  ends : ∀ c d, Call.source limits (run limits now spawns calls) c = some d →
    ∀ i, i < limits.helperCount → ∀ fuel (env : Nat → AssignEnv),
      (dispatchTurns limits i d.now env fuel
        (dispatchBefore limits d.state d.now d.assigns i)).length ≤
      queuedCount (dispatchBefore limits d.state d.now d.assigns i) + 1

theorem schedule_reserve (h : AtRest limits q s)
    (hs : scheduleSource limits s e .background now env = some s₁) :
    s₁.jobCount = s.jobCount + 1 ∧ s₁.jobCount ≤ limits.jobLimit - limits.interactiveReserve := by
  obtain ⟨hcount, hadmitted⟩ := (entrySchedulePriority_dispatched e .background now env h).2 s₁ hs
  refine ⟨hcount, ?_⟩
  rw [hcount]
  exact hadmitted

theorem schedule_admitted (h : AtRest limits q s) :
    (s.call limits (.schedule e .background now env)).jobCount ≤
      max s.jobCount (limits.jobLimit - limits.interactiveReserve) := by
  show (entrySchedulePriority limits s e .background now env).1.jobCount ≤ _
  have hcall := (entrySchedulePriority_dispatched e .background now env h).1
  cases hs : scheduleSource limits s e .background now env with
  | none =>
    rw [hs] at hcall
    exact hcall.1.jobCount.trans (Nat.le_max_left ..)
  | some s₁ =>
    rw [hs] at hcall
    have hcount : (Source.outcome limits ⟨s₁, now, env.assigns, env.timerSet⟩).1.jobCount ≤
        s₁.jobCount := by
      have hrearm : (Source.outcome limits ⟨s₁, now, env.assigns, env.timerSet⟩).1.board none
          none q = (dispatch limits s₁ now env.assigns).board none none q := board_timerRearm ..
      rw [show (Source.outcome limits ⟨s₁, now, env.assigns, env.timerSet⟩).1.jobCount =
        (dispatch limits s₁ now env.assigns).jobCount from congrArg Board.jobCount hrearm]
      exact dispatch_jobCount env.assigns (hcall.placed h)
    rw [hcall.2]
    exact (hcount.trans (schedule_reserve h hs).2).trans (Nat.le_max_right ..)

/-- **The rules of dispatch hold in every run.** -/
theorem run_dispatchDiscipline (limits : SupervisorLimits) (now : Timespec) (spawns : Nat → Spawn)
    (calls : List Call) : DispatchDiscipline limits now spawns calls where
  conserved := run_workConserved spawns calls
  dispatched := fun _ _ hd hup => call_source_workConserved (run_placed spawns calls) hd hup
  priority := by
    intro c turn hmem
    unfold Call.handOvers at hmem
    cases hd : c.source limits (run limits now spawns calls) with
    | none =>
      rw [hd] at hmem
      cases hmem
    | some d =>
      rw [hd] at hmem
      obtain ⟨hplaced, _⟩ := call_source (run_placed spawns calls) hd
      exact dispatchHandOvers_priority d.assigns hplaced hmem
  reserve := fun _ _ _ _ hs => schedule_reserve (run_placed spawns calls) hs
  admitted := fun _ _ _ => schedule_admitted (run_placed spawns calls)
  ends := by
    intro c d hd i hi fuel env
    obtain ⟨hplaced, _⟩ := call_source (run_placed spawns calls) hd
    exact (dispatchLoop_looped fuel hi
      (dispatchBefore_spec d.assigns hplaced i (Nat.le_of_lt hi)).1).length

/-- A helper that waits for its answer, one that waits to send, and a third job in the queue; then
    the second helper gives its job up in a round of events that cannot read its timer. -/
def unreadTimerRun (limits : SupervisorLimits) (calls : List Call) : Supervisor :=
  let busy : CallEnv := { assigns := fun _ _ => { outcome := .wouldBlock } }
  run limits ⟨0, 0⟩ (fun _ => .started 7)
    ([.cacheAcquire [97] 1 true, .cacheAcquire [98] 1 true, .cacheAcquire [99] 1 true,
      .schedule 1 .interactive ⟨1, 0⟩ {}, .schedule 2 .interactive ⟨1, 0⟩ busy,
      .schedule 3 .interactive ⟨1, 0⟩ busy] ++ calls)

/-- The round: the timer, armed for the first request, is due. -/
def unreadTimerEvents : Call :=
  .events ⟨timeMax, 0⟩
    { waitedAt := ⟨timeMax, 0⟩, timerDrained := false, helper := fun i => { out := i == 1 } }

/-- Then a completion is taken, and the helper is idle while the third job is queued. -/
theorem run_idle_after_unread_timer :
    timerReady (unreadTimerRun {} []) ⟨timeMax, 0⟩ = true ∧
      (completionTake {} (unreadTimerRun {} [unreadTimerEvents])).2.isSome = true ∧
      (unreadTimerRun {} [unreadTimerEvents, .completionTake]).shuttingDown = false ∧
      ((unreadTimerRun {} [unreadTimerEvents, .completionTake]).helpers 1).state = .idle ∧
      queuedCount (unreadTimerRun {} [unreadTimerEvents, .completionTake]) = 1 := by
  decide +kernel

end MinecraftRelay
