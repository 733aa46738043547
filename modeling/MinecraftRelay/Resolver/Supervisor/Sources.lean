/-
  File:      Resolver/Supervisor/Sources.lean
  Subject:   WHERE A CALL TURNS TO THE QUEUES, and its course before it does.

  A schedule that starts a job, a release that drops an interest and a round of events that gets
  through its timers end alike: `resolver_supervisor_dispatch`, then
  `resolver_supervisor_timer_rearm`.  Any other schedule, release or round leaves helpers and timer
  alone, but for a round that could not read its timer.

  * `scheduleSource`, `releaseSource`, `eventsSource` -- the state in which it turns to the queues;
  * `entrySchedulePriority_dispatched`, `entryReleaseInterest_dispatched`,
    `eventsProcess_dispatched` -- each call is of one of the two kinds.
-/
import MinecraftRelay.Resolver.Supervisor.Rounds

namespace MinecraftRelay

open Function (update update_apply update_idem update_of_ne update_self)

variable {limits : SupervisorLimits} {s s' : Supervisor} {q : Bool} {j : JobId} {job : Job}
  {now : Timespec} {e : EntryId} {p : Priority}

/-! ## 1. Calls that leave the helpers alone -/

/-- What a call that does not dispatch leaves alone: the helpers, the timer, the times the jobs wait
    for, and queues that are empty. -/
structure Quiet (s s' : Supervisor) : Prop where
  helpers : s'.helpers = s.helpers
  shuttingDown : s'.shuttingDown = s.shuttingDown
  timer : s'.timer = s.timer
  jobCount : s'.jobCount ≤ s.jobCount
  unqueued : queuedCount s = 0 → queuedCount s' = 0
  waits : ∀ j, (s'.jobs j).bind Job.waitsFor = (s.jobs j).bind Job.waitsFor

theorem Quiet.refl (s : Supervisor) : Quiet s s :=
  ⟨rfl, rfl, rfl, Nat.le_refl _, id, fun _ => rfl⟩

theorem Quiet.trans {s'' : Supervisor} (h : Quiet s s') (h' : Quiet s' s'') : Quiet s s'' :=
  ⟨h'.helpers.trans h.helpers, h'.shuttingDown.trans h.shuttingDown, h'.timer.trans h.timer,
    h'.jobCount.trans h.jobCount, fun hs => h'.unqueued (h.unqueued hs),
    fun j => (h'.waits j).trans (h.waits j)⟩

/-- Nothing of all this is written. -/
theorem Quiet.of_fields (hh : s'.helpers = s.helpers) (hd : s'.shuttingDown = s.shuttingDown)
    (ht : s'.timer = s.timer) (hc : s'.jobCount = s.jobCount) (hq : s'.queues = s.queues)
    (hj : s'.jobs = s.jobs) : Quiet s s' where
  helpers := hh
  shuttingDown := hd
  timer := ht
  jobCount := Nat.le_of_eq hc
  unqueued := by
    intro hnone
    unfold queuedCount at hnone ⊢
    rw [hq]
    exact hnone
  waits := fun j => by rw [hj]

theorem timeUpdate_quiet (h : timeUpdate (s.record (.called now)) now = some s') : Quiet s s' := by
  rw [(timeUpdate_eq h).1]
  exact .of_fields rfl rfl rfl rfl rfl rfl

/-- A job is written, and waits for what it waited for. -/
theorem Quiet.setJob {job' : Job} (hj : s.jobs j = some job) (hw : job'.waitsFor = job.waitsFor) :
    Quiet s (s.setJob j job') where
  helpers := rfl
  shuttingDown := rfl
  timer := rfl
  jobCount := Nat.le_refl _
  unqueued := id
  waits := by
    intro k
    show (update s.jobs j (some job') k).bind _ = _
    grind [update_apply]

/-- A job that is in a queue. -/
theorem Placed.queuedCount_ne (h : AtRest limits q s) (hj : s.jobs j = some job)
    (hs : job.state = .queued) : queuedCount s ≠ 0 := by
  have hmem : j ∈ (s.queues job.priority).ids := by
    have hlist := h.lists.mem (.queue job.priority) j
    rw [placeOf_state rfl hj, Job.place, hs] at hlist
    exact hlist.2 rfl
  have hpos : 0 < (s.queues job.priority).ids.length := List.length_pos_of_mem hmem
  unfold queuedCount
  cases hp : job.priority with
  | interactive =>
    rw [hp] at hpos
    omega
  | background =>
    rw [hp] at hpos
    omega

theorem jobCoalesce_quiet (h : AtRest limits q s) (hj : s.jobs j = some job) :
    Quiet s (jobCoalesce s j job p) := by
  have hwaits : ∀ n priority, ((job.setInterest p n).ranked false priority).waitsFor =
      job.waitsFor := by
    intro n priority
    cases p <;> rfl
  unfold jobCoalesce
  split
  · rw [priorityPromote_setJob]
    split
    · rename_i hq
      have hqueued : job.state = .queued := by
        have hs := hq.1
        cases p <;> exact hs
      generalize hr : ({ job.setInterest p (job.interest p + 1) with orphaned := false } : Job) = r
      -- the job changes queues; a queue was not empty
      unfold queueAppend
      rw [setJob_jobs_self]
      refine ⟨queueRemove_helpers, ?_, ?_, ?_,
        fun hnone => absurd hnone (h.queuedCount_ne hj hqueued), fun k => ?_⟩
      · show (queueRemove (s.setJob j r) j).shuttingDown = s.shuttingDown
        unfold queueRemove
        split <;> rfl
      · show (queueRemove (s.setJob j r) j).timer = s.timer
        unfold queueRemove
        split <;> rfl
      · show (queueRemove (s.setJob j r) j).jobCount ≤ s.jobCount
        unfold queueRemove
        split <;> exact Nat.le_refl _
      · show (update (update (queueRemove (s.setJob j r) j).jobs j _) j _ k).bind _ = _
        rw [update_idem, queueRemove_jobs]
        show (update (update s.jobs j _) j _ k).bind _ = _
        grind [update_apply, Job.waitsFor]
    · exact .setJob hj (hwaits _ _)
  · exact .setJob hj (hwaits _ job.priority)

/-! ## 2. Calls that dispatch -/

/-- Where a call turns to the queues: the state, the time, and the kernel's answers from then on. -/
structure Source where
  state : Supervisor
  now : Timespec
  assigns : Nat → Nat → AssignEnv
  timerSet : Bool

/-- What the call does from then on. -/
def Source.outcome (limits : SupervisorLimits) (d : Source) : Supervisor × Bool :=
  timerRearm limits (dispatch limits d.state d.now d.assigns) d.timerSet

section

variable (limits : SupervisorLimits) (s : Supervisor) (e : EntryId) (priority : Priority)
  (now : Timespec) (env : CallEnv)

/-- A schedule for an entry without a job turns to the queues when it has created one. -/
def startSource : Option Supervisor :=
  if s.jobCount ≥ admissionLimit limits priority then none
  else if ¬ env.jobAllocated then none
  else
    match entryRetain s.cache e with
    | (_, false) => none
    | (cache, true) => some (jobCreate limits { s with cache } e priority now)

/-- A schedule turns to the queues when the entry is neither fresh nor has a job. -/
def scheduleSource : Option Supervisor :=
  if s.shuttingDown then none
  else
    match timeUpdate (s.record (.called now)) now with
    | none => none
    | some s =>
      match entryView s.cache e now with
      | (_, none) => none
      | (cache, some view) =>
        let s := { s with cache }
        if view.status ≠ .empty then none
        else
          match (jobFind limits s e).bind fun j => (s.jobs j).map fun job => (j, job) with
          | some _ => none
          | none => startSource limits s e priority now env

/-- A release turns to the queues when it has dropped an interest. -/
def releaseSource : Option Supervisor :=
  if s.shuttingDown then none
  else
    match timeUpdate (s.record (.called now)) now with
    | none => none
    | some s =>
      match (jobFind limits s e).bind fun j => (s.jobs j).map fun job => (j, job) with
      | none => none
      | some (j, job) =>
        if job.state = .complete ∨ job.interest priority = 0 ∨ (job.state = .sending ∧
            (job.slotIndex ≥ limits.helperCount ∨ (s.helpers job.slotIndex).job ≠ some j)) then none
        else some (interestDrop limits s j job priority env.eventsUpdated).1

end

/-- A round of events turns to the queues when it is through with its timers. -/
def eventsSource (limits : SupervisorLimits) (s : Supervisor) (now : Timespec) (env : EventsEnv) :
    Option Supervisor :=
  match timeUpdate (s.record (.called now)) now with
  | none => none
  | some s =>
    if ¬ env.waited ∨ (timerReady s env.waitedAt ∧ ¬ env.timerDrained) then none
    else
      let indices := List.range limits.helperCount
      let s := indices.foldl (fun s i => helperEvents limits now (env.helper i) s i) s
      let s := indices.foldl
        (fun s i => timerHelper limits now (env.helper i).timerReceives (env.helper i).spawn s i) s
      some (timersProcessJobs limits s now)

/-- What a call with the source `source` leaves, by a course: the outcome of the turn to the queues,
    or a state that differs in nothing that concerns a helper. -/
def Dispatched (limits : SupervisorLimits) (q : Bool) (s : Supervisor) (now : Timespec)
    (assigns : Nat → Nat → AssignEnv) (timerSet : Bool) (result : Supervisor) :
    Option Supervisor → Prop
  | none => Quiet s result ∧ ∃ ls, Course limits now q s.rest ls result.rest
  | some s₁ => (∃ ls, Course limits now q s.rest ls s₁.rest) ∧
      result = (Source.outcome limits ⟨s₁, now, assigns, timerSet⟩).1

section

variable {assigns : Nat → Nat → AssignEnv} {timerSet : Bool} {result : Supervisor}
  {source : Option Supervisor}

theorem Dispatched.after (h : Dispatched limits q s' now assigns timerSet result source)
    (hquiet : Quiet s s') (hcourse : Passes limits now q s s') :
    Dispatched limits q s now assigns timerSet result source := by
  cases source with
  | none => exact ⟨hquiet.trans h.1, h.2.imp fun _ => hcourse.trans⟩
  | some s₁ => exact ⟨h.1.imp fun _ => hcourse.trans, h.2⟩

theorem Dispatched.placed {s₁ : Supervisor}
    (h : Dispatched limits q s now assigns timerSet result (some s₁))
    (hp : AtRest limits q s) : AtRest limits q s₁ :=
  h.1.elim fun _ hs => hs.placed hp

theorem Dispatched.course (h : Dispatched limits q s now assigns timerSet result source)
    (hp : AtRest limits q s) : ∃ ls, Course limits now q s.rest ls result.rest := by
  cases source with
  | none => exact h.2
  | some s₁ =>
    obtain ⟨⟨ls, hs⟩, rfl⟩ := h
    exact ⟨ls, (hs.quietly (dispatch_course _ (hs.placed hp))).quietly (timerRearm_course _)⟩

end

theorem jobCreate_jobCount : (jobCreate limits s e p now).jobCount = s.jobCount + 1 := by
  unfold jobCreate queueAppend
  dsimp only
  rw [update_self]
  rfl

/-- **A schedule for an entry with a job** adds an interest to it, or does nothing. -/
theorem scheduleJoin_quiet (h : AtRest limits q s) (hj : s.jobs j = some job) :
    Quiet s (scheduleJoin limits s e j job p).1 ∧
      ∃ ls, Course limits now q s.rest ls (scheduleJoin limits s e j job p).1.rest := by
  unfold scheduleJoin
  split
  · exact ⟨.refl s, [], .refl _⟩
  · rename_i hc
    split
    · exact ⟨.of_fields rfl rfl rfl rfl rfl rfl, [], increment_course id⟩
    · exact ⟨jobCoalesce_quiet h hj, _, jobCoalesce_course h hj hc p⟩

/-- **A schedule that starts a job** creates it under the limit and turns to the queues. -/
theorem scheduleStart_dispatched (env : CallEnv)
    (hnew : ∀ j job, s.jobs j = some job → job.entry ≠ e) (hpayload : s.cache.payload e = none) :
    Dispatched limits q s now env.assigns env.timerSet (scheduleStart limits s e p now env).1
        (startSource limits s e p now env) ∧
      ∀ s₁, startSource limits s e p now env = some s₁ →
        s₁.jobCount = s.jobCount + 1 ∧ s.jobCount < admissionLimit limits p := by
  unfold startSource scheduleStart
  by_cases hadmitted : s.jobCount ≥ admissionLimit limits p
  · rw [if_pos hadmitted, if_pos hadmitted]
    exact ⟨⟨.of_fields rfl rfl rfl rfl rfl rfl, [], increment_course id⟩, nofun⟩
  rw [if_neg hadmitted, if_neg hadmitted]
  by_cases hallocated : ¬ env.jobAllocated = true
  · rw [if_pos hallocated, if_pos hallocated]
    exact ⟨⟨.refl s, [], .refl _⟩, nofun⟩
  rw [if_neg hallocated, if_neg hallocated]
  cases hretain : entryRetain s.cache e with
  | mk cache retained =>
    cases retained with
    | false => exact ⟨⟨.of_fields rfl rfl rfl rfl rfl rfl, [], increment_course id⟩, nofun⟩
    | true =>
      have hadmitted := Nat.lt_of_not_ge hadmitted
      refine ⟨⟨⟨_, startJob_course hretain hadmitted hnew hpayload⟩, rfl⟩, fun s₁ hs => ?_⟩
      cases hs
      exact ⟨jobCreate_jobCount, hadmitted⟩

theorem entrySchedulePriority_dispatched (e : EntryId) (p : Priority) (now : Timespec)
    (env : CallEnv) (h : AtRest limits q s) :
    Dispatched limits q s now env.assigns env.timerSet
        (entrySchedulePriority limits s e p now env).1 (scheduleSource limits s e p now env) ∧
      ∀ s₁, scheduleSource limits s e p now env = some s₁ →
        s₁.jobCount = s.jobCount + 1 ∧ s.jobCount < admissionLimit limits p := by
  unfold scheduleSource entrySchedulePriority
  by_cases hdown : s.shuttingDown = true
  · rw [if_pos hdown, if_pos hdown]
    exact ⟨⟨.refl s, [], .refl _⟩, nofun⟩
  rw [if_neg hdown, if_neg hdown]
  cases htime : timeUpdate (s.record (.called now)) now with
  | none => exact ⟨⟨.of_fields rfl rfl rfl rfl rfl rfl, [], called_course⟩, nofun⟩
  | some s₀ =>
    have hquiet := timeUpdate_quiet htime
    have h₀ : Passes limits now q s s₀ := timeUpdate_course htime
    have hcount : s₀.jobCount = s.jobCount := by rw [(timeUpdate_eq htime).1]; rfl
    dsimp only
    cases hview : entryView s₀.cache e now with
    | mk cache view =>
      cases view with
      | none => exact ⟨⟨hquiet, [], h₀⟩, nofun⟩
      | some view =>
        obtain rfl : (entryView s₀.cache e now).1 = cache := congrArg Prod.fst hview
        have hlook : Quiet s { s₀ with cache := (entryView s₀.cache e now).1 } :=
          hquiet.trans (.of_fields rfl rfl rfl rfl rfl rfl)
        have h₁ : Passes limits now q s
            ({ s₀ with cache := (entryView s₀.cache e now).1 } : Supervisor) :=
          h₀.trans ⟨(Move.cache (s₀.board none none q) _ (entryView_kept now)).steps,
            fun _ h => h.view⟩
        have hplaced := h₁.placed h
        dsimp only
        by_cases hempty : view.status ≠ .empty
        · rw [if_pos hempty, if_pos hempty]
          exact ⟨⟨hlook, [], h₁⟩, nofun⟩
        rw [if_neg hempty, if_neg hempty]
        cases hfind : (jobFind limits { s₀ with cache := (entryView s₀.cache e now).1 } e).bind
            fun j => (s₀.jobs j).map fun job => (j, job) with
        | some found =>
          obtain ⟨k, _, hk⟩ := Option.bind_eq_some_iff.1 hfind
          obtain ⟨job, hj, rfl⟩ := Option.map_eq_some_iff.1 hk
          obtain ⟨hjoin, hcourse⟩ := scheduleJoin_quiet (e := e) (p := p) hplaced hj
          exact ⟨⟨hlook.trans hjoin, hcourse.imp fun _ => h₁.trans⟩, nofun⟩
        | none =>
          have hnew : ∀ j job, s₀.jobs j = some job → job.entry ≠ e := by
            intro j job hj he
            have hk := (hplaced.jobFind_iff e).2 ⟨job, hj, he⟩
            rw [hk, Option.bind_some, hj] at hfind
            cases hfind
          obtain ⟨hstart, hcounts⟩ := scheduleStart_dispatched (p := p) (q := q)
            (s := { s₀ with cache := (entryView s₀.cache e now).1 }) env hnew
            (entryView_empty hview (Decidable.of_not_not hempty))
          rw [← hcount]
          exact ⟨hstart.after hlook h₁, hcounts⟩

/-- **A release that drops an interest** turns to the queues. -/
theorem entryReleaseInterest_dispatched (e : EntryId) (p : Priority) (now : Timespec)
    (env : CallEnv) (h : AtRest limits q s) :
    Dispatched limits q s now env.assigns env.timerSet (entryReleaseInterest limits s e p now env).1
      (releaseSource limits s e p now env) := by
  unfold releaseSource entryReleaseInterest
  by_cases hdown : s.shuttingDown = true
  · rw [if_pos hdown, if_pos hdown]
    exact ⟨.refl s, [], .refl _⟩
  rw [if_neg hdown, if_neg hdown]
  cases htime : timeUpdate (s.record (.called now)) now with
  | none => exact ⟨.of_fields rfl rfl rfl rfl rfl rfl, [], called_course⟩
  | some s₀ =>
    have h₀ : Passes limits now q s s₀ := timeUpdate_course htime
    have hnothing := (⟨timeUpdate_quiet htime, [], h₀⟩ : Dispatched limits q s now env.assigns
      env.timerSet s₀ none)
    have hplaced := h₀.placed h
    dsimp only
    cases hfind : jobFind limits s₀ e with
    | none => exact hnothing
    | some j =>
      cases hj : s₀.jobs j with
      | none =>
        simp only [Option.bind_some, hj, Option.map_none]
        exact hnothing
      | some job =>
        simp only [Option.bind_some, hj, Option.map_some]
        split
        · rename_i hshut
          rw [if_pos (Or.inl hshut)]
          exact hnothing
        rename_i hc
        split
        · rename_i hi
          rw [if_pos (Or.inr (Or.inl hi))]
          exact hnothing
        rename_i hi
        split
        · rename_i hslot
          rw [if_pos (Or.inr (Or.inr hslot))]
          exact hnothing
        rename_i hslot
        rw [if_neg (not_or.2 ⟨hc, not_or.2 ⟨hi, hslot⟩⟩)]
        exact ⟨⟨_, h₀.trans (interestDrop_course hplaced hj hc (Nat.pos_of_ne_zero hi) _)⟩, rfl⟩

/-- **A round of events that gets through its timers** turns to the queues; another changes nothing,
    unless it could not read the timer. -/
theorem eventsProcess_dispatched (now : Timespec) (env : EventsEnv) (h : AtRest limits q s)
    (hdrained : env.timerDrained = true ∨ eventsSource limits s now env ≠ none) :
    Dispatched limits q s now env.assigns env.timerSet (eventsProcess limits s now env).1
      (eventsSource limits s now env) := by
  unfold eventsSource at hdrained ⊢
  unfold eventsProcess
  cases htime : timeUpdate (s.record (.called now)) now with
  | none => exact ⟨.of_fields rfl rfl rfl rfl rfl rfl, [], called_course⟩
  | some s₀ =>
    rw [htime] at hdrained
    have h₀ : Passes limits now q s s₀ := timeUpdate_course htime
    dsimp only at hdrained ⊢
    by_cases hwaited : ¬ env.waited = true
    · rw [if_pos hwaited, if_pos (Or.inl hwaited)]
      exact ⟨timeUpdate_quiet htime, [], h₀⟩
    have hread : ¬ (¬ env.waited = true ∨
        (timerReady s₀ env.waitedAt = true ∧ ¬ env.timerDrained = true)) := by
      rintro (hbad | hbad)
      · exact hwaited hbad
      · rw [if_pos (Or.inr hbad)] at hdrained
        exact hdrained.elim hbad.2 fun hne => hne rfl
    have hevents := h₀.trans (helpersEvents_course env (h₀.placed h))
    rw [if_neg hwaited, if_neg hread, if_neg fun hbad => hread (Or.inr hbad)]
    exact ⟨⟨[], hevents.trans (timersProcess_course (hevents.placed h))⟩, rfl⟩

/-- **One round of events**: any packets, failures, timeouts and dispatches. -/
theorem eventsProcess_course (now : Timespec) (env : EventsEnv) (h : AtRest limits q s) :
    ∃ ls, Course limits now q s.rest ls (eventsProcess limits s now env).1.rest := by
  by_cases hdrained : env.timerDrained = true ∨ eventsSource limits s now env ≠ none
  · exact (eventsProcess_dispatched now env h hdrained).course h
  obtain ⟨hunread, hnone⟩ := not_or.1 hdrained
  unfold eventsSource at hnone
  unfold eventsProcess
  cases htime : timeUpdate (s.record (.called now)) now with
  | none => exact ⟨[], called_course⟩
  | some s₀ =>
    have h₀ : Passes limits now q s s₀ := timeUpdate_course htime
    rw [htime] at hnone
    dsimp only at hnone ⊢
    split
    · exact ⟨[], h₀⟩
    · rename_i hwaited
      have hready : timerReady s₀ env.waitedAt = true ∧ ¬ env.timerDrained = true := by
        by_contra hgood
        rw [if_neg (not_or.2 ⟨hwaited, hgood⟩)] at hnone
        exact hnone nofun
      rw [if_pos hready]
      exact ⟨[], h₀.trans (helpersEvents_course env (h₀.placed h))⟩

end MinecraftRelay
