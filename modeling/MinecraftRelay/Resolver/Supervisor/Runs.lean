/-
  File:      Resolver/Supervisor/Runs.lean
  Subject:   RUNS OF THE SUPERVISOR: completions, shutdown, creation, and the placement of the jobs
             in every state of a run.

  A run is `resolver_supervisor_create` on a new cache, followed by any public calls of the
  supervisor and of the cache, in any order and with any arguments: any times, any entries, any
  answers of the kernel, any packets of the helpers.

  * `call_moves` -- every call moves the board; `run_placed` -- hence the invariant;
  * `run_jobPlacement` -- what it says about the lists, counts, interests and payloads.
-/
import MinecraftRelay.Resolver.Supervisor.Sources

namespace MinecraftRelay

open Placement
open Function (update update_apply update_eq_self update_idem update_of_ne update_self)

variable {limits : SupervisorLimits} {s : Supervisor} {L : Option JobId} {H : Option Nat} {q : Bool}
  {i : Nat} {j : JobId} {job : Job} {now : Timespec}

/-- Moves with any effect on the interests. -/
def Moves (limits : SupervisorLimits) (b b' : Board) : Prop := ∃ ls, Steps limits b ls b'

theorem Moves.refl (b : Board) : Moves limits b b := ⟨[], .refl b⟩

theorem Tau.moves {b b' : Board} (h : Tau limits b b') : Moves limits b b' := ⟨[], h⟩

theorem Course.moves {t : Timespec} {a b : Point} {ls : List Label} (h : Course limits t q a ls b) :
    Moves limits (a.s.board a.loose a.opened q) (b.s.board b.loose b.opened q) := ⟨ls, h.steps⟩

theorem Moves.trans {b b' b'' : Board} (h : Moves limits b b') (h' : Moves limits b' b'') :
    Moves limits b b'' := by
  obtain ⟨ls, hs⟩ := h
  obtain ⟨ls', hs'⟩ := h'
  exact ⟨ls ++ ls', hs.trans hs'⟩

theorem Moves.placed {b b' : Board} (h : Moves limits b b') (hp : Placed limits b) :
    Placed limits b' := by
  obtain ⟨_, hs⟩ := h
  exact hs.placed hp

/-! ## 1. Completions -/

/-- A job in the completion list is complete, and nobody is counted as waiting for it. -/
theorem Placed.completed (h : AtRest limits q s) (hmem : j ∈ s.completions) :
    ∃ job, s.jobs j = some job ∧ job.state = .complete ∧ job.leftover = [] := by
  obtain ⟨job, hj, hplace⟩ := h.of_mem (k := .completions) hmem
  have hs := Job.place_eq_completions hplace
  have hsound := h.sound j job hj nofun
  unfold Job.Sound at hsound
  rw [hs] at hsound
  exact ⟨job, hj, hs, if_pos ⟨hsound.1, hsound.2.1⟩⟩

theorem completionTake_steps (h : AtRest limits q s) :
    Tau limits (s.board none none q) ((completionTake limits s).1.board none none q) := by
  unfold completionTake
  split
  · exact .refl _
  · rename_i j rest hcompletions
    obtain ⟨job, hj, hs, hleft⟩ :=
      h.completed (j := j) (by rw [hcompletions]; exact List.mem_cons_self)
    rw [hj]
    dsimp only
    have htake : Tau limits _ _ := (Move.uncomplete (s.board none none q) j job rfl hj hs).steps
    have hrest : (s.board none none q).completions.erase j = rest := by
      show s.completions.erase j = rest
      rw [hcompletions, List.erase_cons_head]
    rw [hrest] at htake
    obtain ⟨metrics, hmetered⟩ := incrementAttempt_metered s job.entry .completionTaken
    rw [hmetered]
    have hfree : Steps limits _ _ _ := jobFree_steps (H := none) (q := q)
      (s := { s with metrics, completions := rest }) hj (PayloadsKept.refl s.cache)
    rw [hleft] at hfree
    exact Tau.trans htake hfree

/-! ## 2. Shutdown -/

/-- Recording the end of a job writes nothing but the metrics. -/
theorem shutdownRecord_metered (s : Supervisor) (job : Job) :
    ∃ metrics, shutdownRecord s job = { s with metrics } := by
  unfold shutdownRecord
  split
  · exact incrementAttempt_metered ..
  · split
    · exact incrementAttempt_metered ..
    · exact ⟨s.metrics, rfl⟩

/-- A job that a shutdown gives up goes into the hand, and is counted where an end is due. -/
theorem shutdownRecord_course (hdown : s.shuttingDown = true) (hj : s.jobs j = some job) :
    Course limits now q ⟨s, L, H, none⟩ [] ⟨shutdownRecord s job, L, H, some j⟩ where
  steps := by
    obtain ⟨metrics, hmetered⟩ := shutdownRecord_metered s job
    rw [hmetered]
    exact .refl _
  booked := fun _ h => by
    obtain ⟨type, ht⟩ := h.typed hj
    unfold shutdownRecord
    split
    · rename_i hc
      rw [incrementAttempt_eq ht]
      exact h.settle .completion hj hc.2 ht (by decide)
    · rename_i hc
      split
      · rename_i hd
        rw [incrementAttempt_eq ht]
        exact h.settle .attempt hj hd.2 ht (by decide)
      · rename_i hd
        exact h.take hj (fun hs => hd ⟨hdown, hs⟩) fun hs => hc ⟨hdown, hs⟩

theorem assemblyDrop_helpers : (assemblyDrop s j).helpers = s.helpers := by
  unfold assemblyDrop
  split <;> rfl

/-- Giving up one job, wherever it is. -/
theorem shutdownJob_course (now : Timespec) (hdown : s.shuttingDown = true)
    (h : AtRest limits true s) :
    ∃ ls, Course limits now true s.rest ls (shutdownJob limits s j).rest := by
  unfold shutdownJob
  split
  · exact ⟨[], .refl _⟩
  · rename_i job hj
    have hrecord : Course limits now true s.rest [] ⟨shutdownRecord s job, none, none, some j⟩ :=
      shutdownRecord_course hdown hj
    have hj₁ : (shutdownRecord s job).jobs j = some job := by
      obtain ⟨metrics, hmetered⟩ := shutdownRecord_metered s job
      rw [hmetered]
      exact hj
    have h₁ := hrecord.placed h
    generalize shutdownRecord s job = s₁ at hrecord hj₁ h₁
    unfold shutdownDetach
    split
    · rename_i hs
      have hheld := Placed.holds h₁ hj₁ hs
      have hleft : job.state ≠ .queued ∧ job.state ≠ .complete := by
        rcases hs with hs | hs <;> rw [hs] <;> decide
      have hholder : ((assemblyDrop s₁ j).helpers job.slotIndex).job = some j := by
        rw [assemblyDrop_helpers]
        exact hheld
      dsimp only
      rw [if_pos ⟨h₁.slot_lt job.slotIndex j (fun ho => by cases ho) hheld, hholder⟩]
      change ∃ ls, Course _ _ _ _ ls (jobDestroy limits (helperDetach s₁ job.slotIndex j) j).rest
      refine ⟨_, hrecord.trans ((lift_course hheld).trans ((helperDetach_course hj₁).trans
        ((jobDestroy_course (helperDetach_jobs hj₁) hleft.1 hleft.2).quietly
          (closeSlot_course ?_ fun hq => by cases hq))))⟩
      rw [jobDestroy_helpers]
      exact helperDetach_job
    · rename_i hs
      refine ⟨_, hrecord.trans ⟨jobDestroy_placed_steps hj₁ (fun hsend => hs (Or.inl hsend))
        fun hdisp => hs (Or.inr hdisp), fun _ hbooked => jobDestroy_booked hbooked hj₁⟩⟩

theorem jobDestroy_jobs : (jobDestroy limits s j).jobs = update s.jobs j none := by
  unfold jobDestroy
  split
  · rename_i hj
    rw [← hj, update_eq_self]
  · split
    · show update (queueRemove s j).jobs j none = _
      rw [queueRemove_jobs]
    · rfl
    · rfl

/-- What a shutdown writes into a job before it frees it. -/
theorem shutdownDetach_jobs :
    update (shutdownDetach limits s j job).jobs j none = update s.jobs j none := by
  have hdrop : update (assemblyDrop s j).jobs j none = update s.jobs j none := by
    unfold assemblyDrop
    split
    · rfl
    · exact update_idem ..
  unfold shutdownDetach
  split
  · dsimp only
    split <;> exact hdrop
  · rfl

/-- The other jobs are as they were. -/
theorem shutdownJob_jobs : (shutdownJob limits s j).jobs = update s.jobs j none := by
  unfold shutdownJob
  split
  · rename_i hj
    rw [← hj, update_eq_self]
  · rename_i job _
    rw [jobDestroy_jobs, shutdownDetach_jobs]
    obtain ⟨metrics, hmetered⟩ := shutdownRecord_metered s job
    rw [hmetered]

theorem foldl_shutdownJob_jobs (l : List JobId) (k : JobId) :
    (l.foldl (shutdownJob limits) s).jobs k = if k ∈ l then none else s.jobs k := by
  induction l generalizing s with
  | nil => rfl
  | cons j l ih =>
    rw [List.foldl_cons, ih, shutdownJob_jobs]
    grind [update_apply]

theorem jobDestroy_shuttingDown : (jobDestroy limits s j).shuttingDown = s.shuttingDown := by
  unfold jobDestroy
  split
  · rfl
  · split
    · unfold queueRemove
      split <;> rfl
    · rfl
    · rfl

theorem shutdownJob_shuttingDown : (shutdownJob limits s j).shuttingDown = s.shuttingDown := by
  unfold shutdownJob
  split
  · rfl
  · rename_i job _
    obtain ⟨metrics, hmetered⟩ := shutdownRecord_metered s job
    have hdrop : (assemblyDrop { s with metrics } j).shuttingDown = s.shuttingDown := by
      unfold assemblyDrop
      split <;> rfl
    rw [jobDestroy_shuttingDown, hmetered]
    unfold shutdownDetach
    split
    · dsimp only
      split <;> exact hdrop
    · rfl

/-- The walk over the hash chains meets every job. -/
theorem Placed.mem_jobList (h : Placed limits (s.board L H q)) (k : JobId) :
    k ∈ jobList limits s ↔ s.jobs k ≠ none := by
  have hmem := mem_chain (n := limits.jobLimit) h.hash (fun a b hb => by
    obtain ⟨job, _, rfl⟩ := Option.map_eq_some_iff.1 hb
    exact jobBucket_lt limits job.entry) k
  refine hmem.trans (not_congr ?_)
  exact Option.map_eq_none_iff

theorem jobsDestroyAll_jobs (h : Placed limits (s.board L H q)) (k : JobId) :
    (jobsDestroyAll limits s).jobs k = none := by
  unfold jobsDestroyAll
  rw [foldl_shutdownJob_jobs]
  split
  · rfl
  · rename_i hk
    rw [h.mem_jobList] at hk
    exact Decidable.of_not_not hk

theorem jobsDestroyAll_course (now : Timespec) (hdown : s.shuttingDown = true)
    (h : AtRest limits true s) :
    ∃ ls, Course limits now true s.rest ls (jobsDestroyAll limits s).rest := by
  unfold jobsDestroyAll
  generalize jobList limits s = l
  induction l generalizing s with
  | nil => exact ⟨[], .refl _⟩
  | cons j l ih =>
    obtain ⟨ls, hjob⟩ := shutdownJob_course (j := j) now hdown h
    obtain ⟨ls', hrest⟩ := ih (shutdownJob_shuttingDown.trans hdown) (hjob.placed h)
    exact ⟨ls ++ ls', hjob.steps.trans hrest.steps,
      fun harms hbooked => hrest.booked harms (hjob.booked harms hbooked)⟩

/-- Without jobs, no closed slot holds one. -/
theorem Placed.slot_none (h : AtRest limits q s) (hn : ∀ k, s.jobs k = none)
    (i : Nat) : (s.helpers i).job = none := by
  cases hh : (s.helpers i).job with
  | none => rfl
  | some j =>
    obtain ⟨job, hj, _⟩ := h.held_open hh
    rw [hn j] at hj
    cases hj

/-- The slots stop or are told to, one after another. -/
theorem helperShutdown_spec (limits : SupervisorLimits) (now : Timespec) (s : Supervisor)
    (i : Nat) :
    ∃ helper : Helper, helperShutdown limits now s i = s.setHelper i helper ∧
      helper.job = (s.helpers i).job ∧ (helper.state ≠ .sending ∧ helper.state ≠ .busy) ∧
      (timeutilValid now = true → timeutilValid (s.helpers i).nextEventAt = true →
        timeutilValid helper.nextEventAt = true) := by
  unfold helperShutdown
  dsimp only
  split
  · exact ⟨_, rfl, rfl, ⟨nofun, nofun⟩, fun _ h => h⟩
  · exact ⟨_, rfl, rfl, ⟨nofun, nofun⟩, fun hv _ => timeutilAddMilliseconds_getD_valid hv _⟩

theorem foldl_helperShutdown (limits : SupervisorLimits) (now : Timespec) (n : Nat)
    (hj : ∀ i, (s.helpers i).job = none) :
    Passes limits now q s ((List.range n).foldl (helperShutdown limits now) s) ∧
      (∀ i, (((List.range n).foldl (helperShutdown limits now) s).helpers i).job = none) ∧
      ∀ i, i < n → (((List.range n).foldl (helperShutdown limits now) s).helpers i).state ≠
        .sending ∧
        (((List.range n).foldl (helperShutdown limits now) s).helpers i).state ≠ .busy := by
  induction n with
  | zero => exact ⟨.refl _, hj, fun i hi => absurd hi (Nat.not_lt_zero i)⟩
  | succ n ih =>
    obtain ⟨hcourse, hnone, hstate⟩ := ih
    rw [List.range_succ, List.foldl_append, List.foldl_cons, List.foldl_nil]
    generalize (List.range n).foldl (helperShutdown limits now) s = s₁ at hcourse hnone hstate
    obtain ⟨helper, heq, hjob, hs, hevent⟩ := helperShutdown_spec limits now s₁ n
    have hturn : Course limits now q s₁.rest [] _ := (openSlot_course (hnone n)).trans
      (shutSlot_course helper (hjob.trans (hnone n)) hs hevent)
    rw [heq]
    refine ⟨hcourse.trans hturn, fun i => ?_, fun i hi => ?_⟩
    · by_cases hin : i = n
      · rw [hin, setHelper_helpers_self, hjob]
        exact hnone n
      · show (update s₁.helpers n helper i).job = none
        rw [update_of_ne hin]
        exact hnone i
    · by_cases hin : i = n
      · rw [hin, setHelper_helpers_self]
        exact hs
      · show (update s₁.helpers n helper i).state ≠ _ ∧
          (update s₁.helpers n helper i).state ≠ _
        rw [update_of_ne hin]
        exact hstate i (Nat.lt_of_le_of_ne (Nat.le_of_lt_succ hi) hin)

/-- **A shutdown gives all jobs up.** -/
theorem supervisorShutdown_course (now : Timespec) (timerSet : Bool) (h : AtRest limits false s) :
    ∃ ls, Course limits now false s.rest ls (supervisorShutdown limits s now timerSet).1.rest := by
  unfold supervisorShutdown
  split
  · exact ⟨_, called_course⟩
  · rename_i s₀ htime
    have h₀ : Course limits now false s.rest [] s₀.rest := timeUpdate_course htime
    split
    · exact ⟨_, h₀⟩
    · dsimp only
      -- while the jobs go, a slot may be without a job in any state
      have hhalt : Tau limits (s.board none none)
          (({ s₀ with shuttingDown := true } : Supervisor).board none none true) :=
        Tau.trans h₀.steps (Move.halt (s₀.board none none)).steps
      have hplaced := hhalt.placed h
      obtain ⟨ls, hgone⟩ := jobsDestroyAll_course now (by rfl) hplaced
      have hnone := (hgone.placed hplaced).slot_none (jobsDestroyAll_jobs hplaced)
      obtain ⟨hslots, hfree, hstate⟩ := foldl_helperShutdown limits now (q := true)
        limits.helperCount hnone
      have hended := hgone.quietly hslots
      refine ⟨ls ++ [], ?_, fun harms hbooked => ?_⟩
      · rw [board_timerRearm]
        exact (Steps.trans hhalt hended.steps).trans
          (Move.halted (Supervisor.board _ none none true) fun i hi _ _ => hstate i hi).steps
      · unfold timerRearm
        split <;> exact hended.booked harms (h₀.booked harms hbooked)

/-! ## 3. Creation -/

/-- A board without jobs, whose slots are not in use. -/
theorem placed_empty {b : Board} (hb : ∀ k, b.buckets k = []) (hj : ∀ j, b.jobs j = none)
    (hq : ∀ p, b.queues p = {}) (hc : b.completions = []) (hh : ∀ i, b.helpers i = {})
    (hn : b.jobCount = 0) (hl : b.loose = none) (ho : b.opened = none) : Placed limits b where
  hash := ⟨fun k => by rw [hb]; exact List.nodup_nil, fun k j => by rw [hb, hj]; simp⟩
  count := by rw [hn]; simp [chain, hb]
  count_le := by rw [hn]; exact Nat.zero_le _
  unique := fun j k job job' h => by rw [hj] at h; cases h
  fresh := fun j _ => hj j
  lists := by
    have hlist : ∀ k, b.list k = [] := by
      intro k
      cases k with
      | queue p => exact congrArg JobQueue.ids (hq p)
      | completions => exact hc
      | helper i => rw [Board.list_helper (by rw [ho]; exact nofun), hh]; rfl
    have hplace : ∀ j, b.placeOf j = none := by
      intro j
      unfold Board.placeOf
      rw [hl, hj]
      rfl
    exact ⟨fun k => by rw [hlist]; exact List.nodup_nil, fun k j => by rw [hlist, hplace]; simp⟩
  queue_count := fun p => by rw [hq]; rfl
  slots := fun i _ _ => by rw [hh]; exact fun _ => ⟨nofun, nofun⟩
  slot_lt := fun i j _ h => by rw [hh] at h; cases h
  loose_live := fun j h => by rw [hl] at h; cases h
  sound := fun j job h => by rw [hj] at h; cases h
  payload := fun j job h => by rw [hj] at h; cases h

@[simp] theorem observationPush_jobs (observation : Observation) :
    (observationPush limits s observation).jobs = s.jobs :=
  congrArg Board.jobs (board_observationPush s none none false observation)

@[simp] theorem respawnSchedule_jobs (failure : HelperFailure) :
    (respawnSchedule limits s i failure now).jobs = s.jobs := by
  unfold respawnSchedule
  dsimp only
  split
  · rfl
  · split
    · rfl
    · rw [observationPush_jobs]
      rfl

@[simp] theorem helperSpawn_jobs (spawn : Spawn) :
    (helperSpawn limits s i spawn now).jobs = s.jobs := by
  unfold helperSpawn
  split
  · rw [respawnSchedule_jobs]
    rfl
  · rw [respawnSchedule_jobs]
    rfl
  · rfl

theorem foldl_helperSpawn (spawns : Nat → Spawn) (l : List Nat)
    (h : AtRest limits q s) (hn : ∀ k, s.jobs k = none) :
    Passes limits now q s
      (l.foldl (fun s i => helperSpawn limits s i (spawns i) now) s) := by
  induction l generalizing s with
  | nil => exact .refl _
  | cons i l ih =>
    have hspawn : Course limits now q s.rest [] _ :=
      helperSpawn_course (spawns i) (h.slot_none hn i)
    exact hspawn.trans (ih (hspawn.placed h) fun k => by rw [helperSpawn_jobs]; exact hn k)

theorem placed_supervisorEmpty (cache : Cache) (now : Timespec) :
    AtRest limits false (supervisorEmpty cache now) :=
  placed_empty (fun _ => rfl) (fun _ => rfl) (fun _ => rfl) rfl (fun _ => rfl) rfl rfl rfl

theorem supervisorCreate_course (now : Timespec) (cache : Cache) (spawns : Nat → Spawn) :
    Course limits now false (supervisorEmpty cache now).rest []
      (supervisorCreate limits cache now spawns).rest :=
  (foldl_helperSpawn spawns _ (placed_supervisorEmpty cache now) fun _ => rfl).trans
    (timerRearm_course _)

theorem supervisorCreate_jobs (now : Timespec) (cache : Cache) (spawns : Nat → Spawn) (k : JobId) :
    (supervisorCreate limits cache now spawns).jobs k = none :=
  List.foldlRecOn (motive := fun s : Supervisor => s.jobs k = none)
    (List.range limits.helperCount) _ rfl fun s hs i _ => by rw [helperSpawn_jobs]; exact hs

/-! ## 4. Runs -/

/-- A public call of the supervisor or of its cache, with the kernel's answers. -/
inductive Call where
  | schedule (e : EntryId) (priority : Priority) (now : Timespec) (env : CallEnv)
  | release (e : EntryId) (priority : Priority) (now : Timespec) (env : CallEnv)
  | events (now : Timespec) (env : EventsEnv)
  | completionTake
  | completionDestroy (completion : Completion)
  | observationTake
  | shutdown (now : Timespec) (timerSet : Bool)
  | cacheAcquire (queryName : Bytes) (queryType : Nat) (allocated : Bool)
  | cacheRetain (e : EntryId)
  | cacheRelease (e : EntryId)
  | cacheView (e : EntryId) (now : Timespec)

/-- The state after a call. -/
def Supervisor.call (limits : SupervisorLimits) (s : Supervisor) : Call → Supervisor
  | .schedule e priority now env => (entrySchedule limits s e priority now env).1
  | .release e priority now env => (entryReleaseInterest limits s e priority now env).1
  | .events now env => (eventsProcess limits s now env).1
  | .completionTake => (MinecraftRelay.completionTake limits s).1
  | .completionDestroy completion => MinecraftRelay.completionDestroy limits s completion
  | .observationTake => (MinecraftRelay.observationTake limits s).1
  | .shutdown now timerSet => (supervisorShutdown limits s now timerSet).1
  | .cacheAcquire queryName queryType allocated =>
    { s with cache := (entryAcquire limits.toCacheLimits s.cache queryName queryType allocated).1 }
  | .cacheRetain e => { s with cache := (entryRetain s.cache e).1 }
  | .cacheRelease e => { s with cache := entryRelease limits.toCacheLimits s.cache e }
  | .cacheView e now => { s with cache := (entryView s.cache e now).1 }

/-- The state after the calls of a run. -/
def run (limits : SupervisorLimits) (now : Timespec) (spawns : Nat → Spawn) (calls : List Call) :
    Supervisor :=
  calls.foldl (Supervisor.call limits)
    (supervisorCreate limits (cacheCreate limits.toCacheLimits) now spawns)

/-- A call that only changes the cache, and publishes nothing. -/
theorem cache_moves {cache : Cache} (hk : PayloadsKept s.cache cache) :
    Moves limits (s.board L H q) (({ s with cache } : Supervisor).board L H q) :=
  Tau.moves (Move.cache (s.board L H q) cache hk).steps

/-- **Every call moves the board.** -/
theorem call_moves (c : Call) (h : AtRest limits false s) :
    Moves limits (s.board none none) ((s.call limits c).board none none) := by
  cases c with
  | schedule e priority now env =>
    exact ((entrySchedulePriority_dispatched e priority now env h).1.course h).elim fun _ =>
      Course.moves
  | release e priority now env =>
    exact ((entryReleaseInterest_dispatched e priority now env h).course h).elim fun _ =>
      Course.moves
  | events now env => exact (eventsProcess_course now env h).elim fun _ => Course.moves
  | completionTake => exact (completionTake_steps h).moves
  | completionDestroy completion => exact cache_moves entryRelease_kept
  | observationTake =>
    show Moves limits _ ((MinecraftRelay.observationTake limits s).1.board none none)
    unfold MinecraftRelay.observationTake
    split <;> exact .refl _
  | shutdown now timerSet =>
    exact (supervisorShutdown_course now timerSet h).elim fun _ => Course.moves
  | cacheAcquire queryName queryType allocated => exact cache_moves entryAcquire_kept
  | cacheRetain e => exact cache_moves (.of_eq fun x => entryRetain_payload x)
  | cacheRelease e => exact cache_moves entryRelease_kept
  | cacheView e now => exact cache_moves (entryView_kept now)

theorem foldl_call_moves (calls : List Call) (h : AtRest limits false s) :
    Moves limits (s.board none none)
      ((calls.foldl (Supervisor.call limits) s).board none none) := by
  induction calls generalizing s with
  | nil => exact .refl _
  | cons c calls ih =>
    have hcall := call_moves c h
    exact hcall.trans (ih (hcall.placed h))

/-- **A run is a sequence of moves from the empty board.** -/
theorem run_moves (spawns : Nat → Spawn) (calls : List Call) :
    Moves limits ((supervisorEmpty (cacheCreate limits.toCacheLimits) now).board none none)
      ((run limits now spawns calls).board none none) := by
  have hcreate : Course limits now false _ _ _ := supervisorCreate_course now
    (cacheCreate limits.toCacheLimits) spawns
  exact hcreate.moves.trans (foldl_call_moves calls (hcreate.placed (placed_supervisorEmpty _ now)))

theorem run_placed (spawns : Nat → Spawn) (calls : List Call) :
    AtRest limits false (run limits now spawns calls) :=
  (run_moves spawns calls).placed (placed_supervisorEmpty _ now)

/-! ## 5. Where the jobs are -/

/-- The placement of the jobs, read off the supervisor's own fields. -/
structure JobPlacement (limits : SupervisorLimits) (s : Supervisor) : Prop where
  /-- An entry has at most one job. -/
  unique : ∀ j k job job', s.jobs j = some job → s.jobs k = some job' →
    job.entry = job'.entry → j = k
  /-- The queue of a priority holds the QUEUED jobs of that priority, each once. -/
  queued : ∀ p, (s.queues p).ids.Nodup ∧ ∀ j, j ∈ (s.queues p).ids ↔
    ∃ job, s.jobs j = some job ∧ job.state = .queued ∧ job.priority = p
  /-- A job is in a helper slot if and only if it is SENDING or DISPATCHED and the slot is its. -/
  held : ∀ i j, (s.helpers i).job = some j ↔
    ∃ job, s.jobs j = some job ∧ (job.state = .sending ∨ job.state = .dispatched) ∧
      job.slotIndex = i
  /-- The slot of a SENDING job is SENDING, that of a DISPATCHED job is BUSY. -/
  slotState : ∀ j job, s.jobs j = some job →
    (job.state = .sending → job.slotIndex < limits.helperCount ∧
      (s.helpers job.slotIndex).state = .sending) ∧
    (job.state = .dispatched → job.slotIndex < limits.helperCount ∧
      (s.helpers job.slotIndex).state = .busy)
  /-- A SENDING or BUSY slot has a job. -/
  slotUsed : ∀ i, i < limits.helperCount →
    (s.helpers i).state = .sending ∨ (s.helpers i).state = .busy → (s.helpers i).job ≠ none
  /-- The completion list holds the COMPLETE jobs, each once. -/
  completed : s.completions.Nodup ∧ ∀ j, j ∈ s.completions ↔
    ∃ job, s.jobs j = some job ∧ job.state = .complete
  queueCount : ∀ p, (s.queues p).count = (s.queues p).ids.length
  /-- The hash chains hold every job once, and the job count is their number. -/
  jobCount : s.jobCount = (jobList limits s).length ∧ (jobList limits s).Nodup ∧
    ∀ j, j ∈ jobList limits s ↔ s.jobs j ≠ none
  jobCount_le : s.jobCount ≤ limits.jobLimit
  /-- A job is orphaned if and only if it is DISPATCHED and nobody is interested. -/
  orphaned_iff : ∀ j job, s.jobs j = some job → (job.orphaned = true ↔
    job.state = .dispatched ∧ job.backgroundInterestCount = 0 ∧ job.interactiveInterestCount = 0)
  /-- Every other job that is not COMPLETE has an interest. -/
  interested : ∀ j job, s.jobs j = some job → job.state ≠ .complete → job.orphaned = false →
    0 < job.backgroundInterestCount + job.interactiveInterestCount
  priority_iff : ∀ j job, s.jobs j = some job → job.state ≠ .complete →
    (job.priority = .interactive ↔ 0 < job.interactiveInterestCount)
  /-- The entry of a job that is not COMPLETE has no payload, so none that is fresh. -/
  noPayload : ∀ j job, s.jobs j = some job → job.state ≠ .complete →
    s.cache.payload job.entry = none

section Reading

variable (h : AtRest limits false s)

include h

/-- A list holds exactly the jobs that name it. -/
theorem Placed.list_iff (k : Place) (j : JobId) :
    j ∈ (s.board none none).list k ↔ ∃ job, s.jobs j = some job ∧ job.place = some k := by
  constructor
  · intro hmem
    exact h.of_mem hmem
  · intro hjob
    obtain ⟨job, hj, hplace⟩ := hjob
    rw [h.lists.mem, placeOf_state rfl hj, hplace]

theorem Placed.orphaned_iff (hj : s.jobs j = some job) :
    job.orphaned = true ↔ job.state = .dispatched ∧ job.backgroundInterestCount = 0 ∧
      job.interactiveInterestCount = 0 := by
  by_cases hc : job.state = .complete
  · have hsound := h.sound j job hj nofun
    unfold Job.Sound at hsound
    rw [hc] at hsound
    rw [hsound.2.2.1, hc]
    simp
  · rcases h.open_of_live hj hc with hw | ⟨hd, ho⟩
    · rw [hw.orphaned]
      refine iff_of_false nofun fun hzero => ?_
      have hpos := hw.interested
      rw [hzero.2.1, hzero.2.2] at hpos
      exact absurd hpos (Nat.lt_irrefl 0)
    · exact iff_of_true ho.orphaned ⟨hd, ho.background, ho.interactive⟩

theorem Placed.jobPlacement : JobPlacement limits s where
  unique := h.unique
  queued := by
    intro p
    refine ⟨h.lists.nodup (.queue p), fun j => (h.list_iff (.queue p) j).trans ?_⟩
    refine exists_congr fun job => and_congr_right fun _ => ⟨Job.place_eq_queue, fun hs => ?_⟩
    rw [Job.place, hs.1, hs.2]
  held := by
    intro i j
    have hlist := h.list_iff (.helper i) j
    rw [Board.list_helper (b := s.board none none) (fun ho => by cases ho),
      Option.mem_toList] at hlist
    refine hlist.trans (exists_congr fun job => and_congr_right fun _ =>
      ⟨Job.place_eq_helper, fun hs => ?_⟩)
    rcases hs with ⟨hs | hs, hi⟩ <;> rw [Job.place, hs, hi]
  slotState := by
    intro j job hj
    have hstate : job.state = .sending ∨ job.state = .dispatched →
        job.slotIndex < limits.helperCount ∧
          ((job.state = .sending ∧ (s.helpers job.slotIndex).state = .sending) ∨
            (job.state = .dispatched ∧ (s.helpers job.slotIndex).state = .busy)) := by
      intro hs
      obtain ⟨held, hheld, _, hi, _, hstate⟩ := h.held_open (h.holds hj hs)
      rw [hj] at hheld
      cases hheld
      exact ⟨hi, hstate⟩
    refine ⟨fun hs => ?_, fun hs => ?_⟩
    · obtain ⟨hi, hslot⟩ := hstate (Or.inl hs)
      exact ⟨hi, (hslot.resolve_right fun hd => by rw [hs] at hd; cases hd.1).2⟩
    · obtain ⟨hi, hslot⟩ := hstate (Or.inr hs)
      exact ⟨hi, (hslot.resolve_left fun hd => by rw [hs] at hd; cases hd.1).2⟩
  slotUsed := by
    intro i hi hs hnone
    have hslot := h.slots i hi fun ho => by cases ho
    unfold SlotSound at hslot
    rw [show ((s.board none none).helpers i).job = none from hnone] at hslot
    obtain ⟨hsend, hbusy⟩ := hslot rfl
    exact hs.elim hsend hbusy
  completed := by
    refine ⟨h.lists.nodup .completions, fun j => (h.list_iff .completions j).trans ?_⟩
    refine exists_congr fun job => and_congr_right fun _ => ⟨Job.place_eq_completions, fun hs => ?_⟩
    rw [Job.place, hs]
  queueCount := h.queue_count
  jobCount := ⟨h.count, nodup_chain h.hash, h.mem_jobList⟩
  jobCount_le := h.count_le
  orphaned_iff := fun j job hj => h.orphaned_iff hj
  interested := by
    intro j job hj hc ho
    refine ((h.open_of_live hj hc).resolve_right fun horphan => ?_).interested
    rw [horphan.2.orphaned] at ho
    cases ho
  priority_iff := by
    intro j job hj hc
    rcases h.open_of_live hj hc with hw | ⟨_, ho⟩
    · exact hw.priority
    · rw [ho.priority, ho.interactive]
      simp
  noPayload := fun j job hj hc => h.payload j job hj nofun hc

end Reading

/-- **Every job is where its state says, after every call of every run.** -/
theorem run_jobPlacement (limits : SupervisorLimits) (now : Timespec) (spawns : Nat → Spawn)
    (calls : List Call) : JobPlacement limits (run limits now spawns calls) :=
  (run_placed spawns calls).jobPlacement

end MinecraftRelay
