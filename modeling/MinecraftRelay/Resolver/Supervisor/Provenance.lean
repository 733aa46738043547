/-
  File:      Resolver/Supervisor/Provenance.lean
  Subject:   WHERE THE PAYLOADS COME FROM.

  The history says of every job what its latest attempt is: the query id it was given, and, once
  its request was sent, the time and the deadline of that dispatch (`attemptOf`).  The invariant
  ties the assembly of a job to that attempt, so that

  * a query id is given out once, and is not zero;
  * a packet is accepted only if it bears the id of the attempt its job was dispatched for;
  * a result is published only for that attempt, for the question of its entry, and with a
    completion time from the dispatch up to the deadline and the present;
  * every payload in the cache is a published result.

  `Move.provenance` is the step, `run_publicationProvenance` the result for whole runs.
-/
import MinecraftRelay.Resolver.Supervisor.Runs

namespace MinecraftRelay

open Placement
open Function (update update_of_ne update_self)

variable {limits : SupervisorLimits} {b b' : Board} {j : JobId} {job job' : Job} {a : Assembly}

/-! ## 1. Reading the history -/

/-- The latest attempt of a job. -/
inductive Attempt where
  | assigned (entry : EntryId) (queryId : Nat)
  | sent (entry : EntryId) (queryId : Nat) (dispatchedAt deadline : Timespec)
deriving Repr, DecidableEq

/-- The latest attempt of job `j`, in a history whose newest event stands first. -/
def attemptOf : List TraceEvent → JobId → Option Attempt
  | [], _ => none
  | .assigned k entry queryId :: earlier, j =>
    if k = j then some (.assigned entry queryId) else attemptOf earlier j
  | .sent k dispatchedAt deadline :: earlier, j =>
    if k = j then
      match attemptOf earlier j with
      | some (.assigned entry queryId) => some (.sent entry queryId dispatchedAt deadline)
      | _ => none
    else attemptOf earlier j
  | .called _ :: earlier, j => attemptOf earlier j
  | .accepted .. :: earlier, j => attemptOf earlier j
  | .published .. :: earlier, j => attemptOf earlier j

/-- The query ids given out. -/
def assignedIds : List TraceEvent → List Nat
  | [] => []
  | .assigned _ _ queryId :: earlier => queryId :: assignedIds earlier
  | .called _ :: earlier => assignedIds earlier
  | .sent .. :: earlier => assignedIds earlier
  | .accepted .. :: earlier => assignedIds earlier
  | .published .. :: earlier => assignedIds earlier

/-- What an event of the history has to be able to show, from the events before it. -/
def Vouched (earlier : List TraceEvent) : TraceEvent → Prop
  | .called _ => True
  | .sent .. => True
  | .assigned _ _ queryId => queryId ≠ 0 ∧ queryId ∉ assignedIds earlier
  | .accepted j packet => ∃ entry queryId dispatchedAt deadline header,
      attemptOf earlier j = some (.sent entry queryId dispatchedAt deadline) ∧
        packetInspect packet = .ok header ∧ header.queryId = queryId
  | .published j entry entryName response now => ∃ dispatchedAt deadline,
      attemptOf earlier j = some (.sent entry response.queryId dispatchedAt deadline) ∧
        response.queryId ≠ 0 ∧ response.payload.questionName = entryName ∧
        dispatchedAt ≤ response.completedAt ∧ response.completedAt ≤ deadline ∧
        response.completedAt ≤ now

/-- Every event can show it. -/
def TraceVouched : List TraceEvent → Prop
  | [] => True
  | event :: earlier => Vouched earlier event ∧ TraceVouched earlier

theorem TraceVouched.event {later earlier : List TraceEvent} {event : TraceEvent}
    (h : TraceVouched (later ++ event :: earlier)) : Vouched earlier event := by
  induction later with
  | nil => exact h.1
  | cons _ later ih => exact ih h.2

theorem TraceVouched.nodup {trace : List TraceEvent} (h : TraceVouched trace) :
    (assignedIds trace).Nodup := by
  induction trace with
  | nil => exact List.nodup_nil
  | cons event earlier ih =>
    cases event with
    | assigned k entry queryId => exact List.nodup_cons.2 ⟨h.1.2, ih h.2⟩
    | called now => exact ih h.2
    | sent k dispatchedAt deadline => exact ih h.2
    | accepted k packet => exact ih h.2
    | published k entry entryName response now => exact ih h.2

/-! ## 2. The invariant -/

/-- The attempt that the fields of a job describe. -/
def Job.attempt (job : Job) : Attempt :=
  if job.state = .dispatched then .sent job.entry job.queryId job.dispatchedAt job.deadline
  else .assigned job.entry job.queryId

/-- The assembly of a job is that of its latest attempt. -/
structure Sourced (trace : List TraceEvent) (j : JobId) (job : Job) (a : Assembly) : Prop where
  queryId : a.queryId = job.queryId
  ne_zero : job.queryId ≠ 0
  expected : Normalized a.expectedName
  question : a.QuestionExpected
  attempt : attemptOf trace j = some job.attempt

/-- **The provenance invariant.** -/
structure Provenance (b : Board) : Prop where
  trace : TraceVouched b.trace
  ids : ∀ q ∈ assignedIds b.trace, b.nextQueryId = 0 ∨ q < b.nextQueryId
  nextQueryId_le : b.nextQueryId ≤ uint64Max
  jobs : ∀ j job a, b.jobs j = some job → job.assembly = some a → Sourced b.trace j job a
  payloads : ∀ e p, b.cache.payload e = some p → ∃ j entryName response now,
    .published j e entryName response now ∈ b.trace ∧ response.payload = p.result ∧
      response.completedAt = p.completedAt

/-- Nothing that an assembly depends on has changed. -/
theorem Sourced.congr {trace : List TraceEvent} (h : Sourced trace j job a)
    (hid : job'.queryId = job.queryId) (hattempt : job'.attempt = job.attempt) :
    Sourced trace j job' a :=
  ⟨h.queryId.trans hid.symm, hid ▸ h.ne_zero, h.expected, h.question,
    h.attempt.trans (congrArg some hattempt.symm)⟩

theorem Sourced.kept {trace : List TraceEvent} {a' : Assembly} (h : Sourced trace j job a)
    (hk : Kept a a') : Sourced trace j { job with assembly := some a' } a' :=
  ⟨hk.queryId.trans h.queryId, h.ne_zero, hk.expectedName ▸ h.expected, hk.question h.question,
    h.attempt⟩

namespace Provenance

/-- One job changes, and with it the part of the history that speaks of it. -/
theorem jobs_edit (h : Provenance b) {trace : List TraceEvent}
    (hother : ∀ k, k ≠ j → attemptOf trace k = attemptOf b.trace k)
    (hnew : ∀ a, job'.assembly = some a → Sourced trace j job' a) :
    ∀ k x a, update b.jobs j (some job') k = some x → x.assembly = some a →
      Sourced trace k x a := by
  intro k x a hx ha
  rcases update_some hx with ⟨rfl, rfl⟩ | ⟨hne, hx⟩
  · exact hnew a ha
  · have hk := h.jobs k x a hx ha
    exact ⟨hk.queryId, hk.ne_zero, hk.expected, hk.question, (hother k hne).trans hk.attempt⟩

/-- One job changes in what its assembly does not depend on, or gives the assembly up. -/
theorem edit (h : Provenance b) (hj : b.jobs j = some job)
    (hs : job'.assembly = none ∨ (job'.assembly = job.assembly ∧ job'.queryId = job.queryId ∧
      job'.attempt = job.attempt)) :
    ∀ k x a, update b.jobs j (some job') k = some x → x.assembly = some a →
      Sourced b.trace k x a := by
  refine h.jobs_edit (fun _ _ => rfl) fun a ha => ?_
  rcases hs with hnone | ⟨hassembly, hid, hattempt⟩
  · rw [hnone] at ha
    cases ha
  · exact (h.jobs j job a hj (hassembly ▸ ha)).congr hid hattempt

/-- One event more, which speaks of no attempt. -/
theorem jobs_trace (h : Provenance b) {event : TraceEvent}
    (hsame : ∀ k, attemptOf (event :: b.trace) k = attemptOf b.trace k) :
    ∀ k x a, b.jobs k = some x → x.assembly = some a → Sourced (event :: b.trace) k x a := by
  intro k x a hx ha
  have hk := h.jobs k x a hx ha
  exact ⟨hk.queryId, hk.ne_zero, hk.expected, hk.question, (hsame k).trans hk.attempt⟩

theorem payloads_trace (h : Provenance b) (event : TraceEvent) :
    ∀ e p, b.cache.payload e = some p → ∃ j entryName response now,
      .published j e entryName response now ∈ event :: b.trace ∧ response.payload = p.result ∧
        response.completedAt = p.completedAt := by
  intro e p hp
  obtain ⟨j, entryName, response, now, hmem, hpublished⟩ := h.payloads e p hp
  exact ⟨j, entryName, response, now, List.mem_cons_of_mem _ hmem, hpublished⟩

theorem jobs_free (h : Provenance b) :
    ∀ k x a, update b.jobs j none k = some x → x.assembly = some a →
      Sourced b.trace k x a :=
  fun k x a hx ha => h.jobs k x a (update_none hx).2 ha

end Provenance

/-! ## 3. Every move keeps it -/

theorem queryIdNext_le {q : Nat} (h : q ≤ uint64Max) : queryIdNext q ≤ uint64Max := by
  unfold queryIdNext
  split <;> omega

/-- An id below the counter stays below it until the counter is used up. -/
theorem lt_queryIdNext {q n : Nat} (h : q ≤ n) : queryIdNext n = 0 ∨ q < queryIdNext n := by
  unfold queryIdNext
  split
  · exact Or.inl rfl
  · exact Or.inr (Nat.lt_succ_of_le h)

/-- While ids are left, those given out are below the counter. -/
theorem Provenance.lt_next (h : Provenance b) (hq : b.nextQueryId ≠ 0) {q : Nat}
    (hmem : q ∈ assignedIds b.trace) : q < b.nextQueryId :=
  (h.ids q hmem).resolve_left hq

theorem nameNormalize_nil : nameNormalize [] = none := rfl

/-- A question that the cache accepts is the expected one, and it is the name of the entry. -/
theorem Assembly.QuestionExpected.entryName {question entryName : Bytes}
    (h : a.QuestionExpected) (hn : Normalized a.expectedName) (hq : question = a.questionName)
    (hname : nameNormalize question = some entryName) : question = entryName := by
  rcases h with hnil | hexpected
  · rw [hq, hnil, nameNormalize_nil] at hname
    cases hname
  · rw [hq, hexpected, hn.nameNormalize_eq] at hname
    rw [hq, hexpected]
    exact Option.some.inj hname

section Attempts

variable {trace : List TraceEvent}

theorem attemptOf_assigned_self (e : EntryId) (q : Nat) :
    attemptOf (.assigned j e q :: trace) j = some (.assigned e q) := if_pos rfl

theorem attemptOf_assigned_ne {k : JobId} (hk : k ≠ j) (e : EntryId) (q : Nat) :
    attemptOf (.assigned j e q :: trace) k = attemptOf trace k := if_neg (Ne.symm hk)

theorem attemptOf_sent_self {e : EntryId} {q : Nat} (h : attemptOf trace j = some (.assigned e q))
    (dispatchedAt deadline : Timespec) :
    attemptOf (.sent j dispatchedAt deadline :: trace) j =
      some (.sent e q dispatchedAt deadline) := by
  show (if j = j then _ else _) = _
  rw [if_pos rfl, h]

theorem attemptOf_sent_ne {k : JobId} (hk : k ≠ j) (dispatchedAt deadline : Timespec) :
    attemptOf (.sent j dispatchedAt deadline :: trace) k = attemptOf trace k := if_neg (Ne.symm hk)

end Attempts

theorem Job.attempt_sent (h : job.state = .dispatched) :
    job.attempt = .sent job.entry job.queryId job.dispatchedAt job.deadline := if_pos h

theorem Job.attempt_assigned (h : job.state ≠ .dispatched) :
    job.attempt = .assigned job.entry job.queryId := if_neg h

namespace Provenance

theorem assign (h : Provenance b) {i : Nat} {deadline : Timespec} (hq : b.nextQueryId ≠ 0)
    (hs : job.state ≠ .dispatched) (hid : a.queryId = b.nextQueryId)
    (hn : Normalized a.expectedName) (hquestion : a.questionName = []) :
    Provenance { b with
      jobs := update b.jobs j (some { job with
        deadline, assembly := some a, queryId := b.nextQueryId, slotIndex := i })
      nextQueryId := queryIdNext b.nextQueryId
      trace := .assigned j job.entry b.nextQueryId :: b.trace } where
  trace := ⟨⟨hq, fun hmem => Nat.lt_irrefl _ (h.lt_next hq hmem)⟩, h.trace⟩
  ids := by
    intro q hmem
    rcases List.mem_cons.1 hmem with rfl | hmem
    · exact lt_queryIdNext (Nat.le_refl _)
    · exact lt_queryIdNext (Nat.le_of_lt (h.lt_next hq hmem))
  nextQueryId_le := queryIdNext_le h.nextQueryId_le
  jobs := by
    refine h.jobs_edit (fun k hk => attemptOf_assigned_ne hk ..) fun a' ha' => ?_
    cases ha'
    refine ⟨hid, hq, hn, Or.inl hquestion, ?_⟩
    rw [attemptOf_assigned_self, Job.attempt_assigned]
    exact hs
  payloads := h.payloads_trace _

/-- The request of the latest attempt is sent. -/
theorem send (h : Provenance b) (hj : b.jobs j = some job) (hd : job.state ≠ .dispatched)
    (now deadline : Timespec) :
    Provenance { b with
      jobs := update b.jobs j (some { job with
        state := .dispatched, dispatchedAt := now, deadline })
      trace := .sent j now deadline :: b.trace } where
  trace := ⟨trivial, h.trace⟩
  ids := h.ids
  nextQueryId_le := h.nextQueryId_le
  jobs := by
    refine h.jobs_edit (fun k hk => attemptOf_sent_ne hk ..) fun a ha => ?_
    have hsource := h.jobs j job a hj ha
    refine ⟨hsource.queryId, hsource.ne_zero, hsource.expected, hsource.question, ?_⟩
    have hattempt := hsource.attempt
    rw [Job.attempt_assigned hd] at hattempt
    rw [attemptOf_sent_self hattempt]
    rfl
  payloads := h.payloads_trace _

section

variable (h : Provenance b) (hj : b.jobs j = some job) (hs : job.state = .dispatched)
  (ha : job.assembly = some a)

include h hj hs ha

/-- A packet is accepted: it bears the id of the dispatch. -/
theorem accept {a' : Assembly} (hk : Kept a a') {packet : Bytes}
    {header : PacketHeader} (hheader : packetInspect packet = .ok header)
    (hid : header.queryId = a.queryId) :
    Provenance { b with
      jobs := update b.jobs j (some { job with assembly := some a' })
      trace := .accepted j packet :: b.trace } where
  trace := by
    have hsource := h.jobs j job a hj ha
    refine ⟨⟨job.entry, job.queryId, job.dispatchedAt, job.deadline, header, ?_, hheader,
      hid.trans hsource.queryId⟩, h.trace⟩
    rw [hsource.attempt, Job.attempt_sent hs]
  ids := h.ids
  nextQueryId_le := h.nextQueryId_le
  jobs := by
    refine h.jobs_edit (fun _ _ => rfl) fun a'' ha'' => ?_
    cases ha''
    have hsource := (h.jobs j job a hj ha).kept hk
    exact ⟨hsource.queryId, hsource.ne_zero, hsource.expected, hsource.question, hsource.attempt⟩
  payloads := h.payloads_trace _

/-- **A result is published**: it is that of the dispatch, in its time, for the entry's name. -/
theorem publish {c : Cache} {kind : MetricsPayloadKind} {entryName : Bytes}
    {response : AssemblyResult} {now : Timespec} (hid : response.queryId = a.queryId)
    (hquestion : response.payload.questionName = a.questionName)
    (hname : nameNormalize response.payload.questionName = some entryName)
    (hafter : job.dispatchedAt ≤ response.completedAt)
    (hdeadline : response.completedAt ≤ job.deadline) (hnow : response.completedAt ≤ now)
    (hst : Stored b.cache c job.entry kind response.completedAt response.payload) :
    Provenance { b with
      cache := c
      trace := .published j job.entry entryName response now :: b.trace } where
  trace := by
    have hsource := h.jobs j job a hj ha
    have hqueryId : response.queryId = job.queryId := hid.trans hsource.queryId
    refine ⟨⟨job.dispatchedAt, job.deadline, ?_, hqueryId ▸ hsource.ne_zero,
      hsource.question.entryName hsource.expected hquestion hname, hafter, hdeadline, hnow⟩,
        h.trace⟩
    rw [hsource.attempt, Job.attempt_sent hs, hqueryId]
  ids := h.ids
  nextQueryId_le := h.nextQueryId_le
  jobs := h.jobs_trace fun _ => rfl
  payloads := by
    intro e p hp
    by_cases he : e = job.entry
    · subst he
      obtain ⟨p', hp', hcompleted, hresult, _⟩ := hst.payload
      have hsame : p' = p := Option.some.inj (hp'.symm.trans hp)
      subst hsame
      exact ⟨j, entryName, response, now, List.mem_cons_self, hresult.symm, hcompleted.symm⟩
    · exact h.payloads_trace _ e p ((hst.other e he).symm.trans hp)

end

end Provenance

/-- **Every move keeps the provenance invariant.** -/
theorem Move.provenance {ls : List Label} (hm : Move limits b ls b') (h : Provenance b) :
    Provenance b' := by
  cases hm with
  | called now =>
    exact { h with
      trace := ⟨trivial, h.trace⟩
      jobs := h.jobs_trace fun _ => rfl
      payloads := h.payloads_trace _ }
  | advance now _ => exact { h with }
  | cache c hk =>
    refine { h with payloads := fun e p hp => h.payloads e p ?_ }
    rcases hk e with hsame | hnone
    · exact hsame.symm.trans hp
    · exact nomatch hnone.symm.trans hp
  | unqueue j job hl hj hs => exact { h with }
  | enqueue j job ids hl hj hw ha hp hids => exact { h with jobs := h.edit hj (Or.inl ha) }
  | wake j job hl hj hs => exact { h with }
  | wait j job hl hj hw ha hp => exact { h with jobs := h.edit hj (Or.inl ha) }
  | complete j job publication response hl hj ho ha =>
    exact { h with jobs := h.edit hj (Or.inl ha) }
  | uncomplete j job hl hj hs => exact { h with }
  | openSlot i ho hh => exact { h with }
  | closeSlot i ho hj hs => exact { h with }
  | helper i helper hh => exact { h with }
  | lift i j hl ho hh => exact { h with }
  | send i j job now deadline hl ho hi hj hd =>
    exact { h.send hj hd now deadline with }
  | park i j job hl ho hi hj hd =>
    refine { h with jobs := h.edit hj (Or.inr ⟨rfl, rfl, ?_⟩) }
    rw [Job.attempt_assigned hd, Job.attempt_assigned]
    exact nofun
  | halt => exact { h with }
  | halted _ => exact { h with }
  | burn hq =>
    exact { h with
      ids := fun q hmem => lt_queryIdNext (Nat.le_of_lt (h.lt_next hq hmem))
      nextQueryId_le := queryIdNext_le h.nextQueryId_le }
  | assign i j job a deadline hl hj ha hq hs hid hn hquestion =>
    exact h.assign hq hs hid hn hquestion
  | feed j job a a' hj hs ha hk =>
    refine { h with jobs := h.jobs_edit (fun _ _ => rfl) fun a'' ha'' => ?_ }
    cases ha''
    exact (h.jobs j job a hj ha).kept hk
  | accept j job a a' packet header hj hs ha hk hheader hid =>
    exact h.accept hj hs ha hk hheader hid
  | drop j job hl hj => exact { h with jobs := h.edit hj (Or.inl rfl) }
  | retime j job job' hl hj hr =>
    refine { h with jobs := h.edit hj (Or.inr ⟨by rw [hr.same], by rw [hr.same], ?_⟩) }
    have hs : job'.state = job.state := by rw [hr.same]
    have he : job'.entry = job.entry := by rw [hr.same]
    have hq : job'.queryId = job.queryId := by rw [hr.same]
    have hat : job'.dispatchedAt = job.dispatchedAt := by rw [hr.same]
    by_cases hd : job.state = .dispatched
    · rw [Job.attempt_sent hd, Job.attempt_sent (hs.trans hd), he, hq, hat, hr.deadline hd]
    · rw [Job.attempt_assigned hd, Job.attempt_assigned (hs ▸ hd), he, hq]
  | publish j job a c kind entryName response now hl hj hs ha hid hquestion hname hafter hdeadline
      hnow hst =>
    exact h.publish hj hs ha hid hquestion hname hafter hdeadline hnow hst
  | create job priority hl hcount hnew ha =>
    refine { h with jobs := h.jobs_edit (fun _ _ => rfl) fun a ha' => ?_ }
    rw [ha] at ha'
    cases ha'
  | join j job priority priority' hj hc hs =>
    exact { h with jobs := h.edit hj (Or.inr ⟨by simp, by simp, by simp [Job.attempt]⟩) }
  | leave j job priority priority' orphaned hj hc hi hs =>
    exact { h with jobs := h.edit hj (Or.inr ⟨by simp, by simp, by simp [Job.attempt]⟩) }
  | free j job hl hj => exact { h with jobs := h.jobs_free }

theorem Moves.provenance (hm : Moves limits b b') (h : Provenance b) : Provenance b' := by
  obtain ⟨ls, hs⟩ := hm
  induction hs with
  | refl b => exact h
  | cons hm _ ih => exact ih (hm.provenance h)

/-! ## 4. Runs -/

theorem provenance_supervisorEmpty (limits : CacheLimits) (now : Timespec) :
    Provenance ((supervisorEmpty (cacheCreate limits) now).board none none) where
  trace := trivial
  ids := by
    intro q hq
    exact absurd hq List.not_mem_nil
  nextQueryId_le := Nat.le_of_ble_eq_true rfl
  jobs := by
    intro j job a hj
    exact nomatch (show (none : Option Job) = some job from hj)
  payloads := by
    intro e p hp
    exact nomatch (show (none : Option Payload) = some p from hp)

/-- What the history and the cache of a run show about publications. -/
structure PublicationProvenance (s : Supervisor) : Prop where
  /-- Query ids are given out once, and are not zero. -/
  ids_nodup : (assignedIds s.trace).Nodup
  ids_ne_zero : ∀ later j entry queryId earlier,
    s.trace = later ++ .assigned j entry queryId :: earlier → queryId ≠ 0
  /-- A packet is accepted only with the id of the dispatch that its job is at. -/
  accepted : ∀ later j packet earlier, s.trace = later ++ .accepted j packet :: earlier →
    ∃ entry queryId dispatchedAt deadline header,
      attemptOf earlier j = some (.sent entry queryId dispatchedAt deadline) ∧
        packetInspect packet = .ok header ∧ header.queryId = queryId
  /-- A result is published for the dispatch that its job is at, for the question of its entry,
      and completed between the dispatch and the smaller of deadline and present. -/
  published : ∀ later j entry entryName response now earlier,
    s.trace = later ++ .published j entry entryName response now :: earlier →
    ∃ dispatchedAt deadline,
      attemptOf earlier j = some (.sent entry response.queryId dispatchedAt deadline) ∧
        response.queryId ≠ 0 ∧ response.payload.questionName = entryName ∧
        dispatchedAt ≤ response.completedAt ∧ response.completedAt ≤ min deadline now
  /-- Every payload in the cache was published. -/
  payload : ∀ e p, s.cache.payload e = some p → ∃ j entryName response now,
    .published j e entryName response now ∈ s.trace ∧ response.payload = p.result ∧
      response.completedAt = p.completedAt

theorem Provenance.vouched {later earlier : List TraceEvent} {event : TraceEvent}
    (h : Provenance b) (htrace : b.trace = later ++ event :: earlier) : Vouched earlier event := by
  have hvouched := h.trace
  rw [htrace] at hvouched
  exact hvouched.event

theorem Provenance.publication {s : Supervisor} (h : Provenance (s.board none none)) :
    PublicationProvenance s where
  ids_nodup := h.trace.nodup
  ids_ne_zero := by
    intro later j entry queryId earlier htrace
    exact (h.vouched htrace).1
  accepted := by
    intro later j packet earlier htrace
    exact h.vouched htrace
  published := by
    intro later j entry entryName response now earlier htrace
    obtain ⟨dispatchedAt, deadline, hattempt, hid, hname, hafter, hdeadline, hnow⟩ :=
      h.vouched htrace
    exact ⟨dispatchedAt, deadline, hattempt, hid, hname, hafter, le_min hdeadline hnow⟩
  payload := h.payloads

/-- **Every payload of every run comes from the current dispatch of its entry's job.** -/
theorem run_publicationProvenance (limits : SupervisorLimits) (now : Timespec)
    (spawns : Nat → Spawn) (calls : List Call) :
    PublicationProvenance (run limits now spawns calls) :=
  ((run_moves spawns calls).provenance (provenance_supervisorEmpty _ now)).publication

end MinecraftRelay
