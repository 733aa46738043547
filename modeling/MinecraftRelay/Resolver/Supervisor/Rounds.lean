/-
  File:      Resolver/Supervisor/Rounds.lean
  Subject:   ANSWERS, EVENTS, TIMERS AND INTERESTS refine the job board and keep the books
             (supervisor.c).

  The functions above dispatch, each with its `Course`; what they need of jobs, helpers and queues
  is Refinement.lean.
-/
import MinecraftRelay.Resolver.Supervisor.Refinement

namespace MinecraftRelay

open Placement
open Function (update update_eq_self update_idem update_self)

variable {limits : SupervisorLimits} {s : Supervisor} {L : Option JobId} {H : Option Nat} {q : Bool}
  {i : Nat} {j : JobId} {job : Job} {t : Timespec}

variable {s' : Supervisor} {response : AssemblyResult} {e : EntryId} {env : SendEnv}
  {W : Wait → Prop} {refs : EntryId → Nat} {hand : Option JobId}

/-! ## 1. Answers -/

/-! What is counted, and what the cache gets, does not depend on the jobs. -/

section Commute

variable (x : Job)

theorem incrementAttempt_setJob (e : EntryId) (counter : AttemptCounter) :
    (s.setJob j x).incrementAttempt e counter = (s.incrementAttempt e counter).setJob j x := by
  unfold Supervisor.incrementAttempt
  rw [show (s.setJob j x).entryQueryType e = s.entryQueryType e from rfl]
  split <;> rfl

theorem responseRecord_setJob :
    responseRecord (s.setJob j x) job response = (responseRecord s job response).setJob j x := by
  unfold responseRecord
  dsimp only
  rw [incrementAttempt_setJob]
  generalize s.incrementAttempt job.entry (.response response.status) = s₁
  have hobserve : ∀ s₂ : Supervisor, (s₂.setJob j x).observeDuration job.entry .attemptDuration
      job.dispatchedAt response.completedAt = (s₂.observeDuration job.entry .attemptDuration
        job.dispatchedAt response.completedAt).setJob j x := by
    intro s₂
    unfold Supervisor.observeDuration
    rw [show (s₂.setJob j x).entryQueryType job.entry = s₂.entryQueryType job.entry from rfl]
    split <;> rfl
  split
  · rw [incrementAttempt_setJob, hobserve]
  · rw [hobserve]

theorem answerPublish_setJob (allocated : Bool) :
    answerPublish limits (s.setJob j x) j job response t allocated =
      ((answerPublish limits s j job response t allocated).1.setJob j x,
        (answerPublish limits s j job response t allocated).2) := by
  unfold answerPublish resultPublish
  rw [show (s.setJob j x).cache = s.cache from rfl]
  split
  · cases response.payload <;> (dsimp only; split <;> rfl)
  · rfl

end Commute

/-- **A publication changes the cache only**: it stores the answer of its entry's question, or
    shows no new payload. -/
theorem resultPublish_cases (limits : SupervisorLimits) (e : EntryId)
    (response : AssemblyResult) (allocated : Bool) :
    ∃ cache, (resultPublish limits s e response allocated).1 = { s with cache } ∧
      (((resultPublish limits s e response allocated).2.1 = .stored ∧ ∃ entry kind,
          s.cache.entries e = some entry ∧
          nameNormalize response.payload.questionName = some entry.name ∧
          Stored s.cache cache e kind response.completedAt response.payload) ∨
        ((resultPublish limits s e response allocated).2.1 ≠ .stored ∧
          PayloadsKept s.cache cache)) := by
  unfold resultPublish
  split
  · rename_i result hresult
    refine ⟨_, rfl, ?_⟩
    rw [hresult]
    rcases entryPublish_cases (Prod.eta (entryPublish limits.toCacheLimits s.cache e
      .srv (srvResultValidate · response.status result) (resultSize sizeofSrvRecord result)
      response.completedAt result allocated)).symm with
      ⟨hs, entry, ttl, kind, hentry, hvalid, hst⟩ | hkept
    · exact Or.inl ⟨hs, entry, kind, hentry, resultValidate_question hvalid, hst⟩
    · exact Or.inr hkept
  · rename_i result hresult
    refine ⟨_, rfl, ?_⟩
    rw [hresult]
    rcases entryPublish_cases (Prod.eta (entryPublish limits.toCacheLimits s.cache e
      .address (addressResultValidate · response.status result)
      (resultSize sizeofAddressRecord result) response.completedAt result allocated)).symm with
      ⟨hs, entry, ttl, kind, hentry, hvalid, hst⟩ | hkept
    · exact Or.inl ⟨hs, entry, kind, hentry, resultValidate_question hvalid, hst⟩
    · exact Or.inr hkept

/-- The cache keeps the answer of the job in the hand, or not; the job's entry has its type. -/
theorem resultPublish_booked (response : AssemblyResult) (allocated : Bool)
    (h : Booked limits W refs s.books (some j)) (hj : s.jobs j = some job) :
    Booked limits W refs (resultPublish limits s job.entry response allocated).1.books (some j) ∧
      (resultPublish limits s job.entry response allocated).1.books.typeOf job.entry =
        s.books.typeOf job.entry := by
  have hpos := Nat.zero_lt_of_lt (h.referenced hj)
  unfold resultPublish
  cases response.payload with
  | srv result => exact ⟨h.publish, Books.typeOf_counted entryPublish_counted hpos hpos⟩
  | address result => exact ⟨h.publish, Books.typeOf_counted entryPublish_counted hpos hpos⟩

/-- What is left of an answer after the publication is fit for the owners of the entry. -/
theorem resultPublish_deliverable (limits : SupervisorLimits) (s : Supervisor) (e : EntryId)
    {type : Option QueryType} (allocated : Bool) (hd : Deliverable type .stored response) :
    Deliverable type (resultPublish limits s e response allocated).2.1
      (resultPublish limits s e response allocated).2.2 := by
  have hpayload := hd.payload
  unfold resultPublish
  split
  -- the same check for both kinds of records
  all_goals
    rename_i result hresult
    rw [hresult] at hpayload
    refine ⟨hd.type, hd.status, hd.time, hpayload, fun htransient hok => ?_⟩
    obtain ⟨hafter, entry, v, hvalid⟩ := entryPublish_transient
      (Prod.ext rfl (Prod.ext htransient rfl))
    rw [show response.status = .ok from hok] at hvalid
    exact Eq.subst (motive := fun r => 0 < r.records.length ∧ r.records.length ≤ _) hafter.symm
      (resultValidate_records hvalid)

theorem Assembly.payload_kind (a : Assembly) : match a.payload with
    | .address _ => a.queryType ≠ .srv
    | .srv _ => a.queryType = .srv := by
  unfold Assembly.payload
  by_cases h : a.queryType = .srv
  · rw [if_pos h]
    exact h
  · rw [if_neg h]
    exact h

/-- A job whose answer has arrived in time, with the assembly the answer was taken from. -/
structure Answered (job : Job) (a : Assembly) (response : AssemblyResult) (t : Timespec) :
    Prop where
  state : job.state = .dispatched
  assembly : job.assembly = some a
  queryId : response.queryId = a.queryId
  queryType : response.queryType = a.queryType
  payload : response.payload = a.payload
  valid : timeutilValid response.completedAt = true
  after : job.dispatchedAt ≤ response.completedAt
  deadline : response.completedAt ≤ job.deadline
  t : response.completedAt ≤ t

theorem responseRecord_frame (job : Job) (response : AssemblyResult) :
    (responseRecord s job response).jobs = s.jobs ∧
      (responseRecord s job response).cache = s.cache := by
  have h := board_responseRecord s none none false job response
  exact ⟨congrArg Board.jobs h, congrArg Board.cache h⟩

/-- The answer of a DISPATCHED job is counted, which takes the job into the hand. -/
theorem responseRecord_course (hj : s.jobs j = some job) (hd : job.state = .dispatched) :
    Course limits t q ⟨s, L, H, none⟩ [] ⟨responseRecord s job response, L, H, some j⟩ where
  steps := by
    rw [board_responseRecord]
    exact .refl _
  booked := fun _ h => by
    obtain ⟨type, ht⟩ := h.typed hj
    have houtcome : AttemptCounter.response response.status ∈ attemptOutcomes := by
      cases response.status <;> decide
    have hsettled := h.settle .attempt hj hd ht houtcome
    unfold responseRecord
    rw [incrementAttempt_eq ht]
    refine observeDuration_booked _ _ _ _ ?_
    split
    · refine incrementAttempt_booked ?_ hsettled
      cases response.status <;> decide
    · exact hsettled

theorem answerPublish_jobs (limits : SupervisorLimits) (s : Supervisor) (j : JobId) (job : Job)
    (response : AssemblyResult) (t : Timespec) (allocated : Bool) :
    (answerPublish limits s j job response t allocated).1.jobs = s.jobs := by
  obtain ⟨cache, hcache, _⟩ := resultPublish_cases limits (s := s) job.entry response allocated
  unfold answerPublish
  split
  · dsimp only
    split <;> rw [hcache]
    rfl
  · rfl

section

variable {a : Assembly} (allocated : Bool) (hj : s.jobs j = some job)

include hj

/-- **The publication of an answer**, while its job still has the assembly it was taken from. -/
theorem answerPublish_course (hanswer : Answered job a response t) :
    Course limits t q ⟨s, some j, H, some j⟩ []
      ⟨(answerPublish limits s j job response t allocated).1, some j, H, some j⟩ where
  steps := by
    obtain ⟨cache, hcache, hcases⟩ := resultPublish_cases limits (s := s) job.entry
      response allocated
    unfold answerPublish
    split
    · dsimp only
      split
      · rename_i hs
        obtain ⟨_, entry, kind, hentry, hname, hst⟩ := hcases.resolve_right fun h => h.1 hs
        have hquestion : response.payload.questionName = a.questionName := by
          rw [hanswer.payload, Assembly.payload_questionName]
        have hn : ((s.cache.entries job.entry).map (·.name)).getD [] = entry.name := by
          rw [hentry]
          rfl
        rw [hcache, hn]
        exact (Move.publish (s.board (some j) H q) j job a cache kind entry.name response t rfl hj
          hanswer.state hanswer.assembly hanswer.queryId hquestion hname hanswer.after
          hanswer.deadline hanswer.t hst).steps
      · rename_i hs
        rw [hcache]
        exact (Move.cache (s.board (some j) H q) cache
          (hcases.resolve_left fun h => hs h.1).2).steps
    · exact .refl _
  booked := fun _ h => by
    have hpublished := (resultPublish_booked response allocated h hj).1
    unfold answerPublish
    split
    · dsimp only
      split <;> exact hpublished
    · exact h

/-- What is left of the answer is fit for the owners of its job. -/
theorem answerPublish_deliverable (hanswer : Answered job a response t)
    (hstatus : response.status ≠ .temporaryError) (h : Booked limits W refs s.books (some j)) :
    Deliverable ((answerPublish limits s j job response t allocated).1.books.typeOf job.entry)
      (answerPublish limits s j job response t allocated).2.1
      (answerPublish limits s j job response t allocated).2.2 := by
  have htype : s.books.typeOf job.entry = some response.queryType := by
    rw [hanswer.queryType]
    exact (h.fit j job hj).asked a hanswer.assembly
  have hd : Deliverable (s.books.typeOf job.entry) .stored response := by
    refine ⟨htype, hstatus, hanswer.valid, ?_, nofun⟩
    rw [hanswer.payload, hanswer.queryType]
    exact a.payload_kind
  have hleft := resultPublish_deliverable limits s job.entry allocated hd
  rw [← (resultPublish_booked response allocated h hj).2] at hleft
  unfold answerPublish
  split
  · dsimp only
    split <;> exact hleft
  · exact ⟨hd.type, hd.status, hd.time, hd.payload, nofun⟩

/-- **An answer is published, and its job completes, is tried again, or is dropped.**  The source
    frees the assembly first, here it goes once the cache has been served. -/
theorem answerFinish_course (hlive : job.Live s.cache) (hanswer : Answered job a response t) :
    Course limits t q ⟨s, some j, H, none⟩ []
      ⟨answerFinish limits (s.setJob j job.dropped) j job response t allocated, none, H, none⟩ := by
  refine Course.trans (b := ⟨responseRecord s job response, some j, H, some j⟩)
    (responseRecord_course hj hanswer.state) ?_
  unfold answerFinish
  rw [responseRecord_setJob]
  have hframe := responseRecord_frame (s := s) job response
  have hj₁ := (congrFun hframe.1 j).trans hj
  generalize responseRecord s job response = s₁ at hframe hj₁ ⊢
  dsimp only
  split
  · refine ((drop_course hj₁).charge _).trans (jobRetry_course setJob_jobs_self
      hlive.opened.dropped rfl ?_)
    show s₁.cache.payload job.entry = none
    rw [hframe.2]
    exact hlive.payload
  · rename_i hstatus
    rw [answerPublish_setJob]
    have hjobs := answerPublish_jobs limits s₁ j job response t allocated
    have hpublish : Course limits t q _ _ _ := answerPublish_course (H := H) allocated hj₁ hanswer
    have hleft := fun {W refs} => @answerPublish_deliverable limits s₁ j job t response W refs a
      allocated hj₁ hanswer hstatus
    generalize answerPublish limits s₁ j job response t allocated = r at hjobs hpublish hleft ⊢
    have hj₂ := (congrFun hjobs j).trans hj₁
    have hserved := hpublish.trans (drop_course hj₂)
    have hd := hanswer.state
    split
    · -- an orphan: the cache was served, nobody waits
      rename_i ho
      have horphan : job.Orphan := (hlive.opened.resolve_left fun w => by
        rw [w.orphaned] at ho
        cases ho).2
      have hnil : job.dropped.leftover = [] := horphan.leftover
      rw [← hnil]
      exact (hserved.charge _).trans (jobDestroy_course setJob_jobs_self
        (by show job.state ≠ _; rw [hd]; exact nofun) (by show job.state ≠ _; rw [hd]; exact nofun))
    · rename_i ho
      exact ⟨Tau.trans hserved.steps
          (jobComplete_steps setJob_jobs_self (Bool.eq_false_iff.2 ho) rfl),
        fun harms h => jobComplete_booked (hserved.booked harms h) setJob_jobs_self rfl (hleft h)⟩

end

theorem jobTimestampValid_bounds {completedAt : Timespec}
    (h : jobTimestampValid job completedAt t = true) :
    timeutilValid completedAt = true ∧ job.dispatchedAt ≤ completedAt ∧ completedAt ≤ job.deadline ∧
      completedAt ≤ t := by
  unfold jobTimestampValid at h
  simp only [Bool.and_eq_true, decide_eq_true_eq, ne_eq, timeutilCompare_eq_lt,
    timeutilCompare_eq_gt, not_lt] at h
  exact ⟨h.1.1.1, h.1.1.2, h.1.2, h.2⟩

/-- **A busy helper has answered**: its job leaves the slot, or the helper fails. -/
theorem resultFinish_course {allocated : Bool} (h : AtRest limits q s)
    (hbusy : (s.helpers i).state = .busy) :
    Passes limits t q s (resultFinish limits s i t allocated) := by
  have hfail : Passes limits t q s (helperFail limits s i .protocol t) :=
    helperFail_course nofun h
  unfold resultFinish
  split
  · exact hfail
  · rename_i j hh
    obtain ⟨job, hj, hlive, _⟩ := h.held_open hh
    rw [hj]
    dsimp only
    split
    · exact hfail
    · rename_i assembly response htake
      obtain ⟨a, ha, htake⟩ := Option.bind_eq_some_iff.1 htake
      obtain ⟨_, hid, htype, _, hpayload, _⟩ := resultTake_spec htake
      have hlift : Course limits t q s.rest [] ⟨s, some j, some i, none⟩ := lift_course hh
      split
      · -- the answer came too late, or its time is not possible
        refine ((hlift.trans (drop_course hj)).charge _).trans (helperFail_hand_course ?_ hh
          setJob_jobs_self ⟨hlive.opened.dropped, hlive.incomplete, hlive.payload⟩)
        split <;> exact nofun
      · rename_i hvalid
        obtain ⟨hvalid, hafter, hdeadline, hnow⟩ :=
          jobTimestampValid_bounds (Decidable.of_not_not hvalid)
        have hanswer : Answered job a response t :=
          ⟨h.slot_busy hh hbusy hj, ha, hid, htype, hpayload, hvalid, hafter, hdeadline, hnow⟩
        -- the slot is closed, idle
        have hidle := hlift.trans (shutSlot_course { s.helpers i with job := none, state := .idle }
          rfl ⟨nofun, nofun⟩ fun _ h => h)
        generalize hs₂ : ({ s.setJob j job.dropped with
          budget := assemblyDestroy s.budget assembly } : Supervisor).setHelper i _ = s₂
        have hback : s₂.setJob j job = { s.setHelper i { s.helpers i with
            job := none, state := .idle } with budget := assemblyDestroy s.budget assembly } := by
          rw [← hs₂]
          dsimp only [Supervisor.setHelper, Supervisor.setJob]
          rw [update_idem, ← hj, update_eq_self]
        have hcount := helperSuccess_recounted limits (s := s₂) (i := i) (t := t)
        have hreset : Course limits t q s.rest [] ⟨s₂.setJob j job, some j, none, none⟩ :=
          hidle.unseen (by rw [hback]; rfl) (by rw [hback]; rfl)
        have hstart := hreset.trans (hcount.setJob j job).course
        have hdropped : (helperSuccess limits s₂ i t).jobs j = some job.dropped := by
          rw [hcount.jobs, ← hs₂]
          exact setJob_jobs_self
        have hpayload : (helperSuccess limits s₂ i t).cache.payload job.entry = none := by
          rw [hcount.cache, ← hs₂]
          exact hlive.payload
        generalize helperSuccess limits s₂ i t = s₃ at hstart hdropped hpayload ⊢
        have hlast : Course limits t q _ _ _ := answerFinish_course (H := none) (a := a)
          (s := s₃.setJob j job) allocated setJob_jobs_self
          ⟨hlive.opened, hlive.incomplete, hpayload⟩ hanswer
        rw [setJob_setJob, setJob_self hdropped] at hlast
        exact hstart.trans hlast

/-- **One packet of a helper**, whatever it says. -/
theorem drainPacket_course (data : Bytes) (arraysAllocated payloadAllocated : Bool)
    (h : AtRest limits q s) :
    Course limits t q s.rest []
      (drainPacket limits s i t data arraysAllocated payloadAllocated).1.rest := by
  have hfail : Passes limits t q s (helperFail limits s i .protocol t) :=
    helperFail_course nofun h
  unfold drainPacket
  dsimp only
  split
  · exact .refl _
  · split
    · exact hfail
    · rename_i j job hfind
      obtain ⟨k, hh, hk⟩ := Option.bind_eq_some_iff.1 hfind
      obtain ⟨held, hj, heq⟩ := Option.map_eq_some_iff.1 hk
      cases heq
      split
      · exact hfail
      · rename_i hvalid
        have hbusy : (s.helpers i).state = .busy := by
          by_contra hne
          exact hvalid (Or.inr hne)
        have hd := h.slot_busy hh hbusy hj
        split
        · exact hfail
        · rename_i a ha
          have hkept := packetConsume_kept limits.toAssemblyLimits s.budget a data arraysAllocated
          have haccept := packetConsume_accepts limits.toAssemblyLimits s.budget a data
            arraysAllocated
          generalize packetConsume limits.toAssemblyLimits s.budget a data arraysAllocated = r
            at hkept haccept
          have hbooked : ∀ {W refs}, Booked limits W refs s.books none →
              Booked limits W refs (s.setJob j { job with assembly := some r.2.1 }).books none := by
            intro W refs hb
            refine hb.amend _ hj rfl rfl (fun b hassembly => ?_) rfl rfl rfl
            obtain rfl := Option.some.inj hassembly
            rw [hkept.queryType]
            exact (hb.fit j job hj).asked a ha
          have hok : r.2.2 = .ok ∨ r.2.2 = .complete → Passes limits t q s
              (({ s.setJob j { job with assembly := some r.2.1 } with budget := r.1 } :
                Supervisor).record (.accepted j data)) := by
            intro hstatus
            obtain ⟨header, hheader, hid⟩ := haccept hstatus
            exact ⟨(Move.accept (s.board none none q) j job a r.2.1 data header hj hd ha hkept
              hheader hid).steps, fun _ hb => hbooked hb⟩
          split
          · rename_i hcomplete
            have hfed := hok (Or.inr hcomplete)
            exact hfed.trans (resultFinish_course (hfed.placed h) hbusy)
          · rename_i hfine
            exact hok (Or.inl hfine)
          · have hfeed : Passes limits t q s
                ({ s.setJob j { job with assembly := some r.2.1 } with budget := r.1 } :
                  Supervisor) :=
              ⟨(Move.feed (s.board none none q) j job a r.2.1 hj hd ha hkept).steps,
                fun _ hb => hbooked hb⟩
            exact hfeed.trans (helperFail_course nofun (hfeed.placed h))

/-- An idle or stopped helper is stopped. -/
theorem helperStop_course (hfree : (s.helpers i).job = none) :
    Course limits t q ⟨s, L, none, hand⟩ [] ⟨helperStop s i, L, none, hand⟩ :=
  (openSlot_course hfree).trans (shutSlot_course _ hfree ⟨nofun, nofun⟩ fun _ _ => rfl)

theorem Placed.shuttingDown_free (h : AtRest limits q s)
    (hs : (s.helpers i).state = .shuttingDown) : (s.helpers i).job = none :=
  h.slot_free (by rw [hs]; exact nofun) (by rw [hs]; exact nofun)

/-- **Any sequence of packets, and the end of the helper.** -/
theorem drain_course (receives : List Receive) (h : AtRest limits q s) :
    Passes limits t q s (drain limits i t receives s) := by
  induction receives generalizing s with
  | nil => exact .refl _
  | cons receive receives ih =>
    unfold drain
    split
    · exact .refl _
    · cases receive with
      | packet data arraysAllocated payloadAllocated =>
        have hpacket := drainPacket_course (i := i) (t := t) data arraysAllocated payloadAllocated h
        dsimp only
        generalize drainPacket limits s i t data arraysAllocated payloadAllocated = r at hpacket
        obtain ⟨s', goOn⟩ := r
        cases goOn with
        | true => exact hpacket.trans (ih (hpacket.placed h))
        | false => exact hpacket
      | empty isEnd isEndAgain =>
        dsimp only
        split
        · rename_i hs
          split
          · exact helperStop_course (h.shuttingDown_free hs)
          · exact helperFail_course (by split <;> exact nofun) h
        · exact helperFail_course (by split <;> exact nofun) h
      | wouldBlock => exact .refl _
      | failed => exact helperFail_course nofun h

/-! ## 2. Events and timers -/

/-- A free slot gets a new process, or waits for the next attempt. -/
theorem helperSpawn_course (spawn : Spawn) (hfree : (s.helpers i).job = none) :
    Course limits t q ⟨s, L, none, hand⟩ [] ⟨helperSpawn limits s i spawn t, L, none, hand⟩ := by
  have hopen : Course limits t q ⟨s, L, none, hand⟩ []
      ⟨s.increment (.helper .spawnAttempt), L, some i, hand⟩ :=
    (openSlot_course hfree).trans (increment_course id)
  unfold helperSpawn
  have hjob : ((s.increment (.helper .spawnAttempt)).helpers i).job = none := hfree
  generalize s.increment (.helper .spawnAttempt) = s₁ at hopen hjob ⊢
  cases spawn with
  | failed => exact hopen.trans (respawnWith_course hjob rfl)
  | unregistered processId => exact hopen.trans (respawnWith_course hjob rfl)
  | started processId =>
    refine (hopen.trans (shutSlot_course _ ?_ ?_ fun hv _ => ?_)).trans
      (increment_course id)
    · exact hjob
    · exact ⟨nofun, nofun⟩
    · split
      · exact timeutilAddSeconds_getD_valid hv _
      · exact hv

/-- The socket of a sending helper has become writable. -/
theorem outEvent_course (h : AtRest limits q s) (hsending : (s.helpers i).state = .sending) :
    Passes limits t q s (outEvent limits t env s i) := by
  unfold outEvent
  split
  · exact .refl _
  · rename_i j hh
    obtain ⟨job, hj, hlive, hi, hslot, hstate⟩ := h.held_open hh
    have hs : job.state = .sending := by
      rcases hstate with ⟨hs, _⟩ | ⟨_, hb⟩
      · exact hs
      · rw [hsending] at hb
        cases hb
    have hd : job.state ≠ .dispatched := by rw [hs]; exact nofun
    have hw : job.Wanted := hlive.opened.resolve_right fun o => hd o.1
    have hlift : Course limits t q s.rest [] ⟨s, some j, some i, none⟩ := lift_course hh
    cases hr : requestSend limits s i j t env with
    | mk s₁ sent =>
      have hcourse := requestSend_course (q := q) hr hh hj
        ⟨hi, hslot, hd, hlive.incomplete, hw, hlive.payload⟩
      cases sent with
      | ok =>
        rcases hcourse with ⟨_, hcourse⟩ | ⟨hne, _⟩
        · exact hlift.trans hcourse
        · exact absurd rfl hne
      | io =>
        rcases hcourse with ⟨_, hcourse⟩ | ⟨_, rfl⟩
        · have hsent := hlift.trans hcourse
          exact hsent.trans (helperFail_course nofun (hsent.placed h))
        · exact hlift.trans (helperFail_hand_course nofun hh hj hlive)
      | time =>
        rcases hcourse with ⟨hne, _⟩ | ⟨_, rfl⟩
        · exact absurd rfl hne
        · -- the deadline of the request cannot be represented: the job ends
          have hidle := (hlift.trans (helperDetach_course (i := i) hj)).trans
            (shutSlot_course { (helperDetach s₁ i j).helpers i with state := .idle }
              helperDetach_job ⟨nofun, nofun⟩ fun _ h => h)
          have hj' := helperDetach_jobs (i := i) hj
          dsimp only
          rw [hj]
          exact (hidle.trans (take_course hj' hd hlive.incomplete)).trans
            (jobComplete_course hj' hw.orphaned rfl (emptyResponse_deliverable nofun nofun))

/-- A conditional turn of a loop. -/
theorem ite_course {c : Prop} [Decidable c] {s₁ s₂ : Supervisor}
    (h₁ : c → Passes limits t q s s₁) (h₂ : ¬ c → Passes limits t q s s₂) :
    Passes limits t q s (if c then s₁ else s₂) := by
  split
  · exact h₁ ‹c›
  · exact h₂ ‹¬ c›

theorem helperEvents_course {env : HelperEnv} (h : AtRest limits q s) :
    Passes limits t q s (helperEvents limits t env s i) := by
  unfold helperEvents
  dsimp only
  generalize hs₁ : (if env.out ∧ (s.helpers i).state = .sending then
    outEvent limits t env.send s i else s) = s₁
  have h₁ : Passes limits t q s s₁ := by
    rw [← hs₁]
    exact ite_course (fun hc => outEvent_course h hc.2) fun _ => .refl _
  generalize hs₂ : (if env.input ∧ (s₁.helpers i).connected then
    drain limits i t env.inputReceives s₁ else s₁) = s₂
  have h₂ : Passes limits t q s s₂ := by
    rw [← hs₂]
    exact h₁.trans (ite_course (fun _ => drain_course _ (h₁.placed h)) fun _ => .refl _)
  refine h₂.trans (ite_course (fun _ => ?_) fun _ => .refl _)
  have hdrain := drain_course (i := i) (t := t) env.hangupReceives (h₂.placed h)
  have hplaced := hdrain.placed (h₂.placed h)
  exact hdrain.trans (ite_course
    (fun _ => ite_course (fun hs => helperStop_course (hplaced.shuttingDown_free hs))
      fun _ => helperFail_course nofun hplaced) fun _ => .refl _)

theorem timerOverdue_course (receives : List Receive) (h : AtRest limits q s) :
    Passes limits t q s (timerOverdue limits t receives s i) := by
  have hdrain := drain_course (i := i) (t := t) receives h
  exact ite_course (fun _ => hdrain.trans (ite_course
    (fun _ => helperFail_course nofun (hdrain.placed h)) fun _ => .refl _)) fun _ => .refl _

theorem timerStable_course : Passes limits t q s (timerStable limits t s i) :=
  ite_course (fun _ => (helperRecover_recounted _ _).course) fun _ => .refl _

theorem timerHelper_course {receives : List Receive} {spawn : Spawn} (h : AtRest limits q s) :
    Passes limits t q s (timerHelper limits t receives spawn s i) := by
  have hstart := (timerOverdue_course (t := t) (i := i) receives h).trans
    (timerStable_course (t := t) (i := i))
  have hplaced := hstart.placed h
  refine hstart.trans (ite_course (fun hc => helperSpawn_course _ ?_) fun _ =>
    ite_course (fun hc => helperStop_course (hplaced.shuttingDown_free hc.1)) fun _ => .refl _)
  exact hplaced.slot_free (by rw [hc.1]; exact nofun) (by rw [hc.1]; exact nofun)

/-- A job that waits for its retry is taken into the hand. -/
theorem wake_course (hj : s.jobs j = some job) (hs : job.state = .retryWait) :
    Course limits t q ⟨s, none, H, none⟩ [] ⟨s, some j, H, some j⟩ :=
  ⟨(Move.wake (s.board none H q) j job rfl hj hs).steps, fun _ h =>
    h.take hj (by rw [hs]; exact nofun) (by rw [hs]; exact nofun)⟩

/-- A job whose retry is due goes to the end of its queue. -/
theorem timerJob_course (h : AtRest limits q s) :
    Passes limits t q s (timerJob t s j) := by
  unfold timerJob
  split
  · exact .refl _
  · rename_i job hj
    split
    · rename_i hdue
      have hsound := h.sound j job hj nofun
      unfold Job.Sound at hsound
      rw [hdue.1] at hsound
      obtain ⟨hw, ha⟩ := hsound
      have hpayload : s.cache.payload job.entry = none :=
        h.payload j job hj nofun (by rw [hdue.1]; exact nofun)
      have htime : Course limits t q s.rest [] _ := (wake_course hj hdue.1).trans
        (retime_course hj { job with dispatchWaitAt := t } ⟨rfl, fun _ => rfl⟩ rfl)
      exact htime.trans (queueAppend_course setJob_jobs_self
        ⟨⟨hw.orphaned, hw.interested, hw.priority⟩, ha, hpayload⟩)
    · exact .refl _

theorem timersProcessJobs_course (h : AtRest limits q s) :
    Passes limits t q s (timersProcessJobs limits s t) :=
  foldl_course _ (fun _ _ _ hs => timerJob_course hs) h

theorem called_course : Passes limits t q s (s.record (.called t)) :=
  ⟨(Move.called (s.board none none q) t).steps, fun _ h => h⟩

theorem timeUpdate_eq (h : timeUpdate s t = some s') :
    s' = { s with lastNow := t } ∧ s.lastNow ≤ t := by
  unfold timeUpdate at h
  split at h
  · cases h
  · rename_i hvalid
    cases h
    refine ⟨rfl, ?_⟩
    rw [← not_lt, ← timeutilCompare_eq_lt]
    exact fun hlt => hvalid (Or.inr hlt)

/-- A call whose time is accepted. -/
theorem timeUpdate_course (h : timeUpdate (s.record (.called t)) t = some s') :
    Passes limits t q s s' := by
  obtain ⟨rfl, hle⟩ := timeUpdate_eq h
  exact called_course.trans ⟨(Move.advance ((s.record (.called t)).board none none q) t hle).steps,
    fun _ h => h⟩

/-- The timer is on no board and in no book. -/
theorem timerRearm_course (set : Bool) :
    Course limits t q s.rest [] (timerRearm limits s set).1.rest := by
  refine (Course.refl _).unseen (board_timerRearm ..) ?_
  unfold timerRearm
  split <;> rfl

theorem helpersEvents_course (env : EventsEnv) (h : AtRest limits q s) :
    Passes limits t q s ((List.range limits.helperCount).foldl
      (fun s i => helperEvents limits t (env.helper i) s i) s) :=
  foldl_course _ (fun _ _ _ hs => helperEvents_course hs) h

theorem timersProcess_course {env : EventsEnv} (h : AtRest limits q s) :
    Passes limits t q s (timersProcessJobs limits ((List.range limits.helperCount).foldl
      (fun s i => timerHelper limits t (env.helper i).timerReceives (env.helper i).spawn s i) s)
      t) := by
  have htimers := foldl_course
    (f := fun s i => timerHelper limits t (env.helper i).timerReceives (env.helper i).spawn s i)
    (List.range limits.helperCount) (fun s i _ hs => timerHelper_course (t := t) hs) h
  exact htimers.trans (timersProcessJobs_course (htimers.placed h))

/-! ## 3. Interests -/

/-- **A job is found by its entry.** -/
theorem Placed.jobFind_iff (h : Placed limits (s.board L H q)) (e : EntryId) :
    jobFind limits s e = some j ↔ ∃ job, s.jobs j = some job ∧ job.entry = e := by
  have hentry : ∀ k, (s.jobs k).any (fun job => decide (job.entry = e)) = true ↔
      ∃ job, s.jobs k = some job ∧ job.entry = e := by
    intro k
    rw [Option.any_eq_true]
    simp
  constructor
  · intro hfind
    exact (hentry j).1 (List.find?_some (p := fun k => (s.jobs k).any _) hfind)
  · intro hjob
    obtain ⟨job, hj, he⟩ := hjob
    have hmem : j ∈ s.buckets (jobBucket limits e) := by
      refine (h.hash.mem _ j).2 ?_
      show (s.jobs j).map (fun job => jobBucket limits job.entry) = _
      rw [hj, ← he]
      rfl
    unfold jobFind
    cases hfind : (s.buckets (jobBucket limits e)).find? fun j =>
        (s.jobs j).any fun job => decide (job.entry = e) with
    | none =>
      have hnone := List.find?_eq_none.1 hfind j hmem
      exact absurd ((hentry j).2 ⟨job, hj, he⟩) hnone
    | some k =>
      obtain ⟨job', hk, he'⟩ := (hentry k).1
        (List.find?_some (p := fun k => (s.jobs k).any _) hfind)
      rw [h.unique k j job' job hk hj (he'.trans he.symm)]

/-- A job that is not complete is open. -/
theorem Placed.open_of_live (h : Placed limits (s.board none H q)) (hj : s.jobs j = some job)
    (hc : job.state ≠ .complete) : job.Open := by
  have hsound := h.sound j job hj nofun
  unfold Job.Sound at hsound
  cases hs : job.state with
  | queued => rw [hs] at hsound; exact Or.inl hsound.1
  | sending => rw [hs] at hsound; exact Or.inl hsound
  | dispatched => rw [hs] at hsound; exact hsound.imp_right fun o => ⟨hs, o⟩
  | retryWait => rw [hs] at hsound; exact Or.inl hsound.1
  | complete => exact absurd hs hc

variable {p : Priority}

/-- An open job that some interest waits for is wanted. -/
theorem Job.Open.wanted (h : job.Open) (hi : 0 < job.interest p) : job.Wanted := by
  rcases h with hw | ⟨_, ho⟩
  · exact hw
  · cases p with
    | background => exact absurd ho.background (Nat.ne_of_gt hi)
    | interactive => exact absurd ho.interactive (Nat.ne_of_gt hi)

/-- A wanted job keeps its soundness when only its interests change. -/
theorem Job.Wanted.sound {job' : Job} (h : job'.Wanted) (hsound : job.Sound)
    (hc : job.state ≠ .complete) (hs : job'.state = job.state) (ha : job'.assembly = job.assembly) :
    job'.Sound := by
  unfold Job.Sound at hsound ⊢
  rw [hs]
  cases hstate : job.state with
  | queued => rw [hstate] at hsound; exact ⟨h, ha.trans hsound.2⟩
  | sending => exact h
  | dispatched => exact Or.inl h
  | retryWait => rw [hstate] at hsound; exact ⟨h, ha.trans hsound.2⟩
  | complete => exact absurd hstate hc

/-- One interest more in an open job. -/
def Job.joined (job : Job) (p : Priority) : Job :=
  (job.setInterest p (job.interest p + 1)).ranked false
    (if p = .interactive then .interactive else job.priority)

theorem Job.Open.joined (h : job.Open) (p : Priority) : (job.joined p).Wanted := by
  have hpriority : job.priority = .interactive ↔ 0 < job.interactiveInterestCount := by
    rcases h with hw | ⟨_, ho⟩
    · exact hw.priority
    · rw [ho.priority, ho.interactive]
      simp
  cases p with
  | background =>
    refine ⟨rfl, ?_, hpriority⟩
    show 0 < job.backgroundInterestCount + 1 + job.interactiveInterestCount
    omega
  | interactive =>
    refine ⟨rfl, ?_, iff_of_true rfl (Nat.succ_pos _)⟩
    show 0 < job.backgroundInterestCount + (job.interactiveInterestCount + 1)
    omega

/-- One interest less. -/
def Job.released (job : Job) (p : Priority) : Job := job.setInterest p (job.interest p - 1)

theorem Job.released_eq (job : Job) (p : Priority) :
    (job.setInterest p (job.interest p - 1)).ranked job.orphaned job.priority = job.released p := by
  cases p <;> rfl

/-- One interest less, with the priority that follows. -/
def Job.left (job : Job) (p : Priority) : Job :=
  (job.released p).ranked false
    (if (job.released p).interactiveInterestCount = 0 then .background else job.priority)

theorem Job.Wanted.left (h : job.Wanted) (hleft : 0 < (job.released p).backgroundInterestCount +
      (job.released p).interactiveInterestCount) :
    (job.left p).Wanted := by
  refine ⟨rfl, hleft, ?_⟩
  show (if (job.released p).interactiveInterestCount = 0 then Priority.background
    else job.priority) = .interactive ↔ 0 < (job.released p).interactiveInterestCount
  split
  · rename_i hzero
    rw [hzero]
    simp
  · rename_i hpos
    refine iff_of_true (h.priority.2 ?_) (Nat.pos_of_ne_zero hpos)
    cases p with
    | background => exact Nat.pos_of_ne_zero hpos
    | interactive =>
      have hne : job.interactiveInterestCount - 1 ≠ 0 := hpos
      omega

/-- Downgrading a job that has just been written: a queued job may move, any other stays. -/
theorem priorityDowngrade_setJob (r : Job) :
    priorityDowngrade (s.setJob j r) j =
      if r.state = .queued ∧ r.priority = .interactive ∧ r.interactiveInterestCount = 0 then
        queueAppend ((queueRemove (s.setJob j r) j).setJob j (r.ranked r.orphaned .background)) j
      else
        s.setJob j (r.ranked r.orphaned
          (if r.interactiveInterestCount = 0 then .background else r.priority)) := by
  unfold priorityDowngrade priorityMove
  rw [setJob_jobs_self]
  dsimp only
  by_cases hi : r.interactiveInterestCount = 0
  · cases hp : r.priority with
    | background =>
      -- the job has the lower priority already
      have hsame : r.ranked r.orphaned .background = r := by
        rw [← hp]
        rfl
      simp [hi, hsame]
    | interactive =>
      by_cases hq : r.state = .queued
      · simp [hi, hq, Job.ranked]
      · simp [hi, hq, Job.ranked]
  · have hsame : r.ranked r.orphaned r.priority = r := rfl
    simp [hi, hsame]

theorem priorityPromote_setJob (r : Job) :
    priorityPromote (s.setJob j r) j =
      if r.state = .queued ∧ r.priority = .background then
        queueAppend ((queueRemove (s.setJob j r) j).setJob j (r.ranked r.orphaned .interactive)) j
      else s.setJob j (r.ranked r.orphaned .interactive) := by
  unfold priorityPromote priorityMove
  rw [setJob_jobs_self]
  dsimp only
  cases hp : r.priority with
  | background =>
    by_cases hq : r.state = .queued
    · simp [hq, Job.ranked]
    · simp [hq, Job.ranked]
  | interactive =>
    have hsame : r.ranked r.orphaned .interactive = r := by
      rw [← hp]
      rfl
    simp [hsame]

theorem queueRemove_setJob {r : Job} (hj : s.jobs j = some job) (hp : r.priority = job.priority) :
    queueRemove (s.setJob j r) j = (queueRemove s j).setJob j r := by
  unfold queueRemove
  rw [setJob_jobs_self, hj]
  dsimp only
  rw [hp]
  rfl

/-- What an owner changes in a job is in no book. -/
theorem reinterest_booked {n queryId : Nat} {orphaned : Bool} {priority : Priority}
    (h : Booked limits W refs s.books hand) (hj : s.jobs j = some job) :
    Booked limits W refs
      (s.setJob j { job.setInterest p n with queryId, orphaned, priority }).books hand := by
  cases p <;> exact h.amend _ hj rfl rfl (h.fit j job hj).asked rfl rfl rfl

/-- One interest more, on the board and in the books. -/
theorem join_course (p r : Priority) (hj : s.jobs j = some job) (hc : job.state ≠ .complete)
    (hplace : L = some j ∨ ((job.state = .queued → r = job.priority) ∧
      ((job.setInterest p (job.interest p + 1)).ranked false r).Sound)) :
    Course limits t q ⟨s, L, H, hand⟩ [.join job.entry p]
      ⟨s.setJob j ((job.setInterest p (job.interest p + 1)).ranked false r), L, H, hand⟩ :=
  ⟨(Move.join (s.board L H q) j job p r hj hc hplace).steps, fun _ h => reinterest_booked h hj⟩

/-- One interest less, on the board and in the books. -/
theorem leave_course (p r : Priority) (o : Bool) (hj : s.jobs j = some job)
    (hc : job.state ≠ .complete) (hi : 0 < job.interest p)
    (hplace : L = some j ∨ ((job.state = .queued → r = job.priority) ∧
      ((job.setInterest p (job.interest p - 1)).ranked o r).Sound)) :
    Course limits t q ⟨s, L, H, hand⟩ [.leave job.entry p]
      ⟨s.setJob j ((job.setInterest p (job.interest p - 1)).ranked o r), L, H, hand⟩ :=
  ⟨(Move.leave (s.board L H q) j job p r o hj hc hi hplace).steps,
    fun _ h => reinterest_booked h hj⟩

/-- A queued job leaves its queue, its interests change, and it enters the queue of its new
    priority. -/
theorem requeue_course {r r' : Job} {ls : List Label} (hj : s.jobs j = some job)
    (hs : job.state = .queued) (hr : r.priority = job.priority)
    (hmove : Course limits t q ⟨queueRemove s j, some j, H, some j⟩ ls
      ⟨(queueRemove s j).setJob j r', some j, H, some j⟩) (hidle : r'.Idle s.cache) :
    Course limits t q ⟨s, none, H, none⟩ ls
      ⟨queueAppend ((queueRemove (s.setJob j r) j).setJob j r') j, none, H, none⟩ := by
  have hj' : (queueRemove s j).jobs j = some job := by
    rw [queueRemove_jobs]
    exact hj
  have htaken : Course limits t q ⟨s, none, H, none⟩ [] _ := (queueRemove_course hj hs).trans
    (take_course hj' (by rw [hs]; exact nofun) (by rw [hs]; exact nofun))
  rw [queueRemove_setJob hj hr, setJob_setJob]
  refine (htaken.trans hmove).quietly (queueAppend_course setJob_jobs_self ?_)
  rw [← queueRemove_cache (j := j)] at hidle
  exact { hidle with }

@[simp] theorem Job.setInterest_priority (p : Priority) (n : Nat) :
    (job.setInterest p n).priority = job.priority := by
  cases p <;> rfl

@[simp] theorem Job.setInterest_orphaned (p : Priority) (n : Nat) :
    (job.setInterest p n).orphaned = job.orphaned := by
  cases p <;> rfl

/-- The queued job that a placed board shows. -/
theorem Placed.queued_assembly (h : Placed limits (s.board none H q)) (hj : s.jobs j = some job)
    (hs : job.state = .queued) : job.assembly = none := by
  have hsound := h.sound j job hj nofun
  unfold Job.Sound at hsound
  rw [hs] at hsound
  exact hsound.2

/-- **One interest more in a job that exists.** -/
theorem jobCoalesce_course (h : Placed limits (s.board none H q)) (hj : s.jobs j = some job)
    (hc : job.state ≠ .complete) (p : Priority) :
    Course limits t q ⟨s, none, H, none⟩ [.join job.entry p]
      ⟨jobCoalesce s j job p, none, H, none⟩ := by
  have hopen := h.open_of_live hj hc
  have hw := hopen.joined p
  have hsound : (job.joined p).Sound := hw.sound (h.sound j job hj nofun) hc (by simp [Job.joined])
    (by simp [Job.joined])
  -- in place, unless the job has to change queues
  have hstay : (job.state = .queued → (if p = .interactive then .interactive else job.priority) =
      job.priority) → Course limits t q ⟨s, none, H, none⟩ [.join job.entry p]
        ⟨s.setJob j (job.joined p), none, H, none⟩ :=
    fun hq => join_course p _ hj hc (Or.inr ⟨hq, hsound⟩)
  unfold jobCoalesce
  cases p with
  | background => exact hstay fun _ => rfl
  | interactive =>
    rw [if_pos rfl, priorityPromote_setJob]
    split
    · rename_i hq
      have hqueued : job.state = .queued := hq.1
      have ha : job.assembly = none := h.queued_assembly hj hqueued
      have hp : s.cache.payload job.entry = none := h.payload j job hj nofun hc
      refine requeue_course hj hqueued rfl ?_ ⟨hw, ha, hp⟩
      exact join_course _ _ (by rw [queueRemove_jobs]; exact hj) hc (Or.inl rfl)
    · rename_i hq
      refine hstay fun hqueued => ?_
      cases hp : job.priority with
      | background => exact absurd ⟨hqueued, hp⟩ hq
      | interactive => rfl

/-- The board after the destruction of a job that is in no queue and not complete. -/
theorem board_jobDestroy (hj : s.jobs j = some job) (hq : job.state ≠ .queued)
    (hc : job.state ≠ .complete) :
    (jobDestroy limits s j).board L H q = { (jobFree limits s j job).board L H q with
      cache := entryRelease limits.toCacheLimits s.cache job.entry } := by
  unfold jobDestroy
  rw [hj]
  dsimp only
  split
  · exact absurd ‹job.state = .queued› hq
  · exact absurd ‹job.state = .complete› hc
  · rfl

/-- The last interest in the job in the hand goes, and the job with it. -/
theorem leaveFree_course (queryId : Nat) (hj : s.jobs j = some job)
    (hc : job.state ≠ .complete) (hq : job.state ≠ .queued) (hi : 0 < job.interest p)
    (hb : (job.released p).backgroundInterestCount = 0)
    (hn : (job.released p).interactiveInterestCount = 0) :
    Course limits t q ⟨s, some j, H, some j⟩ [.leave job.entry p]
      ⟨jobDestroy limits (s.setJob j { job.released p with queryId }) j, none, H, none⟩ where
  steps := by
    have hleave : Steps limits _ _ _ := (Move.leave (s.board (some j) H q) j job p job.priority
      job.orphaned hj hc hi (Or.inl rfl)).steps
    rw [Job.released_eq] at hleave
    have hq' : (job.released p).state ≠ .queued := by simpa [Job.released] using hq
    have hc' : (job.released p).state ≠ .complete := by simpa [Job.released] using hc
    have hfree : Steps limits _ _ _ := (jobDestroy_course (H := H) (q := q) (t := t)
      (s := s.setJob j (job.released p)) setJob_jobs_self hq' hc').steps
    rw [show (job.released p).leftover = [] from if_pos ⟨hb, hn⟩] at hfree
    -- the fields of the destroyed job do not show
    have hsame : (jobDestroy limits (s.setJob j { job.released p with queryId }) j).board none H q =
        (jobDestroy limits (s.setJob j (job.released p)) j).board none H q := by
      rw [board_jobDestroy (s := s.setJob j { job.released p with queryId }) setJob_jobs_self
        hq' hc', board_jobDestroy setJob_jobs_self hq' hc', board_jobFree, board_jobFree]
      dsimp only [Supervisor.setJob, Supervisor.board]
      rw [update_idem, update_idem]
    rw [← hsame] at hfree
    exact hleave.trans hfree
  booked := fun _ h => jobDestroy_booked (reinterest_booked h hj) setJob_jobs_self

section Release

variable {p : Priority} (h : AtRest limits q s) (hj : s.jobs j = some job)
  (hc : job.state ≠ .complete) (hi : 0 < job.interest p)

include h hj hc hi

/-- Interests are left: the priority may go down. -/
theorem releaseSome_course
    (hleft : 0 < (job.released p).backgroundInterestCount +
      (job.released p).interactiveInterestCount) :
    Course limits t q s.rest [.leave job.entry p]
      (priorityDowngrade (s.setJob j (job.released p)) j).rest := by
  have hwanted := (h.open_of_live hj hc).wanted hi
  have hw := hwanted.left hleft
  have hsound : (job.left p).Sound := hw.sound (h.sound j job hj nofun) hc
    (by simp [Job.left, Job.released]) (by simp [Job.left, Job.released])
  have hpriority : (job.released p).priority = job.priority := by simp [Job.released]
  have horphaned : (job.released p).orphaned = false := by
    simpa [Job.released] using hwanted.orphaned
  have hstate : (job.released p).state = job.state := by simp [Job.released]
  rw [priorityDowngrade_setJob]
  split
  · rename_i hq
    have hqueued : job.state = .queued := hstate ▸ hq.1
    have hsame : (job.released p).ranked (job.released p).orphaned .background = job.left p := by
      rw [Job.left, if_pos hq.2.2, horphaned]
    rw [hsame]
    have ha : (job.left p).assembly = none := by
      simpa [Job.left, Job.released] using h.queued_assembly hj hqueued
    have hpayload : s.cache.payload job.entry = none := h.payload j job hj nofun hc
    have hp : s.cache.payload (job.left p).entry = none := by
      simpa [Job.left, Job.released] using hpayload
    refine requeue_course hj hqueued hpriority ?_ ⟨hw, ha, hp⟩
    exact leave_course p _ _ (by rw [queueRemove_jobs]; exact hj) hc hi (Or.inl rfl)
  · rename_i hq
    rw [hpriority, horphaned]
    refine leave_course p _ _ hj hc hi (Or.inr ⟨?_, hsound⟩)
    intro hqueued
    split
    · rename_i hzero
      cases hold : job.priority with
      | background => rfl
      | interactive => exact absurd ⟨hstate.trans hqueued, hpriority.trans hold, hzero⟩ hq
    · rfl

variable (hb : (job.released p).backgroundInterestCount = 0)
  (hn : (job.released p).interactiveInterestCount = 0)

include hb hn

omit h in
/-- The last interest in a dispatched job goes: the job is an orphan. -/
theorem releaseOrphan_course (hd : job.state = .dispatched) :
    Course limits t q s.rest [.leave job.entry p]
      (priorityDowngrade ((s.setJob j (job.released p)).setJob j
        { job.released p with orphaned := true }) j).rest := by
  have hstate : (job.released p).state = .dispatched := by simpa [Job.released] using hd
  rw [setJob_setJob, priorityDowngrade_setJob, if_neg (fun hq => by
    rw [show ({ job.released p with orphaned := true } : Job).state = .dispatched from hstate] at hq
    cases hq.1)]
  rw [if_pos hn]
  refine leave_course p .background true hj hc hi (Or.inr ⟨?_, ?_⟩)
  · intro hq
    rw [hd] at hq
    cases hq
  · show ((job.released p).ranked true .background).Sound
    unfold Job.Sound
    rw [Job.ranked_state, hstate]
    exact Or.inr ⟨rfl, hb, hn, rfl⟩

/-- The last interest in a job that a helper is about to get goes: slot and job are given up. -/
theorem releaseSending_course (hs : job.state = .sending) :
    Course limits t q s.rest [.leave job.entry p]
      (jobDestroy limits (((s.setJob j (job.released p)).setHelper job.slotIndex
        { s.helpers job.slotIndex with job := none, requestPacket := [], state := .idle }).setJob j
        { job.released p with queryId := 0 }) j).rest := by
  have hheld := h.holds hj (Or.inl hs)
  have hswap : ∀ helper, ((s.setJob j (job.released p)).setHelper job.slotIndex helper).setJob j
      { job.released p with queryId := 0 } =
      (s.setHelper job.slotIndex helper).setJob j { job.released p with queryId := 0 } := by
    intro helper
    unfold Supervisor.setHelper Supervisor.setJob
    simp only [update_idem]
  rw [hswap]
  have hstart : Course limits t q s.rest _ _ := ((lift_course hheld).trans (helper_course
    { s.helpers job.slotIndex with job := none, requestPacket := [], state := .idle } (Or.inl rfl)
    fun _ h => h)).trans (take_course hj (by rw [hs]; exact nofun) hc)
  have hfree := hstart.trans
    (leaveFree_course 0 hj hc (by rw [hs]; exact nofun) hi hb hn)
  refine hfree.quietly (closeSlot_course (i := job.slotIndex) ?_ fun _ => ?_)
  · simp [Supervisor.setJob]
  · simp [Supervisor.setJob]

omit h in
/-- The last interest in a waiting job goes, and the job with it. -/
theorem releaseWaiting_course (hd : job.state ≠ .dispatched) (hs : job.state ≠ .sending) :
    Course limits t q s.rest [.leave job.entry p]
      (jobDestroy limits (s.setJob j (job.released p)) j).rest := by
  cases hstate : job.state with
  | retryWait =>
    exact (wake_course hj hstate).trans
      (leaveFree_course _ hj hc (by rw [hstate]; exact nofun) hi hb hn)
  | queued =>
    have hqueued : (job.released p).state = .queued := by simpa [Job.released] using hstate
    have hj' : (queueRemove s j).jobs j = some job := by rw [queueRemove_jobs]; exact hj
    have hleave : Course limits t q s.rest _ _ := (queueRemove_course hj hstate).trans
      (leave_course p job.priority job.orphaned hj' hc hi (Or.inl rfl))
    rw [Job.released_eq] at hleave
    refine ⟨?_, fun _ h => jobDestroy_booked (reinterest_booked (h.take hj hd hc) hj)
      setJob_jobs_self⟩
    have hfree : Steps limits _ _ _ := jobFree_steps (H := none) (q := q)
      (s := (queueRemove s j).setJob j (job.released p)) setJob_jobs_self
      (entryRelease_kept : PayloadsKept _
        (entryRelease limits.toCacheLimits _ (job.released p).entry))
    rw [show (job.released p).leftover = [] from if_pos ⟨hb, hn⟩] at hfree
    unfold jobDestroy
    rw [setJob_jobs_self]
    dsimp only
    rw [hqueued]
    rw [queueRemove_setJob hj (by simp [Job.released])]
    exact hleave.steps.trans hfree
  | sending => exact absurd hstate hs
  | dispatched => exact absurd hstate hd
  | complete => exact absurd hstate hc

omit hb hn in
/-- **One interest less in a job that is not complete.** -/
theorem interestDrop_course (eventsUpdated : Bool) :
    Course limits t q s.rest [.leave job.entry p]
      (interestDrop limits s j job p eventsUpdated).1.rest := by
  unfold interestDrop
  dsimp only
  split
  · rename_i hlast
    obtain ⟨hb, hn⟩ := hlast
    split
    · exact releaseOrphan_course hj hc hi hb hn ‹_›
    · split
      · exact releaseSending_course h hj hc hi hb hn ‹_›
      · exact releaseWaiting_course hj hc hi hb hn ‹_› ‹_›
  · rename_i hlast
    refine releaseSome_course h hj hc hi (Nat.pos_of_ne_zero fun hzero => hlast ?_)
    exact ⟨Nat.eq_zero_of_add_eq_zero_right hzero, Nat.eq_zero_of_add_eq_zero_left hzero⟩

end Release

/-- A new job enters the queue of its priority. -/
theorem jobCreate_steps (hcount : s.jobCount < limits.jobLimit)
    (hnew : ∀ j job, s.jobs j = some job → job.entry ≠ e) (hp : s.cache.payload e = none) :
    Steps limits (s.board none H q) [.join e p] ((jobCreate limits s e p t).board none H q) := by
  have hcreate : Steps limits _ _ _ := (Move.create (s.board none H q) (.created e p t) p rfl hcount
    hnew rfl rfl rfl rfl).steps
  refine hcreate.trans (queueAppend_course (t := t) (s := { s with
    buckets := update s.buckets (jobBucket limits e)
      (s.nextJob :: s.buckets (jobBucket limits e))
    jobs := update s.jobs s.nextJob (some _)
    nextJob := s.nextJob + 1
    jobCount := s.jobCount + 1
    metrics := s.metrics.highWater .jobsHighWater (s.jobCount + 1) }) (update_self ..)
    ⟨?_, rfl, hp⟩).steps
  cases p with
  | background => exact ⟨rfl, Nat.one_pos, by simp [Job.created]⟩
  | interactive => exact ⟨rfl, Nat.one_pos, by simp [Job.created]⟩

/-- A new job, with the reference that was taken for it. -/
theorem jobCreate_booked
    (h : Booked limits W (fun x => refs x + if e = x then 1 else 0) s.books none) :
    Booked limits W refs (jobCreate limits s e p t).books none := by
  unfold jobCreate
  generalize hnew : Job.created e p t = job
  have hentry : e = job.entry := hnew ▸ rfl
  have hstate : job.state = .queued := hnew ▸ rfl
  have hassembly : job.assembly = none := hnew ▸ rfl
  rw [hentry] at h
  have hcreated := h.create (by rw [hstate]; exact nofun) (by rw [hstate]; exact nofun) hassembly
    (by rw [Job.waitsFor, hstate])
  have hj : update s.jobs s.nextJob (some job) s.nextJob = some job := update_self ..
  unfold queueAppend
  dsimp only
  rw [hj]
  exact queueInsert_booked (hcreated.counters (.highWater id _)) hj hassembly

theorem admissionLimit_le (p : Priority) : admissionLimit limits p ≤ limits.jobLimit := by
  cases p with
  | interactive => exact Nat.le_refl _
  | background => exact Nat.sub_le ..

/-- A job is created for an entry that has none, and whose reference was to be had. -/
theorem startJob_course {cache : Cache} (hretain : entryRetain s.cache e = (cache, true))
    (hadmitted : s.jobCount < admissionLimit limits p)
    (hnew : ∀ j job, s.jobs j = some job → job.entry ≠ e) (hp : s.cache.payload e = none) :
    Course limits t q s.rest [.join e p] (jobCreate limits { s with cache } e p t).rest where
  steps := by
    have hpayload : ∀ x, cache.payload x = s.cache.payload x := by
      intro x
      have hx := entryRetain_payload (c := s.cache) (e := e) x
      rw [hretain] at hx
      exact hx
    have hcache : Tau limits (s.board none none q)
        (({ s with cache } : Supervisor).board none none q) :=
      (Move.cache (s.board none none q) cache (PayloadsKept.of_eq hpayload)).steps
    have hcreate : Steps limits _ _ _ := jobCreate_steps (s := { s with cache }) (t := t)
      (H := none) (q := q) (e := e) (p := p)
      (Nat.lt_of_lt_of_le hadmitted (admissionLimit_le p)) hnew ((hpayload e).trans hp)
    exact Steps.trans hcache hcreate
  booked := fun _ h => by
    have hretained := h.retain (e := e) (congrArg Prod.snd hretain)
    rw [show (entryRetain s.books.cache e).1 = cache from congrArg Prod.fst hretain] at hretained
    exact jobCreate_booked (s := { s with cache }) hretained

end MinecraftRelay
