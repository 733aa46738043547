/-
  File:      Resolver/Assembly/Budget.lean
  Subject:   THE BYTES AND THE OUTCOMES OF ALL ASSEMBLIES, over every run of their calls.

  One budget is shared by all assemblies and by the results taken from them, which outlive them.
  A run is `resolver_ipc_assembly_budget_create` followed by any creations, packets, takes and
  destructions, with any arguments and outcomes of `calloc`.

  * `BudgetEffect`, `Consumed.effect` -- what one packet does to the bytes and to the counters;
  * `BudgetSound`, `assemblyCall_sound` -- the invariant, kept by every call;
  * `run_budgetAccounts` -- **the budget is exact and within its limit in every run**, no
    subtraction is clamped, and every assembly is counted out exactly once.
-/
import Mathlib.Data.List.Nodup
import MinecraftRelay.Library.Ledger
import MinecraftRelay.Resolver.Assembly

namespace MinecraftRelay

/-! ## 1. Calls and runs -/

/-- The budget, `budget->assemblies`, and the results that were taken and not yet destroyed. -/
structure AssemblyStore where
  budget : AssemblyBudget
  assemblies : List Assembly := []
  results : List AssemblyResult := []

/-- The calls of ipc_assembly.h; an assembly and a result are given by their places. -/
inductive AssemblyCall where
  | create (queryName : Bytes) (queryClass : Nat) (queryType : QueryType) (queryId : Nat)
      (allocated : Bool)
  | packet (i : Nat) (packet : Bytes) (allocated : Bool)
  | take (i : Nat)
  | resultDestroy (i : Nat)
  | destroy (i : Nat)

/-- The store after a call. -/
def assemblyCall (limits : AssemblyLimits) (s : AssemblyStore) : AssemblyCall → AssemblyStore
  | .create queryName queryClass queryType queryId allocated =>
    match assemblyCreate limits s.budget queryName queryClass queryType queryId allocated with
    | (budget, .ok a) => { s with budget, assemblies := a :: s.assemblies }
    | (budget, .error _) => { s with budget }
  | .packet i packet allocated =>
    match s.assemblies[i]? with
    | none => s
    | some a =>
      let r := packetConsume limits s.budget a packet allocated
      { s with budget := r.1, assemblies := s.assemblies.set i r.2.1 }
  | .take i =>
    match s.assemblies[i]?.bind resultTake with
    | none => s
    | some (a, result) =>
      { s with assemblies := s.assemblies.set i a, results := result :: s.results }
  | .resultDestroy i =>
    match s.results[i]? with
    | none => s
    | some result =>
      { s with budget := resultDestroy s.budget result, results := s.results.eraseIdx i }
  | .destroy i =>
    match s.assemblies[i]? with
    | none => s
    | some a =>
      { s with budget := assemblyDestroy s.budget a, assemblies := s.assemblies.eraseIdx i }

/-- The store after a run. -/
def assemblyRun (limits : AssemblyLimits) (calls : List AssemblyCall) : AssemblyStore :=
  calls.foldl (assemblyCall limits) { budget := assemblyBudgetCreate }

/-! ## 2. The counters -/

/-- The ways an assembly ends. -/
def outcomeCounters : List AssemblyCounter :=
  [.terminalComplete, .terminalBadArgument, .terminalLimit, .terminalMemory, .terminalProtocol,
    .abandoned]

/-- Creations of the type are outcomes, and the `live` assemblies that have none yet. -/
def AssemblyBudget.Conserves (budget : AssemblyBudget) (type : QueryType) (live : Nat) : Prop :=
  budget.metrics.Conserves (.query type .createOk) (outcomeCounters.map (.query type)) live

/-- One, if the assembly is of the type and has no outcome yet. -/
def Assembly.liveOf (type : QueryType) (a : Assembly) : Nat :=
  if a.state.nonterminal ∧ a.queryType = type then 1 else 0

namespace AssemblyBudget

variable {budget budget' : AssemblyBudget} {type type' : QueryType} {live : Nat}
  {counter : AssemblyCounter}

theorem createOk_not_mem (type : QueryType) :
    AssemblyMetric.query type .createOk ∉ outcomeCounters.map (.query type) := by
  simp [outcomeCounters]

theorem outcomes_nodup (type : QueryType) :
    (outcomeCounters.map (AssemblyMetric.query type)).Nodup := by
  refine List.Nodup.map (fun _ _ e => (AssemblyMetric.query.inj e).2) ?_
  decide

theorem mem_outcomes :
    AssemblyMetric.query type counter ∈ outcomeCounters.map (.query type') ↔
      type = type' ∧ counter ∈ outcomeCounters := by
  constructor
  · intro h
    obtain ⟨k, hk, e⟩ := List.mem_map.1 h
    obtain ⟨rfl, rfl⟩ := AssemblyMetric.query.inj e
    exact ⟨rfl, hk⟩
  · rintro ⟨rfl, h⟩
    exact List.mem_map_of_mem h

theorem Conserves.created (h : budget.Conserves type' live) :
    (budget.increment type .createOk).Conserves type' (live + if type = type' then 1 else 0) := by
  by_cases ht : type = type'
  · subst ht
    rw [if_pos rfl]
    exact MetricsState.Conserves.enter h (createOk_not_mem type)
  · rw [if_neg ht]
    refine MetricsState.Conserves.other h (fun e => ht (AssemblyMetric.query.inj e).1.symm) ?_
    rw [mem_outcomes]
    exact fun h => ht h.1

theorem Conserves.ended (hc : counter ∈ outcomeCounters)
    (h : budget.Conserves type' (live + if type = type' then 1 else 0)) :
    (budget.increment type counter).Conserves type' live := by
  by_cases ht : type = type'
  · subst ht
    rw [if_pos rfl] at h
    exact MetricsState.Conserves.leave h (createOk_not_mem type) (outcomes_nodup type)
      (mem_outcomes.2 ⟨rfl, hc⟩)
  · rw [if_neg ht] at h
    refine MetricsState.Conserves.other h (fun e => ht (AssemblyMetric.query.inj e).1.symm) ?_
    rw [mem_outcomes]
    exact fun h => ht h.1

theorem Conserves.recorded (hc : counter ∉ outcomeCounters) (hk : counter ≠ .createOk)
    (h : budget.Conserves type' live) : (budget.increment type counter).Conserves type' live := by
  refine MetricsState.Conserves.other h (fun e => hk (AssemblyMetric.query.inj e).2.symm) ?_
  rw [mem_outcomes]
  exact fun h => hc h.2

/-- Bytes are taken, or given back. -/
theorem Conserves.charge (h : budget.Conserves type live) (bytes : Nat) :
    (budget.charge bytes).Conserves type live := by
  refine MetricsState.Conserves.of_eq h ?_ id
  intro k hk
  refine MetricsState.highWater_counters_of_ne _ ?_ _
  rintro rfl
  simp at hk

theorem Conserves.discharge (h : budget.Conserves type live) (bytes : Nat) :
    (budget.discharge bytes).Conserves type live := h

end AssemblyBudget

/-! ## 3. One packet -/

/-- What a packet does to the budget: the bytes that the assembly holds are charged, no more than
    the limit allows, and an assembly that ends is counted out. -/
structure BudgetEffect (limits : AssemblyLimits) (budget : AssemblyBudget) (a : Assembly)
    (budget' : AssemblyBudget) (a' : Assembly) : Prop where
  bytes : a.dynamicBytes ≤ budget.ownedBytes →
    budget'.ownedBytes + a.dynamicBytes = budget.ownedBytes + a'.dynamicBytes
  bytes_le : budget.ownedBytes ≤ limits.assemblyByteLimit →
    budget'.ownedBytes ≤ limits.assemblyByteLimit
  conserves : ∀ type live, budget.Conserves type (live + a.liveOf type) →
    budget'.Conserves type (live + a'.liveOf type)

theorem Assembly.liveOf_terminal {a : Assembly} (h : a.state.nonterminal = false)
    (type : QueryType) : a.liveOf type = 0 := by
  rw [Assembly.liveOf, h]
  exact if_neg (by simp)

theorem Assembly.liveOf_nonterminal {a : Assembly} (h : a.state.nonterminal = true)
    (type : QueryType) : a.liveOf type = if a.queryType = type then 1 else 0 := by
  unfold Assembly.liveOf
  simp only [h, true_and]

/-- The counter that `resolver_ipc_assembly_metrics_terminal_record` increments. -/
theorem terminalRecord_conserves {budget : AssemblyBudget} {a : Assembly} {type : QueryType}
    {live : Nat} (status : AssemblyStatus) (h : budget.Conserves type (live + a.liveOf type)) :
    (terminalRecord budget a status).Conserves type live := by
  unfold terminalRecord
  cases hstate : a.state.nonterminal with
  | false =>
    rw [a.liveOf_terminal hstate, Nat.add_zero] at h
    exact h
  | true =>
    rw [a.liveOf_nonterminal hstate] at h
    cases status with
    | complete =>
      refine AssemblyBudget.Conserves.ended (by decide) ?_
      exact MetricsState.Conserves.of_eq h (fun _ _ => rfl) MetricsState.observeSize_saturation
    | badArgument => exact .ended (by decide) h
    | limit => exact .ended (by decide) h
    | memory => exact .ended (by decide) h
    | protocol => exact .ended (by decide) h
    | ok => exact .ended (by decide) h

theorem Refused.conserves {budget budget' : AssemblyBudget} {type type' : QueryType}
    {status : AssemblyStatus} {live : Nat} (h : Refused budget type budget' status)
    (hc : budget.Conserves type' live) : budget'.Conserves type' live := by
  cases h with
  | protocol => exact hc
  | memory => exact hc
  | limit h => rcases h with rfl | rfl | rfl <;> exact .recorded (by decide) nofun hc

/-- An accepted packet that is not the last leaves the assembly waiting for more. -/
theorem Assembly.begun_nonterminal (a : Assembly) (b : ResponseBegin) :
    (a.begun b).state.nonterminal = true := by
  unfold Assembly.begun
  split
  · rfl
  · split <;> rfl

theorem Assembly.aliased_nonterminal {a : Assembly} (h : a.state = .cname) (record : CnameRecord) :
    (a.aliased record).state.nonterminal = true := by
  unfold Assembly.aliased
  dsimp only
  split
  · split <;> rfl
  · rw [h]
    rfl

theorem recordCommit_nonterminal {a : Assembly} (h : a.state = .record) :
    (recordCommit a).nonterminal = true := by
  unfold recordCommit
  split
  · rfl
  · rw [h]
    rfl

section Effect

variable {limits : AssemblyLimits} {budget : AssemblyBudget} {a a' : Assembly} {packet : Bytes}

/-- A packet that changes neither the bytes nor the outcome. -/
theorem BudgetEffect.same (htype : a'.queryType = a.queryType)
    (hbytes : a'.dynamicBytes = a.dynamicBytes) (h : a.state.nonterminal = true)
    (h' : a'.state.nonterminal = true) : BudgetEffect limits budget a budget a' where
  bytes _ := by rw [hbytes]
  bytes_le := id
  conserves type live hc := by
    rw [Assembly.liveOf_nonterminal h', htype, ← Assembly.liveOf_nonterminal h]
    exact hc

/-- **What one packet does to the budget.** -/
theorem Consumed.effect {r : AssemblyStep} (hc : Consumed limits budget a packet r)
    (hfresh : a.state = .begin → a.dynamicBytes = 0) :
    BudgetEffect limits budget a r.1 r.2.1 := by
  cases hc with
  | head hstate _ _ _ _ hroom =>
    refine ⟨?_, fun _ => hroom, ?_⟩
    · intro _
      rw [hfresh hstate]
      rfl
    · intro type live h
      rw [Assembly.liveOf_nonterminal (Assembly.begun_nonterminal ..)]
      rw [Assembly.liveOf_nonterminal (by rw [hstate]; rfl)] at h
      exact h.charge _
  | cname hstate =>
    exact .same rfl rfl (by rw [hstate]; rfl) (Assembly.aliased_nonterminal hstate _)
  | address hstate =>
    exact .same rfl rfl (by rw [hstate]; rfl) (recordCommit_nonterminal hstate)
  | srv hstate =>
    exact .same rfl rfl (by rw [hstate]; rfl) (recordCommit_nonterminal hstate)
  | tail hstate =>
    refine ⟨?_, ?_, fun type live h => terminalRecord_conserves _ h⟩
    · intro _
      rw [terminalRecord_ownedBytes]
    · rw [terminalRecord_ownedBytes]
      exact id
  | failed h =>
    refine ⟨?_, ?_, fun type live hc => terminalRecord_conserves _ (h.conserves hc)⟩
    · intro hle
      show ((terminalRecord _ a _).discharge a.dynamicBytes).ownedBytes + _ = _ + 0
      rw [AssemblyBudget.discharge_ownedBytes, terminalRecord_ownedBytes, h.ownedBytes]
      omega
    · intro hle
      show ((terminalRecord _ a _).discharge a.dynamicBytes).ownedBytes ≤ _
      rw [AssemblyBudget.discharge_ownedBytes, terminalRecord_ownedBytes, h.ownedBytes]
      omega

end Effect

/-! ## 4. The invariant -/

/-- The charge of an assembly: its record and its arrays. -/
def Assembly.charge (a : Assembly) : Nat := sizeofAssembly + a.dynamicBytes

/-- What holds of the budget after every call. -/
structure BudgetSound (limits : AssemblyLimits) (s : AssemblyStore) : Prop where
  owned : s.budget.ownedBytes = sizeofAssemblyBudget + (s.assemblies.map Assembly.charge).sum +
    (s.results.map AssemblyResult.dynamicBytes).sum
  limit : s.budget.ownedBytes ≤ limits.assemblyByteLimit
  conserves : ∀ type, s.budget.Conserves type (s.assemblies.map (Assembly.liveOf type)).sum

/-- The arrays of an assembly are allocated by its first packet. -/
def Unstarted (a : Assembly) : Prop := a.state = .begin → a.dynamicBytes = 0

theorem Consumed.unstarted {limits : AssemblyLimits} {budget : AssemblyBudget} {a : Assembly}
    {packet : Bytes} {r : AssemblyStep}
    (hc : Consumed limits budget a packet r) : Unstarted r.2.1 := by
  intro h
  cases hc with
  | head =>
    revert h
    unfold Assembly.begun
    split
    · nofun
    · split <;> nofun
  | cname hstate =>
    revert h
    unfold Assembly.aliased
    dsimp only
    rw [hstate]
    split
    · split <;> nofun
    · nofun
  | address hstate =>
    revert h
    unfold recordCommit
    rw [hstate]
    split <;> nofun
  | srv hstate =>
    revert h
    unfold recordCommit
    rw [hstate]
    split <;> nofun
  | tail => cases h
  | failed => rfl

section Calls

variable {limits : AssemblyLimits} {s : AssemblyStore} {i : Nat} {a : Assembly}

/-- No subtraction from the bytes is cut off at zero: each assembly and each result is part of
    them. -/
theorem BudgetSound.charge_le (h : BudgetSound limits s) (ha : a ∈ s.assemblies) :
    sizeofAssembly + a.dynamicBytes ≤ s.budget.ownedBytes := by
  have hle := Ledger.share_le_sum Assembly.charge ha
  rw [Assembly.charge] at hle
  rw [h.owned]
  omega

theorem BudgetSound.result_le {result : AssemblyResult} (h : BudgetSound limits s)
    (hr : result ∈ s.results) : result.dynamicBytes ≤ s.budget.ownedBytes := by
  have hle := Ledger.share_le_sum AssemblyResult.dynamicBytes hr
  rw [h.owned]
  omega

/-- A refused creation counts, and charges nothing. -/
theorem assemblyCreate_refused {budget budget' : AssemblyBudget} {queryName : Bytes}
    {queryClass queryId : Nat} {queryType : QueryType} {allocated : Bool} {status : AssemblyStatus}
    (h : assemblyCreate limits budget queryName queryClass queryType queryId allocated
      = (budget', .error status)) :
    budget'.ownedBytes = budget.ownedBytes ∧
      ∀ type live, budget.Conserves type live → budget'.Conserves type live := by
  unfold assemblyCreate at h
  split at h
  · cases h
    exact ⟨rfl, fun _ _ hc => hc.recorded (by decide) nofun⟩
  · split at h
    · cases h
      exact ⟨rfl, fun _ _ hc => hc.recorded (by decide) nofun⟩
    · split at h
      · cases h
        refine ⟨rfl, fun _ _ hc => ?_⟩
        exact .recorded (by decide) nofun (.recorded (by decide) nofun hc)
      · split at h
        · cases h
          exact ⟨rfl, fun _ _ hc => hc.recorded (by decide) nofun⟩
        · cases h

section

variable (h : BudgetSound limits s)

include h

theorem BudgetSound.create (queryName : Bytes) (queryClass : Nat)
    (queryType : QueryType) (queryId : Nat) (allocated : Bool) :
    BudgetSound limits
      (assemblyCall limits s (.create queryName queryClass queryType queryId allocated)) := by
  unfold assemblyCall
  dsimp only
  generalize hr : assemblyCreate limits s.budget queryName queryClass queryType queryId allocated
    = r
  obtain ⟨budget', status | a⟩ := r
  · obtain ⟨hbytes, hcount⟩ := assemblyCreate_refused hr
    exact ⟨hbytes.trans h.owned, hbytes.trans_le h.limit, fun type => hcount _ _ (h.conserves type)⟩
  · obtain ⟨_, hroom, rfl, name, _, rfl⟩ := assemblyCreate_fresh hr
    refine ⟨?_, hroom, ?_⟩
    · show s.budget.ownedBytes + sizeofAssembly = _
      rw [h.owned, List.map_cons, List.sum_cons]
      simp only [Assembly.charge]
      omega
    · intro type
      rw [List.map_cons, List.sum_cons, Nat.add_comm]
      rw [Assembly.liveOf_nonterminal rfl]
      exact ((h.conserves type).charge _).created

theorem BudgetSound.packet (hu : ∀ a ∈ s.assemblies, Unstarted a)
    (i : Nat) (packet : Bytes) (allocated : Bool) :
    BudgetSound limits (assemblyCall limits s (.packet i packet allocated)) := by
  unfold assemblyCall
  dsimp only
  cases ha : s.assemblies[i]? with
  | none => exact h
  | some a =>
    have hmem : a ∈ s.assemblies := List.mem_of_getElem? ha
    have heffect := (packetConsume_consumed limits s.budget a packet allocated).effect (hu a hmem)
    have hle := h.charge_le hmem
    refine ⟨?_, heffect.bytes_le h.limit, ?_⟩
    · have hsum := Ledger.sum_map_set Assembly.charge ha
        (packetConsume limits s.budget a packet allocated).2.1
      have hbytes := heffect.bytes (by omega)
      have howned := h.owned
      simp only [Assembly.charge] at hsum howned ⊢
      omega
    · intro type
      have hsum := Ledger.sum_map_set (Assembly.liveOf type) ha
        (packetConsume limits s.budget a packet allocated).2.1
      have hold := Ledger.share_le_sum (Assembly.liveOf type) hmem
      -- the live assemblies of the type are this one, if it is of the type, and the others
      have hlive := h.conserves type
      rw [← Nat.sub_add_cancel hold] at hlive
      have hnew := heffect.conserves type _ hlive
      have hcount : ((s.assemblies.map (Assembly.liveOf type)).sum - a.liveOf type) +
          (packetConsume limits s.budget a packet allocated).2.1.liveOf type =
          ((s.assemblies.set i (packetConsume limits s.budget a packet allocated).2.1).map
            (Assembly.liveOf type)).sum := by
        omega
      rw [hcount] at hnew
      exact hnew

theorem BudgetSound.take (i : Nat) :
    BudgetSound limits (assemblyCall limits s (.take i)) := by
  unfold assemblyCall
  dsimp only
  cases ha : s.assemblies[i]? with
  | none => exact h
  | some a =>
    rw [Option.bind_some]
    unfold resultTake
    by_cases hstate : a.state = .complete
    · rw [if_neg (by simpa using hstate)]
      refine ⟨?_, h.limit, ?_⟩
      · -- the bytes go from the assembly to the result
        have hsum := Ledger.sum_map_set Assembly.charge ha
          { a.payloadCleared with dynamicBytes := 0, state := .taken }
        have howned := h.owned
        simp only [Assembly.charge, List.map_cons, List.sum_cons] at hsum howned ⊢
        omega
      · intro type
        have hsum := Ledger.sum_map_set (Assembly.liveOf type) ha
          { a.payloadCleared with dynamicBytes := 0, state := .taken }
        have hold : a.liveOf type = 0 := Assembly.liveOf_terminal (by rw [hstate]; rfl) type
        rw [hold, Assembly.liveOf_terminal rfl, Nat.add_zero, Nat.add_zero] at hsum
        rw [hsum]
        exact h.conserves type
    · rw [if_pos hstate]
      exact h

theorem BudgetSound.resultDestroy (i : Nat) :
    BudgetSound limits (assemblyCall limits s (.resultDestroy i)) := by
  unfold assemblyCall
  dsimp only
  cases hr : s.results[i]? with
  | none => exact h
  | some result =>
    have hbytes : (MinecraftRelay.resultDestroy s.budget result).ownedBytes =
        s.budget.ownedBytes - result.dynamicBytes :=
      AssemblyBudget.discharge_ownedBytes ..
    refine ⟨?_, ?_, fun type => (h.conserves type).discharge _⟩
    · have hsum := Ledger.sum_map_eraseIdx AssemblyResult.dynamicBytes hr
      have howned := h.owned
      dsimp only
      omega
    · have hlimit := h.limit
      dsimp only
      omega

theorem BudgetSound.destroy (i : Nat) :
    BudgetSound limits (assemblyCall limits s (.destroy i)) := by
  unfold assemblyCall
  dsimp only
  cases ha : s.assemblies[i]? with
  | none => exact h
  | some a =>
    have hbytes : (assemblyDestroy s.budget a).ownedBytes =
        s.budget.ownedBytes - a.dynamicBytes - sizeofAssembly := by
      unfold assemblyDestroy dataClear
      rw [AssemblyBudget.discharge_ownedBytes, AssemblyBudget.discharge_ownedBytes]
      split <;> rfl
    refine ⟨?_, ?_, ?_⟩
    · have hsum := Ledger.sum_map_eraseIdx Assembly.charge ha
      have howned := h.owned
      simp only [Assembly.charge] at hsum howned ⊢
      omega
    · have hlimit := h.limit
      dsimp only
      omega
    · intro type
      have hsum := Ledger.sum_map_eraseIdx (Assembly.liveOf type) ha
      have hlive := h.conserves type
      rw [← hsum] at hlive
      refine AssemblyBudget.Conserves.discharge (AssemblyBudget.Conserves.discharge ?_ _) _
      cases hstate : a.state.nonterminal with
      | true =>
        rw [Assembly.liveOf_nonterminal hstate] at hlive
        exact AssemblyBudget.Conserves.ended (by decide) hlive
      | false =>
        rw [Assembly.liveOf_terminal hstate, Nat.add_zero] at hlive
        exact hlive

end

/-- An assembly that has not started holds no arrays, after any call. -/
theorem assemblyCall_unstarted (hu : ∀ a ∈ s.assemblies, Unstarted a) (c : AssemblyCall) :
    ∀ a ∈ (assemblyCall limits s c).assemblies, Unstarted a := by
  cases c with
  | create queryName queryClass queryType queryId allocated =>
    unfold assemblyCall
    dsimp only
    generalize hr : assemblyCreate limits s.budget queryName queryClass queryType queryId allocated
      = r
    obtain ⟨budget', status | a⟩ := r
    · exact hu
    · obtain ⟨_, _, _, name, _, rfl⟩ := assemblyCreate_fresh hr
      exact List.forall_mem_cons.2 ⟨fun _ => rfl, hu⟩
  | packet i packet allocated =>
    unfold assemblyCall
    dsimp only
    cases ha : s.assemblies[i]? with
    | none => exact hu
    | some a =>
      intro b hb
      rcases List.mem_or_eq_of_mem_set hb with hb | rfl
      · exact hu b hb
      · exact (packetConsume_consumed limits s.budget a packet allocated).unstarted
  | take i =>
    unfold assemblyCall
    dsimp only
    cases ha : s.assemblies[i]?.bind resultTake with
    | none => exact hu
    | some r =>
      obtain ⟨a', result⟩ := r
      intro b hb
      rcases List.mem_or_eq_of_mem_set hb with hb | rfl
      · exact hu b hb
      · obtain ⟨a, _, htake⟩ := Option.bind_eq_some_iff.1 ha
        unfold resultTake at htake
        split at htake
        · cases htake
        · cases htake
          exact fun _ => rfl
  | resultDestroy i =>
    unfold assemblyCall
    dsimp only
    split <;> exact hu
  | destroy i =>
    unfold assemblyCall
    dsimp only
    split
    · exact hu
    · exact fun b hb => hu b (List.mem_of_mem_eraseIdx hb)

/-- **Every call keeps the budget sound.** -/
theorem assemblyCall_sound (h : BudgetSound limits s) (hu : ∀ a ∈ s.assemblies, Unstarted a)
    (c : AssemblyCall) : BudgetSound limits (assemblyCall limits s c) := by
  cases c with
  | create queryName queryClass queryType queryId allocated =>
    exact h.create queryName queryClass queryType queryId allocated
  | packet i packet allocated => exact h.packet hu i packet allocated
  | take i => exact h.take i
  | resultDestroy i => exact h.resultDestroy i
  | destroy i => exact h.destroy i

end Calls

/-! ## 5. Runs -/

theorem assemblyBudgetCreate_sound (limits : AssemblyLimits) :
    BudgetSound limits { budget := assemblyBudgetCreate } where
  owned := rfl
  limit := limits.budget_le
  conserves type := by
    intro _
    simp [assemblyBudgetCreate, outcomeCounters]

/-- Over every run: the bytes are exact and within the limit, every assembly and every result is
    part of them, and creations are outcomes and assemblies without one. -/
structure BudgetAccounts (limits : AssemblyLimits) (s : AssemblyStore) : Prop where
  owned : s.budget.ownedBytes = sizeofAssemblyBudget +
    (s.assemblies.map fun a => sizeofAssembly + a.dynamicBytes).sum +
    (s.results.map fun r => r.dynamicBytes).sum
  limit : s.budget.ownedBytes ≤ limits.assemblyByteLimit
  assembly_unclamped : ∀ a ∈ s.assemblies, sizeofAssembly + a.dynamicBytes ≤ s.budget.ownedBytes
  result_unclamped : ∀ r ∈ s.results, r.dynamicBytes ≤ s.budget.ownedBytes
  outcomes : ∀ type, s.budget.metrics.Unsaturated (.query type .createOk) →
    s.budget.metrics.counters (.query type .createOk) =
      (outcomeCounters.map fun k => s.budget.metrics.counters (.query type k)).sum +
        s.assemblies.countP fun a => a.state.nonterminal && decide (a.queryType = type)

theorem sum_liveOf (type : QueryType) (assemblies : List Assembly) :
    (assemblies.map (Assembly.liveOf type)).sum =
      assemblies.countP fun a => a.state.nonterminal && decide (a.queryType = type) := by
  induction assemblies with
  | nil => rfl
  | cons a assemblies ih =>
    rw [List.map_cons, List.sum_cons, ih, List.countP_cons, Nat.add_comm]
    simp only [Assembly.liveOf, Bool.and_eq_true, decide_eq_true_eq]

/-- **The budget accounts for every byte and every assembly, in every run.** -/
theorem run_budgetAccounts (limits : AssemblyLimits) (calls : List AssemblyCall) :
    BudgetAccounts limits (assemblyRun limits calls) := by
  have hrun : ∀ s : AssemblyStore, BudgetSound limits s → (∀ a ∈ s.assemblies, Unstarted a) →
      BudgetSound limits (calls.foldl (assemblyCall limits) s) := by
    induction calls with
    | nil => exact fun s h _ => h
    | cons c calls ih =>
      intro s h hu
      exact ih _ (assemblyCall_sound h hu c) (assemblyCall_unstarted hu c)
  have h := hrun _ (assemblyBudgetCreate_sound limits) (by simp)
  refine ⟨h.owned, h.limit, fun a => h.charge_le, fun r => h.result_le, ?_⟩
  intro type hsat
  have hcount := h.conserves type hsat
  rw [List.map_map, sum_liveOf] at hcount
  exact hcount

end MinecraftRelay
