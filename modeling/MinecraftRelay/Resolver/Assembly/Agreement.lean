/-
  File:      Resolver/Assembly/Agreement.lean
  Subject:   THE CACHE TAKES WHAT THE ASSEMBLY COMPLETES.

  Two modules judge an answer: the assembly checks the packets of a reply (ipc_assembly.c), the
  cache checks the result it is given (cache.c), and each computes the bytes of it.  An answer that
  the first completes and that the second could keep is never refused by the second.

  * `beginCheck_answer` -- what a BEGIN packet says of an answer the cache could keep;
  * `Received.resultValidate` -- the cache's checks pass;
  * `Received.resultSize` -- the cache counts the bytes that the assembly counted;
  * `assembly_cache_agreement` -- **no such answer is invalid or too large**.
-/
import MinecraftRelay.Resolver.Assembly.Grammar
import MinecraftRelay.Resolver.Cache.Accounting

namespace MinecraftRelay

/-! ## 1. The answers the cache could keep -/

/-- An answer the cache could keep: OK, NODATA to a question, or NXDOMAIN to a question. -/
def Keepable (status : LookupStatus) (questionName : Bytes) (rcode : UInt8) : Prop :=
  status = .ok ∨ (status = .nodata ∧ questionName ≠ []) ∨
    (status = .notFound ∧ questionName ≠ [] ∧ rcode = rcodeNxdomain)

/-- What a BEGIN packet says of such an answer. -/
structure AnswerHead (expectedName : Bytes) (b : ResponseBegin) : Prop where
  question : b.questionName = expectedName
  canonical : nameNormalized b.canonicalName = true
  positive : b.status = .ok → b.rcode = rcodeNoerror ∧ 0 < b.recordCount ∧ b.negative.valid = false
  negative : b.status ≠ .ok → b.recordCount = 0
  nodata : b.status = .nodata → b.rcode = rcodeNoerror

theorem beginCheck_answer {a : Assembly} {b : ResponseBegin} (h : beginCheck a b = true)
    (hkeep : Keepable b.status b.questionName b.rcode) : AnswerHead a.expectedName b := by
  unfold beginCheck at h
  split at h
  · cases h
  rcases hkeep with hs | ⟨hs, hq⟩ | ⟨hs, hq, hr⟩
  · rw [hs] at h
    simp only [Bool.and_eq_true, decide_eq_true_eq, Bool.not_eq_true'] at h
    obtain ⟨⟨⟨_, hquestion⟩, hcanonical⟩, ⟨hrcode, hcount⟩, hvalid⟩ := h
    refine ⟨hquestion, hcanonical, fun _ => ⟨hrcode, hcount, hvalid⟩, fun hne => absurd hs hne, ?_⟩
    intro hnodata
    cases hs.symm.trans hnodata
  · rw [hs] at h
    simp only [if_neg hq, Bool.and_eq_true, Bool.or_eq_true, decide_eq_true_eq] at h
    obtain ⟨⟨⟨_, hquestion⟩, hcanonical⟩, hcount, hrcode⟩ := h
    refine ⟨hquestion, hcanonical, ?_, fun _ => hcount, ?_⟩
    · intro hok
      cases hs.symm.trans hok
    · intro _
      rcases hrcode with hrcode | hrcode
      · exact hrcode.2
      · cases hrcode.1
  · rw [hs] at h
    simp only [if_neg hq, Bool.and_eq_true, decide_eq_true_eq] at h
    obtain ⟨⟨⟨_, hquestion⟩, hcanonical⟩, hcount, _⟩ := h
    refine ⟨hquestion, hcanonical, ?_, fun _ => hcount, ?_⟩
    · intro hok
      cases hs.symm.trans hok
    · intro hnodata
      cases hs.symm.trans hnodata

/-! ## 2. The cache's checks -/

theorem Normalized.cacheNameValid {name : Bytes} (h : Normalized name) :
    cacheNameValid name = true := by
  unfold MinecraftRelay.cacheNameValid
  rw [h.nameNormalize_eq]
  rfl

section Checks

variable {limits : AssemblyLimits} {a₀ : Assembly} {b : ResponseBegin} {cnames : List CnameRecord}
  {addresses : List AddressRecord} {srvRecords : List SrvRecord} {n : Nat}

section

variable (h : Received limits a₀ b cnames addresses srvRecords)

include h

/-- The negative data of a complete reply passes the cache's check. -/
theorem Received.cacheNegativeValid (hcount : cnames.length = b.cnameCount)
    (hcomplete : completeCheck (fed a₀ b n cnames addresses srvRecords) = true) :
    cacheNegativeValid b.negative = true := by
  have hipc := h.decoded.negative
  unfold ipcNegativeValid at hipc
  unfold MinecraftRelay.cacheNegativeValid
  cases hvalid : b.negative.valid with
  | false =>
    rw [hvalid, if_pos (by simp)] at hipc
    rw [cString_of_not_mem h.decoded.owner.no_nul] at hipc
    exact hipc
  | true =>
    have howner := ((completeCheck_fed hcount hcomplete).2.2 hvalid).1
    rw [hvalid, if_neg (by simp)] at hipc
    simp only [Bool.and_eq_true] at hipc
    rw [if_neg (by simp),
      (nameNormalized_normalized h.decoded.owner.no_nul howner).cacheNameValid, hipc.1.2, hipc.2]
    rfl

theorem Received.cacheCnamesValid :
    cacheCnamesValid cnames = true := by
  have hlength := h.cnames_le
  have hdepth := (resultClassify_counts h.fit).1
  unfold MinecraftRelay.cacheCnamesValid
  rw [Bool.and_eq_true, decide_eq_true_eq, List.all_eq_true]
  refine ⟨by omega, ?_⟩
  intro c hc
  rw [(h.normal c hc).owner.cacheNameValid, (h.normal c hc).target.cacheNameValid]
  rfl

/-- **The cache's checks pass**, whatever the records are, if each of them does. -/
theorem Received.resultValidate {ρ : Type} (hcount : cnames.length = b.cnameCount)
    (hcomplete : completeCheck (fed a₀ b n cnames addresses srvRecords) = true)
    (hkeep : Keepable b.status b.questionName b.rcode) {entry : Entry}
    (hname : Normalized entry.name) (hexpected : a₀.expectedName = entry.name)
    {records : List ρ} (hrecords : records.length = b.recordCount) {recordLimit : Nat}
    (hlimit : recordLimit = addressRecordLimit) {recordValid : ρ → Bool}
    (hvalid : ∀ r ∈ records, recordValid r = true) (effectiveTtl : ρ → UInt32) :
    (resultValidate true recordLimit recordValid effectiveTtl entry b.status
      { records, canonicalName := b.canonicalName, cnames, negative := b.negative,
        questionName := b.questionName, rcode := b.rcode }).isSome = true := by
  have hhead := beginCheck_answer h.check hkeep
  have hcanonical := nameNormalized_normalized h.decoded.canonical.no_nul hhead.canonical
  have hquestion : questionMatches entry b.questionName = true := by
    unfold questionMatches
    rw [hhead.question, hexpected, hname.nameNormalize_eq]
    exact decide_eq_true rfl
  have hle := (resultClassify_counts h.fit).2
  unfold MinecraftRelay.resultValidate
  dsimp only
  rw [if_neg (by simp [hquestion, hcanonical.cacheNameValid, h.cacheCnamesValid,
    h.cacheNegativeValid hcount hcomplete])]
  by_cases hok : b.status = .ok
  · obtain ⟨hrcode, hpos, hnegative⟩ := hhead.positive hok
    have hne : records ≠ [] := by
      intro hnil
      rw [hnil] at hrecords
      exact absurd hpos (by rw [← hrecords]; exact Nat.lt_irrefl 0)
    rw [if_pos hok, if_neg, if_neg]
    · rfl
    · rw [Decidable.not_not, List.all_eq_true]
      exact hvalid
    · rintro (e | e | e | e)
      · exact e hrcode
      · exact hne e
      · omega
      · rw [hnegative] at e
        cases e
  · have hnil : records = [] := List.length_eq_zero_iff.1 (hrecords.trans (hhead.negative hok))
    rw [if_neg hok, if_neg, if_neg]
    · rfl
    · rintro (⟨e, hr⟩ | ⟨e, hr⟩)
      · exact hr (hhead.nodata e)
      · rcases hkeep with hs | ⟨hs, _⟩ | ⟨_, _, hr'⟩
        · exact hok hs
        · cases hs.symm.trans e
        · exact hr hr'
    · rintro (e | ⟨hnodata, hnotFound⟩)
      · exact e hnil
      · rcases hkeep with hs | ⟨hs, _⟩ | ⟨hs, _⟩
        · exact hok hs
        · exact hnodata hs
        · exact hnotFound hs

/-- **The cache counts the bytes that the assembly has counted**, and they are within the limit. -/
theorem Received.resultSize {ρ : Type}
    (hcount : cnames.length = b.cnameCount) {result : DnsResult ρ}
    (hcnames : result.cnames = cnames)
    (hrecords : result.records.length = b.recordCount) {recordSize : Nat}
    (hsize : recordSize = if a₀.queryType = .srv then sizeofSrvRecord else sizeofAddressRecord) :
    ∃ bytes, resultSize recordSize result = some bytes ∧ bytes ≤ limits.resultByteLimit := by
  obtain ⟨hmax, hresult, hdepth⟩ := result_numbers
  have hfit := resultClassify_bytes h.fit
  have hbytes := arraysBytes_le a₀.queryType b.cnameCount (resultClassify_counts h.fit).2
  refine ⟨_, ?_, hfit⟩
  unfold MinecraftRelay.resultSize arraysBytes at *
  rw [← hsize] at hbytes ⊢
  rw [hrecords, hcnames, sizeMultiply_of_le (by omega), sizeMultiply_of_le (by omega)]
  simp only [Option.bind_eq_bind, Option.bind_some]
  by_cases hc : b.cnameCount > 0
  · have hne : cnames ≠ [] := List.length_pos_iff.1 (hcount ▸ hc)
    rw [if_pos hc] at hbytes ⊢
    rw [sizeAdd_of_le (by omega), Option.bind_some, if_pos hne, sizeAdd_of_le (by omega)]
    rw [Nat.add_assoc, Nat.add_comm (b.recordCount * recordSize)]
  · have hnil : cnames = [] := List.length_eq_zero_iff.1 (by omega)
    rw [if_neg hc] at hbytes ⊢
    rw [sizeAdd_of_le (by omega), Option.bind_some, if_neg (not_not_intro hnil), Nat.zero_add]

end

end Checks

/-! ## 3. The publication -/

/-- A publication that is not refused for what the result is, nor for its size: the cache has
    checked it, it is within the limit of one result, and a LIMIT can only come from the bytes that
    the whole cache owns. -/
structure Publishable (limits : CacheLimits) (c : Cache) (entry : Entry) (size : Option Nat)
    (r : Cache × PublishStatus) : Prop where
  valid : r.2 ≠ .invalid
  fits : ∃ bytes, size = some bytes ∧ bytes ≤ limits.resultByteLimit ∧
    (r.2 = .limit → bytes > limits.ownedByteLimit ∨
      c.ownedBytes - (entry.payload.map (·.ownedBytes)).getD 0 > limits.ownedByteLimit - bytes)
  uncounted : r.1.metrics.counters (.query entry.queryType.metrics .publishLimitResultBytes) =
    c.metrics.counters (.query entry.queryType.metrics .publishLimitResultBytes)

theorem Cache.metricsIncrement_counter (c : Cache) (query : MetricsQueryType)
    (counter : CacheCounter) (h : counter ≠ .publishLimitResultBytes) (query' : MetricsQueryType) :
    (c.metricsIncrement query counter).metrics.counters (.query query' .publishLimitResultBytes) =
      c.metrics.counters (.query query' .publishLimitResultBytes) :=
  MetricsState.increment_counters_of_ne _ fun e => h (CacheMetric.query.inj e).2.symm

theorem payloadClear_metrics (c : Cache) (e : EntryId) :
    (payloadClear c e).metrics = c.metrics := by
  unfold payloadClear
  split
  · rfl
  · split <;> rfl

section

variable {ρ : Type} {limits : CacheLimits} {c : Cache} {e : EntryId} {entry : Entry}

/-- A payload within the limit of one result. -/
theorem payloadPublish_publishable {size : Nat} (hsize : size ≤ limits.resultByteLimit)
    (kind : MetricsPayloadKind) (type : DnsResult ρ → AnyResult) (completedAt : Timespec)
    (ttl : UInt32) (result : DnsResult ρ) (allocated : Bool) :
    let r := payloadPublish limits c e entry type kind completedAt ttl size result allocated
    Publishable limits c entry (some size) (r.1, r.2.1) := by
  unfold payloadPublish
  split
  · exact ⟨nofun, ⟨size, rfl, hsize, nofun⟩, rfl⟩
  rw [if_neg (Nat.not_lt.2 hsize)]
  split
  · refine ⟨nofun, ⟨size, rfl, hsize, nofun⟩, ?_⟩
    rw [payloadClear_metrics]
  split
  · exact ⟨nofun, ⟨size, rfl, hsize, nofun⟩, rfl⟩
  dsimp only
  split
  · rename_i hbytes
    exact ⟨nofun, ⟨size, rfl, hsize, fun _ => hbytes⟩,
      Cache.metricsIncrement_counter c _ .publishLimitOwnedBytes nofun _⟩
  split
  · exact ⟨nofun, ⟨size, rfl, hsize, nofun⟩, rfl⟩
  · refine ⟨nofun, ⟨size, rfl, hsize, nofun⟩, ?_⟩
    have hne : CacheMetric.query entry.queryType.metrics .publishLimitResultBytes ≠
        .ownedBytesHighWater := nofun
    refine (MetricsState.highWater_counters_of_ne _ hne _).trans ?_
    show (payloadClear c e).metrics.counters _ = _
    rw [payloadClear_metrics]

/-- A result that passes the checks, within the limit of one result. -/
theorem entryPublish_publishable (hentry : c.entries e = some entry) {validate : ResultCheck}
    (hvalid : (validate entry).isSome = true) {size : Option Nat}
    (hsize : ∃ bytes, size = some bytes ∧ bytes ≤ limits.resultByteLimit)
    (type : DnsResult ρ → AnyResult) (completedAt : Timespec) (result : DnsResult ρ)
    (allocated : Bool) :
    let r := entryPublish limits c e type validate size completedAt result allocated
    Publishable limits c entry size (r.1, r.2.1) := by
  obtain ⟨⟨ttl, kind⟩, hvalid⟩ := Option.isSome_iff_exists.1 hvalid
  obtain ⟨bytes, rfl, hbytes⟩ := hsize
  unfold entryPublish
  rw [hentry]
  dsimp only
  rw [hvalid]
  dsimp only
  generalize hc' : ({ c.metricsIncrement entry.queryType.metrics (.value kind) with
    metrics := (c.metricsIncrement entry.queryType.metrics (.value kind)).metrics.observeTtl
      (entry.queryType, kind) ttl.toNat } : Cache) = c'
  have hpublish : Publishable limits c' entry _ (_, _) :=
    payloadPublish_publishable (e := e) hbytes kind type completedAt ttl result allocated
  have howned : c'.ownedBytes = c.ownedBytes := by
    rw [← hc']
    rfl
  have hcounter : c'.metrics.counters (.query entry.queryType.metrics .publishLimitResultBytes) =
      c.metrics.counters (.query entry.queryType.metrics .publishLimitResultBytes) := by
    rw [← hc']
    exact Cache.metricsIncrement_counter c _ (.value kind) nofun _
  obtain ⟨hne, ⟨size, hsome, hle, hlimit⟩, hcounted⟩ := hpublish
  cases hsome
  rw [howned] at hlimit
  refine ⟨hne, ⟨bytes, rfl, hle, hlimit⟩, ?_⟩
  rw [Cache.metricsIncrement_counter, hcounted, hcounter]
  generalize (payloadPublish limits c' e entry type kind completedAt ttl bytes result
    allocated).2.1 = status
  cases status <;> nofun

end

/-! ## 4. The agreement -/

/-- The publication of a taken result, as the supervisor makes it. -/
def publication (limits : CacheLimits) (c : Cache) (e : EntryId) (response : AssemblyResult)
    (allocated : Bool) : Cache × PublishStatus :=
  match response.payload with
  | .address result =>
    let r := entryPublishAddress limits c e response.status response.completedAt result allocated
    (r.1, r.2.1)
  | .srv result =>
    let r := entryPublishSrv limits c e response.status response.completedAt result allocated
    (r.1, r.2.1)

/-- The bytes the cache counts for a result. -/
def AnyResult.cacheSize : AnyResult → Option Nat
  | .address result => resultSize sizeofAddressRecord result
  | .srv result => resultSize sizeofSrvRecord result

/-- A complete reply for an entry's name and type. -/
theorem Completed.publishable {limits : AssemblyLimits} {a₀ a a' : Assembly} {packets : List Bytes}
    (h : Completed limits a₀ a packets) {result : AssemblyResult}
    (htake : resultTake a = some (a', result))
    (hkeep : Keepable result.status result.payload.questionName result.payload.rcode) {c : Cache}
    {e : EntryId} {entry : Entry} (hentry : c.entries e = some entry)
    (hname : Normalized entry.name) (hexpected : a₀.expectedName = entry.name)
    (htype : a₀.queryType = entry.queryType) (allocated : Bool) :
    Publishable limits.toCacheLimits c entry result.payload.cacheSize
      (publication limits.toCacheLimits c e result allocated) := by
  obtain ⟨b, cnames, addresses, srvRecords, hreceived, hreply, hcomplete, rfl⟩ := h
  have hcount := hreply.cnameCount
  have hrecords := hreply.recordCount
  obtain ⟨_, _, _, hcompleted, hpayload, hstatus⟩ := resultTake_spec htake
  change result.payload = replyPayload a₀.queryType b cnames addresses srvRecords at hpayload
  have hnil := hreceived.type
  unfold publication
  rw [hstatus, hpayload] at hkeep ⊢
  unfold replyPayload at hkeep ⊢
  by_cases hsrv : a₀.queryType = .srv
  · rw [if_pos hsrv] at hnil hkeep ⊢
    subst hnil
    rw [List.length_nil, Nat.zero_add] at hrecords
    refine entryPublish_publishable hentry ?_ (hreceived.resultSize hcount rfl hrecords
      (if_pos hsrv).symm) _ _ _ allocated
    unfold srvResultValidate
    rw [decide_eq_true (htype ▸ hsrv : entry.queryType = .srv)]
    refine hreceived.resultValidate hcount hcomplete hkeep hname hexpected hrecords rfl ?_ _
    intro r hr
    obtain ⟨_, htarget, httl⟩ := hreceived.srvRecords r hr
    rw [htarget.cacheNameValid, httl, Bool.true_and]
    exact decide_eq_true (ttlMin_le _ _).1
  · rw [if_neg hsrv] at hnil hkeep ⊢
    subst hnil
    refine entryPublish_publishable hentry ?_ (hreceived.resultSize hcount rfl hrecords
      (if_neg hsrv).symm) _ _ _ allocated
    unfold addressResultValidate
    have haddress : entry.queryType = .a ∨ entry.queryType = .aaaa := by
      rw [← htype]
      cases hq : a₀.queryType with
      | a => exact Or.inl rfl
      | aaaa => exact Or.inr rfl
      | srv => exact absurd hq hsrv
    rw [decide_eq_true haddress]
    refine hreceived.resultValidate hcount hcomplete hkeep hname hexpected hrecords rfl ?_ _
    intro r hr
    obtain ⟨_, hfamily, httl⟩ := hreceived.addresses r hr
    rw [hfamily, htype, httl, decide_eq_true rfl, Bool.true_and]
    exact decide_eq_true (ttlMin_le _ _).1

/-- **The cache never refuses, as invalid or as too large, an answer that it could keep and that
    an assembly for its entry has completed.** -/
theorem assembly_cache_agreement (limits : AssemblyLimits) (calls : List CacheCall) (e : EntryId)
    (entry : Entry) (hentry : (cacheRun limits.toCacheLimits calls).entries e = some entry)
    (budget budget' : AssemblyBudget) (queryClass queryId : Nat) (allocated : Bool) (a₀ : Assembly)
    (hcreate : assemblyCreate limits budget entry.name queryClass entry.queryType queryId allocated
      = (budget', .ok a₀))
    (ops : List AssemblyOp) (a : Assembly) (result : AssemblyResult)
    (htake : resultTake (session limits a₀ ops).assembly = some (a, result))
    (hkeep : Keepable result.status result.payload.questionName result.payload.rcode)
    (payloadAllocated : Bool) :
    Publishable limits.toCacheLimits (cacheRun limits.toCacheLimits calls) entry
      result.payload.cacheSize
      (publication limits.toCacheLimits (cacheRun limits.toCacheLimits calls) e result
        payloadAllocated) := by
  have hname := ((run_cacheSound limits.toCacheLimits calls).1.named e entry hentry).1
  have hspec := assemblyCreate_eq hcreate hname
  exact (session_completed (assemblyCreate_isFresh hcreate) (resultTake_spec htake).1).publishable
    htake hkeep hentry hname (by rw [hspec]) (by rw [hspec]) payloadAllocated

def singleResult : AssemblyResult where
  completedAt := ⟨1, 0⟩
  dynamicBytes := 32
  payload := .address { records := [singleRecord 60], canonicalName := [97], questionName := [97] }
  queryId := 1
  queryType := .a
  status := .ok

def singleEntry : Entry where
  hash := cacheHash [97] .a
  name := [97]
  payload := none
  queryType := .a
  referenceCount := 1

theorem singleTake : resultTake (session {} singleAssembly (feeds (singlePackets 60))).assembly =
    some ({ singleAssembly with
      chainTtl := 0xFFFFFFFF
      completedAt := ⟨1, 0⟩
      declaredRecordCount := 1
      state := .taken }, singleResult) := by
  decide +kernel

theorem assembly_cache_agreement_single :
    Publishable {} (cacheRun {} [.acquire [97] 1 true]) singleEntry
      singleResult.payload.cacheSize
      (publication {} (cacheRun {} [.acquire [97] 1 true]) 1 singleResult true) :=
  assembly_cache_agreement {} [.acquire [97] 1 true] 1 singleEntry (by decide +kernel)
    assemblyBudgetCreate _ classIn 1 true singleAssembly aliasedAssembly_eq
    (feeds (singlePackets 60)) _ singleResult singleTake (Or.inl rfl) true

end MinecraftRelay
