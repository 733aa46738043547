/-
  File:      Resolver/Cache.lean
  Subject:   THE RESOLVER CACHE (resolver/cache.c).

  Entries live in hash chains; a pointer to an entry is its id, and `Cache.entries` is the heap
  of the entries not yet freed.  Ids are handed out once, so a pointer to a freed entry finds
  nothing and behaves as NULL does.  `calloc` outcomes are arguments.  Compile-time limits are a
  `CacheLimits`, with the conditions `resolver_cache_create` checks as fields.

  * `entryPublish_published` -- the ways a publication ends: stored, transient, or refused with
    every entry as it was;
  * `entryAcquire_kept`, `entryRelease_kept`, `entryView_kept`, ... -- what each call does to the
    payloads, which is all the supervisor's invariants need.
-/
import MinecraftRelay.Metrics
import MinecraftRelay.Resolver.Records

namespace MinecraftRelay

open Function (update update_of_ne update_self)

variable {ρ : Type} {type : DnsResult ρ → AnyResult} {result : DnsResult ρ}
variable {cnameCount recordCount : Nat} {completedAt : Timespec} {entry : Entry} {allocated : Bool}

/-! ## 1. State -/

/-- The `sizeof`s of the cache's structs on an LP64 host. -/
def sizeofCache : Nat := 2120
def sizeofCacheEntry : Nat := 1088
def sizeofCachePayload : Nat := 3184
def sizeofPointer : Nat := 8
def sizeofAddressRecord : Nat := 32
def sizeofSrvRecord : Nat := 1040
def sizeofCnameRecord : Nat := 2056

/-- `RESOLVER_CACHE_*_LIMIT`, with what `resolver_cache_create` requires of them. -/
structure CacheLimits where
  entryLimit : Nat := 16384
  ownedByteLimit : Nat := 64 * 1024 * 1024
  resultByteLimit : Nat := 256 * 1024
  entryLimit_pos : 0 < entryLimit := by decide
  ownedByteLimit_pos : 0 < ownedByteLimit := by decide
  resultByteLimit_pos : 0 < resultByteLimit := by decide
  header_le : sizeofCache + entryLimit * sizeofPointer ≤ ownedByteLimit := by decide

/-- A pointer to a cache entry: the entry's id. -/
abbrev EntryId := Nat

/-- `resolver_cache_view_status`: `EMPTY`, or one of the three `FRESH` statuses. -/
inductive ViewStatus where
  | empty
  | fresh (kind : MetricsPayloadKind)
deriving Repr, DecidableEq

/-- `resolver_cache_payload`; its `type` is the constructor of the result, and its `status` is
    the `FRESH` status of its kind. -/
structure Payload where
  completedAt : Timespec
  expiresAt : Timespec
  ownedBytes : Nat
  result : AnyResult
  kind : MetricsPayloadKind
deriving Repr, DecidableEq

/-- `resolver_cache_entry`; its `id` is its key in `Cache.entries`. -/
structure Entry where
  hash : UInt64
  name : Bytes
  payload : Option Payload
  queryType : QueryType
  referenceCount : Nat
deriving Repr, DecidableEq

/-- The counters of `resolver_cache_metrics_query`. -/
inductive CacheCounter where
  | acquireCreated | acquireReused | acquireBadArgument | acquireReferenceLimit
  | acquireEntryLimit | acquireIdLimit | acquireOwnedByteLimit | acquireMemory
  | publishStored | publishTransient | publishBadArgument | publishInvalid | publishLimit
  | publishMemory | publishTime | publishLimitResultBytes | publishLimitOwnedBytes
  | value (kind : MetricsPayloadKind) | expiry (kind : MetricsPayloadKind)
deriving Repr, DecidableEq

/-- The counters of `resolver_cache_metrics_state`. -/
inductive CacheMetric where
  | entriesHighWater | ownedBytesHighWater
  | query (type : MetricsQueryType) (counter : CacheCounter)
deriving Repr, DecidableEq

/-- `resolver_cache`. -/
structure Cache where
  buckets : Nat → List EntryId
  entries : EntryId → Option Entry
  entryCount : Nat
  metrics : MetricsState CacheMetric (QueryType × MetricsPayloadKind)
  nextEntryId : Nat
  ownedBytes : Nat

/-- `resolver_cache_metrics_query_type` of a valid type. -/
def QueryType.metrics : QueryType → MetricsQueryType
  | .a => .a
  | .aaaa => .aaaa
  | .srv => .srv

namespace Cache

/-- `resolver_cache_metrics_increment` on one of the counters of a query type. -/
def metricsIncrement (c : Cache) (query : MetricsQueryType) (counter : CacheCounter) : Cache :=
  { c with metrics := c.metrics.increment (.query query counter) }

/-- Write an entry's fields. -/
def setEntry (c : Cache) (e : EntryId) (entry : Entry) : Cache :=
  { c with entries := update c.entries e (some entry) }

/-- The payload an entry holds. -/
def payload (c : Cache) (e : EntryId) : Option Payload := (c.entries e).bind (·.payload)

@[simp] theorem metricsIncrement_entries (c : Cache) (q : MetricsQueryType) (k : CacheCounter) :
    (c.metricsIncrement q k).entries = c.entries := rfl

@[simp] theorem setEntry_entries (c : Cache) (e : EntryId) (entry : Entry) :
    (c.setEntry e entry).entries = update c.entries e (some entry) := rfl

end Cache

variable (limits : CacheLimits) (c : Cache)

/-- `resolver_cache_create`, when its allocations succeed. -/
def cacheCreate : Cache where
  buckets := fun _ => []
  entries := fun _ => none
  entryCount := 0
  metrics := { counters := fun k =>
    if k = .ownedBytesHighWater then sizeofCache + limits.entryLimit * sizeofPointer else 0 }
  nextEntryId := 1
  ownedBytes := sizeofCache + limits.entryLimit * sizeofPointer

/-! ## 2. Entries -/

/-- `resolver_cache_hash`: FNV-1a over the name and the two bytes of the type. -/
def cacheHash (name : Bytes) (queryType : QueryType) : UInt64 :=
  let mix (result : UInt64) (byte : UInt8) : UInt64 :=
    (result ^^^ byte.toUInt64) * 1099511628211
  let named := name.foldl mix 14695981039346656037
  mix (mix named (UInt8.ofNat (queryType.code / 256))) (UInt8.ofNat queryType.code)

/-- `hash % cache->bucket_count`. -/
def cacheBucket (hash : UInt64) : Nat := hash.toNat % limits.entryLimit

/-- `resolver_cache_entry_find`. -/
def entryFind (name : Bytes) (queryType : QueryType) (hash : UInt64) : Option EntryId :=
  (c.buckets (cacheBucket limits hash)).find? fun e =>
    (c.entries e).any fun entry =>
      decide (entry.hash = hash ∧ entry.queryType = queryType ∧ entry.name = name)

/-- `resolver_cache_entry_payload_clear`. -/
def payloadClear (e : EntryId) : Cache :=
  match c.entries e with
  | none => c
  | some entry =>
    match entry.payload with
    | none => c
    | some payload =>
      { c.setEntry e { entry with payload := none } with
        ownedBytes :=
          if c.ownedBytes ≥ payload.ownedBytes then c.ownedBytes - payload.ownedBytes else 0 }

/-- `resolver_cache_entry_retain`. -/
def entryRetain (e : EntryId) : Cache × Bool :=
  match c.entries e with
  | none => (c, false)
  | some entry =>
    if entry.referenceCount = sizeMax then (c, false)
    else (c.setEntry e { entry with referenceCount := entry.referenceCount + 1 }, true)

/-- The end of `resolver_cache_entry_release`: the last reference is gone. -/
def entryFree (e : EntryId) (entry : Entry) : Cache :=
  let bucket := cacheBucket limits entry.hash
  let cleared := payloadClear
    { c with buckets := update c.buckets bucket ((c.buckets bucket).erase e) } e
  { cleared with
    ownedBytes :=
      if cleared.ownedBytes ≥ sizeofCacheEntry then cleared.ownedBytes - sizeofCacheEntry else 0
    entryCount := if cleared.entryCount > 0 then cleared.entryCount - 1 else cleared.entryCount
    entries := update cleared.entries e none }

/-- `resolver_cache_entry_release`. -/
def entryRelease (e : EntryId) : Cache :=
  match c.entries e with
  | none => c
  | some entry =>
    if entry.referenceCount = 0 then c
    else if entry.referenceCount - 1 ≠ 0 then
      c.setEntry e { entry with referenceCount := entry.referenceCount - 1 }
    else entryFree limits c e entry

/-- `resolver_cache_acquire_status`. -/
inductive AcquireStatus where
  | ok | badArgument | limit | memory
deriving Repr, DecidableEq

/-- `resolver_cache_entry_acquire`; `allocated` is the outcome of `calloc`. -/
def entryAcquire (queryName : Bytes) (queryType : Nat)
    (allocated : Bool) : Cache × AcquireStatus × Option EntryId :=
  match QueryType.ofCode queryType, nameNormalize queryName with
  | none, _ => (c.metricsIncrement .other .acquireBadArgument, .badArgument, none)
  | some type, none => (c.metricsIncrement type.metrics .acquireBadArgument, .badArgument, none)
  | some type, some normalized =>
    let hash := cacheHash normalized type
    match entryFind limits c normalized type hash with
    | some e =>
      match entryRetain c e with
      | (c, false) => (c.metricsIncrement type.metrics .acquireReferenceLimit, .limit, none)
      | (c, true) => (c.metricsIncrement type.metrics .acquireReused, .ok, some e)
    | none =>
      if c.entryCount = limits.entryLimit then
        (c.metricsIncrement type.metrics .acquireEntryLimit, .limit, none)
      else if c.nextEntryId = 0 then
        (c.metricsIncrement type.metrics .acquireIdLimit, .limit, none)
      else if sizeofCacheEntry > limits.ownedByteLimit ∨
          c.ownedBytes > limits.ownedByteLimit - sizeofCacheEntry then
        (c.metricsIncrement type.metrics .acquireOwnedByteLimit, .limit, none)
      else if ¬ allocated then (c.metricsIncrement type.metrics .acquireMemory, .memory, none)
      else
        let e := c.nextEntryId
        let bucket := cacheBucket limits hash
        let entry : Entry :=
          { hash, name := normalized, payload := none, queryType := type, referenceCount := 1 }
        let ownedBytes := c.ownedBytes + sizeofCacheEntry
        let created : Cache :=
          { buckets := update c.buckets bucket (e :: c.buckets bucket)
            entries := update c.entries e (some entry)
            entryCount := c.entryCount + 1
            metrics := (c.metrics.highWater .entriesHighWater (c.entryCount + 1)).highWater
              .ownedBytesHighWater ownedBytes
            nextEntryId := if c.nextEntryId = uint64Max then 0 else c.nextEntryId + 1
            ownedBytes }
        (created.metricsIncrement type.metrics .acquireCreated, .ok, some e)

/-! ## 3. Publications -/

/-- `resolver_cache_publish_status`. -/
inductive PublishStatus where
  | stored | transient | badArgument | invalid | limit | memory | time
deriving Repr, DecidableEq

/-- `resolver_cache_metrics_publication_record`. -/
def PublishStatus.counter : PublishStatus → CacheCounter
  | .stored => .publishStored
  | .transient => .publishTransient
  | .badArgument => .publishBadArgument
  | .invalid => .publishInvalid
  | .limit => .publishLimit
  | .memory => .publishMemory
  | .time => .publishTime

/-- `resolver_cache_name_valid`. -/
def cacheNameValid (source : Bytes) : Bool := (nameNormalize source).isSome

/-- `resolver_cache_cnames_valid`. -/
def cacheCnamesValid (cnames : List CnameRecord) : Bool :=
  decide (cnames.length ≤ cnameDepthLimit) &&
    cnames.all fun cname => cacheNameValid cname.owner && cacheNameValid cname.target

/-- `resolver_cache_negative_valid`. -/
def cacheNegativeValid (negative : NegativeRecord) : Bool :=
  if ¬ negative.valid then
    decide (negative.effectiveTtl = 0 ∧ negative.minimum = 0 ∧ negative.owner = [] ∧
      negative.recordTtl = 0)
  else
    cacheNameValid negative.owner && decide (negative.effectiveTtl ≤ negative.minimum) &&
      decide (negative.effectiveTtl ≤ negative.recordTtl)

/-- `resolver_cache_question_matches`. -/
def questionMatches (entry : Entry) (questionName : Bytes) : Bool :=
  decide (nameNormalize questionName = some entry.name)

/-- The common body of `resolver_cache_address_result_validate` and
    `resolver_cache_srv_result_validate`: the TTL and the kind of a valid result. -/
def resultValidate {ρ : Type} (typeValid : Bool) (recordLimit : Nat) (recordValid : ρ → Bool)
    (effectiveTtl : ρ → UInt32) (entry : Entry) (lookupStatus : LookupStatus)
    (result : DnsResult ρ) : Option (UInt32 × MetricsPayloadKind) :=
  if ¬ typeValid ∨ ¬ questionMatches entry result.questionName ∨
      ¬ cacheNameValid result.canonicalName ∨ ¬ cacheCnamesValid result.cnames ∨
      ¬ cacheNegativeValid result.negative then none
  else if lookupStatus = .ok then
    if result.rcode ≠ rcodeNoerror ∨ result.records = [] ∨ result.records.length > recordLimit ∨
        result.negative.valid then none
    else if ¬ result.records.all recordValid then none
    else
      some ((result.records.map effectiveTtl).foldl (fun ttl r => ttlMin r ttl) 0xFFFFFFFF,
        .positive)
  else if result.records ≠ [] ∨ (lookupStatus ≠ .nodata ∧ lookupStatus ≠ .notFound) then none
  else if (lookupStatus = .nodata ∧ result.rcode ≠ rcodeNoerror) ∨
      (lookupStatus = .notFound ∧ result.rcode ≠ rcodeNxdomain) then none
  else
    some (if result.negative.valid then result.negative.effectiveTtl else 0,
      if lookupStatus = .nodata then .nodata else .nxdomain)

/-- `resolver_cache_address_result_validate`. -/
def addressResultValidate (entry : Entry) (lookupStatus : LookupStatus) (result : AddressResult) :
    Option (UInt32 × MetricsPayloadKind) :=
  resultValidate (decide (entry.queryType = .a ∨ entry.queryType = .aaaa)) addressRecordLimit
    (fun record =>
      decide (record.address.family = entry.queryType.family) &&
        decide (record.effectiveTtl ≤ record.recordTtl))
    (·.effectiveTtl) entry lookupStatus result

/-- `resolver_cache_srv_result_validate`. -/
def srvResultValidate (entry : Entry) (lookupStatus : LookupStatus) (result : SrvResult) :
    Option (UInt32 × MetricsPayloadKind) :=
  resultValidate (decide (entry.queryType = .srv)) srvRecordLimit
    (fun record =>
      cacheNameValid record.target && decide (record.effectiveTtl ≤ record.recordTtl))
    (·.effectiveTtl) entry lookupStatus result

/-- `resolver_cache_address_result_size` and `resolver_cache_srv_result_size`, which differ in the
    size of one record. -/
def resultSize {ρ : Type} (recordSize : Nat) (result : DnsResult ρ) : Option Nat := do
  let size ← sizeAdd sizeofCachePayload (← sizeMultiply result.records.length recordSize)
  if result.cnames ≠ [] then sizeAdd size (← sizeMultiply cnameDepthLimit sizeofCnameRecord)
  else some size

/-- `resolver_cache_expiry_calculate`. -/
def expiryCalculate (completedAt : Timespec) (ttl : UInt32) : Option Timespec :=
  if ¬ timeutilValid completedAt then none
  else if completedAt.sec.toNat > uint64Max - ttl.toNat then none
  else
    let expirySeconds := completedAt.sec.toNat + ttl.toNat
    if (expirySeconds : Int) > timeMax then none
    else some { completedAt with sec := expirySeconds }

/-- `resolver_cache_entry_payload_publish`, with the caller's result as the call leaves it: `type`
    is the payload's type, `allocated` the outcome of `calloc`. -/
def payloadPublish (e : EntryId) (entry : Entry) (type : DnsResult ρ → AnyResult)
    (kind : MetricsPayloadKind) (completedAt : Timespec) (ttl : UInt32) (size : Nat)
    (result : DnsResult ρ) (allocated : Bool) : Cache × PublishStatus × DnsResult ρ :=
  if ¬ timeutilValid completedAt then (c, .time, result)
  else if size > limits.resultByteLimit then
    (c.metricsIncrement entry.queryType.metrics .publishLimitResultBytes, .limit, result)
  else if ttl = 0 then (payloadClear c e, .transient, result)
  else
    match expiryCalculate completedAt ttl with
    | none => (c, .time, result)
    | some expiresAt =>
      let oldPayloadSize := (entry.payload.map (·.ownedBytes)).getD 0
      let retainedSize := c.ownedBytes - oldPayloadSize
      if size > limits.ownedByteLimit ∨ retainedSize > limits.ownedByteLimit - size then
        (c.metricsIncrement entry.queryType.metrics .publishLimitOwnedBytes, .limit, result)
      else if ¬ allocated then (c, .memory, result)
      else
        -- the result is moved into the payload, the caller's copy is zeroed
        let (payload, result) : Payload × DnsResult ρ :=
          ({ completedAt, expiresAt, ownedBytes := size, result := type result, kind }, {})
        let cleared := payloadClear c e
        let stored := cleared.setEntry e { entry with payload := some payload }
        let ownedBytes := cleared.ownedBytes + size
        ({ stored with
            ownedBytes
            metrics := stored.metrics.highWater .ownedBytesHighWater ownedBytes }, .stored, result)

/-- A check of a result for an entry, which answers with its lifetime. -/
abbrev ResultCheck := Entry → Option (UInt32 × MetricsPayloadKind)

/-- The common body of `resolver_cache_entry_publish_address` and
    `resolver_cache_entry_publish_srv`. -/
def entryPublish (e : EntryId) (type : DnsResult ρ → AnyResult) (validate : ResultCheck)
    (size : Option Nat) (completedAt : Timespec) (result : DnsResult ρ) (allocated : Bool) :
    Cache × PublishStatus × DnsResult ρ :=
  match c.entries e with
  | none => (c, .badArgument, result)
  | some entry =>
    let query := entry.queryType.metrics
    match validate entry with
    | none => (c.metricsIncrement query .publishInvalid, .invalid, result)
    | some (ttl, kind) =>
      let c := c.metricsIncrement query (.value kind)
      let c := { c with
        metrics := c.metrics.observeTtl (entry.queryType, kind) ttl.toNat }
      match size with
      | none =>
        ((c.metricsIncrement query .publishLimitResultBytes).metricsIncrement query .publishLimit,
          .limit, result)
      | some size =>
        let (c, status, result) :=
          payloadPublish limits c e entry type kind completedAt ttl size result allocated
        (c.metricsIncrement query status.counter, status, result)

/-- `resolver_cache_entry_publish_address`, with the caller's result. -/
def entryPublishAddress (e : EntryId)
    (lookupStatus : LookupStatus) (completedAt : Timespec) (result : AddressResult)
    (allocated : Bool) : Cache × PublishStatus × AddressResult :=
  entryPublish limits c e .address (addressResultValidate · lookupStatus result)
    (resultSize sizeofAddressRecord result) completedAt result allocated

/-- `resolver_cache_entry_publish_srv`. -/
def entryPublishSrv (e : EntryId)
    (lookupStatus : LookupStatus) (completedAt : Timespec) (result : SrvResult)
    (allocated : Bool) : Cache × PublishStatus × SrvResult :=
  entryPublish limits c e .srv (srvResultValidate · lookupStatus result)
    (resultSize sizeofSrvRecord result) completedAt result allocated

/-! ## 4. Views -/

/-- `resolver_cache_view`. -/
structure View where
  addresses : List AddressRecord := []
  completedAt : Timespec := ⟨0, 0⟩
  expiresAt : Timespec := ⟨0, 0⟩
  srvRecords : List SrvRecord := []
  status : ViewStatus := .empty
deriving Repr, DecidableEq

/-- The view of a payload. -/
def Payload.view (payload : Payload) : View :=
  match payload.result with
  | .address result =>
    { addresses := result.records, completedAt := payload.completedAt,
      expiresAt := payload.expiresAt, status := .fresh payload.kind }
  | .srv result =>
    { srvRecords := result.records, completedAt := payload.completedAt,
      expiresAt := payload.expiresAt, status := .fresh payload.kind }

/-- The expiry check of `resolver_cache_entry_view`: a payload past its expiry is dropped. -/
def payloadExpire (e : EntryId) (now : Timespec) : Cache :=
  match c.entries e with
  | none => c
  | some entry =>
    match entry.payload with
    | none => c
    | some payload =>
      if timeutilCompare now payload.expiresAt = .lt then c
      else
        payloadClear (c.metricsIncrement entry.queryType.metrics
          (.expiry payload.kind)) e

/-- `resolver_cache_entry_view`. -/
def entryView (e : EntryId) (now : Timespec) : Cache × Option View :=
  match c.entries e with
  | none => (c, none)
  | some _ =>
    if ¬ timeutilValid now then (c, none)
    else
      let c := payloadExpire c e now
      (c, some (((c.payload e).map Payload.view).getD {}))

/-- `resolver_cache_result_fit`. -/
inductive ResultFit where
  | ok | shape | bytes
deriving Repr, DecidableEq

/-- `resolver_cache_result_classify`. -/
def resultClassify (queryType : QueryType) (cnameCount recordCount : Nat) : ResultFit :=
  let recordLimit := if queryType = .srv then srvRecordLimit else addressRecordLimit
  if cnameCount > cnameDepthLimit ∨ recordCount > recordLimit then .shape
  else
    let size : Option Nat := do
      if cnameCount > 0 then
        sizeAdd sizeofCachePayload (← sizeMultiply cnameDepthLimit sizeofCnameRecord)
      else some sizeofCachePayload
    let recordSize := if queryType = .srv then sizeofSrvRecord else sizeofAddressRecord
    let total : Option Nat := do sizeAdd (← size) (← sizeMultiply recordCount recordSize)
    match total with
    | some total => if total ≤ limits.resultByteLimit then .ok else .bytes
    | none => .bytes

/-- The bytes of the arrays of a result. -/
def arraysBytes (queryType : QueryType) (cnameCount recordCount : Nat) : Nat :=
  (if cnameCount > 0 then cnameDepthLimit * sizeofCnameRecord else 0) +
    recordCount * (if queryType = .srv then sizeofSrvRecord else sizeofAddressRecord)

/-- The bytes of the largest result a lookup can have. -/
def resultBytesMax : Nat :=
  sizeofCachePayload + arraysBytes .srv cnameDepthLimit srvRecordLimit

theorem arraysBytes_le (queryType : QueryType) (cnameCount : Nat) {recordCount : Nat}
    (hrecords : recordCount ≤ addressRecordLimit) :
    sizeofCachePayload + arraysBytes queryType cnameCount recordCount ≤ resultBytesMax := by
  have hmax : resultBytesMax = 169200 := rfl
  have hlimit : addressRecordLimit = 128 := rfl
  have hdepth : cnameDepthLimit * sizeofCnameRecord = 32896 := rfl
  have hpayload : sizeofCachePayload = 3184 := rfl
  have hsize : (if queryType = .srv then sizeofSrvRecord else sizeofAddressRecord) ≤ 1040 := by
    split <;> decide
  have hbytes := Nat.mul_le_mul hrecords hsize
  unfold arraysBytes
  split <;> omega

theorem result_numbers : sizeMax = 18446744073709551615 ∧ resultBytesMax = 169200 ∧
    cnameDepthLimit * sizeofCnameRecord = 32896 := ⟨rfl, rfl, rfl⟩

/-- Within the counts of a lookup, the size decides whether a result fits. -/
theorem resultClassify_eq (queryType : QueryType) (hcnames : cnameCount ≤ cnameDepthLimit)
    (hrecords : recordCount ≤ addressRecordLimit) :
    resultClassify limits queryType cnameCount recordCount =
      if sizeofCachePayload + arraysBytes queryType cnameCount recordCount ≤ limits.resultByteLimit
      then .ok else .bytes := by
  obtain ⟨hmax, hresult, hdepth⟩ := result_numbers
  have hbytes := arraysBytes_le queryType cnameCount hrecords
  have hlimit : (if queryType = .srv then srvRecordLimit else addressRecordLimit) =
      addressRecordLimit := by
    split <;> rfl
  unfold arraysBytes at hbytes ⊢
  unfold resultClassify
  dsimp only
  rw [hlimit, if_neg (by omega), sizeMultiply_of_le (by omega), sizeMultiply_of_le (by omega)]
  by_cases hc : cnameCount > 0
  · simp only [if_pos hc, Option.bind_eq_bind, Option.bind_some]
    rw [sizeAdd_of_le (by omega), Option.bind_some, sizeAdd_of_le (by omega), Nat.add_assoc]
  · simp only [if_neg hc, Option.bind_eq_bind, Option.bind_some]
    rw [sizeAdd_of_le (by omega), Nat.zero_add]

/-- Within the counts of a lookup, a result fits when the largest one does. -/
theorem resultClassify_ok {limits : CacheLimits} (hfit : resultBytesMax ≤ limits.resultByteLimit)
    (queryType : QueryType) (hcnames : cnameCount ≤ cnameDepthLimit)
    (hrecords : recordCount ≤ addressRecordLimit) :
    resultClassify limits queryType cnameCount recordCount = .ok := by
  rw [resultClassify_eq limits queryType hcnames hrecords]
  exact if_pos (Nat.le_trans (arraysBytes_le queryType cnameCount hrecords) hfit)

section

variable {limits : CacheLimits} {queryType : QueryType}
  (h : resultClassify limits queryType cnameCount recordCount = .ok)

include h

/-- The counts that `resolver_cache_result_classify` accepts. -/
theorem resultClassify_counts :
    cnameCount ≤ cnameDepthLimit ∧ recordCount ≤ addressRecordLimit := by
  have hlimit : (if queryType = .srv then srvRecordLimit else addressRecordLimit) =
      addressRecordLimit := by
    split <;> rfl
  unfold resultClassify at h
  rw [hlimit] at h
  by_cases hcounts : cnameCount > cnameDepthLimit ∨ recordCount > addressRecordLimit
  · rw [if_pos hcounts] at h
    cases h
  · omega

/-- The size that `resolver_cache_result_classify` accepts. -/
theorem resultClassify_bytes :
    sizeofCachePayload + arraysBytes queryType cnameCount recordCount ≤ limits.resultByteLimit := by
  obtain ⟨hcnames, hrecords⟩ := resultClassify_counts h
  rw [resultClassify_eq limits queryType hcnames hrecords] at h
  split at h
  · assumption
  · cases h

end

/-! ## 5. What the calls do to the payloads -/

/-- No entry has a payload that it did not have before. -/
def PayloadsKept (c c' : Cache) : Prop :=
  ∀ x, c'.payload x = c.payload x ∨ c'.payload x = none

theorem PayloadsKept.refl : PayloadsKept c c := fun _ => Or.inl rfl

theorem PayloadsKept.of_eq {c c' : Cache} (h : ∀ x, c'.payload x = c.payload x) :
    PayloadsKept c c' := fun x => Or.inl (h x)

theorem PayloadsKept.trans {c c' c'' : Cache} (h : PayloadsKept c c')
    (h' : PayloadsKept c' c'') : PayloadsKept c c'' := by
  intro x
  rcases h' x with e' | e'
  · rw [e']
    exact h x
  · exact Or.inr e'

/-- An entry without payload stays without. -/
theorem PayloadsKept.none {c c' : Cache} (h : PayloadsKept c c') {x : EntryId}
    (hx : c.payload x = none) : c'.payload x = none := by
  rcases h x with e | e
  · rw [e, hx]
  · exact e

section Payloads

variable {limits : CacheLimits} {c : Cache} {e : EntryId}

theorem Cache.setEntry_payload (entry : Entry) (x : EntryId) :
    (c.setEntry e entry).payload x = if x = e then entry.payload else c.payload x := by
  unfold Cache.payload
  rw [Cache.setEntry_entries]
  split
  · rename_i hx
    rw [hx, update_self]
    rfl
  · rename_i hx
    rw [update_of_ne hx]

/-- `resolver_cache_entry_payload_clear` empties the one entry. -/
theorem payloadClear_payload (x : EntryId) :
    (payloadClear c e).payload x = if x = e then none else c.payload x := by
  unfold payloadClear
  split
  · rename_i h
    split
    · rename_i hx
      rw [hx, Cache.payload, h]
      rfl
    · rfl
  · rename_i entry h
    split
    · rename_i hp
      split
      · rename_i hx
        rw [hx, Cache.payload, h]
        exact hp
      · rfl
    · exact Cache.setEntry_payload _ x

theorem payloadClear_kept : PayloadsKept c (payloadClear c e) := by
  intro x
  rw [payloadClear_payload]
  split
  · exact Or.inr rfl
  · exact Or.inl rfl

/-- Writing back an entry with the payload it has changes no payload. -/
theorem Cache.setEntry_payload_same {entry entry' : Entry} (h : c.entries e = some entry)
    (hp : entry'.payload = entry.payload) (x : EntryId) :
    (c.setEntry e entry').payload x = c.payload x := by
  rw [Cache.setEntry_payload]
  split
  · rename_i hx
    rw [hx, Cache.payload, h, hp]
    rfl
  · rfl

theorem entryRetain_payload (x : EntryId) : (entryRetain c e).1.payload x = c.payload x := by
  unfold entryRetain
  split
  · rfl
  · rename_i entry h
    split
    · rfl
    · exact Cache.setEntry_payload_same (by exact h) (by rfl) x

theorem entryFree_kept : PayloadsKept c (entryFree limits c e entry) := by
  intro x
  by_cases hx : x = e
  · right
    unfold Cache.payload entryFree
    dsimp only
    rw [hx, update_self]
    rfl
  · left
    have hclear := payloadClear_payload (c := { c with
      buckets := update c.buckets (cacheBucket limits entry.hash)
        ((c.buckets (cacheBucket limits entry.hash)).erase e) }) (e := e) x
    rw [if_neg hx] at hclear
    unfold Cache.payload entryFree at *
    dsimp only at *
    rw [update_of_ne hx]
    exact hclear

theorem entryRelease_kept : PayloadsKept c (entryRelease limits c e) := by
  unfold entryRelease
  split
  · exact .refl c
  · rename_i entry h
    split
    · exact .refl c
    · split
      · exact .of_eq (Cache.setEntry_payload_same (by exact h) (by rfl))
      · exact entryFree_kept

theorem payloadExpire_kept {now : Timespec} : PayloadsKept c (payloadExpire c e now) := by
  unfold payloadExpire
  split
  · exact .refl c
  · split
    · exact .refl c
    · split
      · exact .refl c
      · exact payloadClear_kept

theorem entryView_kept (now : Timespec) : PayloadsKept c (entryView c e now).1 := by
  unfold entryView
  split
  · exact .refl c
  · split
    · exact .refl c
    · exact payloadExpire_kept

/-- A view is empty only of an entry that is left without payload. -/
theorem entryView_empty {now : Timespec} {c' : Cache} {view : View}
    (h : entryView c e now = (c', some view)) (hs : view.status = .empty) :
    c'.payload e = none := by
  unfold entryView at h
  split at h
  · cases h
  · split at h
    · cases h
    · obtain ⟨rfl, rfl⟩ := h
      cases hp : (payloadExpire c e now).payload e with
      | none => rfl
      | some p =>
        rw [hp, Option.map_some, Option.getD_some] at hs
        unfold Payload.view at hs
        split at hs <;> cases hs

theorem entryAcquire_kept {queryName : Bytes} {queryType : Nat} :
    PayloadsKept c (entryAcquire limits c queryName queryType allocated).1 := by
  unfold entryAcquire
  split
  · exact .refl c
  · exact .refl c
  · dsimp only
    split
    · rename_i e' _
      have hk := entryRetain_payload (c := c) (e := e')
      split
      · rename_i heq
        rw [heq] at hk
        exact .of_eq hk
      · rename_i heq
        rw [heq] at hk
        exact .of_eq hk
    · split
      · exact .refl c
      · split
        · exact .refl c
        · split
          · exact .refl c
          · split
            · exact .refl c
            · intro x
              by_cases hx : x = c.nextEntryId <;> simp [Cache.payload, hx]

/-- What a stored publication leaves: the new payload in its entry, the others untouched. -/
structure Stored (c c' : Cache) (e : EntryId) (kind : MetricsPayloadKind) (completedAt : Timespec)
    (result : AnyResult) : Prop where
  payload : ∃ p, c'.payload e = some p ∧ p.completedAt = completedAt ∧ p.result = result ∧
    p.kind = kind
  other : ∀ x, x ≠ e → c'.payload x = c.payload x

/-- Everything but the counters is as it was. -/
def Recorded (c c' : Cache) : Prop := ∃ metrics, c' = { c with metrics }

theorem Recorded.refl (c : Cache) : Recorded c c := ⟨c.metrics, rfl⟩

theorem Recorded.trans {c c' c'' : Cache} (h : Recorded c c') (h' : Recorded c' c'') :
    Recorded c c'' := by
  obtain ⟨m, rfl⟩ := h
  obtain ⟨m', rfl⟩ := h'
  exact ⟨m', rfl⟩

theorem Recorded.increment (c : Cache) (q : MetricsQueryType) (k : CacheCounter) :
    Recorded c (c.metricsIncrement q k) := ⟨_, rfl⟩

theorem Recorded.payload {c c' : Cache} (h : Recorded c c') (x : EntryId) :
    c'.payload x = c.payload x := by
  obtain ⟨m, rfl⟩ := h
  rfl

/-- The swap of `resolver_cache_entry_payload_publish`. -/
def Cache.store (c : Cache) (e : EntryId) (entry : Entry) (payload : Payload) : Cache :=
  { (payloadClear c e).setEntry e { entry with payload := some payload } with
    ownedBytes := (payloadClear c e).ownedBytes + payload.ownedBytes }

theorem Cache.store_payload (entry : Entry) (payload : Payload) (x : EntryId) :
    (c.store e entry payload).payload x = if x = e then some payload else c.payload x := by
  refine (Cache.setEntry_payload (c := payloadClear c e) _ x).trans ?_
  split
  · rfl
  · rename_i hx
    rw [payloadClear_payload, if_neg hx]

/-- The three ways `resolver_cache_entry_payload_publish` ends, with what the caller is left. -/
inductive PayloadPublished (limits : CacheLimits) (c : Cache) (e : EntryId) (entry : Entry)
    (type : DnsResult ρ → AnyResult) (kind : MetricsPayloadKind) (completedAt : Timespec)
    (ttl : UInt32) (size : Nat) (result : DnsResult ρ) (c' : Cache) :
    PublishStatus × DnsResult ρ → Prop where
  | stored {expiresAt : Timespec} (httl : ttl ≠ 0)
      (hexpiry : expiryCalculate completedAt ttl = some expiresAt)
      (hbytes : c.ownedBytes - (entry.payload.map (·.ownedBytes)).getD 0 + size ≤
        limits.ownedByteLimit)
      (h : Recorded (c.store e entry
        { completedAt, expiresAt, ownedBytes := size, result := type result, kind }) c') :
      PayloadPublished limits c e entry type kind completedAt ttl size result c' (.stored, {})
  | transient (httl : ttl = 0) (h : Recorded (payloadClear c e) c') :
      PayloadPublished limits c e entry type kind completedAt ttl size result c'
        (.transient, result)
  | refused {status : PublishStatus} (hs : status ≠ .stored) (ht : status ≠ .transient)
      (h : Recorded c c') :
      PayloadPublished limits c e entry type kind completedAt ttl size result c' (status, result)

theorem payloadPublish_published (limits : CacheLimits) (c : Cache) (e : EntryId) (entry : Entry)
    (type : DnsResult ρ → AnyResult) (kind : MetricsPayloadKind) (completedAt : Timespec)
    (ttl : UInt32) (size : Nat) (result : DnsResult ρ) (allocated : Bool) :
    let r := payloadPublish limits c e entry type kind completedAt ttl size result allocated
    PayloadPublished limits c e entry type kind completedAt ttl size result r.1 r.2 := by
  unfold payloadPublish
  split
  · exact .refused nofun nofun (.refl c)
  split
  · exact .refused nofun nofun (.increment c _ _)
  split
  · rename_i httl
    exact .transient httl (.refl _)
  rename_i httl
  split
  · exact .refused nofun nofun (.refl c)
  rename_i expiresAt hexpiry
  dsimp only
  split
  · exact .refused nofun nofun (.increment c _ _)
  split
  · exact .refused nofun nofun (.refl c)
  exact .stored httl hexpiry (by omega) ⟨_, rfl⟩

/-- The ways a publication ends: refused, or as its payload was published. -/
inductive EntryPublished (limits : CacheLimits) (c : Cache) (e : EntryId)
    (type : DnsResult ρ → AnyResult) (validate : ResultCheck) (completedAt : Timespec)
    (result : DnsResult ρ) (c' : Cache) : PublishStatus × DnsResult ρ → Prop where
  | refused {status : PublishStatus} (hs : status ≠ .stored) (ht : status ≠ .transient)
      (h : Recorded c c') :
      EntryPublished limits c e type validate completedAt result c' (status, result)
  | published {entry : Entry} {ttl : UInt32} {kind : MetricsPayloadKind} {size : Nat}
      {r : PublishStatus × DnsResult ρ} (hentry : c.entries e = some entry)
      (hvalid : validate entry = some (ttl, kind))
      (h : PayloadPublished limits c e entry type kind completedAt ttl size result c' r) :
      EntryPublished limits c e type validate completedAt result c' r

/-- Counters recorded before and after a publication change nothing of it. -/
theorem PayloadPublished.recorded {c₀ c c' c'' : Cache} {kind : MetricsPayloadKind}
    {ttl : UInt32} {size : Nat} {r : PublishStatus × DnsResult ρ} (h₀ : Recorded c₀ c)
    (h₁ : Recorded c' c'')
    (h : PayloadPublished limits c e entry type kind completedAt ttl size result c' r) :
    PayloadPublished limits c₀ e entry type kind completedAt ttl size result c'' r := by
  obtain ⟨m, rfl⟩ := h₀
  have hclear : Recorded (payloadClear c₀ e) (payloadClear { c₀ with metrics := m } e) := by
    unfold payloadClear
    dsimp only
    split
    · exact ⟨m, rfl⟩
    · split
      · exact ⟨m, rfl⟩
      · exact ⟨m, rfl⟩
  cases h with
  | stored httl hexpiry hbytes h =>
    refine .stored httl hexpiry hbytes (.trans ?_ (h.trans h₁))
    obtain ⟨m', hclear⟩ := hclear
    unfold Cache.store
    rw [hclear]
    exact ⟨m', rfl⟩
  | transient httl h => exact .transient httl (hclear.trans (h.trans h₁))
  | refused hs ht h => exact .refused hs ht (.trans ⟨m, rfl⟩ (h.trans h₁))

theorem entryPublish_published {validate : ResultCheck} {size : Option Nat}
    {r : Cache × PublishStatus × DnsResult ρ}
    (h : entryPublish limits c e type validate size completedAt result allocated = r) :
    EntryPublished limits c e type validate completedAt result r.1 r.2 := by
  subst h
  unfold entryPublish
  split
  · exact .refused nofun nofun (.refl c)
  rename_i entry hentry
  split
  · exact .refused nofun nofun (.increment c _ _)
  rename_i ttl kind hvalid
  split
  · exact .refused nofun nofun ⟨_, rfl⟩
  · exact .published hentry hvalid ((payloadPublish_published limits _ e entry type kind completedAt
      ttl _ result allocated).recorded ⟨_, rfl⟩ (.increment _ _ _))

/-- **A publication stores the whole result in its entry, or shows no new payload anywhere.** -/
theorem entryPublish_cases {validate : ResultCheck} {size : Option Nat} {c' : Cache}
    {r : PublishStatus × DnsResult ρ}
    (h : entryPublish limits c e type validate size completedAt result allocated = (c', r)) :
    (r.1 = .stored ∧ ∃ entry ttl kind, c.entries e = some entry ∧
      validate entry = some (ttl, kind) ∧ Stored c c' e kind completedAt (type result)) ∨
      (r.1 ≠ .stored ∧ PayloadsKept c c') := by
  cases entryPublish_published h with
  | refused hs ht h => exact Or.inr ⟨hs, .of_eq h.payload⟩
  | published hentry hvalid h =>
    cases h with
    | stored httl hexpiry hbytes h =>
      have hpayload := h.payload e
      rw [Cache.store_payload, if_pos rfl] at hpayload
      refine Or.inl ⟨rfl, _, _, _, hentry, hvalid, ⟨_, hpayload, rfl, rfl, rfl⟩, ?_⟩
      intro x hx
      rw [h.payload, Cache.store_payload, if_neg hx]
    | transient httl h => exact Or.inr ⟨nofun, payloadClear_kept.trans (.of_eq h.payload)⟩
    | refused hs ht h => exact Or.inr ⟨hs, .of_eq h.payload⟩

section

variable {typeValid : Bool} {recordLimit : Nat} {recordValid : ρ → Bool} {effectiveTtl : ρ → UInt32}

/-- A valid result answers the question of its entry. -/
theorem resultValidate_question {lookupStatus : LookupStatus} {result : DnsResult ρ}
    {v : UInt32 × MetricsPayloadKind}
    (h : resultValidate typeValid recordLimit recordValid effectiveTtl entry lookupStatus result =
      some v) : nameNormalize result.questionName = some entry.name := by
  unfold resultValidate at h
  split at h
  · cases h
  · rename_i hvalid
    by_contra hq
    refine hvalid (Or.inr (Or.inl ?_))
    unfold questionMatches
    simpa using hq

/-- A valid answer has records, within the limit. -/
theorem resultValidate_records {result : DnsResult ρ} {v : UInt32 × MetricsPayloadKind}
    (h : resultValidate typeValid recordLimit recordValid effectiveTtl entry .ok result = some v) :
    0 < result.records.length ∧ result.records.length ≤ recordLimit := by
  unfold resultValidate at h
  split at h
  · cases h
  · rw [if_pos rfl] at h
    split at h
    · cases h
    · rename_i hvalid
      simp only [not_or, Nat.not_lt] at hvalid
      exact ⟨List.length_pos_iff.2 hvalid.2.1, hvalid.2.2.1⟩

end

/-- What the cache does not keep because its TTL is zero is valid, and the caller's. -/
theorem entryPublish_transient {limits : CacheLimits} {c c' : Cache} {e : EntryId}
    {validate : ResultCheck} {size : Option Nat} {after : DnsResult ρ}
    (h : entryPublish limits c e type validate size completedAt result allocated =
      (c', .transient, after)) : after = result ∧ ∃ entry v, validate entry = some v := by
  cases entryPublish_published h with
  | refused hs ht h => exact absurd rfl ht
  | published hentry hvalid h =>
    refine ⟨?_, _, _, hvalid⟩
    cases h <;> rfl

end Payloads

end MinecraftRelay
