/-
  File:      Resolver/Assembly.lean
  Subject:   THE REPLY ASSEMBLY (resolver/ipc_assembly.c).

  An assembly is fed the packets of one reply and checks them as they come: BEGIN, the declared
  CNAMEs, the declared records, END.  Its arrays are lists that hold what was received so far, so
  `received_cname_count` and `received_record_count` are their lengths.  The budget is passed
  along: every assembly charges its own size and its arrays to it.

  * `Consumed`, `packetConsume_consumed` -- all that a packet can do to an assembly;
  * `packetConsume_kept` -- no packet changes the query an assembly is for, and its question stays
    the expected name.
-/
import MinecraftRelay.Resolver.Cache
import MinecraftRelay.Resolver.Ipc

namespace MinecraftRelay

variable {queryType : QueryType} {queryClass queryId : Nat} {queryName : Bytes} {allocated : Bool}

/-! ## 1. State -/

def sizeofAssembly : Nat := 4288
def sizeofAssemblyBudget : Nat := 776

/-- `RESOLVER_REPLY_ASSEMBLY_BYTE_LIMIT` beside the cache's limits, which the assembly reads. -/
structure AssemblyLimits extends CacheLimits where
  assemblyByteLimit : Nat := 1024 * 1024
  budget_le : sizeofAssemblyBudget ≤ assemblyByteLimit := by decide

/-- The counters of `resolver_ipc_assembly_metrics_query`. -/
inductive AssemblyCounter where
  | createOk | createBadArgument | createLimit | createMemory
  | limitResultShape | limitResultBytes | limitBudgetBytes
  | terminalComplete | terminalBadArgument | terminalLimit | terminalMemory | terminalProtocol
  | abandoned
deriving Repr, DecidableEq

/-- The counters of `resolver_ipc_assembly_metrics_state`. -/
inductive AssemblyMetric where
  | ownedBytesHighWater
  | query (type : QueryType) (counter : AssemblyCounter)
deriving Repr, DecidableEq

/-- `resolver_ipc_assembly_budget`. -/
structure AssemblyBudget where
  metrics : MetricsState AssemblyMetric QueryType
  ownedBytes : Nat

/-- `resolver_ipc_assembly_state`. -/
inductive AssemblyPhase where
  | begin | cname | record | finish | complete | failed | taken
deriving Repr, DecidableEq

/-- `resolver_ipc_assembly_status`. -/
inductive AssemblyStatus where
  | ok | complete | badArgument | limit | memory | protocol
deriving Repr, DecidableEq

/-- `resolver_ipc_assembly`; the payload union is spread over its fields. -/
structure Assembly where
  chainTtl : UInt32 := 0
  declaredCnameCount : Nat := 0
  declaredRecordCount : Nat := 0
  dynamicBytes : Nat := 0
  expectedName : Bytes
  canonicalName : Bytes := []
  questionName : Bytes := []
  negative : NegativeRecord := {}
  rcode : UInt8 := 0
  cnames : List CnameRecord := []
  addresses : List AddressRecord := []
  srvRecords : List SrvRecord := []
  queryClass : Nat
  queryId : Nat
  queryType : QueryType
  state : AssemblyPhase := .begin
  status : LookupStatus := .ok
  completedAt : Timespec := ⟨0, 0⟩
deriving Repr, DecidableEq

/-- `resolver_ipc_assembly_result`. -/
structure AssemblyResult where
  completedAt : Timespec
  dynamicBytes : Nat
  payload : AnyResult
  queryId : Nat
  queryType : QueryType
  status : LookupStatus
deriving Repr, DecidableEq

namespace Assembly

/-- `assembly->payload`: the member of the union that the query type selects. -/
def payload (a : Assembly) : AnyResult :=
  if a.queryType = .srv then
    .srv { records := a.srvRecords, canonicalName := a.canonicalName, cnames := a.cnames,
           negative := a.negative, questionName := a.questionName, rcode := a.rcode }
  else
    .address { records := a.addresses, canonicalName := a.canonicalName, cnames := a.cnames,
               negative := a.negative, questionName := a.questionName, rcode := a.rcode }

/-- `assembly->received_record_count`. -/
def receivedRecordCount (a : Assembly) : Nat :=
  if a.queryType = .srv then a.srvRecords.length else a.addresses.length

/-- The zeroed payload union. -/
def payloadCleared (a : Assembly) : Assembly :=
  { a with
    canonicalName := [], questionName := [], negative := {}, rcode := 0, cnames := [],
    addresses := [], srvRecords := [] }

end Assembly

abbrev AssemblyStep := AssemblyBudget × Assembly × AssemblyStatus

namespace AssemblyBudget

/-- `resolver_ipc_assembly_metrics_increment`. -/
def increment (b : AssemblyBudget) (type : QueryType) (counter : AssemblyCounter) :
    AssemblyBudget :=
  { b with metrics := b.metrics.increment (.query type counter) }

/-- Give bytes back, as every release of the budget does it. -/
def discharge (b : AssemblyBudget) (bytes : Nat) : AssemblyBudget :=
  { b with ownedBytes := if b.ownedBytes ≥ bytes then b.ownedBytes - bytes else 0 }

/-- Take bytes, after the limit was checked. -/
def charge (b : AssemblyBudget) (bytes : Nat) : AssemblyBudget :=
  { b with
    ownedBytes := b.ownedBytes + bytes
    metrics := b.metrics.highWater .ownedBytesHighWater (b.ownedBytes + bytes) }

end AssemblyBudget

/-- `resolver_ipc_assembly_budget_create`, when its allocation succeeds. -/
def assemblyBudgetCreate : AssemblyBudget where
  metrics := { counters := fun k => if k = .ownedBytesHighWater then sizeofAssemblyBudget else 0 }
  ownedBytes := sizeofAssemblyBudget

/-- `resolver_ipc_assembly_state_nonterminal`. -/
def AssemblyPhase.nonterminal : AssemblyPhase → Bool
  | .begin | .cname | .record | .finish => true
  | .complete | .failed | .taken => false

/-! ## 2. Creation and destruction -/

variable (limits : AssemblyLimits) (budget : AssemblyBudget) (a : Assembly)

/-- `resolver_ipc_assembly_create`; `allocated` is the outcome of `calloc`. -/
def assemblyCreate (queryName : Bytes)
    (queryClass : Nat) (queryType : QueryType) (queryId : Nat) (allocated : Bool) :
    AssemblyBudget × Except AssemblyStatus Assembly :=
  match nameNormalize queryName with
  | none => (budget.increment queryType .createBadArgument, .error .badArgument)
  | some normalizedName =>
    if queryClass ≠ classIn ∨ queryId = 0 then
      (budget.increment queryType .createBadArgument, .error .badArgument)
    else if sizeofAssembly > limits.assemblyByteLimit ∨
        budget.ownedBytes > limits.assemblyByteLimit - sizeofAssembly then
      ((budget.increment queryType .createLimit).increment queryType .limitBudgetBytes,
        .error .limit)
    else if ¬ allocated then (budget.increment queryType .createMemory, .error .memory)
    else
      ((budget.charge sizeofAssembly).increment queryType .createOk,
        .ok { expectedName := normalizedName, queryClass, queryId, queryType })

/-- `resolver_ipc_assembly_data_clear`. -/
def dataClear : AssemblyBudget × Assembly :=
  (budget.discharge a.dynamicBytes, { a.payloadCleared with dynamicBytes := 0 })

/-- `resolver_ipc_assembly_destroy`. -/
def assemblyDestroy : AssemblyBudget :=
  let budget := if a.state.nonterminal then budget.increment a.queryType .abandoned else budget
  (dataClear budget a).1.discharge sizeofAssembly

/-- `resolver_ipc_assembly_result_take`. -/
def resultTake : Option (Assembly × AssemblyResult) :=
  if a.state ≠ .complete then none
  else
    some ({ a.payloadCleared with dynamicBytes := 0, state := .taken },
      { completedAt := a.completedAt, dynamicBytes := a.dynamicBytes, payload := a.payload,
        queryId := a.queryId, queryType := a.queryType, status := a.status })

/-- `resolver_ipc_assembly_result_destroy` of a result that still holds its charge. -/
def resultDestroy (result : AssemblyResult) : AssemblyBudget :=
  budget.discharge result.dynamicBytes

/-! ## 3. The checks -/

/-- `resolver_ipc_assembly_metrics_terminal_record`. -/
def terminalRecord (status : AssemblyStatus) : AssemblyBudget :=
  if ¬ a.state.nonterminal then budget
  else
    match status with
    | .complete =>
      let observed : AssemblyBudget :=
        { budget with metrics := budget.metrics.observeSize a.queryType a.dynamicBytes }
      observed.increment a.queryType .terminalComplete
    | .badArgument => budget.increment a.queryType .terminalBadArgument
    | .limit => budget.increment a.queryType .terminalLimit
    | .memory => budget.increment a.queryType .terminalMemory
    | .protocol | .ok => budget.increment a.queryType .terminalProtocol

/-- `resolver_ipc_assembly_name_normalized`. -/
def nameNormalized (name : Bytes) : Bool := decide (nameNormalize name = some (cString name))

/-- `resolver_ipc_assembly_ttl_expected`. -/
def ttlExpected (recordTtl chainTtl : UInt32) : UInt32 :=
  if recordTtl < chainTtl then recordTtl else chainTtl

/-- `resolver_ipc_assembly_arrays_allocate`; `allocated` is the outcome of the `calloc`s. -/
def arraysAllocate (cnameCount recordCount : Nat) (allocated : Bool) : AssemblyStep :=
  match resultClassify limits.toCacheLimits a.queryType cnameCount recordCount with
  | .shape => (budget.increment a.queryType .limitResultShape, a, .limit)
  | .bytes => (budget.increment a.queryType .limitResultBytes, a, .limit)
  | .ok =>
    let recordSize := if a.queryType = .srv then sizeofSrvRecord else sizeofAddressRecord
    let allocationSize : Option Nat := do
      let cnameBytes ← if cnameCount > 0 then sizeMultiply cnameDepthLimit sizeofCnameRecord
        else some 0
      let recordBytes ← sizeMultiply recordCount recordSize
      sizeAdd cnameBytes recordBytes
    match allocationSize with
    | none => (budget.increment a.queryType .limitResultBytes, a, .limit)
    | some allocationSize =>
      if allocationSize > limits.assemblyByteLimit then
        (budget.increment a.queryType .limitResultBytes, a, .limit)
      else if budget.ownedBytes > limits.assemblyByteLimit - allocationSize then
        (budget.increment a.queryType .limitBudgetBytes, a, .limit)
      else if ¬ allocated then (budget, a, .memory)
      else (budget.charge allocationSize, { a with dynamicBytes := allocationSize }, .ok)

/-- `resolver_ipc_assembly_begin_check`. -/
def beginCheck (b : ResponseBegin) : Bool :=
  if b.queryId ≠ a.queryId ∨ b.queryClass ≠ a.queryClass ∨ b.queryType ≠ a.queryType then false
  else
    match b.status with
    | .ok =>
      nameNormalized b.questionName && decide (b.questionName = a.expectedName) &&
        nameNormalized b.canonicalName &&
        (decide (b.rcode = rcodeNoerror) && decide (b.recordCount > 0) && !b.negative.valid)
    | .nodata | .notFound =>
      if b.questionName = [] then
        decide (b.canonicalName = []) && decide (b.cnameCount = 0) && decide (b.recordCount = 0) &&
          !b.negative.valid && decide (b.rcode = 0)
      else
        nameNormalized b.questionName && decide (b.questionName = a.expectedName) &&
          nameNormalized b.canonicalName &&
          (decide (b.recordCount = 0) &&
            ((decide (b.status = .nodata) && decide (b.rcode = rcodeNoerror)) ||
              (decide (b.status = .notFound) &&
                (decide (b.rcode = rcodeNxdomain) ||
                  (decide (b.rcode = 0) && !b.negative.valid)))))
    | .permanentError | .temporaryError =>
      if b.recordCount ≠ 0 ∨ b.negative.valid then false
      else if (b.status = .temporaryError ∧ b.rcode ≠ 0 ∧ b.rcode ≠ rcodeServfail) ∨
          (b.status = .permanentError ∧ (b.rcode = rcodeNxdomain ∨ b.rcode = rcodeServfail)) then
        false
      else if b.questionName = [] then
        decide (b.canonicalName = []) && decide (b.cnameCount = 0) && decide (b.rcode = 0)
      else
        nameNormalized b.questionName && decide (b.questionName = a.expectedName) &&
          (if b.cnameCount > 0 then nameNormalized b.canonicalName
            else decide (b.canonicalName = []))
    | .badArgument | .limit | .malformed | .memory | .truncated =>
      decide (b.cnameCount = 0) && decide (b.recordCount = 0) && !b.negative.valid &&
        decide (b.questionName = []) && decide (b.canonicalName = []) && decide (b.rcode = 0)

/-- `resolver_ipc_assembly_complete_check`. -/
def completeCheck : Bool :=
  let resolverError := decide (a.status = .permanentError ∨ a.status = .temporaryError)
  let chainEnds :=
    if a.declaredCnameCount > 0 then
      decide (some a.canonicalName = (a.cnames[a.declaredCnameCount - 1]?).map (·.target))
    else resolverError || decide (a.canonicalName = a.questionName)
  if ¬ chainEnds then false
  else if ¬ a.negative.valid then true
  else
    let expectedTtl :=
      if a.negative.minimum < a.negative.recordTtl then a.negative.minimum else a.negative.recordTtl
    nameNormalized a.negative.owner && nameEncloses a.negative.owner a.canonicalName &&
      decide (a.negative.effectiveTtl = ttlExpected expectedTtl a.chainTtl)

/-! ## 4. Packets -/

/-- What `resolver_ipc_assembly_begin_consume` stores. -/
def Assembly.begun (b : ResponseBegin) : Assembly :=
  { a with
    chainTtl := 0xFFFFFFFF
    completedAt := b.completedAt
    declaredCnameCount := b.cnameCount
    declaredRecordCount := b.recordCount
    status := b.status
    canonicalName := b.canonicalName
    negative := b.negative
    questionName := b.questionName
    rcode := b.rcode
    state := if b.cnameCount > 0 then .cname else if b.recordCount > 0 then .record else .finish }

/-- `resolver_ipc_assembly_begin_consume`. -/
def beginConsume (packet : Bytes) (allocated : Bool) : AssemblyStep :=
  match beginDecode packet with
  | .error _ => (budget, a, .protocol)
  | .ok b =>
    if ¬ beginCheck a b then (budget, a, .protocol)
    else
      match arraysAllocate limits budget a b.cnameCount b.recordCount allocated with
      | (budget, a, .ok) => (budget, a.begun b, .ok)
      | failed => failed

/-- The name the next alias must be owned by. -/
def Assembly.expectedOwner : Bytes :=
  (a.cnames.getLast?.map (·.target)).getD a.questionName

/-- What `resolver_ipc_assembly_cname_consume` stores. -/
def Assembly.aliased (record : CnameRecord) : Assembly :=
  { a with
    cnames := a.cnames ++ [record]
    chainTtl := if record.ttl < a.chainTtl then record.ttl else a.chainTtl
    state := if a.cnames.length + 1 = a.declaredCnameCount then
        if a.declaredRecordCount > 0 then .record else .finish
      else a.state }

/-- `resolver_ipc_assembly_cname_consume`. -/
def cnameConsume (packet : Bytes) : Assembly × AssemblyStatus :=
  match cnameDecode packet with
  | .error _ => (a, .protocol)
  | .ok response =>
    let record := response.record
    if response.queryId ≠ a.queryId ∨ response.index ≠ a.cnames.length ∨
        ¬ nameNormalized record.owner ∨ ¬ nameNormalized record.target ∨
        record.owner ≠ a.expectedOwner ∨ a.cnames.any (fun c => decide (record.target = c.owner)) ∨
        record.target = record.owner then
      (a, .protocol)
    else (a.aliased record, .ok)

/-- `resolver_ipc_assembly_record_commit`: the state after one more record. -/
def recordCommit : AssemblyPhase :=
  if a.receivedRecordCount + 1 = a.declaredRecordCount then .finish else a.state

/-- `resolver_ipc_assembly_record_address_consume`. -/
def recordAddressConsume (packet : Bytes) : Assembly × AssemblyStatus :=
  match addressDecode packet with
  | .error _ => (a, .protocol)
  | .ok response =>
    let record := response.record
    if response.queryId ≠ a.queryId ∨ response.index ≠ a.receivedRecordCount ∨
        record.address.family ≠ a.queryType.family ∨
        record.effectiveTtl ≠ ttlExpected record.recordTtl a.chainTtl then
      (a, .protocol)
    else ({ a with addresses := a.addresses ++ [record], state := recordCommit a }, .ok)

/-- `resolver_ipc_assembly_record_srv_consume`. -/
def recordSrvConsume (packet : Bytes) : Assembly × AssemblyStatus :=
  match srvDecode packet with
  | .error _ => (a, .protocol)
  | .ok response =>
    let record := response.record
    if response.queryId ≠ a.queryId ∨ response.index ≠ a.receivedRecordCount ∨
        ¬ nameNormalized record.target ∨
        record.effectiveTtl ≠ ttlExpected record.recordTtl a.chainTtl then
      (a, .protocol)
    else ({ a with srvRecords := a.srvRecords ++ [record], state := recordCommit a }, .ok)

/-- `resolver_ipc_assembly_end_consume`. -/
def endConsume (packet : Bytes) : AssemblyStep :=
  match endDecode packet with
  | .error _ => (budget, a, .protocol)
  | .ok response =>
    if response.queryId ≠ a.queryId ∨ response.cnameCount ≠ a.declaredCnameCount ∨
        response.recordCount ≠ a.declaredRecordCount ∨ a.cnames.length ≠ a.declaredCnameCount ∨
        a.receivedRecordCount ≠ a.declaredRecordCount ∨ ¬ completeCheck a then
      (budget, a, .protocol)
    else (terminalRecord budget a .complete, { a with state := .complete }, .complete)

/-- `resolver_ipc_assembly_fail`. -/
def assemblyFail (status : AssemblyStatus) : AssemblyStep :=
  let r := dataClear (terminalRecord budget a status) a
  (r.1, { r.2 with state := .failed }, status)

/-- The `switch` of `resolver_ipc_assembly_packet_consume`. -/
def packetStep (kind : PacketKind) (packet : Bytes) (allocated : Bool) : AssemblyStep :=
  match a.state, kind with
  | .begin, .responseBegin => beginConsume limits budget a packet allocated
  | .cname, .responseCname => (budget, cnameConsume a packet)
  | .record, .responseSrv =>
    if a.queryType = .srv then (budget, recordSrvConsume a packet) else (budget, a, .protocol)
  | .record, .responseAddress =>
    if a.queryType = .srv then (budget, a, .protocol) else (budget, recordAddressConsume a packet)
  | .finish, .responseEnd => endConsume budget a packet
  | _, _ => (budget, a, .protocol)

/-- `resolver_ipc_assembly_packet_consume`; `allocated` is the outcome of the `calloc`s a BEGIN
    packet asks for. -/
def packetConsume (packet : Bytes) (allocated : Bool) : AssemblyStep :=
  if ¬ a.state.nonterminal then assemblyFail budget a .protocol
  else
    match packetInspect packet with
    | .error _ => assemblyFail budget a .protocol
    | .ok header =>
      if header.queryId ≠ a.queryId then assemblyFail budget a .protocol
      else
        match packetStep limits budget a header.kind packet allocated with
        | (budget, a, .ok) => (budget, a, .ok)
        | (budget, a, .complete) => (budget, a, .complete)
        | (budget, a, status) => assemblyFail budget a status

/-! ## 5. What a packet does -/

/-- The size `resolver_ipc_assembly_arrays_allocate` computes, within the limits of a reply. -/
theorem arrays_size {cnameCount recordCount : Nat} (hrecords : recordCount ≤ addressRecordLimit) :
    (do
      let cnameBytes ← if cnameCount > 0 then sizeMultiply cnameDepthLimit sizeofCnameRecord
        else some 0
      let recordBytes ← sizeMultiply recordCount
        (if queryType = .srv then sizeofSrvRecord else sizeofAddressRecord)
      sizeAdd cnameBytes recordBytes) = some (arraysBytes queryType cnameCount recordCount) := by
  obtain ⟨hmax, hresult, hdepth⟩ := result_numbers
  have hbytes := arraysBytes_le queryType cnameCount hrecords
  unfold arraysBytes at hbytes ⊢
  rw [sizeMultiply_of_le (by omega), sizeMultiply_of_le (by omega)]
  split at hbytes
  · rename_i hc
    simp only [if_pos hc, Option.bind_eq_bind, Option.bind_some]
    exact sizeAdd_of_le (by omega)
  · rename_i hc
    simp only [if_neg hc, Option.bind_eq_bind, Option.bind_some]
    exact sizeAdd_of_le (by omega)

/-- With room in the budget, the arrays of a reply are allocated and charged. -/
theorem arraysAllocate_ok {limits : AssemblyLimits} {budget : AssemblyBudget} {a : Assembly}
    {cnameCount recordCount : Nat} (hfit : resultBytesMax ≤ limits.resultByteLimit)
    (hcnames : cnameCount ≤ cnameDepthLimit) (hrecords : recordCount ≤ addressRecordLimit)
    (hroom : budget.ownedBytes + arraysBytes a.queryType cnameCount recordCount ≤
      limits.assemblyByteLimit) :
    arraysAllocate limits budget a cnameCount recordCount true =
      (budget.charge (arraysBytes a.queryType cnameCount recordCount),
        { a with dynamicBytes := arraysBytes a.queryType cnameCount recordCount }, .ok) := by
  unfold arraysAllocate
  rw [resultClassify_ok hfit a.queryType hcnames hrecords]
  dsimp only
  rw [arrays_size hrecords]
  dsimp only
  rw [if_neg (by omega), if_neg (by omega), if_neg (by simp)]

/-- Why a packet is refused, and what that records in the budget. -/
inductive Refused (budget : AssemblyBudget) (type : QueryType) :
    AssemblyBudget → AssemblyStatus → Prop where
  | protocol : Refused budget type budget .protocol
  | memory : Refused budget type budget .memory
  | limit {counter : AssemblyCounter}
      (h : counter = .limitResultShape ∨ counter = .limitResultBytes ∨
        counter = .limitBudgetBytes) :
      Refused budget type (budget.increment type counter) .limit

theorem AssemblyBudget.discharge_ownedBytes (bytes : Nat) :
    (budget.discharge bytes).ownedBytes = budget.ownedBytes - bytes := by
  unfold AssemblyBudget.discharge
  dsimp only
  split <;> omega

theorem terminalRecord_ownedBytes
    (status : AssemblyStatus) :
      (terminalRecord budget a status).ownedBytes = budget.ownedBytes := by
  unfold terminalRecord
  split
  · rfl
  · split <;> rfl

theorem Refused.ownedBytes {budget budget' : AssemblyBudget} {type : QueryType}
    {status : AssemblyStatus} (h : Refused budget type budget' status) :
    budget'.ownedBytes = budget.ownedBytes := by
  cases h <;> rfl

/-- The arrays are allocated, for a reply that fits, within the budget; or they are refused. -/
theorem arraysAllocate_cases (cnameCount recordCount : Nat) (allocated : Bool) :
    (resultClassify limits.toCacheLimits a.queryType cnameCount recordCount = .ok ∧
      budget.ownedBytes + arraysBytes a.queryType cnameCount recordCount ≤
        limits.assemblyByteLimit ∧
      arraysAllocate limits budget a cnameCount recordCount allocated =
        (budget.charge (arraysBytes a.queryType cnameCount recordCount),
          { a with dynamicBytes := arraysBytes a.queryType cnameCount recordCount }, .ok)) ∨
    ∃ budget' status, Refused budget a.queryType budget' status ∧
      arraysAllocate limits budget a cnameCount recordCount allocated = (budget', a, status) := by
  unfold arraysAllocate
  split
  · exact Or.inr ⟨_, _, .limit (Or.inl rfl), rfl⟩
  · exact Or.inr ⟨_, _, .limit (Or.inr (Or.inl rfl)), rfl⟩
  · rename_i hfit
    dsimp only
    rw [arrays_size (resultClassify_counts hfit).2]
    dsimp only
    split
    · exact Or.inr ⟨_, _, .limit (Or.inr (Or.inl rfl)), rfl⟩
    · split
      · exact Or.inr ⟨_, _, .limit (Or.inr (Or.inr rfl)), rfl⟩
      · split
        · exact Or.inr ⟨_, _, .memory, rfl⟩
        · exact Or.inl ⟨hfit, by omega, rfl⟩

/-- The alias that the assembly takes next. -/
structure AliasAccepted (a : Assembly) (response : ResponseCname) : Prop where
  queryId : response.queryId = a.queryId
  index : response.index = a.cnames.length
  owner : nameNormalized response.record.owner = true
  target : nameNormalized response.record.target = true
  expected : response.record.owner = a.expectedOwner
  fresh : ∀ c ∈ a.cnames, response.record.target ≠ c.owner
  proper : response.record.target ≠ response.record.owner

/-- The address that the assembly takes next. -/
structure AddressAccepted (a : Assembly) (response : ResponseAddress) : Prop where
  queryId : response.queryId = a.queryId
  index : response.index = a.receivedRecordCount
  family : response.record.address.family = a.queryType.family
  ttl : response.record.effectiveTtl = ttlExpected response.record.recordTtl a.chainTtl

/-- The SRV record that the assembly takes next. -/
structure SrvAccepted (a : Assembly) (response : ResponseSrv) : Prop where
  queryId : response.queryId = a.queryId
  index : response.index = a.receivedRecordCount
  target : nameNormalized response.record.target = true
  ttl : response.record.effectiveTtl = ttlExpected response.record.recordTtl a.chainTtl

/-- The END that completes the assembly. -/
structure EndAccepted (a : Assembly) (response : ResponseEnd) : Prop where
  queryId : response.queryId = a.queryId
  cnameCount : response.cnameCount = a.declaredCnameCount
  recordCount : response.recordCount = a.declaredRecordCount
  cnames : a.cnames.length = a.declaredCnameCount
  records : a.receivedRecordCount = a.declaredRecordCount
  complete : completeCheck a = true

/-- **What a packet does to an assembly**: it is the next packet of the reply, or the assembly
    fails. -/
inductive Consumed (limits : AssemblyLimits) (budget : AssemblyBudget) (a : Assembly)
    (packet : Bytes) : AssemblyStep → Prop where
  | head {b : ResponseBegin} (hstate : a.state = .begin)
      (hinspect : packetInspect packet = .ok ⟨.responseBegin, a.queryId⟩)
      (hdecode : beginDecode packet = .ok b) (hcheck : beginCheck a b = true)
      (hfit : resultClassify limits.toCacheLimits a.queryType b.cnameCount b.recordCount = .ok)
      (hroom : budget.ownedBytes + arraysBytes a.queryType b.cnameCount b.recordCount ≤
        limits.assemblyByteLimit) :
      Consumed limits budget a packet
        (budget.charge (arraysBytes a.queryType b.cnameCount b.recordCount),
          ({ a with dynamicBytes := arraysBytes a.queryType b.cnameCount b.recordCount } :
            Assembly).begun b, .ok)
  | cname {response : ResponseCname} (hstate : a.state = .cname)
      (hinspect : packetInspect packet = .ok ⟨.responseCname, a.queryId⟩)
      (hdecode : cnameDecode packet = .ok response) (haccepted : AliasAccepted a response) :
      Consumed limits budget a packet (budget, a.aliased response.record, .ok)
  | address {response : ResponseAddress} (hstate : a.state = .record) (htype : a.queryType ≠ .srv)
      (hinspect : packetInspect packet = .ok ⟨.responseAddress, a.queryId⟩)
      (hdecode : addressDecode packet = .ok response) (haccepted : AddressAccepted a response) :
      Consumed limits budget a packet
        (budget, { a with addresses := a.addresses ++ [response.record], state := recordCommit a },
          .ok)
  | srv {response : ResponseSrv} (hstate : a.state = .record) (htype : a.queryType = .srv)
      (hinspect : packetInspect packet = .ok ⟨.responseSrv, a.queryId⟩)
      (hdecode : srvDecode packet = .ok response) (haccepted : SrvAccepted a response) :
      Consumed limits budget a packet
        (budget, { a with
          srvRecords := a.srvRecords ++ [response.record], state := recordCommit a }, .ok)
  | tail {response : ResponseEnd} (hstate : a.state = .finish)
      (hinspect : packetInspect packet = .ok ⟨.responseEnd, a.queryId⟩)
      (hdecode : endDecode packet = .ok response) (haccepted : EndAccepted a response) :
      Consumed limits budget a packet
        (terminalRecord budget a .complete, { a with state := .complete }, .complete)
  | failed {budget' : AssemblyBudget} {status : AssemblyStatus}
      (h : Refused budget a.queryType budget' status) :
      Consumed limits budget a packet (assemblyFail budget' a status)

section Steps

variable (limits : AssemblyLimits) (budget : AssemblyBudget) (a : Assembly) (packet : Bytes)

/-- What the step of a packet kind returns: what `Consumed` says of an accepted packet, or the
    assembly as it was. -/
def Stepped (r : AssemblyStep) : Prop :=
  ((r.2.2 = .ok ∨ r.2.2 = .complete) ∧ Consumed limits budget a packet r) ∨
    ∃ budget' status, Refused budget a.queryType budget' status ∧ r = (budget', a, status)

theorem Stepped.protocol : Stepped limits budget a packet (budget, a, .protocol) :=
  Or.inr ⟨_, _, .protocol, rfl⟩

variable {limits budget a packet}

theorem Stepped.ok {budget' : AssemblyBudget} {a' : Assembly}
    (h : Consumed limits budget a packet (budget', a', .ok)) :
    Stepped limits budget a packet (budget', a', .ok) :=
  Or.inl ⟨Or.inl rfl, h⟩

theorem beginConsume_stepped (hstate : a.state = .begin)
    (hinspect : packetInspect packet = .ok ⟨.responseBegin, a.queryId⟩) (allocated : Bool) :
    Stepped limits budget a packet (beginConsume limits budget a packet allocated) := by
  unfold beginConsume
  split
  · exact .protocol ..
  · rename_i b hdecode
    split
    · exact .protocol ..
    · rename_i hcheck
      have hcheck : beginCheck a b = true := by simpa using hcheck
      rcases arraysAllocate_cases limits budget a b.cnameCount b.recordCount allocated with
        ⟨hfit, hroom, heq⟩ | ⟨budget', status, hrefused, heq⟩
      · rw [heq]
        exact .ok (.head hstate hinspect hdecode hcheck hfit hroom)
      · rw [heq]
        refine Or.inr ⟨_, _, hrefused, ?_⟩
        cases hrefused <;> rfl

theorem cnameConsume_stepped (hstate : a.state = .cname)
    (hinspect : packetInspect packet = .ok ⟨.responseCname, a.queryId⟩) :
    Stepped limits budget a packet (budget, cnameConsume a packet) := by
  unfold cnameConsume
  split
  · exact .protocol ..
  · rename_i response hdecode
    dsimp only
    split
    · exact .protocol ..
    · rename_i hgood
      simp only [not_or, Decidable.not_not] at hgood
      obtain ⟨hid, hindex, howner, htarget, hexpected, hfresh, hproper⟩ := hgood
      refine .ok (.cname hstate hinspect hdecode
        ⟨hid, hindex, howner, htarget, hexpected, ?_, hproper⟩)
      intro c hc he
      exact hfresh (List.any_eq_true.2 ⟨c, hc, decide_eq_true he⟩)

theorem recordAddressConsume_stepped (hstate : a.state = .record) (htype : a.queryType ≠ .srv)
    (hinspect : packetInspect packet = .ok ⟨.responseAddress, a.queryId⟩) :
    Stepped limits budget a packet (budget, recordAddressConsume a packet) := by
  unfold recordAddressConsume
  split
  · exact .protocol ..
  · rename_i response hdecode
    dsimp only
    split
    · exact .protocol ..
    · rename_i hgood
      simp only [not_or, Decidable.not_not] at hgood
      obtain ⟨hid, hindex, hfamily, httl⟩ := hgood
      exact .ok (.address hstate htype hinspect hdecode ⟨hid, hindex, hfamily, httl⟩)

theorem recordSrvConsume_stepped (hstate : a.state = .record) (htype : a.queryType = .srv)
    (hinspect : packetInspect packet = .ok ⟨.responseSrv, a.queryId⟩) :
    Stepped limits budget a packet (budget, recordSrvConsume a packet) := by
  unfold recordSrvConsume
  split
  · exact .protocol ..
  · rename_i response hdecode
    dsimp only
    split
    · exact .protocol ..
    · rename_i hgood
      simp only [not_or, Decidable.not_not] at hgood
      obtain ⟨hid, hindex, htarget, httl⟩ := hgood
      exact .ok (.srv hstate htype hinspect hdecode ⟨hid, hindex, htarget, httl⟩)

theorem endConsume_stepped (hstate : a.state = .finish)
    (hinspect : packetInspect packet = .ok ⟨.responseEnd, a.queryId⟩) :
    Stepped limits budget a packet (endConsume budget a packet) := by
  unfold endConsume
  split
  · exact .protocol ..
  · rename_i response hdecode
    split
    · exact .protocol ..
    · rename_i hgood
      simp only [not_or, Decidable.not_not] at hgood
      obtain ⟨hid, hcnames, hrecords, hcnames', hrecords', hcomplete⟩ := hgood
      exact Or.inl ⟨Or.inr rfl, .tail hstate hinspect hdecode
        ⟨hid, hcnames, hrecords, hcnames', hrecords', hcomplete⟩⟩

theorem packetStep_stepped {kind : PacketKind}
    (hinspect : packetInspect packet = .ok ⟨kind, a.queryId⟩) (allocated : Bool) :
    Stepped limits budget a packet (packetStep limits budget a kind packet allocated) := by
  unfold packetStep
  split
  · rename_i hstate
    exact beginConsume_stepped hstate hinspect allocated
  · rename_i hstate
    exact cnameConsume_stepped hstate hinspect
  · rename_i hstate
    split
    · rename_i htype
      exact recordSrvConsume_stepped hstate htype hinspect
    · exact .protocol ..
  · rename_i hstate
    split
    · exact .protocol ..
    · rename_i htype
      exact recordAddressConsume_stepped hstate htype hinspect
  · rename_i hstate
    exact endConsume_stepped hstate hinspect
  · exact .protocol ..

/-- **Every packet does what `Consumed` says.** -/
theorem packetConsume_consumed (limits : AssemblyLimits) (budget : AssemblyBudget) (a : Assembly)
    (packet : Bytes) (allocated : Bool) :
    Consumed limits budget a packet (packetConsume limits budget a packet allocated) := by
  unfold packetConsume
  split
  · exact .failed .protocol
  · split
    · exact .failed .protocol
    · rename_i header hinspect
      split
      · exact .failed .protocol
      · rename_i hid
        obtain ⟨kind, queryId⟩ := header
        have hid : queryId = a.queryId := Decidable.of_not_not hid
        subst hid
        have hstepped : Stepped limits budget a packet _ := packetStep_stepped hinspect allocated
        rcases hstepped with ⟨hstatus, hconsumed⟩ | ⟨budget', status, hrefused, heq⟩
        · generalize packetStep limits budget a kind packet allocated = r at hstatus hconsumed
          obtain ⟨budget', a', status⟩ := r
          rcases hstatus with rfl | rfl <;> exact hconsumed
        · rw [heq]
          cases hrefused with
          | protocol => exact .failed .protocol
          | memory => exact .failed .memory
          | limit h => exact .failed (.limit h)

end Steps

/-! ## 6. What no packet can change, and what the question can be -/

/-- Two states of one assembly: the query it was created for is the same. -/
structure SameQuery (a a' : Assembly) : Prop where
  queryId : a'.queryId = a.queryId
  queryType : a'.queryType = a.queryType
  queryClass : a'.queryClass = a.queryClass
  expectedName : a'.expectedName = a.expectedName

/-- The question of an assembly is still unset, or it is the name it was created for. -/
def Assembly.QuestionExpected : Prop :=
  a.questionName = [] ∨ a.questionName = a.expectedName

/-- What one packet keeps. -/
structure Kept (a a' : Assembly) : Prop extends SameQuery a a' where
  question : a.QuestionExpected → a'.QuestionExpected

/-- A change outside the query and the question. -/
theorem Kept.of_eq {a a' : Assembly} (h : SameQuery a a') (hq : a'.questionName = a.questionName) :
    Kept a a' := by
  refine ⟨h, ?_⟩
  intro q
  unfold Assembly.QuestionExpected at q ⊢
  rw [hq, h.expectedName]
  exact q

/-- **A BEGIN packet is accepted only for the expected question, or with none.** -/
theorem beginCheck_question {a : Assembly} {b : ResponseBegin} (h : beginCheck a b = true) :
    b.questionName = [] ∨ b.questionName = a.expectedName := by
  unfold beginCheck at h
  split at h
  · cases h
  split at h
  case h_1 => simp_all
  case h_2 | h_3 =>
    split at h
    · exact Or.inl ‹_›
    · simp_all
  case h_4 | h_5 =>
    split at h
    · cases h
    split at h
    · cases h
    split at h
    · exact Or.inl ‹_›
    · simp_all
  all_goals simp_all

/-- **Whatever the packet**, the assembly stays the one of its query, and its question stays the
    expected name. -/
theorem packetConsume_kept (packet : Bytes) (allocated : Bool) :
    Kept a (packetConsume limits budget a packet allocated).2.1 := by
  have hconsumed := packetConsume_consumed limits budget a packet allocated
  generalize packetConsume limits budget a packet allocated = r at hconsumed
  cases hconsumed with
  | head _ _ _ hcheck => exact ⟨⟨rfl, rfl, rfl, rfl⟩, fun _ => beginCheck_question hcheck⟩
  | cname => exact .of_eq ⟨rfl, rfl, rfl, rfl⟩ rfl
  | address => exact .of_eq ⟨rfl, rfl, rfl, rfl⟩ rfl
  | srv => exact .of_eq ⟨rfl, rfl, rfl, rfl⟩ rfl
  | tail => exact .of_eq ⟨rfl, rfl, rfl, rfl⟩ rfl
  | failed => exact ⟨⟨rfl, rfl, rfl, rfl⟩, fun _ => Or.inl rfl⟩

/-- **No packet of another query is accepted.** -/
theorem packetConsume_accepts (packet : Bytes) (allocated : Bool)
    (h : (packetConsume limits budget a packet allocated).2.2 = .ok ∨
      (packetConsume limits budget a packet allocated).2.2 = .complete) :
    ∃ header, packetInspect packet = .ok header ∧ header.queryId = a.queryId := by
  have hconsumed := packetConsume_consumed limits budget a packet allocated
  generalize packetConsume limits budget a packet allocated = r at hconsumed h
  cases hconsumed with
  | head _ hinspect => exact ⟨_, hinspect, rfl⟩
  | cname _ hinspect => exact ⟨_, hinspect, rfl⟩
  | address _ _ hinspect => exact ⟨_, hinspect, rfl⟩
  | srv _ _ hinspect => exact ⟨_, hinspect, rfl⟩
  | tail _ hinspect => exact ⟨_, hinspect, rfl⟩
  | failed hrefused =>
    cases hrefused <;> rcases h with h | h <;> cases h

/-- The question of a taken result. -/
theorem resultTake_spec {a a' : Assembly} {result : AssemblyResult}
    (h : resultTake a = some (a', result)) :
    a.state = .complete ∧ result.queryId = a.queryId ∧ result.queryType = a.queryType ∧
      result.completedAt = a.completedAt ∧ result.payload = a.payload ∧
        result.status = a.status := by
  unfold resultTake at h
  split at h
  · cases h
  · rename_i hs
    cases h
    exact ⟨by simpa using hs, rfl, rfl, rfl, rfl, rfl⟩

@[simp] theorem Assembly.payload_questionName : a.payload.questionName = a.questionName := by
  unfold Assembly.payload
  split <;> rfl

section Created

variable {limits : AssemblyLimits} {budget budget' : AssemblyBudget} {a : Assembly}
  (h : assemblyCreate limits budget queryName queryClass queryType queryId allocated
    = (budget', .ok a))

include h

/-- A new assembly has nothing but its query, under the normalized name. -/
theorem assemblyCreate_fresh :
    queryId ≠ 0 ∧ budget.ownedBytes + sizeofAssembly ≤ limits.assemblyByteLimit ∧
      budget' = (budget.charge sizeofAssembly).increment queryType .createOk ∧
      ∃ name, nameNormalize queryName = some name ∧
        a = { expectedName := name, queryClass, queryId, queryType } := by
  unfold assemblyCreate at h
  split at h
  · cases h
  · rename_i name hname
    split at h
    · cases h
    · rename_i hquery
      split at h
      · cases h
      · split at h
        · cases h
        · cases h
          exact ⟨fun h0 => hquery (Or.inr h0), by omega, rfl, name, hname, rfl⟩

/-- A new assembly waits for its BEGIN packet, for the normalized name and the given id. -/
theorem assemblyCreate_spec :
    nameNormalize queryName = some a.expectedName ∧ a.queryId = queryId ∧ queryId ≠ 0 ∧
      a.queryType = queryType ∧ a.queryClass = queryClass ∧ a.state = .begin ∧
      a.questionName = [] := by
  obtain ⟨hid, _, _, name, hname, rfl⟩ := assemblyCreate_fresh h
  exact ⟨hname, rfl, hid, rfl, rfl, rfl, rfl⟩

/-- The assembly of a normalized name has nothing but its query. -/
theorem assemblyCreate_eq (hname : Normalized queryName) :
    a = { expectedName := queryName, queryClass, queryId, queryType } := by
  obtain ⟨_, _, _, name, hnormal, rfl⟩ := assemblyCreate_fresh h
  rw [hname.nameNormalize_eq] at hnormal
  cases hnormal
  rfl

end Created

end MinecraftRelay
