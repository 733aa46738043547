/-
  File:      Resolver/Assembly/Grammar.lean
  Subject:   THE LANGUAGE OF REPLIES THAT AN ASSEMBLY COMPLETES.

  A reply is one BEGIN, the declared aliases, the declared records and one END.  An assembly is
  fed packets one at a time, from anyone, and may be asked for its result in between.  Whatever
  it is fed, the packets it has accepted are the beginning of a reply, and it holds what they say.

  * `Received`, `Progress` -- the assembly after an accepted part of a reply, or terminal;
  * `Progress.step`, `session_progress` -- kept by every packet, hence true in every session;
  * `Completed.content` -- what a complete reply says about the chain and the TTLs;
  * `assembly_grammar` -- **only replies are completed**, and any other packet fails the assembly.
-/
import MinecraftRelay.Resolver.Helper
import Mathlib.Order.Bounds.Basic

namespace MinecraftRelay

open Chains

variable {r : AssemblyStep}

/-! ## 1. The language -/

/-- The messages of a reply. -/
inductive ReplyMessage where
  | head (b : ResponseBegin)
  | cname (response : ResponseCname)
  | address (response : ResponseAddress)
  | srv (response : ResponseSrv)
  | tail (response : ResponseEnd)
deriving Repr, DecidableEq

/-- The query a message belongs to. -/
def ReplyMessage.queryId : ReplyMessage → Nat
  | .head b => b.queryId
  | .cname response => response.queryId
  | .address response => response.queryId
  | .srv response => response.queryId
  | .tail response => response.queryId

/-- The message a packet holds, if it is one of a reply. -/
def messageDecode (packet : Bytes) : Option ReplyMessage :=
  match packetInspect packet with
  | .error _ => none
  | .ok header =>
    match header.kind with
    | .request => none
    | .responseBegin => (beginDecode packet).toOption.map .head
    | .responseCname => (cnameDecode packet).toOption.map .cname
    | .responseAddress => (addressDecode packet).toOption.map .address
    | .responseSrv => (srvDecode packet).toOption.map .srv
    | .responseEnd => (endDecode packet).toOption.map .tail

/-- A BEGIN, and then aliases and records with consecutive indexes. -/
def replyMessages (queryId : Nat) (b : ResponseBegin) (cnames : List CnameRecord)
    (addresses : List AddressRecord) (srvRecords : List SrvRecord) : List ReplyMessage :=
  .head b ::
    (cnames.mapIdx (fun index record => .cname { record, index, queryId }) ++
      (addresses.mapIdx (fun index record => .address { record, index, queryId }) ++
        srvRecords.mapIdx (fun index record => .srv { record, index, queryId })))

/-- The packets hold these messages, in this order. -/
def Spells (packets : List Bytes) (messages : List ReplyMessage) : Prop :=
  packets.map messageDecode = messages.map some

/-- **A reply to the query of `a₀`**: one BEGIN, the declared number of aliases and then of records
    of the queried type, with consecutive indexes, and one END with the same counts. -/
structure IsReply (a₀ : Assembly) (b : ResponseBegin) (cnames : List CnameRecord)
    (addresses : List AddressRecord) (srvRecords : List SrvRecord) (packets : List Bytes) :
    Prop where
  spells : Spells packets (replyMessages a₀.queryId b cnames addresses srvRecords ++
    [.tail { cnameCount := b.cnameCount, queryId := a₀.queryId, recordCount := b.recordCount }])
  queryId : ∀ packet ∈ packets, (messageDecode packet).map (·.queryId) = some a₀.queryId
  cnameCount : cnames.length = b.cnameCount
  recordCount : addresses.length + srvRecords.length = b.recordCount
  type : if a₀.queryType = .srv then addresses = [] else srvRecords = []

/-- What a reply says. -/
def replyPayload (queryType : QueryType) (b : ResponseBegin) (cnames : List CnameRecord)
    (addresses : List AddressRecord) (srvRecords : List SrvRecord) : AnyResult :=
  if queryType = .srv then
    .srv { records := srvRecords, canonicalName := b.canonicalName, cnames, negative := b.negative,
           questionName := b.questionName, rcode := b.rcode }
  else
    .address { records := addresses, canonicalName := b.canonicalName, cnames,
               negative := b.negative, questionName := b.questionName, rcode := b.rcode }

/-- The chain of a result leads from its question to its canonical name, over distinct names, and
    the TTLs and the negative data agree with it. -/
structure ResultSound {ρ : Type} [TtlRecord ρ] (status : LookupStatus) (result : DnsResult ρ) :
    Prop where
  chain : result.cnames ≠ [] →
    Linked CnameRecord.owner CnameRecord.target result.questionName result.cnames
      result.canonicalName
  distinct : (result.questionName :: result.cnames.map (·.target)).Nodup
  canonical : result.cnames = [] → status = .ok ∨ status = .nodata ∨ status = .notFound →
    result.canonicalName = result.questionName
  ttl : ∀ r ∈ result.records,
    IsLeast (insert (TtlRecord.recordTtl r) {ttl | ∃ c ∈ result.cnames, c.ttl = ttl})
      (TtlRecord.effectiveTtl r)
  negative : result.negative.valid = true →
    nameEncloses result.negative.owner result.canonicalName = true

def AnyResult.Sound (status : LookupStatus) : AnyResult → Prop
  | .address result => ResultSound status result
  | .srv result => ResultSound status result

/-! ## 2. The accepted part of a reply -/

/-- What an assembly for the query of `a₀` has accepted so far. -/
structure Received (limits : AssemblyLimits) (a₀ : Assembly) (b : ResponseBegin)
    (cnames : List CnameRecord) (addresses : List AddressRecord) (srvRecords : List SrvRecord) :
    Prop where
  decoded : b.Encodable
  check : beginCheck a₀ b = true
  fit : resultClassify limits.toCacheLimits a₀.queryType b.cnameCount b.recordCount = .ok
  cnames_le : cnames.length ≤ b.cnameCount
  linked : Linked CnameRecord.owner CnameRecord.target b.questionName cnames
    ((cnames.getLast?.map (·.target)).getD b.questionName)
  simple : Simple CnameRecord.owner CnameRecord.target cnames
  normal : ∀ c ∈ cnames, c.Normal
  ordered : cnames.length < b.cnameCount → addresses = [] ∧ srvRecords = []
  records_le : addresses.length + srvRecords.length ≤ b.recordCount
  addresses : ∀ r ∈ addresses, a₀.queryType ≠ .srv ∧ r.address.family = a₀.queryType.family ∧
    r.effectiveTtl = ttlExpected r.recordTtl (dnsCnameTtlMin cnames)
  srvRecords : ∀ r ∈ srvRecords, a₀.queryType = .srv ∧ Normalized r.target ∧
    r.effectiveTtl = ttlExpected r.recordTtl (dnsCnameTtlMin cnames)

/-- An assembly that was created for a query and has been fed nothing. -/
def Assembly.Fresh (a₀ : Assembly) : Prop :=
  ∃ expectedName queryClass queryId queryType,
    a₀ = { expectedName, queryClass, queryId, queryType } ∧ Normalized expectedName

/-- The packets were a whole reply, and the assembly holds it. -/
def Completed (limits : AssemblyLimits) (a₀ a : Assembly) (packets : List Bytes) : Prop :=
  ∃ b cnames addresses srvRecords, Received limits a₀ b cnames addresses srvRecords ∧
    IsReply a₀ b cnames addresses srvRecords packets ∧
    completeCheck (fed a₀ b (arraysBytes a₀.queryType b.cnameCount b.recordCount) cnames addresses
      srvRecords) = true ∧
    a = { fed a₀ b (arraysBytes a₀.queryType b.cnameCount b.recordCount) cnames addresses
        srvRecords with state := .complete }

/-- The assembly holds what the packets accepted so far say, or it holds nothing any more. -/
inductive Progress (limits : AssemblyLimits) (a₀ : Assembly) : Assembly → List Bytes → Prop where
  | start : Progress limits a₀ a₀ []
  | fed {b : ResponseBegin} {cnames : List CnameRecord} {addresses : List AddressRecord}
      {srvRecords : List SrvRecord} {packets : List Bytes}
      (h : Received limits a₀ b cnames addresses srvRecords)
      (hp : Spells packets (replyMessages a₀.queryId b cnames addresses srvRecords)) :
      Progress limits a₀ (fed a₀ b (arraysBytes a₀.queryType b.cnameCount b.recordCount) cnames
        addresses srvRecords) packets
  | complete {a : Assembly} {packets : List Bytes} (h : Completed limits a₀ a packets) :
      Progress limits a₀ a packets
  | ended {a : Assembly} {packets : List Bytes} (h : a.state = .failed ∨ a.state = .taken) :
      Progress limits a₀ a packets

/-- The assembly has failed, and holds nothing. -/
structure Released (a : Assembly) : Prop where
  failed : a.state = .failed
  cleared : a.payloadCleared = a
  dynamicBytes : a.dynamicBytes = 0

/-! ## 3. One packet -/

theorem Spells.concat {packets : List Bytes} {messages : List ReplyMessage} {packet : Bytes}
    {message : ReplyMessage} (h : Spells packets messages)
    (hm : messageDecode packet = some message) :
    Spells (packets ++ [packet]) (messages ++ [message]) := by
  unfold Spells at h ⊢
  rw [List.map_append, List.map_append, h, List.map_singleton, List.map_singleton, hm]

section

variable (queryId : Nat) (b : ResponseBegin) (cnames : List CnameRecord)

theorem replyMessages_cname (record : CnameRecord) :
    replyMessages queryId b (cnames ++ [record]) [] [] =
      replyMessages queryId b cnames [] [] ++
        [.cname { record, index := cnames.length, queryId }] := by
  simp [replyMessages, List.mapIdx_concat]

theorem replyMessages_address (addresses : List AddressRecord) (record : AddressRecord) :
    replyMessages queryId b cnames (addresses ++ [record]) [] =
      replyMessages queryId b cnames addresses [] ++
        [.address { record, index := addresses.length, queryId }] := by
  simp [replyMessages, List.mapIdx_concat]

theorem replyMessages_srv (srvRecords : List SrvRecord) (record : SrvRecord) :
    replyMessages queryId b cnames [] (srvRecords ++ [record]) =
      replyMessages queryId b cnames [] srvRecords ++
        [.srv { record, index := srvRecords.length, queryId }] := by
  simp [replyMessages, List.mapIdx_concat]

end

/-- A name without NUL that is its own normal form. -/
theorem nameNormalized_normalized {name : Bytes} (hnul : (0 : UInt8) ∉ name)
    (h : nameNormalized name = true) : Normalized name := by
  have hnormal := of_decide_eq_true h
  rw [cString_of_not_mem hnul] at hnormal
  exact nameNormalize_normalized hnormal

section Received

variable {limits : AssemblyLimits} {a₀ : Assembly} {b : ResponseBegin} {cnames : List CnameRecord}
  {addresses : List AddressRecord} {srvRecords : List SrvRecord}

/-- The records received so far are those of the queried type. -/
theorem Received.type (h : Received limits a₀ b cnames addresses srvRecords) :
    if a₀.queryType = .srv then addresses = [] else srvRecords = [] := by
  split
  · rename_i htype
    exact List.eq_nil_iff_forall_not_mem.2 fun r hr => (h.addresses r hr).1 htype
  · rename_i htype
    exact List.eq_nil_iff_forall_not_mem.2 fun r hr => htype (h.srvRecords r hr).1

theorem Received.head (hdecode : b.Encodable) (hcheck : beginCheck a₀ b = true)
    (hfit : resultClassify limits.toCacheLimits a₀.queryType b.cnameCount b.recordCount = .ok) :
    Received limits a₀ b [] [] [] where
  decoded := hdecode
  check := hcheck
  fit := hfit
  cnames_le := Nat.zero_le _
  linked := rfl
  simple := .nil
  normal := nofun
  ordered _ := ⟨rfl, rfl⟩
  records_le := Nat.zero_le _
  addresses := nofun
  srvRecords := nofun

theorem Received.cname (h : Received limits a₀ b cnames [] [])
    (hcount : cnames.length < b.cnameCount) {record : CnameRecord} (hnormal : record.Normal)
    (howner : record.owner = (cnames.getLast?.map (·.target)).getD b.questionName)
    (hfresh : ∀ c ∈ cnames, record.target ≠ c.owner) (hproper : record.target ≠ record.owner) :
    Received limits a₀ b (cnames ++ [record]) [] [] where
  decoded := h.decoded
  check := h.check
  fit := h.fit
  cnames_le := by
    rw [List.length_append, List.length_singleton]
    omega
  linked := by
    rw [List.getLast?_concat]
    exact linked_concat (howner ▸ h.linked)
  simple := by
    refine h.simple.append ⟨List.pairwise_singleton _ _, ?_⟩ ?_
    · intro c hc
      rw [List.mem_singleton.1 hc]
      exact hproper
    · intro c hc
      rw [List.mem_singleton.1 hc]
      exact hfresh
  normal := by
    intro c hc
    rcases List.mem_append.1 hc with hc | hc
    · exact h.normal c hc
    · rw [List.mem_singleton.1 hc]
      exact hnormal
  ordered _ := ⟨rfl, rfl⟩
  records_le := Nat.zero_le _
  addresses := nofun
  srvRecords := nofun

theorem Received.more (h : Received limits a₀ b cnames addresses srvRecords)
    (hcnames : cnames.length = b.cnameCount) {addresses' : List AddressRecord}
    {srvRecords' : List SrvRecord} (hcount : addresses'.length + srvRecords'.length ≤ b.recordCount)
    (haddresses : ∀ r ∈ addresses', r ∈ addresses ∨ a₀.queryType ≠ .srv ∧
      r.address.family = a₀.queryType.family ∧
      r.effectiveTtl = ttlExpected r.recordTtl (dnsCnameTtlMin cnames))
    (hsrv : ∀ r ∈ srvRecords', r ∈ srvRecords ∨ a₀.queryType = .srv ∧ Normalized r.target ∧
      r.effectiveTtl = ttlExpected r.recordTtl (dnsCnameTtlMin cnames)) :
    Received limits a₀ b cnames addresses' srvRecords' :=
  { h with
    ordered := fun hlt => absurd hcnames (Nat.ne_of_lt hlt)
    records_le := hcount
    addresses := fun r hr => (haddresses r hr).elim (h.addresses r) id
    srvRecords := fun r hr => (hsrv r hr).elim (h.srvRecords r) id }

end Received

/-- What one packet does: it is accepted and continues the reply, it completes the reply, or the
    assembly releases all it holds. -/
inductive FeedAnswered (limits : AssemblyLimits) (a₀ : Assembly) (budget : AssemblyBudget)
    (a : Assembly) (packets : List Bytes) : AssemblyStep → Prop where
  | ok {budget' : AssemblyBudget} {a' : Assembly} {b : ResponseBegin} {cnames : List CnameRecord}
      {addresses : List AddressRecord} {srvRecords : List SrvRecord}
      (h : Received limits a₀ b cnames addresses srvRecords)
      (hp : Spells packets (replyMessages a₀.queryId b cnames addresses srvRecords))
      (heq : a' = fed a₀ b (arraysBytes a₀.queryType b.cnameCount b.recordCount) cnames addresses
        srvRecords) :
      FeedAnswered limits a₀ budget a packets (budget', a', .ok)
  | complete {budget' : AssemblyBudget} {a' : Assembly} (h : Completed limits a₀ a' packets) :
      FeedAnswered limits a₀ budget a packets (budget', a', .complete)
  | failed {budget' : AssemblyBudget} {a' : Assembly} {status : AssemblyStatus}
      (hok : status ≠ .ok) (hcomplete : status ≠ .complete) (h : Released a')
      (hbytes : budget'.ownedBytes = budget.ownedBytes - a.dynamicBytes) :
      FeedAnswered limits a₀ budget a packets (budget', a', status)

section Step

variable {limits : AssemblyLimits} {a₀ a : Assembly} {budget budget' : AssemblyBudget}
  {packets : List Bytes} {packet : Bytes} {status : AssemblyStatus}

/-- A refused packet releases what the assembly held. -/
theorem Refused.answered (h : Refused budget a.queryType budget' status) :
    FeedAnswered limits a₀ budget a packets (assemblyFail budget' a status) := by
  refine .failed ?_ ?_ ⟨rfl, rfl, rfl⟩ ?_
  · cases h <;> nofun
  · cases h <;> nofun
  · show ((terminalRecord budget' a status).discharge a.dynamicBytes).ownedBytes = _
    rw [AssemblyBudget.discharge_ownedBytes, terminalRecord_ownedBytes, h.ownedBytes]

theorem Assembly.Fresh.step (hfresh : a₀.Fresh) (hc : Consumed limits budget a₀ packet r) :
    FeedAnswered limits a₀ budget a₀ [packet] r := by
  obtain ⟨expectedName, queryClass, queryId, queryType, rfl, _⟩ := hfresh
  cases hc with
  | head _ hinspect hdecode hcheck hfit _ =>
    refine .ok (.head (beginDecode_encodable hdecode) hcheck hfit) ?_ rfl
    show [messageDecode packet] = _
    rw [messageDecode, hinspect]
    rw [hdecode]
    rfl
  | failed h => exact h.answered
  | _ hstate => cases hstate

section Fed

variable {b : ResponseBegin} {cnames : List CnameRecord} {addresses : List AddressRecord}
  {srvRecords : List SrvRecord} {n : Nat}

section

variable (h : Received limits a₀ b cnames addresses srvRecords)

include h

/-- What it has while it waits for an alias. -/
theorem Received.at_cname (hstate : (fed a₀ b n cnames addresses srvRecords).state = .cname) :
    cnames.length < b.cnameCount ∧ addresses = [] ∧ srvRecords = [] := by
  by_cases hc : cnames.length < b.cnameCount
  · exact ⟨hc, h.ordered hc⟩
  · rw [fed_state (h.cnames_le.antisymm (Nat.le_of_not_lt hc))] at hstate
    split at hstate <;> cases hstate

/-- What it has while it waits for a record. -/
theorem Received.at_record (hstate : (fed a₀ b n cnames addresses srvRecords).state = .record) :
    cnames.length = b.cnameCount ∧ addresses.length + srvRecords.length < b.recordCount := by
  by_cases hc : cnames.length < b.cnameCount
  · cases (if_pos hc).symm.trans hstate
  · have hcount := h.cnames_le.antisymm (Nat.le_of_not_lt hc)
    rw [fed_state hcount] at hstate
    split at hstate
    · exact ⟨hcount, ‹_›⟩
    · cases hstate

variable (hp : Spells packets (replyMessages a₀.queryId b cnames addresses srvRecords))

include hp

theorem Received.step_cname
    (hstate : (fed a₀ b n cnames addresses srvRecords).state = .cname) {response : ResponseCname}
    (hinspect : packetInspect packet = .ok ⟨.responseCname, a₀.queryId⟩)
    (hdecode : cnameDecode packet = .ok response)
    (ha : AliasAccepted (fed a₀ b n cnames addresses srvRecords) response) :
    addresses = [] ∧ srvRecords = [] ∧ cnames.length < b.cnameCount ∧
      Received limits a₀ b (cnames ++ [response.record]) [] [] ∧
      Spells (packets ++ [packet])
        (replyMessages a₀.queryId b (cnames ++ [response.record]) [] []) := by
  obtain ⟨hcount, rfl, rfl⟩ := h.at_cname hstate
  obtain ⟨howner, htarget⟩ := cnameDecode_no_nul hdecode
  have hnormal : response.record.Normal :=
    ⟨nameNormalized_normalized howner ha.owner, nameNormalized_normalized htarget ha.target⟩
  refine ⟨rfl, rfl, hcount, h.cname hcount hnormal ha.expected ha.fresh ha.proper, ?_⟩
  rw [replyMessages_cname]
  refine hp.concat ?_
  have hmessage : response =
      { record := response.record, index := cnames.length, queryId := a₀.queryId } := by
    rw [← show response.index = cnames.length from ha.index,
      ← show response.queryId = a₀.queryId from ha.queryId]
  rw [← hmessage, messageDecode, hinspect]
  rw [hdecode]
  rfl

variable (hstate : (fed a₀ b n cnames addresses srvRecords).state = .record)

include hstate

theorem Received.step_address (htype : a₀.queryType ≠ .srv) {response : ResponseAddress}
    (hinspect : packetInspect packet = .ok ⟨.responseAddress, a₀.queryId⟩)
    (hdecode : addressDecode packet = .ok response)
    (ha : AddressAccepted (fed a₀ b n cnames addresses srvRecords) response) :
    srvRecords = [] ∧ cnames.length = b.cnameCount ∧ addresses.length < b.recordCount ∧
      Received limits a₀ b cnames (addresses ++ [response.record]) [] ∧
      Spells (packets ++ [packet])
        (replyMessages a₀.queryId b cnames (addresses ++ [response.record]) []) := by
  obtain rfl : srvRecords = [] := by simpa only [if_neg htype] using h.type
  obtain ⟨hcount, hrecords⟩ := h.at_record hstate
  refine ⟨rfl, hcount, hrecords, h.more hcount (by simp; omega) (fun r hr => ?_) nofun, ?_⟩
  · rcases List.mem_append.1 hr with hr | hr
    · exact Or.inl hr
    · rw [List.mem_singleton.1 hr]
      exact Or.inr ⟨htype, ha.family, ha.ttl⟩
  rw [replyMessages_address]
  refine hp.concat ?_
  have hindex : response.index = addresses.length := ha.index.trans (if_neg htype)
  have hmessage : response =
      { record := response.record, index := addresses.length, queryId := a₀.queryId } := by
    rw [← hindex, ← show response.queryId = a₀.queryId from ha.queryId]
  rw [← hmessage, messageDecode, hinspect]
  rw [hdecode]
  rfl

theorem Received.step_srv (htype : a₀.queryType = .srv) {response : ResponseSrv}
    (hinspect : packetInspect packet = .ok ⟨.responseSrv, a₀.queryId⟩)
    (hdecode : srvDecode packet = .ok response)
    (ha : SrvAccepted (fed a₀ b n cnames addresses srvRecords) response) :
    addresses = [] ∧ cnames.length = b.cnameCount ∧ srvRecords.length < b.recordCount ∧
      Received limits a₀ b cnames [] (srvRecords ++ [response.record]) ∧
      Spells (packets ++ [packet])
        (replyMessages a₀.queryId b cnames [] (srvRecords ++ [response.record])) := by
  obtain rfl : addresses = [] := by simpa only [if_pos htype] using h.type
  obtain ⟨hcount, hrecords⟩ := h.at_record hstate
  rw [List.length_nil, Nat.zero_add] at hrecords
  refine ⟨rfl, hcount, hrecords, h.more hcount (by simp; omega) nofun fun r hr => ?_, ?_⟩
  · rcases List.mem_append.1 hr with hr | hr
    · exact Or.inl hr
    · rw [List.mem_singleton.1 hr]
      exact Or.inr ⟨htype, nameNormalized_normalized (srvDecode_no_nul hdecode) ha.target, ha.ttl⟩
  rw [replyMessages_srv]
  refine hp.concat ?_
  have hindex : response.index = srvRecords.length := ha.index.trans (if_pos htype)
  have hmessage : response =
      { record := response.record, index := srvRecords.length, queryId := a₀.queryId } := by
    rw [← hindex, ← show response.queryId = a₀.queryId from ha.queryId]
  rw [← hmessage, messageDecode, hinspect]
  rw [hdecode]
  rfl

end

theorem beginCheck_query {a : Assembly} {b : ResponseBegin} (h : beginCheck a b = true) :
    b.queryId = a.queryId ∧ b.queryClass = a.queryClass ∧ b.queryType = a.queryType := by
  unfold beginCheck at h
  split at h
  · cases h
  · rename_i hquery
    simpa only [not_or, Decidable.not_not] using hquery

/-- Every message of a reply belongs to the query. -/
theorem replyMessages_queryId (hid : b.queryId = a₀.queryId) :
    ∀ m ∈ replyMessages a₀.queryId b cnames addresses srvRecords, m.queryId = a₀.queryId := by
  intro m hm
  simp only [replyMessages, List.mem_cons, List.mem_append, List.mem_mapIdx] at hm
  rcases hm with rfl | ⟨_, _, rfl⟩ | ⟨_, _, rfl⟩ | ⟨_, _, rfl⟩
  · exact hid
  · rfl
  · rfl
  · rfl

theorem Received.step_end (h : Received limits a₀ b cnames addresses srvRecords)
    (hp : Spells packets (replyMessages a₀.queryId b cnames addresses srvRecords))
    {response : ResponseEnd} (hinspect : packetInspect packet = .ok ⟨.responseEnd, a₀.queryId⟩)
    (hdecode : endDecode packet = .ok response)
    (ha : EndAccepted (fed a₀ b n cnames addresses srvRecords) response) :
    IsReply a₀ b cnames addresses srvRecords (packets ++ [packet]) := by
  have hmessage : response =
      { cnameCount := b.cnameCount, queryId := a₀.queryId, recordCount := b.recordCount } := by
    rw [← show response.cnameCount = b.cnameCount from ha.cnameCount,
      ← show response.recordCount = b.recordCount from ha.recordCount,
      ← show response.queryId = a₀.queryId from ha.queryId]
  have hspells : Spells (packets ++ [packet])
      (replyMessages a₀.queryId b cnames addresses srvRecords ++
      [.tail
        { cnameCount := b.cnameCount, queryId := a₀.queryId, recordCount := b.recordCount }]) := by
    refine hp.concat ?_
    rw [← hmessage, messageDecode, hinspect]
    rw [hdecode]
    rfl
  refine ⟨hspells, ?_, ha.cnames, ?_, h.type⟩
  · intro p hp'
    have hmem : messageDecode p ∈ (packets ++ [packet]).map messageDecode :=
      List.mem_map_of_mem hp'
    rw [hspells, List.mem_map] at hmem
    obtain ⟨m, hm, heq⟩ := hmem
    rw [← heq, Option.map_some]
    congr 1
    rcases List.mem_append.1 hm with hm | hm
    · exact replyMessages_queryId (beginCheck_query h.check).1 m hm
    · rw [List.mem_singleton.1 hm]
      rfl
  · have htype := h.type
    have hrecords := ha.records
    unfold Assembly.receivedRecordCount at hrecords
    split at htype
    · rename_i hsrv
      rw [if_pos (show (fed a₀ b n cnames addresses srvRecords).queryType = .srv from hsrv)]
        at hrecords
      rw [htype, List.length_nil, Nat.zero_add]
      exact hrecords
    · rename_i hsrv
      rw [if_neg (show ¬ (fed a₀ b n cnames addresses srvRecords).queryType = .srv from hsrv)]
        at hrecords
      rw [htype, List.length_nil, Nat.add_zero]
      exact hrecords

end Fed

theorem Completed.nonterminal {a : Assembly} {packets : List Bytes}
    (h : Completed limits a₀ a packets) : a.state.nonterminal = false := by
  obtain ⟨b, cnames, addresses, srvRecords, _, _, _, rfl⟩ := h
  rfl

/-- A terminal assembly refuses every packet. -/
theorem consumed_terminal
    (hterminal : a.state.nonterminal = false) (hc : Consumed limits budget a packet r) :
    FeedAnswered limits a₀ budget a packets r := by
  cases hc with
  | failed h => exact h.answered
  | _ hstate => cases (congrArg AssemblyPhase.nonterminal hstate).symm.trans hterminal

/-- **One packet**, whatever it is and wherever the assembly stands. -/
theorem Progress.step (hfresh : a₀.Fresh)
    (h : Progress limits a₀ a packets) (hc : Consumed limits budget a packet r) :
    FeedAnswered limits a₀ budget a (packets ++ [packet]) r := by
  cases h with
  | start => exact hfresh.step hc
  | fed h hp =>
    cases hc with
    | head hstate =>
      unfold MinecraftRelay.fed at hstate
      split_ifs at hstate
    | cname hstate hinspect hdecode ha =>
      obtain ⟨rfl, rfl, hcount, hreceived, hspells⟩ := h.step_cname hp hstate hinspect hdecode ha
      exact .ok hreceived hspells (fed_aliased _ hcount)
    | address hstate htype hinspect hdecode ha =>
      obtain ⟨rfl, hcnames, hcount, hreceived, hspells⟩ :=
        h.step_address hp hstate htype hinspect hdecode ha
      exact .ok hreceived hspells
        (fed_recorded hcnames (if_neg htype) hcount (by simp [MinecraftRelay.fed]))
    | srv hstate htype hinspect hdecode ha =>
      obtain ⟨rfl, hcnames, hcount, hreceived, hspells⟩ :=
        h.step_srv hp hstate htype hinspect hdecode ha
      exact .ok hreceived hspells (fed_recorded hcnames ((if_pos htype).trans (Nat.zero_add _).symm)
        (by simpa using hcount) (by simp [MinecraftRelay.fed]))
    | tail hstate hinspect hdecode ha =>
      exact .complete ⟨_, _, _, _, h, h.step_end hp hinspect hdecode ha, ha.complete, rfl⟩
    | failed h => exact h.answered
  | complete h => exact consumed_terminal h.nonterminal hc
  | ended h =>
    refine consumed_terminal ?_ hc
    rcases h with e | e <;> rw [e] <;> rfl

end Step

/-! ## 4. What a complete reply says -/

/-- The TTL of a chain is the least of its aliases' TTLs, or the largest TTL there is. -/
theorem dnsCnameTtlMin_spec (cnames : List CnameRecord) :
    (∀ c ∈ cnames, dnsCnameTtlMin cnames ≤ c.ttl) ∧
      (dnsCnameTtlMin cnames = 0xFFFFFFFF ∨ ∃ c ∈ cnames, c.ttl = dnsCnameTtlMin cnames) := by
  induction cnames using List.reverseRecOn with
  | nil => exact ⟨nofun, Or.inl rfl⟩
  | append_singleton cnames c ih =>
    obtain ⟨hle, hleast⟩ := ih
    rw [dnsCnameTtlMin_concat]
    obtain ⟨hleft, hright⟩ := ttlMin_le c.ttl (dnsCnameTtlMin cnames)
    refine ⟨?_, ?_⟩
    · intro x hx
      rcases List.mem_append.1 hx with hx | hx
      · exact UInt32.le_trans hright (hle x hx)
      · rw [List.mem_singleton.1 hx]
        exact hleft
    · unfold ttlMin
      split
      · exact Or.inr ⟨c, List.mem_append_right _ (List.mem_singleton_self c), rfl⟩
      · rcases hleast with h | ⟨x, hx, he⟩
        · exact Or.inl h
        · exact Or.inr ⟨x, List.mem_append_left _ hx, he⟩

/-- The TTL the assembly asks of a record. -/
theorem ttlExpected_isLeast (recordTtl : UInt32) (cnames : List CnameRecord) :
    IsLeast (insert recordTtl {ttl | ∃ c ∈ cnames, c.ttl = ttl})
      (ttlExpected recordTtl (dnsCnameTtlMin cnames)) := by
  obtain ⟨hle, hleast⟩ := dnsCnameTtlMin_spec cnames
  obtain ⟨hrecord, hchain⟩ := ttlMin_le recordTtl (dnsCnameTtlMin cnames)
  refine ⟨?_, ?_⟩
  · unfold ttlExpected
    split
    · exact Or.inl rfl
    · rename_i hnot
      rcases hleast with h | ⟨c, hc, he⟩
      · refine Or.inl (UInt32.le_antisymm (UInt32.not_lt.1 hnot) ?_)
        rw [h, UInt32.le_iff_toNat_le]
        exact Nat.le_of_lt_succ recordTtl.toNat_lt
      · exact Or.inr ⟨c, hc, he⟩
  · rintro ttl (rfl | ⟨c, hc, rfl⟩)
    · exact hrecord
    · exact UInt32.le_trans hchain (hle c hc)

section Content

variable {limits : AssemblyLimits} {a₀ : Assembly} {b : ResponseBegin} {cnames : List CnameRecord}
  {addresses : List AddressRecord} {srvRecords : List SrvRecord} {n : Nat}

/-- What `resolver_ipc_assembly_complete_check` has found. -/
theorem completeCheck_fed (hcount : cnames.length = b.cnameCount)
    (h : completeCheck (fed a₀ b n cnames addresses srvRecords) = true) :
    (cnames ≠ [] → b.canonicalName = (cnames.getLast?.map (·.target)).getD b.questionName) ∧
      (cnames = [] → b.status ≠ .permanentError → b.status ≠ .temporaryError →
        b.canonicalName = b.questionName) ∧
      (b.negative.valid = true → nameNormalized b.negative.owner = true ∧
        nameEncloses b.negative.owner b.canonicalName = true) := by
  unfold completeCheck fed at h
  dsimp only at h
  generalize hchain : (if b.cnameCount > 0 then
    decide (some b.canonicalName = (cnames[b.cnameCount - 1]?).map (·.target))
    else decide (b.status = .permanentError ∨ b.status = .temporaryError) ||
      decide (b.canonicalName = b.questionName)) = ends at h
  cases ends with
  | false => cases h
  | true =>
  rw [if_neg (by simp)] at h
  refine ⟨?_, ?_, ?_⟩
  · intro hne
    have hpos : 0 < cnames.length := List.length_pos_iff.2 hne
    rw [if_pos (hcount ▸ hpos : b.cnameCount > 0), ← hcount, ← List.getLast?_eq_getElem?] at hchain
    have hlast := of_decide_eq_true hchain
    rw [← hlast]
    rfl
  · intro hnil hpermanent htemporary
    have hzero : ¬ b.cnameCount > 0 := by
      rw [← hcount, hnil]
      exact Nat.lt_irrefl 0
    rw [if_neg hzero] at hchain
    simpa [hpermanent, htemporary] using hchain
  · intro hvalid
    rw [if_neg (not_not_intro hvalid)] at h
    simp only [Bool.and_eq_true] at h
    exact h.1

/-- A complete reply is sound, whatever its records are. -/
theorem Received.sound {ρ : Type} [TtlRecord ρ]
    (h : Received limits a₀ b cnames addresses srvRecords) (hcount : cnames.length = b.cnameCount)
    (hcomplete : completeCheck (fed a₀ b n cnames addresses srvRecords) = true) {records : List ρ}
    (hrecords : ∀ r ∈ records, TtlRecord.effectiveTtl r =
      ttlExpected (TtlRecord.recordTtl r) (dnsCnameTtlMin cnames)) :
    ResultSound b.status
      { records, canonicalName := b.canonicalName, cnames, negative := b.negative,
        questionName := b.questionName, rcode := b.rcode } := by
  obtain ⟨hends, hnone, hnegative⟩ := completeCheck_fed hcount hcomplete
  refine ⟨?_, h.linked.nodup h.simple, ?_, ?_, fun hvalid => (hnegative hvalid).2⟩
  · intro hne
    rw [hends hne]
    exact h.linked
  · intro hnil hstatus
    refine hnone hnil ?_ ?_ <;> rcases hstatus with e | e | e <;> rw [e] <;> nofun
  · intro r hr
    rw [hrecords r hr]
    exact ttlExpected_isLeast _ cnames

/-- **What a complete reply says**: the result it is taken as, and that it is sound. -/
theorem Completed.content {a : Assembly} {packets : List Bytes}
    (h : Completed limits a₀ a packets) :
    ∃ b cnames addresses srvRecords, IsReply a₀ b cnames addresses srvRecords packets ∧
      ∃ result, (resultTake a).map (·.2) = some result ∧ result.status = b.status ∧
        result.completedAt = b.completedAt ∧ result.queryId = a₀.queryId ∧
        result.queryType = a₀.queryType ∧
        result.payload = replyPayload a₀.queryType b cnames addresses srvRecords ∧
        result.payload.Sound result.status := by
  obtain ⟨b, cnames, addresses, srvRecords, hreceived, hreply, hcomplete, rfl⟩ := h
  refine ⟨b, cnames, addresses, srvRecords, hreply, ?_⟩
  refine ⟨_, rfl, rfl, rfl, rfl, rfl, rfl, ?_⟩
  show (replyPayload a₀.queryType b cnames addresses srvRecords).Sound b.status
  unfold replyPayload
  split
  · exact hreceived.sound hreply.cnameCount hcomplete fun r hr => (hreceived.srvRecords r hr).2.2
  · exact hreceived.sound hreply.cnameCount hcomplete fun r hr => (hreceived.addresses r hr).2.2

end Content

/-! ## 5. Sessions -/

/-- What can be done with an assembly: a packet is fed, from a budget that others use too, or the
    result is asked for. -/
inductive AssemblyOp where
  | feed (budget : AssemblyBudget) (packet : Bytes) (allocated : Bool)
  | take

/-- An assembly, and the packets it has accepted. -/
structure Session where
  assembly : Assembly
  accepted : List Bytes := []

/-- The session after one operation. -/
def Session.op (limits : AssemblyLimits) (s : Session) : AssemblyOp → Session
  | .feed budget packet allocated =>
    let r := packetConsume limits budget s.assembly packet allocated
    { assembly := r.2.1
      accepted := if r.2.2 = .ok ∨ r.2.2 = .complete then s.accepted ++ [packet] else s.accepted }
  | .take => { s with assembly := ((resultTake s.assembly).map (·.1)).getD s.assembly }

/-- The session of an assembly after a list of operations. -/
def session (limits : AssemblyLimits) (a₀ : Assembly) (ops : List AssemblyOp) : Session :=
  ops.foldl (Session.op limits) { assembly := a₀ }

section Sessions

variable {limits : AssemblyLimits} {a₀ : Assembly}

/-- Taking a result changes a complete assembly only. -/
theorem resultTake_getD (a : Assembly) :
    ((resultTake a).map (·.1)).getD a = a ∨ (((resultTake a).map (·.1)).getD a).state = .taken := by
  unfold resultTake
  split
  · exact Or.inl rfl
  · exact Or.inr rfl

theorem Progress.op (hfresh : a₀.Fresh) {s : Session} (h : Progress limits a₀ s.assembly s.accepted)
    (op : AssemblyOp) : Progress limits a₀ (s.op limits op).assembly (s.op limits op).accepted := by
  cases op with
  | feed budget packet allocated =>
    have hanswered := h.step hfresh
      (packetConsume_consumed limits budget s.assembly packet allocated)
    unfold Session.op
    dsimp only
    generalize packetConsume limits budget s.assembly packet allocated = r at hanswered ⊢
    cases hanswered with
    | ok hreceived hspells heq =>
      rw [if_pos (Or.inl rfl), heq]
      exact .fed hreceived hspells
    | complete hcomplete =>
      exact .complete hcomplete
    | failed _ _ hreleased => exact .ended (Or.inl hreleased.failed)
  | take =>
    rcases resultTake_getD s.assembly with htake | htake
    · show Progress limits a₀ (((resultTake s.assembly).map (·.1)).getD s.assembly) s.accepted
      rw [htake]
      exact h
    · exact .ended (Or.inr htake)

/-- **In every session**, the assembly holds what the accepted packets say, or nothing any more. -/
theorem session_progress (hfresh : a₀.Fresh) (ops : List AssemblyOp) :
    Progress limits a₀ (session limits a₀ ops).assembly (session limits a₀ ops).accepted := by
  induction ops using List.reverseRecOn with
  | nil => exact .start
  | append_singleton ops op ih =>
    unfold session at ih ⊢
    rw [List.foldl_append]
    exact ih.op hfresh op

/-- A complete assembly has accepted a whole reply. -/
theorem session_completed (hfresh : a₀.Fresh) {ops : List AssemblyOp}
    (h : (session limits a₀ ops).assembly.state = .complete) :
    Completed limits a₀ (session limits a₀ ops).assembly (session limits a₀ ops).accepted := by
  have hprogress : Progress limits a₀ _ _ := session_progress hfresh ops
  generalize session limits a₀ ops = s at h hprogress
  obtain ⟨a, accepted⟩ := s
  dsimp only at h hprogress
  cases hprogress with
  | start =>
    obtain ⟨_, _, _, _, rfl, _⟩ := hfresh
    cases h
  | fed => exact absurd (congrArg AssemblyPhase.nonterminal h) (by rw [fed_nonterminal]; nofun)
  | complete h => exact h
  | ended hended => rcases hended with e | e <;> cases e.symm.trans h

/-- A terminal assembly stays terminal. -/
theorem Session.op_terminal {s : Session} (h : s.assembly.state.nonterminal = false)
    (op : AssemblyOp) : (s.op limits op).assembly.state.nonterminal = false := by
  cases op with
  | feed budget packet allocated =>
    show (packetConsume limits budget s.assembly packet allocated).2.1.state.nonterminal = false
    unfold packetConsume
    rw [if_pos (by simp [h])]
    rfl
  | take =>
    rcases resultTake_getD s.assembly with htake | htake
    · show (((resultTake s.assembly).map (·.1)).getD s.assembly).state.nonterminal = false
      rw [htake]
      exact h
    · exact congrArg AssemblyPhase.nonterminal htake

theorem session_terminal {ops : List AssemblyOp}
    (h : (session limits a₀ ops).assembly.state.nonterminal = false) (ops' : List AssemblyOp) :
    (session limits a₀ (ops ++ ops')).assembly.state.nonterminal = false := by
  induction ops' using List.reverseRecOn with
  | nil =>
    rw [List.append_nil]
    exact h
  | append_singleton ops' op ih =>
    unfold session at ih ⊢
    rw [← List.append_assoc, List.foldl_append]
    exact Session.op_terminal ih op

end Sessions

/-- **An assembly completes replies to its query and nothing else**, over every session. -/
structure GrammarSound (limits : AssemblyLimits) (a₀ : Assembly) : Prop where
  /-- A packet is answered COMPLETE only as the last of a reply, which the result then holds. -/
  complete : ∀ ops budget packet allocated,
    let s := session limits a₀ ops
    let r := packetConsume limits budget s.assembly packet allocated
    r.2.2 = .complete → ∃ b cnames addresses srvRecords,
      IsReply a₀ b cnames addresses srvRecords (s.accepted ++ [packet]) ∧
      ∃ result, (resultTake r.2.1).map (·.2) = some result ∧ result.status = b.status ∧
        result.completedAt = b.completedAt ∧ result.queryId = a₀.queryId ∧
        result.queryType = a₀.queryType ∧
        result.payload = replyPayload a₀.queryType b cnames addresses srvRecords ∧
        result.payload.Sound result.status
  /-- A packet is answered OK only as the next of a reply. -/
  continues : ∀ ops budget packet allocated,
    let s := session limits a₀ ops
    (packetConsume limits budget s.assembly packet allocated).2.2 = .ok →
      ∃ b cnames addresses srvRecords, cnames.length ≤ b.cnameCount ∧
        addresses.length + srvRecords.length ≤ b.recordCount ∧
        (cnames.length < b.cnameCount → addresses = [] ∧ srvRecords = []) ∧
        (if a₀.queryType = .srv then addresses = [] else srvRecords = []) ∧
        Spells (s.accepted ++ [packet])
          (replyMessages a₀.queryId b cnames addresses srvRecords)
  /-- Any other packet fails the assembly, and all its data is released. -/
  fails : ∀ ops budget packet allocated,
    let s := session limits a₀ ops
    let r := packetConsume limits budget s.assembly packet allocated
    r.2.2 ≠ .ok → r.2.2 ≠ .complete →
      Released r.2.1 ∧ r.1.ownedBytes = budget.ownedBytes - s.assembly.dynamicBytes
  /-- Once complete, failed or taken, no packet is accepted. -/
  terminal : ∀ ops ops' budget packet allocated,
    (session limits a₀ ops).assembly.state.nonterminal = false →
    let r := packetConsume limits budget (session limits a₀ (ops ++ ops')).assembly packet allocated
    r.2.2 ≠ .ok ∧ r.2.2 ≠ .complete

theorem assemblyCreate_isFresh {limits : AssemblyLimits} {budget budget' : AssemblyBudget}
    {queryName : Bytes} {queryClass queryId : Nat} {queryType : QueryType} {allocated : Bool}
    {a₀ : Assembly}
    (h : assemblyCreate limits budget queryName queryClass queryType queryId allocated
      = (budget', .ok a₀)) : a₀.Fresh := by
  obtain ⟨_, _, _, name, hname, rfl⟩ := assemblyCreate_fresh h
  exact ⟨_, _, _, _, rfl, nameNormalize_normalized hname⟩

/-- **The grammar of an assembly**, for every query it can be created for. -/
theorem assembly_grammar (limits : AssemblyLimits) (budget budget' : AssemblyBudget)
    (queryName : Bytes) (queryClass queryId : Nat) (queryType : QueryType) (allocated : Bool)
    (a₀ : Assembly)
    (hcreate : assemblyCreate limits budget queryName queryClass queryType queryId allocated
      = (budget', .ok a₀)) : GrammarSound limits a₀ := by
  have hfresh := assemblyCreate_isFresh hcreate
  have hanswered : ∀ ops budget packet allocated, FeedAnswered limits a₀ budget
      (session limits a₀ ops).assembly ((session limits a₀ ops).accepted ++ [packet])
      (packetConsume limits budget (session limits a₀ ops).assembly packet allocated) :=
    fun ops budget packet allocated => (session_progress hfresh ops).step hfresh
      (packetConsume_consumed limits budget _ packet allocated)
  refine ⟨?_, ?_, ?_, ?_⟩
  · intro ops budget packet allocated s r hcomplete
    have h : FeedAnswered limits a₀ budget s.assembly (s.accepted ++ [packet]) r := hanswered ..
    clear_value r
    cases h with
    | ok => cases hcomplete
    | complete h => exact h.content
    | failed _ hne => exact absurd hcomplete hne
  · intro ops budget packet allocated s hok
    have h := hanswered ops budget packet allocated
    generalize packetConsume limits budget (session limits a₀ ops).assembly packet allocated =
      r' at h hok
    cases h with
    | ok h hp =>
      exact ⟨_, _, _, _, h.cnames_le, h.records_le, h.ordered, h.type, hp⟩
    | complete => cases hok
    | failed hne => exact absurd hok hne
  · intro ops budget packet allocated s r hok hcomplete
    have h : FeedAnswered limits a₀ budget s.assembly (s.accepted ++ [packet]) r := hanswered ..
    clear_value r
    cases h with
    | ok => exact absurd rfl hok
    | complete => exact absurd rfl hcomplete
    | failed _ _ h hbytes => exact ⟨h, hbytes⟩
  · intro ops ops' budget packet allocated hterminal r
    have hover := session_terminal hterminal ops'
    have hr : r = assemblyFail budget (session limits a₀ (ops ++ ops')).assembly .protocol :=
      if_pos (by simp [hover])
    rw [hr]
    exact ⟨nofun, nofun⟩

/-- The reply to an A query for `a`, one address. -/
def singleBegin : ResponseBegin where
  canonicalName := [97]
  cnameCount := 0
  completedAt := ⟨1, 0⟩
  negative := {}
  questionName := [97]
  queryClass := classIn
  queryId := 1
  queryType := .a
  rcode := rcodeNoerror
  recordCount := 1
  status := .ok

def singleRecord (ttl : UInt32) : AddressRecord where
  address := ⟨.inet, [10, 0, 0, 1], rfl⟩
  effectiveTtl := ttl
  recordTtl := ttl

def singlePackets (ttl : UInt32) : List Bytes :=
  [beginEncode singleBegin ipcPacketByteLimit,
    addressEncode { index := 0, queryId := 1, record := singleRecord ttl } ipcPacketByteLimit,
    endEncode { cnameCount := 0, queryId := 1, recordCount := 1 } ipcPacketByteLimit].filterMap
      Except.toOption

def feeds (packets : List Bytes) : List AssemblyOp :=
  packets.map fun packet => .feed assemblyBudgetCreate packet true

def singleAssembly : Assembly where
  expectedName := [97]
  queryClass := classIn
  queryId := 1
  queryType := .a

/-- The assembly for that query, fed with all but the last packet of the reply and then the last. -/
theorem assembly_grammar_a : GrammarSound {} singleAssembly ∧
    ∃ b cnames addresses srvRecords,
      IsReply singleAssembly b cnames addresses srvRecords (singlePackets 60) := by
  have h := assembly_grammar {} assemblyBudgetCreate _ [97] classIn 1 .a true singleAssembly
    aliasedAssembly_eq
  have haccepted : (session {} singleAssembly (feeds ((singlePackets 60).take 2))).accepted ++
      [(singlePackets 60).getD 2 []] = singlePackets 60 := by decide +kernel
  obtain ⟨b, cnames, addresses, srvRecords, hreply, -⟩ :=
    h.complete (feeds ((singlePackets 60).take 2)) assemblyBudgetCreate
      ((singlePackets 60).getD 2 []) true (by decide +kernel)
  rw [haccepted] at hreply
  exact ⟨h, b, cnames, addresses, srvRecords, hreply⟩

end MinecraftRelay
