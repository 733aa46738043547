/-
  File:      Resolver/Helper.lean
  Subject:   THE HELPER'S REPLY (resolver/helper.c) AND ITS ACCEPTANCE BY THE ASSEMBLY.

  The helper answers a request with the packets of one lookup: BEGIN, one packet per alias, one
  per record, END.  The two validators meet here: the result is what dns.c built, and the assembly
  checks it packet by packet.

  * `fed` -- the assembly after the packets up to some alias and some record;
  * `beginConsume_fed`, `cnames_fed`, `endConsume_fed` -- each packet of a reply is accepted, and
    leads from one such assembly to the next;
  * `responseSend_assembled` -- **the whole reply is accepted**, the last packet completes it, and
    the taken result is the lookup's.
-/
import MinecraftRelay.Resolver.Assembly
import MinecraftRelay.Resolver.Ipc.Bijection
import MinecraftRelay.Resolver.Lookup

namespace MinecraftRelay

variable {cnames : List CnameRecord} {addresses : List AddressRecord} {srvRecords : List SrvRecord}
  {packet : Bytes} {packets : List Bytes}

/-! ## 1. The reply -/

/-- `resolver_helper_status`. -/
inductive HelperStatus where
  | ok | badArgument | internal | io | protocol
deriving Repr, DecidableEq

/-- What the helper's calls return: libresolv, the clock, and for each packet whether it could be
    sent as a whole. -/
structure ReplyEnv where
  lookup : LookupEnv
  completedAt : Option Timespec
  sent : Nat → Bool

/-- `for (index = 0; ...)`: the packets of a list, from an index on. -/
def indexed {α β : Type} (encode : Nat → α → β) : Nat → List α → List β
  | _, [] => []
  | index, x :: rest => encode index x :: indexed encode (index + 1) rest

/-- The BEGIN message of a reply. -/
def responseBegin {ρ : Type} (request : Request) (completedAt : Timespec) (status : LookupStatus)
    (result : DnsResult ρ) : ResponseBegin where
  canonicalName := result.canonicalName
  cnameCount := result.cnames.length
  completedAt := completedAt
  negative := result.negative
  questionName := result.questionName
  queryClass := request.queryClass
  queryId := request.queryId
  queryType := request.queryType
  rcode := result.rcode
  recordCount := result.records.length
  status := status

/-- The packets of a reply, as the encoders return them. -/
def responsePackets {ρ : Type} (recordEncode : Nat → ρ → Except CodecStatus Bytes)
    (request : Request) (completedAt : Timespec) (status : LookupStatus) (result : DnsResult ρ) :
    List (Except CodecStatus Bytes) :=
  beginEncode (responseBegin request completedAt status result) ipcPacketByteLimit ::
    (indexed (fun index record => cnameEncode { record, index, queryId := request.queryId }
        ipcPacketByteLimit) 0 result.cnames ++
      (indexed recordEncode 0 result.records ++
        [endEncode {
            cnameCount := result.cnames.length
            queryId := request.queryId
            recordCount := result.records.length } ipcPacketByteLimit]))

/-- The sends of a reply, in order: the packets that were sent, and why the helper stopped. -/
def packetsSend (sent : Nat → Bool) : Nat → List (Except CodecStatus Bytes) →
    List Bytes × HelperStatus
  | _, [] => ([], .ok)
  | _, .error _ :: _ => ([], .internal)
  | index, .ok packet :: rest =>
    if ¬ sent index then ([], .io)
    else
      let (packets, status) := packetsSend sent (index + 1) rest
      (packet :: packets, status)

/-- `resolver_helper_response_address_send` and `resolver_helper_response_srv_send`, after their
    lookup; `none` is a lookup that does not return. -/
def lookupSend {ρ : Type} (recordEncode : Nat → ρ → Except CodecStatus Bytes) (request : Request)
    (env : ReplyEnv) (lookup : Option (LookupStatus × DnsResult ρ)) :
    Option (List Bytes × HelperStatus) :=
  lookup.map fun (status, result) =>
    match env.completedAt with
    | none => ([], .internal)
    | some completedAt =>
      packetsSend env.sent 0 (responsePackets recordEncode request completedAt status result)

variable (request : Request)

/-- `resolver_helper_response_address_packet_send`. -/
def responseAddressEncode (index : Nat) (record : AddressRecord) : Except CodecStatus Bytes :=
  addressEncode { index, queryId := request.queryId, record } ipcPacketByteLimit

/-- `resolver_helper_response_srv_packet_send`. -/
def responseSrvEncode (index : Nat) (record : SrvRecord) : Except CodecStatus Bytes :=
  srvEncode { index, queryId := request.queryId, record } ipcPacketByteLimit

/-- `resolver_helper_response_address_send`. -/
def responseAddressSend (env : ReplyEnv) : Option (List Bytes × HelperStatus) :=
  lookupSend (responseAddressEncode request) request env
    (dnsAddressLookup env.lookup request.queryName request.queryType.family)

/-- `resolver_helper_response_srv_send`. -/
def responseSrvSend (env : ReplyEnv) : Option (List Bytes × HelperStatus) :=
  lookupSend (responseSrvEncode request) request env (dnsSrvLookup env.lookup request.queryName)

/-- One turn of `resolver_helper_run`, for a request it decoded. -/
def responseSend (env : ReplyEnv) : Option (List Bytes × HelperStatus) :=
  if request.queryType = .srv then responseSrvSend request env
  else responseAddressSend request env

/-- The lookup behind a reply. -/
def requestLookup (env : LookupEnv) : Option (LookupStatus × AnyResult) :=
  if request.queryType = .srv then
    (dnsSrvLookup env request.queryName).map fun (status, result) => (status, .srv result)
  else
    (dnsAddressLookup env request.queryName request.queryType.family).map
      fun (status, result) => (status, .address result)

/-! ## 2. The listener's side -/

/-- The packets of a reply given to an assembly one by one, while the allocations succeed. -/
def packetsConsume (limits : AssemblyLimits) : AssemblyBudget → Assembly → List Bytes →
    AssemblyBudget × Assembly × List AssemblyStatus
  | budget, a, [] => (budget, a, [])
  | budget, a, packet :: rest =>
    let (budget, a, status) := packetConsume limits budget a packet true
    let (budget, a, statuses) := packetsConsume limits budget a rest
    (budget, a, status :: statuses)

/-- The packets are accepted, none of them as the last. -/
def Accepts (limits : AssemblyLimits) (budget : AssemblyBudget) (a : Assembly)
    (packets : List Bytes) (budget' : AssemblyBudget) (a' : Assembly) : Prop :=
  packetsConsume limits budget a packets = (budget', a', List.replicate packets.length .ok)

/-- The assembly `a` after the BEGIN packet `b` and the given aliases and records.  What it waits
    for follows from the declared counts. -/
def fed (a : Assembly) (b : ResponseBegin) (dynamicBytes : Nat) (cnames : List CnameRecord)
    (addresses : List AddressRecord) (srvRecords : List SrvRecord) : Assembly :=
  { a with
    chainTtl := dnsCnameTtlMin cnames
    declaredCnameCount := b.cnameCount
    declaredRecordCount := b.recordCount
    dynamicBytes, cnames, addresses, srvRecords
    canonicalName := b.canonicalName
    questionName := b.questionName
    negative := b.negative
    rcode := b.rcode
    status := b.status
    completedAt := b.completedAt
    state := if cnames.length < b.cnameCount then .cname
      else if addresses.length + srvRecords.length < b.recordCount then .record
      else .finish }

section Feeding

variable {limits : AssemblyLimits} {budget budget' : AssemblyBudget} {a a' : Assembly}
  {b : ResponseBegin} {n : Nat}

theorem Accepts.nil : Accepts limits budget a [] budget a := rfl

theorem Accepts.cons {budget'' : AssemblyBudget} {a'' : Assembly}
    (h : packetConsume limits budget a packet true = (budget', a', .ok))
    (h' : Accepts limits budget' a' packets budget'' a'') :
    Accepts limits budget a (packet :: packets) budget'' a'' := by
  unfold Accepts at h' ⊢
  rw [packetsConsume, h]
  dsimp only
  rw [h']
  rfl

/-- A packet that its own step accepts. -/
theorem packetConsume_of_step {α : Type} {kind : PacketKind}
    {decode : Bytes → Except CodecStatus α} {message : α} {status : AssemblyStatus}
    (hstate : a.state.nonterminal = true) (hc : Carries packet kind a.queryId decode message)
    (hstatus : status = .ok ∨ status = .complete)
    (h : packetStep limits budget a kind packet true = (budget', a', status)) :
    packetConsume limits budget a packet true = (budget', a', status) := by
  unfold packetConsume
  rw [if_neg (by simp [hstate]), hc.inspected]
  dsimp only
  rw [if_neg (by simp), h]
  rcases hstatus with e | e <;> rw [e]

theorem Normalized.nameNormalized_eq {name : Bytes} (h : Normalized name) :
    nameNormalized name = true := by
  unfold nameNormalized
  rw [h.nameNormalize_eq, cString_of_not_mem h.no_nul]
  exact decide_eq_true rfl

theorem fed_nonterminal (cnames : List CnameRecord) (addresses : List AddressRecord)
    (srvRecords : List SrvRecord) :
    (fed a b n cnames addresses srvRecords).state.nonterminal = true := by
  unfold fed
  split
  · rfl
  · split <;> rfl

theorem fed_aliased (c : CnameRecord) (hcount : cnames.length < b.cnameCount) :
    (fed a b n cnames [] []).aliased c = fed a b n (cnames ++ [c]) [] [] := by
  unfold Assembly.aliased fed
  rw [if_pos hcount, dnsCnameTtlMin_concat, List.length_append, List.length_singleton]
  congr 1
  by_cases hlast : cnames.length + 1 = b.cnameCount
  · rw [if_pos hlast, if_neg (by omega : ¬ cnames.length + 1 < b.cnameCount)]
    rfl
  · rw [if_neg hlast, if_pos (by omega)]

/-- **One alias of a chain is accepted.** -/
theorem cnameConsume_fed {c : CnameRecord} (hc : Carries packet .responseCname a.queryId cnameDecode
      { record := c, index := cnames.length, queryId := a.queryId })
    (hcount : cnames.length < b.cnameCount) (hnormal : c.Normal)
    (howner : c.owner = (cnames.getLast?.map (·.target)).getD b.questionName)
    (hfresh : ∀ x ∈ cnames, c.target ≠ x.owner) (hproper : c.target ≠ c.owner) :
    packetConsume limits budget (fed a b n cnames [] []) packet true =
      (budget, fed a b n (cnames ++ [c]) [] [], .ok) := by
  refine packetConsume_of_step (fed_nonterminal _ _ _) hc (Or.inl rfl) ?_
  have hstate : (fed a b n cnames [] []).state = .cname := by
    unfold fed
    rw [if_pos hcount]
  have hany : cnames.any (fun x => decide (c.target = x.owner)) = false := by
    rw [List.any_eq_false]
    intro x hx
    rw [decide_eq_true_eq]
    exact hfresh x hx
  unfold packetStep
  rw [hstate]
  unfold cnameConsume
  rw [hc.decoded]
  dsimp only
  rw [if_neg]
  · rw [fed_aliased c hcount]
  · intro hbad
    rcases hbad with h | h | h | h | h | h | h
    · exact h rfl
    · exact h rfl
    · exact h hnormal.owner.nameNormalized_eq
    · exact h hnormal.target.nameNormalized_eq
    · exact h howner
    · exact Bool.false_ne_true (hany.symm.trans h)
    · exact hproper h

/-- **A list is accepted packet by packet**: it is enough that every element is, after the ones
    before it. -/
theorem indexed_accepts {α : Type} {encode : Nat → α → Except CodecStatus Bytes}
    (state : List α → Assembly) {l : List α}
    (hstep : ∀ done x rest, l = done ++ x :: rest → ∃ packet, encode done.length x = .ok packet ∧
      packetConsume limits budget (state done) packet true = (budget, state (done ++ [x]), .ok)) :
    ∃ packets : List Bytes, indexed encode 0 l = packets.map .ok ∧
      Accepts limits budget (state []) packets budget (state l) := by
  -- from any element on, with the elements before it fed already
  have hfrom : ∀ rest done, l = done ++ rest → ∃ packets : List Bytes,
      indexed encode done.length rest = packets.map .ok ∧
        Accepts limits budget (state done) packets budget (state l) := by
    intro rest
    induction rest with
    | nil =>
      intro done hl
      rw [List.append_nil] at hl
      subst hl
      exact ⟨[], rfl, .nil⟩
    | cons x rest ih =>
      intro done hl
      obtain ⟨packet, hencode, haccept⟩ := hstep done x rest hl
      rw [List.append_cons] at hl
      obtain ⟨packets, hpackets, haccepts⟩ := ih (done ++ [x]) hl
      rw [List.length_append, List.length_singleton] at hpackets
      refine ⟨packet :: packets, ?_, .cons haccept haccepts⟩
      rw [indexed, hencode, hpackets]
      rfl
  exact hfrom l [] rfl

theorem cnames_fed {canonical : Bytes}
    (hchain : Chained b.questionName canonical cnames) (hcount : b.cnameCount = cnames.length)
    (hid : QueryIdValid a.queryId) :
    ∃ packets : List Bytes,
      indexed (fun index record => cnameEncode { record, index, queryId := a.queryId }
        ipcPacketByteLimit) 0 cnames = packets.map .ok ∧
      Accepts limits budget (fed a b n [] [] []) packets budget (fed a b n cnames [] []) := by
  refine indexed_accepts (fun done => fed a b n done [] []) ?_
  intro done c rest hl
  subst hl
  have hlength := hchain.length_le
  rw [List.length_append, List.length_cons] at hcount hlength
  have hindex : done.length < cnameDepthLimit := by omega
  have hnormal := hchain.normal c (List.mem_append_right _ List.mem_cons_self)
  obtain ⟨hfresh, hproper⟩ := hchain.simple.cut
  obtain ⟨m, hlinked, howner, -⟩ := Chains.linked_append.1 hchain.linked
  obtain ⟨packet, hencode, hcarries⟩ := cnameEncode_carries
    { record := c, index := done.length, queryId := a.queryId } hid hindex hnormal.owner
    hnormal.target
  exact ⟨packet, hencode, cnameConsume_fed hcarries (by omega) hnormal
    (howner.trans hlinked.last) hfresh hproper⟩

/-- What the assembly waits for when all aliases have come. -/
theorem fed_state (hcount : cnames.length = b.cnameCount)
    (addresses : List AddressRecord) (srvRecords : List SrvRecord) :
    (fed a b n cnames addresses srvRecords).state =
      if addresses.length + srvRecords.length < b.recordCount then .record else .finish := by
  unfold fed
  rw [if_neg (by omega)]

/-- One more record: the assembly waits for the next, or for the end. -/
theorem fed_recorded {addresses' : List AddressRecord} {srvRecords' : List SrvRecord}
    (hcount : cnames.length = b.cnameCount)
    (hreceived : (fed a b n cnames addresses srvRecords).receivedRecordCount =
      addresses.length + srvRecords.length)
    (hrecords : addresses.length + srvRecords.length < b.recordCount)
    (hnext : addresses'.length + srvRecords'.length = addresses.length + srvRecords.length + 1) :
    { fed a b n cnames addresses srvRecords with
      addresses := addresses'
      srvRecords := srvRecords'
      state := recordCommit (fed a b n cnames addresses srvRecords) } =
      fed a b n cnames addresses' srvRecords' := by
  have hstate : recordCommit (fed a b n cnames addresses srvRecords) =
      (fed a b n cnames addresses' srvRecords').state := by
    unfold recordCommit
    rw [hreceived, fed_state hcount, fed_state hcount, hnext, if_pos hrecords]
    show (if addresses.length + srvRecords.length + 1 = b.recordCount then AssemblyPhase.finish
      else .record) = _
    by_cases hlast : addresses.length + srvRecords.length + 1 = b.recordCount
    · rw [if_pos hlast, if_neg (by omega)]
    · rw [if_neg hlast, if_pos (by omega)]
  rw [hstate]
  rfl

/-- **One address is accepted.** -/
theorem recordAddressConsume_fed
    {record : AddressRecord} (hc : Carries packet .responseAddress a.queryId addressDecode
      { index := addresses.length, queryId := a.queryId, record })
    (htype : a.queryType ≠ .srv) (hcount : cnames.length = b.cnameCount)
    (hrecords : addresses.length < b.recordCount) (hfamily : OfFamily a.queryType.family record)
    (httl : record.effectiveTtl = ttlMin (dnsCnameTtlMin cnames) record.recordTtl) :
    packetConsume limits budget (fed a b n cnames addresses []) packet true =
      (budget, fed a b n cnames (addresses ++ [record]) [], .ok) := by
  refine packetConsume_of_step (fed_nonterminal _ _ _) hc (Or.inl rfl) ?_
  have hreceived : (fed a b n cnames addresses []).receivedRecordCount = addresses.length :=
    if_neg htype
  unfold packetStep
  rw [fed_state hcount, List.length_nil, Nat.add_zero, if_pos hrecords]
  dsimp only
  rw [if_neg (show ¬ (fed a b n cnames addresses []).queryType = .srv from htype)]
  unfold recordAddressConsume
  rw [hc.decoded]
  dsimp only
  rw [if_neg]
  · exact congrArg (budget, ·, AssemblyStatus.ok) (fed_recorded hcount hreceived hrecords
      (by simp [fed]))
  · intro hbad
    rcases hbad with h | h | h | h
    · exact h rfl
    · exact h hreceived.symm
    · exact h hfamily
    · exact h (httl.trans (ttlMin_comm _ _))

/-- **One SRV record is accepted.** -/
theorem recordSrvConsume_fed
    {record : SrvRecord} (hc : Carries packet .responseSrv a.queryId srvDecode
      { index := srvRecords.length, queryId := a.queryId, record })
    (htype : a.queryType = .srv) (hcount : cnames.length = b.cnameCount)
    (hrecords : srvRecords.length < b.recordCount) (htarget : TargetNormal record)
    (httl : record.effectiveTtl = ttlMin (dnsCnameTtlMin cnames) record.recordTtl) :
    packetConsume limits budget (fed a b n cnames [] srvRecords) packet true =
      (budget, fed a b n cnames [] (srvRecords ++ [record]), .ok) := by
  refine packetConsume_of_step (fed_nonterminal _ _ _) hc (Or.inl rfl) ?_
  have hreceived : (fed a b n cnames [] srvRecords).receivedRecordCount = srvRecords.length :=
    if_pos htype
  unfold packetStep
  rw [fed_state hcount, List.length_nil, Nat.zero_add, if_pos hrecords]
  rw [if_pos (show (fed a b n cnames [] srvRecords).queryType = .srv from htype)]
  unfold recordSrvConsume
  rw [hc.decoded]
  dsimp only
  rw [if_neg]
  · exact congrArg (budget, ·, AssemblyStatus.ok) (fed_recorded hcount
      (hreceived.trans (Nat.zero_add _).symm) (by simpa using hrecords) (by simp [fed]))
  · intro hbad
    rcases hbad with h | h | h | h
    · exact h rfl
    · exact h hreceived.symm
    · exact h htarget.nameNormalized_eq
    · exact h (httl.trans (ttlMin_comm _ _))

/-- The effective TTL of a record does not exceed its own. -/
theorem RecordsFit.ttl_le {ρ : Type} [TtlRecord ρ] {P : ρ → Prop} {result : DnsResult ρ}
    (h : RecordsFit P result) {r : ρ} (hr : r ∈ result.records) :
    TtlRecord.effectiveTtl r ≤ TtlRecord.recordTtl r := by
  rw [(h.fit r hr).2]
  exact (ttlMin_le _ _).2

end Feeding

/-! ## 3. What the checks ask of a lookup's result -/

section Checks

variable {ρ : Type} [TtlRecord ρ] {P : ρ → Prop} {name : Bytes} {status : LookupStatus}
  {result : DnsResult ρ}

/-- What the packets of a reply ask of its result, whatever its status. -/
structure Sendable (P : ρ → Prop) (result : DnsResult ρ) : Prop where
  question : NameFits result.questionName
  canonical : NameFits result.canonicalName
  owner : NameFits result.negative.owner
  rcode : result.rcode ≤ 15
  negative : ipcNegativeValid result.negative = true
  cnames_le : result.cnames.length ≤ cnameDepthLimit
  records_le : result.records.length ≤ addressRecordLimit
  chain : result.cnames = [] ∨
    Chained result.questionName result.canonicalName result.cnames
  records : result.records = [] ∨ RecordsFit P result

section

variable {canonicalName : Bytes} {chainTtl : UInt32} {negative : NegativeRecord}
  (h : NegativeFits Normalized canonicalName chainTtl negative)

include h

theorem NegativeFits.owner_fits : NameFits negative.owner := by
  unfold NegativeFits at h
  split at h
  · exact h.1.fits
  · rw [h]
    exact .nil

theorem NegativeFits.valid : ipcNegativeValid negative = true := by
  unfold NegativeFits at h
  split at h
  · rename_i hv
    obtain ⟨howner, -, httl⟩ := h
    have hsize : ipcNameSize negative.owner false = some negative.owner.length :=
      (howner.fits.ipcNameSize_of (Or.inr howner.ne_nil)).2
    have hle := ttlMin_le chainTtl (ttlMin negative.minimum negative.recordTtl)
    have hmin := ttlMin_le negative.minimum negative.recordTtl
    unfold ipcNegativeValid
    rw [if_neg (by simp [hv]), hsize, httl]
    simp only [Option.isSome_some, Bool.true_and, Bool.and_eq_true, decide_eq_true_eq]
    exact ⟨UInt32.le_trans hle.2 hmin.1, UInt32.le_trans hle.2 hmin.2⟩
  · rw [h]
    rfl

end

theorem Named.sendable (h : Named name result) (hrcode : result.rcode ≤ 15)
    (hnegative : NegativeFits Normalized result.canonicalName (dnsCnameTtlMin result.cnames)
      result.negative)
    (hrecords : result.records = [] ∨ RecordsFit P result) : Sendable P result where
  question := by rw [h.question]; exact h.chain.start.fits
  canonical := h.chain.canonical.fits
  owner := hnegative.owner_fits
  rcode := hrcode
  negative := hnegative.valid
  cnames_le := h.chain.length_le
  records_le := by
    rcases hrecords with e | hfit
    · rw [e]
      exact Nat.zero_le _
    · exact hfit.length_le
  chain := Or.inr (by rw [h.question]; exact h.chain)
  records := hrecords

theorem Unanswered.sendable (h : Unanswered (· = name) (Named name) result)
    (hname : Normalized name) : Sendable P result := by
  rcases h.shape with e | ⟨hq, hc, hcnames⟩ | ⟨hnamed, -⟩
  · rw [e]
    exact ⟨.nil, .nil, .nil, by rw [e] at h; exact h.rcode, rfl, Nat.zero_le _, Nat.zero_le _,
      Or.inl rfl, Or.inl rfl⟩
  · refine ⟨by rw [hq]; exact hname.fits, by rw [hc]; exact .nil, by rw [h.negative]; exact .nil,
      h.rcode, by rw [h.negative]; rfl, by rw [hcnames]; exact Nat.zero_le _,
      by rw [h.records]; exact Nat.zero_le _, Or.inl hcnames, Or.inl h.records⟩
  · refine hnamed.sendable h.rcode ?_ (Or.inl h.records)
    rw [h.negative]
    exact .empty _ _

/-- **Every result of a lookup can be sent.** -/
theorem Looked.sendable (h : Looked P name status result) (hname : Normalized name) :
    Sendable P result := by
  cases status with
  | ok =>
    obtain ⟨hnamed, hrcode, hnegative, hfit⟩ := h
    refine hnamed.sendable (by rw [hrcode]; decide) ?_ (Or.inr hfit)
    rw [hnegative]
    exact .empty _ _
  | nodata | notFound =>
    obtain ⟨hnamed, hrcode, hrecords, hnegative⟩ := h
    exact hnamed.sendable (by rw [hrcode]; decide) hnegative (Or.inl hrecords)
  | permanentError | temporaryError => exact h.1.sendable hname
  | badArgument | limit | malformed | memory | truncated =>
    rw [h]
    exact ⟨.nil, .nil, .nil, Nat.le_of_ble_eq_true rfl, rfl, Nat.zero_le _, Nat.zero_le _,
      Or.inl rfl, Or.inl rfl⟩

omit [TtlRecord ρ] in
/-- The names of a result about the name, as BEGIN brings them. -/
theorem Named.names (h : Named name result) :
    nameNormalized result.questionName = true ∧ result.questionName = name ∧
      nameNormalized result.canonicalName = true ∧ result.questionName ≠ [] :=
  ⟨by rw [h.question]; exact h.chain.start.nameNormalized_eq, h.question,
    h.chain.canonical.nameNormalized_eq, by rw [h.question]; exact h.chain.start.ne_nil⟩

omit [TtlRecord ρ] in
/-- The names of a failed query's result, as the check reads them. -/
theorem Unanswered.names (h : Unanswered (· = name) (Named name) result)
    (hname : Normalized name) {a : Assembly} (hexpected : a.expectedName = name) :
    (if result.questionName = [] then
        decide (result.canonicalName = []) && decide (result.cnames.length = 0) &&
          decide (result.rcode = 0)
      else
        nameNormalized result.questionName && decide (result.questionName = a.expectedName) &&
          (if result.cnames.length > 0 then nameNormalized result.canonicalName
            else decide (result.canonicalName = []))) = true := by
  rcases h.shape with e | ⟨hq, hc, hcnames⟩ | ⟨hnamed, hne⟩
  · rw [e]
    rfl
  · rw [hq, hc, hcnames, hexpected, if_neg hname.ne_nil, hname.nameNormalized_eq]
    simp
  · obtain ⟨hq, he, hc, hnil⟩ := hnamed.names
    rw [if_neg hnil, if_pos (List.length_pos_iff.2 hne), hq, hc, he, hexpected]
    simp

/-- **The BEGIN packet of every lookup passes the assembly's check.** -/
theorem Looked.beginCheck (h : Looked P name status result) (hname : Normalized name)
    {a : Assembly} {request : Request} {completedAt : Timespec} (hexpected : a.expectedName = name)
    (hid : request.queryId = a.queryId) (hclass : request.queryClass = a.queryClass)
    (htype : request.queryType = a.queryType) :
    beginCheck a (responseBegin request completedAt status result) = true := by
  unfold MinecraftRelay.beginCheck responseBegin
  rw [if_neg (by simp [hid, hclass, htype])]
  cases status with
  | ok =>
    obtain ⟨hnamed, hrcode, hnegative, hfit⟩ := h
    obtain ⟨hq, he, hc, -⟩ := hnamed.names
    have hpos := List.length_pos_iff.2 hfit.ne_nil
    rw [hq, hc]
    simp [he, hexpected, hrcode, hnegative, hpos]
  | nodata | notFound =>
    obtain ⟨hnamed, hrcode, hrecords, -⟩ := h
    obtain ⟨hq, he, hc, hne⟩ := hnamed.names
    rw [if_neg hne, hq, hc, hrecords, hrcode, he, hexpected]
    simp
  | permanentError =>
    obtain ⟨hu, hnx, hserv⟩ := h
    dsimp only
    rw [if_neg (by simp [hu.records, hu.negative]), if_neg (by simp [hnx, hserv])]
    exact hu.names hname hexpected
  | temporaryError =>
    obtain ⟨hu, hrcode⟩ := h
    dsimp only
    rw [if_neg (by simp [hu.records, hu.negative]), if_neg]
    · exact hu.names hname hexpected
    · intro hbad
      rcases hbad with ⟨-, hno, hserv⟩ | ⟨hperm, -⟩
      · rcases hrcode with e | e
        · exact hno e
        · exact hserv e
      · cases hperm
  | badArgument | limit | malformed | memory | truncated =>
    rw [h]
    rfl

/-- A chain ends at the canonical name, as the check of END reads it. -/
theorem Chained.ends {question canonical : Bytes}
    (h : Chained question canonical cnames) (hpos : 0 < cnames.length) :
    some canonical = (cnames[cnames.length - 1]?).map (·.target) := by
  have hlast := h.linked.last
  rw [← List.getLast?_eq_getElem?]
  cases hl : cnames.getLast? with
  | none =>
    rw [List.getLast?_eq_none_iff.1 hl] at hpos
    exact absurd hpos (Nat.lt_irrefl 0)
  | some c =>
    rw [hl] at hlast
    rw [hlast]
    rfl

/-- Without an alias the canonical name is the question, unless a query failed. -/
theorem Looked.canonical_eq (h : Looked P name status result) (hnil : result.cnames = []) :
    (status = .permanentError ∨ status = .temporaryError) ∨
      result.canonicalName = result.questionName := by
  have hnamed : Named name result → result.canonicalName = result.questionName := by
    intro hnamed
    have hlinked := hnamed.chain.linked
    rw [hnil] at hlinked
    rw [hnamed.question]
    exact hlinked.symm
  cases status with
  | ok | nodata | notFound => exact Or.inr (hnamed h.1)
  | permanentError => exact Or.inl (Or.inl rfl)
  | temporaryError => exact Or.inl (Or.inr rfl)
  | badArgument | limit | malformed | memory | truncated =>
    rw [h]
    exact Or.inr rfl

/-- The negative data of every result fits its chain. -/
theorem Looked.negativeFits (h : Looked P name status result) :
    NegativeFits Normalized result.canonicalName (dnsCnameTtlMin result.cnames)
      result.negative := by
  have hempty : result.negative = {} →
      NegativeFits Normalized result.canonicalName (dnsCnameTtlMin result.cnames)
        result.negative := by
    intro e
    rw [e]
    exact .empty _ _
  cases status with
  | ok => exact hempty h.2.2.1
  | nodata | notFound => exact h.2.2.2
  | permanentError | temporaryError => exact hempty h.1.negative
  | badArgument | limit | malformed | memory | truncated =>
    exact hempty (by rw [h])

/-- **The last check of the assembly holds of every lookup's result.** -/
theorem Looked.completeCheck (h : Looked P name status result) (hname : Normalized name)
    {a : Assembly} (hstatus : a.status = status) (hquestion : a.questionName = result.questionName)
    (hcanonical : a.canonicalName = result.canonicalName) (hcnames : a.cnames = result.cnames)
    (hdeclared : a.declaredCnameCount = result.cnames.length)
    (hnegative : a.negative = result.negative)
    (httl : a.chainTtl = dnsCnameTtlMin result.cnames) : completeCheck a = true := by
  have hsend := h.sendable hname
  have hends : (if a.declaredCnameCount > 0 then
      decide (some a.canonicalName = (a.cnames[a.declaredCnameCount - 1]?).map (·.target))
      else decide (a.status = .permanentError ∨ a.status = .temporaryError) ||
        decide (a.canonicalName = a.questionName)) = true := by
    rw [hstatus, hquestion, hcanonical, hcnames, hdeclared]
    split
    · rename_i hpos
      rcases hsend.chain with e | hchain
      · rw [e] at hpos
        exact absurd hpos (Nat.lt_irrefl 0)
      · exact decide_eq_true (hchain.ends hpos)
    · have hnil : result.cnames = [] := List.length_eq_zero_iff.1 (by omega)
      rw [Bool.or_eq_true, decide_eq_true_eq, decide_eq_true_eq]
      exact h.canonical_eq hnil
  have hfits := h.negativeFits
  unfold MinecraftRelay.completeCheck
  dsimp only
  rw [hends, if_neg (by simp), hnegative, hcanonical, httl]
  unfold NegativeFits at hfits
  split at hfits
  · rename_i hv
    obtain ⟨howner, hencloses, heff⟩ := hfits
    rw [if_neg (by simp [hv]), howner.nameNormalized_eq, hencloses, heff]
    exact decide_eq_true (ttlMin_comm _ _)
  · rename_i hv
    exact if_pos hv

end Checks

/-! ## 4. The whole reply -/

/-- The bytes of the arrays of a result of either kind. -/
def AnyResult.arraysBytes : AnyResult → QueryType → Nat
  | .address r, type => MinecraftRelay.arraysBytes type r.cnames.length r.records.length
  | .srv r, type => MinecraftRelay.arraysBytes type r.cnames.length r.records.length

/-- When nothing fails, the helper sends every packet. -/
theorem packetsSend_all {sent : Nat → Bool} (hsent : ∀ i, sent i = true) (packets : List Bytes)
    (index : Nat) : packetsSend sent index (packets.map .ok) = (packets, .ok) := by
  induction packets generalizing index with
  | nil => rfl
  | cons packet packets ih =>
    rw [List.map_cons, packetsSend, if_neg (by simp [hsent])]
    rw [ih]

theorem lookupSend_all {ρ : Type} {recordEncode : Nat → ρ → Except CodecStatus Bytes}
    {request : Request} {env : ReplyEnv} {completedAt : Timespec} {status : LookupStatus}
    {result : DnsResult ρ} (hcompleted : env.completedAt = some completedAt)
    (hsent : ∀ i, env.sent i = true)
    (h : responsePackets recordEncode request completedAt status result = packets.map .ok) :
    lookupSend recordEncode request env (some (status, result)) = some (packets, .ok) := by
  rw [lookupSend, Option.map_some]
  rw [hcompleted]
  dsimp only
  rw [h, packetsSend_all hsent]

/-- What follows accepted packets. -/
theorem Accepts.append {limits : AssemblyLimits} {budget budget' : AssemblyBudget}
    {a a' : Assembly} (h : Accepts limits budget a packets budget' a') (rest : List Bytes) :
    packetsConsume limits budget a (packets ++ rest) =
      ((packetsConsume limits budget' a' rest).1, (packetsConsume limits budget' a' rest).2.1,
        List.replicate packets.length .ok ++ (packetsConsume limits budget' a' rest).2.2) := by
  unfold Accepts at h
  induction packets generalizing budget a with
  | nil =>
    cases h
    rfl
  | cons packet packets ih =>
    rw [packetsConsume] at h
    rw [List.cons_append, packetsConsume]
    generalize packetConsume limits budget a packet true = step at h
    obtain ⟨budget₁, a₁, status⟩ := step
    dsimp only at h ⊢
    have hrest : packetsConsume limits budget₁ a₁ packets =
        (budget', a', List.replicate packets.length .ok) ∧ status = .ok := by
      generalize packetsConsume limits budget₁ a₁ packets = run at h
      obtain ⟨budget₂, a₂, statuses⟩ := run
      cases h
      exact ⟨rfl, rfl⟩
    rw [ih hrest.1, hrest.2]
    rfl

/-- What the packets of a reply are for an assembly: each is accepted, the last one completes it,
    and the result taken then is the lookup's. -/
def Assembled (limits : AssemblyLimits) (budget : AssemblyBudget) (a : Assembly)
    (completedAt : Timespec) (status : LookupStatus) (payload : AnyResult) (packets : List Bytes) :
    Prop :=
  ∃ budget' final taken,
    packetsConsume limits budget a packets =
      (budget', final, List.replicate (packets.length - 1) .ok ++ [.complete]) ∧
    resultTake final = some (taken, {
      completedAt, dynamicBytes := payload.arraysBytes a.queryType, payload, queryId := a.queryId,
      queryType := a.queryType, status })

theorem resultTake_complete (a : Assembly) (h : a.state = .complete) :
    ∃ taken, resultTake a = some (taken, {
      completedAt := a.completedAt, dynamicBytes := a.dynamicBytes, payload := a.payload,
      queryId := a.queryId, queryType := a.queryType, status := a.status }) := by
  unfold resultTake
  rw [if_neg (by simp [h])]
  exact ⟨_, rfl⟩

section Reply

variable {ρ : Type} [TtlRecord ρ] {P : ρ → Prop} {limits : AssemblyLimits} {budget : AssemblyBudget}
  {request : Request} {completedAt : Timespec} {status : LookupStatus} {result : DnsResult ρ}
  {a : Assembly} {b : ResponseBegin} {n : Nat} (hname : Normalized request.queryName)
  (hid : QueryIdValid request.queryId)
  (ha : a = { expectedName := request.queryName, queryClass := request.queryClass,
              queryId := request.queryId, queryType := request.queryType })

section Packets

variable (h : Looked P request.queryName status result)
  (hb : b = responseBegin request completedAt status result)

include hname hid ha h hb

/-- **END is encoded, and completes the assembly.** -/
theorem endConsume_fed (limits : AssemblyLimits) (budget : AssemblyBudget)
    (hrecords : addresses.length + srvRecords.length = result.records.length)
    (hreceived : (fed a b n result.cnames addresses srvRecords).receivedRecordCount =
      result.records.length) :
    ∃ packet budget',
      endEncode { cnameCount := result.cnames.length, queryId := request.queryId,
                  recordCount := result.records.length } ipcPacketByteLimit = .ok packet ∧
      packetConsume limits budget (fed a b n result.cnames addresses srvRecords) packet true =
        (budget', { fed a b n result.cnames addresses srvRecords with state := .complete },
          .complete) := by
  have hsend := h.sendable hname
  have hqueryId : a.queryId = request.queryId := by rw [ha]
  obtain ⟨packet, hencode, hcarries⟩ := endEncode_carries
    { cnameCount := result.cnames.length, queryId := request.queryId,
      recordCount := result.records.length } hid hsend.cnames_le hsend.records_le
  rw [← hqueryId] at hcarries
  refine ⟨packet, terminalRecord budget (fed a b n result.cnames addresses srvRecords) .complete,
    hencode, packetConsume_of_step (fed_nonterminal _ _ _) hcarries (Or.inr rfl) ?_⟩
  subst hb
  have hstate : (fed a (responseBegin request completedAt status result) n result.cnames addresses
      srvRecords).state = .finish := by
    rw [fed_state rfl, hrecords]
    exact if_neg (Nat.lt_irrefl _)
  have hcheck : completeCheck (fed a (responseBegin request completedAt status result) n
      result.cnames addresses srvRecords) = true :=
    h.completeCheck hname rfl rfl rfl rfl rfl rfl rfl
  unfold packetStep
  rw [hstate]
  unfold endConsume
  rw [hcarries.decoded]
  dsimp only
  rw [if_neg]
  intro hbad
  rcases hbad with e | e | e | e | e | e
  · exact e rfl
  · exact e rfl
  · exact e rfl
  · exact e rfl
  · exact e hreceived
  · exact e hcheck

variable (hclass : request.queryClass = classIn) (hclock : ClockTime completedAt)
  (hlimits : resultBytesMax ≤ limits.resultByteLimit)
  (hn : arraysBytes request.queryType result.cnames.length result.records.length = n)
  (hroom : budget.ownedBytes + n ≤ limits.assemblyByteLimit)

include hclass hclock hlimits hn hroom

/-- **BEGIN is encoded and accepted.** -/
theorem beginConsume_fed :
    ∃ packet, beginEncode b ipcPacketByteLimit = .ok packet ∧
      packetConsume limits budget a packet true = (budget.charge n, fed a b n [] [] [], .ok) := by
  have hsend := h.sendable hname
  have hcounts : responseCountValid request.queryType result.cnames.length result.records.length =
      true := by
    have hrecords := hsend.records_le
    have hlimit : srvRecordLimit = addressRecordLimit := rfl
    unfold responseCountValid
    rw [if_neg (by have := hsend.cnames_le; omega), hlimit]
    split <;> exact decide_eq_true hrecords
  subst hn hb
  obtain ⟨packet, hencode, hcarries⟩ := beginEncode_carries
    (responseBegin request completedAt status result)
    { queryClass := hclass, queryId := hid, rcode := hsend.rcode, negative := hsend.negative,
      counts := hcounts, completedAt := hclock, question := hsend.question,
      canonical := hsend.canonical, owner := hsend.owner }
  have hcheck : beginCheck a (responseBegin request completedAt status result) = true :=
    h.beginCheck hname (by rw [ha]) (by rw [ha]) (by rw [ha]) (by rw [ha])
  refine ⟨packet, hencode, ?_⟩
  subst ha
  refine packetConsume_of_step rfl hcarries (Or.inl rfl) ?_
  show beginConsume limits budget _ packet true = _
  unfold beginConsume
  rw [hcarries.decoded]
  dsimp only
  rw [if_neg (by simp [hcheck])]
  dsimp only [responseBegin]
  rw [arraysAllocate_ok hlimits hsend.cnames_le hsend.records_le hroom]
  rfl

/-- **A reply is accepted as a whole**, given that each of its records is: `place` says where the
    assembly puts them. -/
theorem reply_assembled {recordEncode : Nat → ρ → Except CodecStatus Bytes} (payload : AnyResult)
    (place : List ρ → List AddressRecord × List SrvRecord) (hempty : place [] = ([], []))
    (hcount : (place result.records).1.length + (place result.records).2.length =
      result.records.length)
    (hreceived : (fed a b n result.cnames (place result.records).1
      (place result.records).2).receivedRecordCount = result.records.length)
    (hpayload : ∀ state, ({ fed a b n result.cnames (place result.records).1
      (place result.records).2 with state } : Assembly).payload = payload)
    (hbytes : payload.arraysBytes a.queryType = n)
    (hstep : ∀ budget done record, done.length < b.recordCount → done.length < addressRecordLimit →
      P record → TtlRecord.effectiveTtl record =
        ttlMin (dnsCnameTtlMin result.cnames) (TtlRecord.recordTtl record) →
      TtlRecord.effectiveTtl record ≤ TtlRecord.recordTtl record →
      ∃ packet, recordEncode done.length record = .ok packet ∧
        packetConsume limits budget (fed a b n result.cnames (place done).1 (place done).2) packet
          true = (budget, fed a b n result.cnames (place (done ++ [record])).1
            (place (done ++ [record])).2, .ok)) :
    ∃ packets, responsePackets recordEncode request completedAt status result = packets.map .ok ∧
      Assembled limits budget a completedAt status payload packets := by
  have hqueryId : a.queryId = request.queryId := by rw [ha]
  have hsend := h.sendable hname
  obtain ⟨begin, hbegin, hbeginStep⟩ :=
    beginConsume_fed hname hid ha h hb hclass hclock hlimits hn hroom
  generalize budget.charge _ = budget₁ at hbeginStep
  have hcnames : ∃ packets : List Bytes,
      indexed (fun index record => cnameEncode { record, index, queryId := a.queryId }
        ipcPacketByteLimit) 0 result.cnames = packets.map .ok ∧
      Accepts limits budget₁ (fed a b n [] [] []) packets budget₁
        (fed a b n result.cnames [] []) := by
    rcases hsend.chain with e | hchain
    · rw [e]
      exact ⟨[], rfl, .nil⟩
    · exact cnames_fed (by rw [hb]; exact hchain) (by rw [hb]; rfl) (by rw [hqueryId]; exact hid)
  have hfilled : ∃ packets : List Bytes, indexed recordEncode 0 result.records = packets.map .ok ∧
      Accepts limits budget₁ (fed a b n result.cnames (place []).1 (place []).2) packets budget₁
        (fed a b n result.cnames (place result.records).1 (place result.records).2) := by
    rcases hsend.records with e | hfit
    · rw [e]
      exact ⟨[], rfl, .nil⟩
    · refine indexed_accepts (fun done => fed a b n result.cnames (place done).1 (place done).2) ?_
      intro done record rest hl
      have hmem : record ∈ result.records := by
        rw [hl]
        exact List.mem_append_right _ List.mem_cons_self
      have hlt : done.length < result.records.length := by
        rw [hl, List.length_append, List.length_cons]
        omega
      obtain ⟨hrecord, httl⟩ := hfit.fit record hmem
      exact hstep budget₁ done record (by rw [hb]; exact hlt) (hlt.trans_le hfit.length_le) hrecord
        httl (hfit.ttl_le hmem)
  rw [hempty] at hfilled
  obtain ⟨aliases, haliases, hchain⟩ := hcnames
  obtain ⟨records, hrecords, hfill⟩ := hfilled
  obtain ⟨last, budget₂, hend, hlast⟩ := endConsume_fed hname hid ha h hb limits budget₁ hcount
    hreceived
  rw [hqueryId] at haliases
  obtain ⟨taken, htaken⟩ := resultTake_complete { fed a b n result.cnames (place result.records).1
    (place result.records).2 with state := .complete } rfl
  subst hb
  rw [hpayload] at htaken
  refine ⟨begin :: (aliases ++ (records ++ [last])), ?_, budget₂, _, taken, ?_, by
    rw [hbytes]; exact htaken⟩
  · rw [responsePackets, hbegin, haliases, hrecords, hend]
    simp
  · rw [packetsConsume, hbeginStep]
    dsimp only
    rw [hchain.append, hfill.append, packetsConsume, hlast]
    simp only [packetsConsume, List.length_cons, List.length_append, List.length_nil,
      Nat.add_sub_cancel, ← List.cons_append, ← List.replicate_succ, ← List.append_assoc,
      List.replicate_append_replicate]
    congr 4
    omega

end Packets

variable (hclass : request.queryClass = classIn) (hclock : ClockTime completedAt)
  (hlimits : resultBytesMax ≤ limits.resultByteLimit)

include hname hid ha hclass hclock hlimits

theorem srvReply_assembled {result : SrvResult}
    (h : Looked TargetNormal request.queryName status result) (htype : request.queryType = .srv)
    (hroom : budget.ownedBytes + (AnyResult.srv result).arraysBytes request.queryType ≤
      limits.assemblyByteLimit) :
    ∃ packets, responsePackets (responseSrvEncode request) request completedAt status result =
        packets.map .ok ∧
      Assembled limits budget a completedAt status (.srv result) packets := by
  have hqueryId : a.queryId = request.queryId := by rw [ha]
  have hqueryType : a.queryType = request.queryType := by rw [ha]
  have htype' : a.queryType = .srv := hqueryType.trans htype
  refine reply_assembled hname hid ha h rfl hclass hclock hlimits rfl hroom (.srv result)
    (fun l => ([], l)) rfl (Nat.zero_add _) (if_pos htype') (fun state => if_pos htype')
    (by rw [hqueryType]; rfl) fun budget done record hlt hindex htarget httl hle => ?_
  obtain ⟨packet, hencode, hcarries⟩ := srvEncode_carries
    { index := done.length, queryId := request.queryId, record } hid hindex hle htarget
  rw [← hqueryId] at hcarries
  exact ⟨packet, hencode, recordSrvConsume_fed hcarries htype' rfl hlt htarget httl⟩

theorem addressReply_assembled {result : AddressResult}
    (h : Looked (OfFamily request.queryType.family) request.queryName status result)
    (htype : request.queryType ≠ .srv)
    (hroom : budget.ownedBytes + (AnyResult.address result).arraysBytes request.queryType ≤
      limits.assemblyByteLimit) :
    ∃ packets, responsePackets (responseAddressEncode request) request completedAt status result =
        packets.map .ok ∧
      Assembled limits budget a completedAt status (.address result) packets := by
  have hqueryId : a.queryId = request.queryId := by rw [ha]
  have hqueryType : a.queryType = request.queryType := by rw [ha]
  have htype' : a.queryType ≠ .srv := by rw [hqueryType]; exact htype
  refine reply_assembled hname hid ha h rfl hclass hclock hlimits rfl hroom (.address result)
    (fun l => (l, [])) rfl (Nat.add_zero _) (if_neg htype') (fun state => if_neg htype')
    (by rw [hqueryType]; rfl) fun budget done record hlt hindex hfamily httl hle => ?_
  obtain ⟨packet, hencode, hcarries⟩ := addressEncode_carries
    { index := done.length, queryId := request.queryId, record } hid hindex hle
  rw [← hqueryId] at hcarries
  rw [← hqueryType] at hfamily
  exact ⟨packet, hencode, recordAddressConsume_fed hcarries htype' rfl hlt hfamily httl⟩

end Reply

/-- **Helper and listener agree on every reply.**  For a request with a normalized name, whatever
    libresolv answers as long as its names are well formed, the lookup returns; the packets the
    helper sends for it are accepted in order by an assembly created for the same query; the last
    packet, and no other, completes it; and the result taken then is the lookup's, with its
    status, names, chain, records, negative data and completion time. -/
theorem responseSend_assembled {limits : AssemblyLimits} {budget budget' : AssemblyBudget}
    {request : Request} {env : ReplyEnv} {completedAt : Timespec} {a : Assembly}
    (hname : Normalized request.queryName) (hclass : request.queryClass = classIn)
    (hid : QueryIdValid request.queryId) (hlibresolv : env.lookup.WellFormed)
    (hcompleted : env.completedAt = some completedAt) (hclock : ClockTime completedAt)
    (hsent : ∀ i, env.sent i = true) (hlimits : resultBytesMax ≤ limits.resultByteLimit)
    (hcreate : assemblyCreate limits budget request.queryName request.queryClass request.queryType
      request.queryId true = (budget', .ok a))
    (hroom : ∀ status payload, requestLookup request env.lookup = some (status, payload) →
      budget'.ownedBytes + payload.arraysBytes request.queryType ≤ limits.assemblyByteLimit) :
    ∃ status payload packets, requestLookup request env.lookup = some (status, payload) ∧
      responseSend request env = some (packets, .ok) ∧
      Assembled limits budget' a completedAt status payload packets := by
  have ha := assemblyCreate_eq hcreate hname
  unfold requestLookup at hroom ⊢
  unfold responseSend
  by_cases htype : request.queryType = .srv
  · rw [if_pos htype] at hroom ⊢
    rw [if_pos htype]
    obtain ⟨status, result, hlookup, hlooked⟩ := dnsSrvLookup_looked hlibresolv hname
    rw [hlookup] at hroom ⊢
    obtain ⟨packets, hpackets, hassembled⟩ := srvReply_assembled hname hid ha hclass
      hclock hlimits hlooked htype (hroom status (.srv result) rfl)
    refine ⟨status, .srv result, packets, rfl, ?_, hassembled⟩
    rw [responseSrvSend, hlookup]
    exact lookupSend_all hcompleted hsent hpackets
  · rw [if_neg htype] at hroom ⊢
    rw [if_neg htype]
    obtain ⟨status, result, hlookup, hlooked⟩ := dnsAddressLookup_looked hlibresolv hname
      request.queryType.family
    rw [hlookup] at hroom ⊢
    obtain ⟨packets, hpackets, hassembled⟩ := addressReply_assembled hname hid ha hclass
      hclock hlimits hlooked htype (hroom status (.address result) rfl)
    refine ⟨status, .address result, packets, rfl, ?_, hassembled⟩
    rw [responseAddressSend, hlookup]
    exact lookupSend_all hcompleted hsent hpackets

/-- A request for the address of `a`, and a server that answers with the alias `b` of `a` and the
    address of `b`. -/
def aliasedRequest : Request :=
  { queryName := [97], queryClass := classIn, queryId := 1, queryType := .a }

def aliasedMessage : Message where
  id := 7
  qr := true
  opcode := opcodeQuery
  tc := false
  rcode := Message.noerror
  questions := [some ⟨[97], 1, 1, 0, [], true, fun _ => none⟩]
  answers := [some ⟨[97], typeCname, 1, 60, [1, 98, 0], true, fun _ => some ([98], 3)⟩,
    some ⟨[98], 1, 1, 300, [192, 0, 2, 1], true, fun _ => none⟩]
  authorities := []

def aliasedEnv : ReplyEnv where
  lookup := { queries := fun _ => { queryId := some 7, sent := .ok (64, some aliasedMessage) } }
  completedAt := some ⟨5, 0⟩
  sent := fun _ => true

theorem aliasedEnv_wellFormed : aliasedEnv.lookup.WellFormed := by
  intro turn size message h
  cases h
  refine ⟨?_, ?_, nofun⟩
  · intro record hr
    cases List.mem_singleton.1 hr
    exact ⟨presentation_singleton (by decide), nofun⟩
  · intro record hr
    rcases List.mem_cons.1 hr with e | hr
    · cases e
      refine ⟨presentation_singleton (by decide), ?_⟩
      intro offset name consumed hname
      cases hname
      exact presentation_singleton (by decide)
    · cases List.mem_singleton.1 hr
      exact ⟨presentation_singleton (by decide), nofun⟩

def aliasedResult : AnyResult := .address {
  records := [{ address := ⟨.inet, [192, 0, 2, 1], rfl⟩, effectiveTtl := 60, recordTtl := 300 }]
  canonicalName := [98]
  cnames := [{ owner := [97], target := [98], ttl := 60 }]
  questionName := [97] }

/-- The first assembly of an empty budget. -/
theorem aliasedAssembly_eq : assemblyCreate {} assemblyBudgetCreate [97] classIn .a 1 true =
    ((assemblyBudgetCreate.charge sizeofAssembly).increment .a .createOk,
      .ok { expectedName := [97], queryClass := classIn, queryId := 1, queryType := .a }) := by
  have hname : nameNormalize [97] = some [97] := by decide +kernel
  have hfits : ¬ (sizeofAssembly > ({} : AssemblyLimits).assemblyByteLimit ∨
      assemblyBudgetCreate.ownedBytes >
        ({} : AssemblyLimits).assemblyByteLimit - sizeofAssembly) := by
    decide +kernel
  rw [assemblyCreate, hname]
  dsimp only
  rw [if_neg (by decide), if_neg hfits, if_neg (by decide)]

theorem aliasedRoom :
    ((assemblyBudgetCreate.charge sizeofAssembly).increment .a .createOk).ownedBytes +
      aliasedResult.arraysBytes .a ≤ ({} : AssemblyLimits).assemblyByteLimit := by
  decide +kernel

theorem responseSend_assembled_alias :
    ∃ budget a packets, assemblyCreate {} assemblyBudgetCreate [97] classIn .a 1 true =
        (budget, .ok a) ∧
      responseSend aliasedRequest aliasedEnv = some (packets, .ok) ∧
      Assembled {} budget a ⟨5, 0⟩ .ok aliasedResult packets := by
  obtain ⟨status, result, packets, hlookup, hsend, hassembled⟩ :=
    responseSend_assembled (show Normalized aliasedRequest.queryName from
        ⟨by decide, by decide, by decide +kernel, by decide, by decide⟩) rfl
      ⟨by decide, by decide⟩ aliasedEnv_wellFormed rfl ⟨by decide, by decide⟩ (fun _ => rfl)
      (by decide +kernel) aliasedAssembly_eq
      (fun status result h => by
        cases h
        exact aliasedRoom)
  cases hlookup
  exact ⟨_, _, packets, aliasedAssembly_eq, hsend, hassembled⟩

end MinecraftRelay
