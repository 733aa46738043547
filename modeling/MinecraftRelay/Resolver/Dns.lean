/-
  File:      Resolver/Dns.lean
  Subject:   DNS LOOKUPS (resolver/dns.c).

  libresolv is not part of the source: what its calls return is an input.  `QueryEnv` holds the
  outcome of one query -- the TXID of `res_nmkquery`, the errno or the answer of `res_nsend`, what
  `ns_initparse`, `ns_parserr` and `ns_name_uncompress` make of that answer, and whether the
  `calloc`s of that round succeed; `LookupEnv` holds one such round per query of a lookup.

  dns.c writes its address and its SRV side as two copies that differ in the records.  This is the
  address side, written over the record type `ρ` and the reader of one candidate; the SRV side has
  its own functions in `Dns/Srv`, which are proved to be what these are with SRV records.  A result
  passed in is zeroed, as the callers do it, and `dns_*_result_destroy` is the return to `{}`.
-/
import MinecraftRelay.Resolver.Ipc

namespace MinecraftRelay

/-! ## 1. What libresolv delivers -/

/-- `NS_MAXMSG`. -/
def nsMaxmsg : Nat := 65535

/-- `ns_t_cname` and `ns_t_soa`. -/
def typeCname : Nat := 5
def typeSoa : Nat := 6

/-- `ns_o_query`. -/
def opcodeQuery : Nat := 0

/-- The `errno`s `dns_query_exact` tells apart. -/
inductive Errno where
  | enomem | emsgsize | esrch | einval | eafnosupport | eprotonosupport | eacces | eperm | other
deriving Repr, DecidableEq

/-- `ns_rr`, as `ns_parserr` fills it.  `rdataInside` is the bounds check on the message, and
    `uncompress` is `ns_name_uncompress` at an offset of the rdata: the name, and the positive
    number of bytes consumed. -/
structure ResourceRecord where
  name : Bytes
  rrType : Nat
  rrClass : Nat
  ttl : UInt32
  rdata : Bytes
  rdataInside : Bool
  uncompress : Nat → Option (Bytes × Nat)

/-- `ns_msg`; a record is `none` where `ns_parserr` fails. -/
structure Message where
  id : Nat
  qr : Bool
  opcode : Nat
  tc : Bool
  rcode : Fin 16
  questions : List (Option ResourceRecord)
  answers : List (Option ResourceRecord)
  authorities : List (Option ResourceRecord)

/-- NOERROR, as the field of a header. -/
def Message.noerror : Fin 16 := 0

/-- The outcomes of one round of a lookup. -/
structure QueryEnv where
  /-- The TXID `res_nmkquery` fixed, if it made a query. -/
  queryId : Option Nat
  /-- `res_nsend`: the errno of its failure, or the size of the answer and its parse. -/
  sent : Except Errno (Nat × Option Message)
  /-- The `calloc`s of the candidate arrays, the partial chain, the partial records and the
      aggregate chain. -/
  arraysAllocated : Bool := true
  chainAllocated : Bool := true
  recordsAllocated : Bool := true
  appendAllocated : Bool := true

/-- The outcomes of a lookup: `res_ninit`, the response buffer, and its rounds. -/
structure LookupEnv where
  resolverReady : Bool := true
  responseAllocated : Bool := true
  queries : Nat → QueryEnv

/-! ## 2. Names -/

/-- A name without its trailing root dot. -/
def rootDropped (name : Bytes) : Bytes :=
  if name.length > 1 ∧ name.getLast? = some dot then name.dropLast else name

/-- `dns_name_equal`. -/
def dnsNameEqual (left right : Bytes) : Bool :=
  decide ((rootDropped left).map asciiLower = (rootDropped right).map asciiLower)

/-- `dns_name_normalize` into a name buffer. -/
def dnsNameNormalize (source : Bytes) : Option Bytes :=
  if (rootDropped source).length ≥ nsMaxdname then none
  else some ((rootDropped source).map asciiLower)

/-! ## 3. Records -/

/-- `dns_name_record_parse`. -/
def dnsNameRecordParse (answer : ResourceRecord) : Option CnameRecord := do
  guard answer.rdataInside
  let (target, consumed) ← answer.uncompress 0
  guard (consumed = answer.rdata.length)
  let owner ← dnsNameNormalize answer.name
  let target ← dnsNameNormalize target
  some { owner, target, ttl := answer.ttl }

/-- `dns_cname_ttl_min`. -/
def dnsCnameTtlMin (cnames : List CnameRecord) : UInt32 :=
  cnames.foldl (fun result cname => ttlMin cname.ttl result) 0xFFFFFFFF

/-- `dns_negative_record_parse`: two names and five words, of which the last is the minimum. -/
def dnsNegativeRecordParse (authority : ResourceRecord) : Option NegativeRecord := do
  guard authority.rdataInside
  let (_, first) ← authority.uncompress 0
  guard (first ≤ authority.rdata.length)
  let (_, second) ← authority.uncompress first
  guard (second ≤ authority.rdata.length - first)
  guard (authority.rdata.length - first - second = 20)
  let minimum := UInt32.ofNat (BigEndian.decode (authority.rdata.drop (first + second + 16)))
  let owner ← dnsNameNormalize authority.name
  some { minimum, recordTtl := authority.ttl, effectiveTtl := ttlMin minimum authority.ttl, owner,
         valid := true }

/-- The loop of `dns_negative_response_parse` over the authority section; `none` is
    `DNS_NEGATIVE_PARSE_MALFORMED`. -/
def negativeCollect (canonicalName : Bytes) :
    List (Option ResourceRecord) → NegativeRecord → Option NegativeRecord
  | [], result => some result
  | none :: _, _ => none
  | some authority :: rest, result =>
    if authority.rrClass ≠ classIn ∨ authority.rrType ≠ typeSoa then
      negativeCollect canonicalName rest result
    else
      match dnsNegativeRecordParse authority with
      | none => none
      | some candidate =>
        if ¬ nameEncloses candidate.owner canonicalName then
          negativeCollect canonicalName rest result
        else if ¬ result.valid ∨ candidate.owner.length > result.owner.length then
          negativeCollect canonicalName rest candidate
        else if candidate.owner = result.owner then
          let minimum := ttlMin candidate.minimum result.minimum
          let recordTtl := ttlMin candidate.recordTtl result.recordTtl
          negativeCollect canonicalName rest
            { result with minimum, recordTtl, effectiveTtl := ttlMin minimum recordTtl }
        else negativeCollect canonicalName rest result

/-- `dns_address_parse_status` and `dns_srv_parse_status`. -/
inductive ParseStatus where
  | ok | aliasOnly | nodata | nxdomain | rcodeError | truncated | badArgument | limit
  | malformed | memory
deriving Repr, DecidableEq

/-- `dns_negative_response_parse`; a failure is the parse status its callers turn it into. -/
def dnsNegativeResponseParse (response : Message) (canonicalName : Bytes)
    (cnames : List CnameRecord) : Except ParseStatus NegativeRecord :=
  if response.authorities.length > authorityRecordLimit then .error .limit
  else
    match negativeCollect canonicalName response.authorities {} with
    | none => .error .malformed
    | some result =>
      .ok (if result.valid then
          { result with effectiveTtl := ttlMin (dnsCnameTtlMin cnames) result.effectiveTtl }
        else result)

/-! ## 4. Candidates and the chain of one response -/

/-- What the two record types have in common. -/
class TtlRecord (ρ : Type) where
  recordTtl : ρ → UInt32
  effectiveTtl : ρ → UInt32
  withEffectiveTtl : ρ → UInt32 → ρ
  recordTtl_with : ∀ r t, recordTtl (withEffectiveTtl r t) = recordTtl r
  effectiveTtl_with : ∀ r t, effectiveTtl (withEffectiveTtl r t) = t

instance : TtlRecord AddressRecord where
  recordTtl := (·.recordTtl)
  effectiveTtl := (·.effectiveTtl)
  withEffectiveTtl r t := { r with effectiveTtl := t }
  recordTtl_with _ _ := rfl
  effectiveTtl_with _ _ := rfl

instance : TtlRecord SrvRecord where
  recordTtl := (·.recordTtl)
  effectiveTtl := (·.effectiveTtl)
  withEffectiveTtl r t := { r with effectiveTtl := t }
  recordTtl_with _ _ := rfl
  effectiveTtl_with _ _ := rfl

/-- `dns_address_candidate` and `dns_srv_candidate`: a record with its owner.  Its effective TTL
    is not set yet. -/
structure Candidate (ρ : Type) where
  owner : Bytes
  record : ρ

/-- The candidates and the aliases of a response. -/
abbrev Collected (ρ : Type) := List (Candidate ρ) × List CnameRecord

/-- One address answer of `dns_response_addresses_collect`. -/
def addressCandidate (family : Family) (answer : ResourceRecord) :
    Option (Candidate AddressRecord) :=
  if h : answer.rdata.length = family.size then do
    guard answer.rdataInside
    let owner ← dnsNameNormalize answer.name
    some { owner, record := {
      address := ⟨family, answer.rdata, h⟩, effectiveTtl := 0, recordTtl := answer.ttl } }
  else none

/-- One SRV answer of `dns_srv_response_records_collect`. -/
def srvCandidate (answer : ResourceRecord) : Option (Candidate SrvRecord) := do
  guard answer.rdataInside
  guard (7 ≤ answer.rdata.length)
  let (target, consumed) ← answer.uncompress 6
  guard (consumed = answer.rdata.length - 6)
  let word := fun offset : Nat =>
    UInt16.ofNat (BigEndian.decode ((answer.rdata.drop offset).take 2))
  let owner ← dnsNameNormalize answer.name
  let target ← dnsNameNormalize target
  some { owner, record := {
    priority := word 0, weight := word 2, port := word 4, target, recordTtl := answer.ttl,
    effectiveTtl := 0 } }

variable {ρ : Type}

/-- The answers of a response: the candidates of the queried type and the CNAMEs, each in the
    order of the message.  `none` is `MALFORMED`. -/
def responseCollect (type : Nat) (candidate : ResourceRecord → Option (Candidate ρ)) :
    List (Option ResourceRecord) → Option (Collected ρ)
  | [] => some ([], [])
  | none :: _ => none
  | some answer :: rest =>
    if answer.rrClass ≠ classIn then responseCollect type candidate rest
    else if answer.rrType = type then do
      let record ← candidate answer
      let (records, cnames) ← responseCollect type candidate rest
      some (record :: records, cnames)
    else if answer.rrType = typeCname then do
      let cname ← dnsNameRecordParse answer
      let (records, cnames) ← responseCollect type candidate rest
      some (records, cname :: cnames)
    else responseCollect type candidate rest

/-- The query type of a family. -/
def Family.queryType : Family → QueryType
  | .inet => .a
  | .inet6 => .aaaa

/-- `dns_response_addresses_collect`. -/
def dnsResponseAddressesCollect (family : Family) :
    List (Option ResourceRecord) → Option (Collected AddressRecord) :=
  responseCollect family.queryType.code (addressCandidate family)

/-- The CNAME loop of one turn of `..._chain_build`: the first alias of the name and the smallest
    TTL of its copies; `none` when two aliases of the name disagree. -/
def cnameMatch (current : Bytes) :
    List CnameRecord → Option CnameRecord → UInt32 → Option (Option CnameRecord × UInt32)
  | [], matching, ttl => some (matching, ttl)
  | cname :: rest, matching, ttl =>
    if ¬ dnsNameEqual cname.owner current then cnameMatch current rest matching ttl
    else
      match matching with
      | none => cnameMatch current rest (some cname) (ttlMin cname.ttl ttl)
      | some found =>
        if ¬ dnsNameEqual found.target cname.target then none
        else cnameMatch current rest matching (ttlMin cname.ttl ttl)

/-- How the walk along the aliases ends: with the chain, its last name and its TTL. -/
abbrev ChainEnd := Except ParseStatus (List CnameRecord × Bytes × UInt32)

/-- The `while` of `..._chain_build`.  `depth` counts down from `DNS_CNAME_DEPTH_LIMIT`: it is
    what is left of the chain's array. -/
def chainLoop (recordAt : Bytes → Bool) (cnames : List CnameRecord) :
    Nat → List CnameRecord → Bytes → UInt32 → ChainEnd
  | depth, chain, current, chainTtl =>
    match cnameMatch current cnames none 0xFFFFFFFF with
    | none => .error .malformed
    | some (none, _) => .ok (chain, current, chainTtl)
    | some (some matching, ttl) =>
      match depth with
      | 0 => .error (if recordAt current then .malformed else .limit)
      | depth + 1 =>
        if recordAt current then .error .malformed
        else if chain.any fun c => dnsNameEqual c.owner matching.target then .error .malformed
        else
          chainLoop recordAt cnames depth (chain ++ [{ matching with ttl }]) matching.target
            (ttlMin ttl chainTtl)

/-- The body of `dns_response_chain_build`. -/
def chainBuild [TtlRecord ρ] (env : QueryEnv) (records : List (Candidate ρ))
    (cnames : List CnameRecord) (result : DnsResult ρ) : ParseStatus × DnsResult ρ :=
  if cnames.length > 0 ∧ ¬ env.chainAllocated then (.memory, result)
  else
    match chainLoop (fun name => records.any fun r => dnsNameEqual r.owner name) cnames
        cnameDepthLimit [] result.questionName 0xFFFFFFFF with
    | .error status => (status, result)
    | .ok (chain, current, chainTtl) =>
      let result := { result with cnames := chain, canonicalName := current }
      let matching := records.filter fun r => dnsNameEqual r.owner current
      if matching.length = 0 then (if chain.length = 0 then .nodata else .aliasOnly, result)
      else if ¬ env.recordsAllocated then (.memory, result)
      else
        (.ok, { result with records := matching.map fun r =>
          TtlRecord.withEffectiveTtl r.record (ttlMin chainTtl (TtlRecord.recordTtl r.record)) })

/-- `dns_response_chain_build`. -/
def dnsResponseChainBuild (env : QueryEnv) (addresses : List (Candidate AddressRecord)) :
    List CnameRecord → AddressResult → ParseStatus × AddressResult :=
  chainBuild env addresses

/-! ## 5. One response -/

/-- The statuses after which `..._response_parse` leaves its result in place. -/
def ParseStatus.keepsResult : ParseStatus → Bool
  | .ok | .aliasOnly | .nodata | .nxdomain => true
  | _ => false

section

variable (response : Message) (status : ParseStatus) (result : DnsResult ρ)

/-- The negative data of an answer without records; a failure to parse it is the status. -/
def negativeAttach : ParseStatus × DnsResult ρ :=
  match dnsNegativeResponseParse response result.canonicalName result.cnames with
  | .error failure => (failure, result)
  | .ok negative => (status, { result with negative })

/-- What the rcode makes of the status of the chain. -/
def responseClassify : ParseStatus × DnsResult ρ :=
  if result.rcode = rcodeNxdomain then
    match status with
    | .ok => (.malformed, result)
    | .aliasOnly | .nodata => negativeAttach response .nxdomain result
    | status => (status, result)
  else if status = .nodata then negativeAttach response .nodata result
  else (status, result)

/-- The end of `..._response_parse`: other statuses destroy the result. -/
def responseFinish : ParseStatus × DnsResult ρ :=
  let classified := responseClassify response status result
  if classified.1.keepsResult then classified else (classified.1, {})

end

/-- The body of `dns_address_response_parse`; no message is a failed `ns_initparse`. -/
def responseParse [TtlRecord ρ] (type : QueryType) (recordLimit : Nat)
    (collect : List (Option ResourceRecord) → Option (Collected ρ)) (env : QueryEnv)
    (message : Option Message) (expectedName : Bytes) (expectedId : Nat) :
    ParseStatus × DnsResult ρ :=
  match message with
  | none => (.malformed, {})
  | some response =>
    if response.id ≠ expectedId then (.malformed, {})
    else if ¬ response.qr ∨ response.opcode ≠ opcodeQuery then (.malformed, {})
    else
      match response.questions with
      | [question] =>
        if response.tc then (.truncated, {})
        else
          match question with
          | none => (.malformed, {})
          | some question =>
            if question.rrClass ≠ classIn ∨ question.rrType ≠ type.code then (.malformed, {})
            else
              match dnsNameNormalize question.name with
              | none => (.malformed, {})
              | some questionName =>
                if ¬ dnsNameEqual questionName expectedName then (.malformed, {})
                else
                  let rcode := UInt8.ofNat response.rcode
                  let result : DnsResult ρ := { questionName, rcode }
                  if rcode ≠ rcodeNoerror ∧ rcode ≠ rcodeNxdomain then (.rcodeError, result)
                  else if response.answers.length > recordLimit then (.limit, {})
                  else if response.answers.length > 0 ∧ ¬ env.arraysAllocated then (.memory, {})
                  else
                    match collect response.answers with
                    | none => responseFinish response .malformed result
                    | some (records, cnames) =>
                      let built := chainBuild env records cnames result
                      responseFinish response built.1 built.2
      | _ => (.malformed, {})

/-- `dns_address_response_parse`. -/
def dnsAddressResponseParse (family : Family) (env : QueryEnv) :
    Option Message → Bytes → Nat → ParseStatus × AddressResult :=
  responseParse family.queryType addressRecordLimit (dnsResponseAddressesCollect family) env

/-! ## 6. Lookups -/

/-- `dns_query_exact`; a failure is the lookup status its callers turn it into. -/
def dnsQueryExact (env : QueryEnv) : Except LookupStatus (Nat × Nat × Option Message) :=
  match env.queryId with
  | none => .error .permanentError
  | some queryId =>
    match env.sent with
    | .error .enomem => .error .memory
    | .error .emsgsize => .error .malformed
    | .error .esrch | .error .einval | .error .eafnosupport | .error .eprotonosupport
    | .error .eacces | .error .eperm => .error .permanentError
    | .error .other => .error .temporaryError
    | .ok (responseSize, message) => .ok (responseSize, queryId, message)

/-- `dns_lookup_parse_status`. -/
def lookupParseStatus (status : ParseStatus) (rcode : UInt8) : LookupStatus :=
  match status with
  | .ok | .aliasOnly => .ok
  | .nodata => .nodata
  | .nxdomain => .notFound
  | .rcodeError => if rcode = rcodeServfail then .temporaryError else .permanentError
  | .truncated => .truncated
  | .badArgument => .badArgument
  | .limit => .limit
  | .malformed => .malformed
  | .memory => .memory

/-- `dns_lookup_status_keeps_result`. -/
def LookupStatus.keepsResult : LookupStatus → Bool
  | .ok | .nodata | .notFound | .permanentError | .temporaryError => true
  | _ => false

/-- The CNAME loop of `..._lookup_chain_append`; `none` is `MALFORMED`. -/
def cnamesAppend : List CnameRecord → List CnameRecord → UInt32 →
    Option (List CnameRecord × UInt32)
  | target, [], chainTtl => some (target, chainTtl)
  | target, cname :: source, chainTtl =>
    if target.any fun c => dnsNameEqual c.owner cname.target then none
    else cnamesAppend (target ++ [cname]) source (ttlMin cname.ttl chainTtl)

/-- An aggregate without a question takes that of its first response. -/
def chainTarget (target source : DnsResult ρ) : DnsResult ρ :=
  if target.questionName = [] then
    { target with questionName := source.questionName, canonicalName := source.questionName }
  else target

/-- `dns_lookup_chain_append`. -/
def chainAppend (allocated : Bool) (target source : DnsResult ρ) (chainTtl : UInt32) :
    Except LookupStatus (DnsResult ρ × UInt32) :=
  let target := chainTarget target source
  -- the source compares the names in the `else` only; the names it has just copied are equal
  if ¬ dnsNameEqual target.canonicalName source.questionName then .error .malformed
  else if source.cnames.length > cnameDepthLimit - target.cnames.length then .error .limit
  else if source.cnames.length > 0 ∧ target.cnames.length = 0 ∧ ¬ allocated then .error .memory
  else
    match cnamesAppend target.cnames source.cnames chainTtl with
    | none => .error .malformed
    | some (cnames, chainTtl) =>
      .ok ({ target with cnames, canonicalName := source.canonicalName, rcode := source.rcode },
        chainTtl)

/-- One turn of a lookup's loop: it ends with a status and the aggregate, or asks the next name. -/
inductive LookupTurn (ρ : Type) where
  | done (status : LookupStatus) (aggregate : DnsResult ρ)
  | ask (queryName : Bytes) (aggregate : DnsResult ρ) (chainTtl : UInt32)

/-- What a turn makes of a parsed response. -/
def lookupResponse [TtlRecord ρ] (env : QueryEnv) (queryName : Bytes) (aggregate : DnsResult ρ)
    (chainTtl : UInt32) (parseStatus : ParseStatus) (response : DnsResult ρ) : LookupTurn ρ :=
  if response.questionName ≠ [] ∧ ¬ dnsNameEqual response.questionName queryName then
    .done .malformed aggregate
  else
    let lookupStatus := lookupParseStatus parseStatus response.rcode
    match parseStatus with
    | .nodata | .nxdomain =>
      match chainAppend env.appendAllocated aggregate response chainTtl with
      | .error status => .done status aggregate
      | .ok (aggregate, chainTtl) =>
        let negative := response.negative
        .done lookupStatus { aggregate with
          negative := if negative.valid then
              { negative with effectiveTtl := ttlMin chainTtl negative.effectiveTtl }
            else negative }
    | .ok | .aliasOnly =>
      match chainAppend env.appendAllocated aggregate response chainTtl with
      | .error status => .done status aggregate
      | .ok (aggregate, chainTtl) =>
        if parseStatus = .ok then
          .done .ok { aggregate with records := response.records.map fun r =>
            TtlRecord.withEffectiveTtl r (ttlMin chainTtl (TtlRecord.effectiveTtl r)) }
        else .ask aggregate.canonicalName aggregate chainTtl
    | _ =>
      if ¬ lookupStatus.keepsResult then .done lookupStatus aggregate
      else if aggregate.questionName = [] then .done lookupStatus response
      else .done lookupStatus { aggregate with rcode := response.rcode }

variable [TtlRecord ρ] (parse : QueryEnv → Option Message → Bytes → Nat → ParseStatus × DnsResult ρ)

/-- One turn of the loop of a lookup. -/
def lookupTurn (env : QueryEnv) (queryName : Bytes) (aggregate : DnsResult ρ) (chainTtl : UInt32) :
    LookupTurn ρ :=
  match dnsQueryExact env with
  | .error status => .done status aggregate
  | .ok (responseSize, queryId, message) =>
    if responseSize > nsMaxmsg then .done .truncated aggregate
    else
      let parsed := parse env message queryName queryId
      lookupResponse env queryName aggregate chainTtl parsed.1 parsed.2

/-- The loop of a lookup; `none` is a loop that is still running when the fuel is spent. -/
def lookupLoop (queries : Nat → QueryEnv) :
    Nat → Nat → Bytes → DnsResult ρ → UInt32 → Option (LookupStatus × DnsResult ρ)
  | 0, _, _, _, _ => none
  | fuel + 1, turn, queryName, aggregate, chainTtl =>
    match lookupTurn parse (queries turn) queryName aggregate chainTtl with
    | .done status aggregate => some (status, if status.keepsResult then aggregate else {})
    | .ask queryName aggregate chainTtl =>
      lookupLoop queries fuel (turn + 1) queryName aggregate chainTtl

/-- The names the loop queries within the fuel, in order. -/
def lookupNames (queries : Nat → QueryEnv) :
    Nat → Nat → Bytes → DnsResult ρ → UInt32 → List Bytes
  | 0, _, _, _, _ => []
  | fuel + 1, turn, queryName, aggregate, chainTtl =>
    queryName :: match lookupTurn parse (queries turn) queryName aggregate chainTtl with
      | .done _ _ => []
      | .ask queryName aggregate chainTtl =>
        lookupNames queries fuel (turn + 1) queryName aggregate chainTtl

/-- Every turn that asks on makes the chain longer, so a lookup has at most this many turns. -/
def lookupFuel : Nat := cnameDepthLimit + 1

variable (env : LookupEnv) (hostname : Bytes)

/-- The body of `dns_address_lookup`, into a zeroed result. -/
def lookup : Option (LookupStatus × DnsResult ρ) :=
  if hostname = [] ∨ hostname.length ≥ nsMaxdname then some (.badArgument, {})
  else if ¬ env.resolverReady then some (.permanentError, {})
  else if ¬ env.responseAllocated then some (.memory, {})
  else lookupLoop parse env.queries lookupFuel 0 hostname {} 0xFFFFFFFF

/-- The names a lookup queries when its loop has the fuel. -/
def lookupQueried (fuel : Nat) : List Bytes :=
  if hostname = [] ∨ hostname.length ≥ nsMaxdname ∨ ¬ env.resolverReady ∨ ¬ env.responseAllocated
  then []
  else lookupNames parse env.queries fuel 0 hostname {} 0xFFFFFFFF

/-- `dns_address_lookup`. -/
def dnsAddressLookup (family : Family) : Option (LookupStatus × AddressResult) :=
  lookup (dnsAddressResponseParse family) env hostname

/-- The names `dns_address_lookup` queries. -/
def dnsAddressQueried (family : Family) : Nat → List Bytes :=
  lookupQueried (dnsAddressResponseParse family) env hostname

end MinecraftRelay
