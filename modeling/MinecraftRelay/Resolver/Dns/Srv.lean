/-
  File:      Resolver/Dns/Srv.lean
  Subject:   THE SRV SIDE OF THE LOOKUPS (resolver/dns.c).

  dns.c writes its SRV side as a second copy of its address side.  Here is that copy, function by
  function; what it shares with the address side in the source (names, CNAME records, negative data,
  `dns_query_exact`) is shared here.

  * `dnsSrvResponseParse_eq` -- a reply is parsed as the address side would, with SRV records;
  * `dnsSrvLookup_eq`, `dnsSrvQueried_eq` -- and so is a lookup made.
-/
import MinecraftRelay.Resolver.Dns

namespace MinecraftRelay

/-! ## 1. One response -/

/-- `dns_srv_response_records_collect`. -/
def dnsSrvResponseRecordsCollect : List (Option ResourceRecord) → Option (Collected SrvRecord)
  | [] => some ([], [])
  | none :: _ => none
  | some answer :: rest =>
    if answer.rrClass ≠ classIn then dnsSrvResponseRecordsCollect rest
    else if answer.rrType = QueryType.srv.code then do
      let record ← srvCandidate answer
      let (records, cnames) ← dnsSrvResponseRecordsCollect rest
      some (record :: records, cnames)
    else if answer.rrType = typeCname then do
      let cname ← dnsNameRecordParse answer
      let (records, cnames) ← dnsSrvResponseRecordsCollect rest
      some (records, cname :: cnames)
    else dnsSrvResponseRecordsCollect rest

/-- The CNAME loop of one turn of `dns_srv_response_chain_build`; `none` is `MALFORMED`. -/
def dnsSrvCnameMatch (current : Bytes) :
    List CnameRecord → Option CnameRecord → UInt32 → Option (Option CnameRecord × UInt32)
  | [], matching, ttl => some (matching, ttl)
  | cname :: rest, matching, ttl =>
    if ¬ dnsNameEqual cname.owner current then dnsSrvCnameMatch current rest matching ttl
    else if matching.any fun found => ¬ dnsNameEqual found.target cname.target then none
    else dnsSrvCnameMatch current rest (matching.or (some cname)) (ttlMin cname.ttl ttl)

/-- The `while` of `dns_srv_response_chain_build`; `depth` is what is left of the chain's array. -/
def dnsSrvChainLoop (records : List (Candidate SrvRecord)) (cnames : List CnameRecord) :
    Nat → List CnameRecord → Bytes → UInt32 → ChainEnd
  | depth, chain, current, chainTtl =>
    let matchingRecord := records.any fun r => dnsNameEqual r.owner current
    match dnsSrvCnameMatch current cnames none 0xFFFFFFFF with
    | none => .error .malformed
    | some (none, _) => .ok (chain, current, chainTtl)
    | some (some matching, ttl) =>
      match depth with
      | 0 => .error (if matchingRecord then .malformed else .limit)
      | depth + 1 =>
        if matchingRecord then .error .malformed
        else if chain.any fun c => dnsNameEqual c.owner matching.target then .error .malformed
        else
          dnsSrvChainLoop records cnames depth (chain ++ [{ matching with ttl }]) matching.target
            (ttlMin ttl chainTtl)

/-- `dns_srv_response_chain_build`. -/
def dnsSrvResponseChainBuild (env : QueryEnv) (records : List (Candidate SrvRecord))
    (cnames : List CnameRecord) (result : SrvResult) : ParseStatus × SrvResult :=
  if cnames.length > 0 ∧ ¬ env.chainAllocated then (.memory, result)
  else
    match dnsSrvChainLoop records cnames cnameDepthLimit [] result.questionName 0xFFFFFFFF with
    | .error status => (status, result)
    | .ok (chain, current, chainTtl) =>
      let result := { result with cnames := chain, canonicalName := current }
      let matching := records.filter fun r => dnsNameEqual r.owner current
      if matching.length = 0 then (if chain.length = 0 then .nodata else .aliasOnly, result)
      else if ¬ env.recordsAllocated then (.memory, result)
      else
        (.ok, { result with records := matching.map fun r =>
          { r.record with effectiveTtl := ttlMin chainTtl r.record.recordTtl } })

/-- `dns_srv_response_parse` from the status of its chain on. -/
def dnsSrvResponseFinish (response : Message) (status : ParseStatus) (result : SrvResult) :
    ParseStatus × SrvResult :=
  let (status, result) :=
    if result.rcode = rcodeNxdomain ∧ status = .ok then (.malformed, result)
    else if status = .nodata ∨ (result.rcode = rcodeNxdomain ∧ status = .aliasOnly) then
      match dnsNegativeResponseParse response result.canonicalName result.cnames with
      | .error failure => (failure, result)
      | .ok negative =>
        (if result.rcode = rcodeNxdomain then .nxdomain else status, { result with negative })
    else (status, result)
  if status ≠ .ok ∧ status ≠ .aliasOnly ∧ status ≠ .nodata ∧ status ≠ .nxdomain then (status, {})
  else (status, result)

/-- `dns_srv_response_parse`. -/
def dnsSrvResponseParse (env : QueryEnv) (message : Option Message) (expectedName : Bytes)
    (expectedId : Nat) : ParseStatus × SrvResult :=
  match message with
  | none => (.malformed, {})
  | some response =>
    if response.id ≠ expectedId then (.malformed, {})
    else if ¬ response.qr ∨ response.opcode ≠ opcodeQuery then (.malformed, {})
    else
      match response.questions with
      | [question] =>
        if response.tc then (.truncated, {})
        else
          match question with
          | none => (.malformed, {})
          | some question =>
            if question.rrClass ≠ classIn ∨
              question.rrType ≠ QueryType.srv.code then (.malformed, {})
            else
              match dnsNameNormalize question.name with
              | none => (.malformed, {})
              | some questionName =>
                let rcode := UInt8.ofNat response.rcode
                let result : SrvResult := { questionName, rcode }
                if ¬ dnsNameEqual questionName expectedName then (.malformed, {})
                else if rcode ≠ rcodeNoerror ∧ rcode ≠ rcodeNxdomain then (.rcodeError, result)
                else if response.answers.length > srvRecordLimit then (.limit, {})
                else if response.answers.length > 0 ∧ ¬ env.arraysAllocated then (.memory, {})
                else
                  match dnsSrvResponseRecordsCollect response.answers with
                  | none => dnsSrvResponseFinish response .malformed result
                  | some (records, cnames) =>
                    let (status, result) := dnsSrvResponseChainBuild env records cnames result
                    dnsSrvResponseFinish response status result
      | _ => (.malformed, {})

/-! ## 2. Lookups -/

/-- `dns_srv_lookup_parse_status`. -/
def dnsSrvLookupParseStatus (status : ParseStatus) (rcode : UInt8) : LookupStatus :=
  match status with
  | .ok | .aliasOnly => .ok
  | .nodata => .nodata
  | .nxdomain => .notFound
  | .rcodeError => if rcode = rcodeServfail then .temporaryError else .permanentError
  | .truncated => .truncated
  | .badArgument => .badArgument
  | .limit => .limit
  | .malformed => .malformed
  | .memory => .memory

/-- `dns_srv_lookup_status_keeps_result`. -/
def dnsSrvLookupStatusKeepsResult (status : LookupStatus) : Bool :=
  status = .ok || status = .nodata || status = .notFound || status = .permanentError ||
    status = .temporaryError

/-- The CNAME loop of `dns_srv_lookup_chain_append`; `none` is `MALFORMED`. -/
def dnsSrvCnamesAppend : List CnameRecord → List CnameRecord → UInt32 →
    Option (List CnameRecord × UInt32)
  | target, [], chainTtl => some (target, chainTtl)
  | target, cname :: source, chainTtl =>
    if target.any fun c => dnsNameEqual c.owner cname.target then none
    else dnsSrvCnamesAppend (target ++ [cname]) source (ttlMin cname.ttl chainTtl)

/-- `dns_srv_lookup_chain_append`. -/
def dnsSrvLookupChainAppend (allocated : Bool) (target source : SrvResult) (chainTtl : UInt32) :
    Except LookupStatus (SrvResult × UInt32) :=
  if target.questionName ≠ [] ∧ ¬ dnsNameEqual target.canonicalName source.questionName then
    .error .malformed
  else
    let questionName :=
      if target.questionName = [] then source.questionName else target.questionName
    if source.cnames.length > cnameDepthLimit - target.cnames.length then .error .limit
    else if source.cnames.length > 0 ∧ target.cnames.length = 0 ∧ ¬ allocated then .error .memory
    else
      match dnsSrvCnamesAppend target.cnames source.cnames chainTtl with
      | none => .error .malformed
      | some (cnames, chainTtl) =>
        let canonicalName := source.canonicalName
        .ok ({ target with questionName, canonicalName, cnames, rcode := source.rcode }, chainTtl)

/-- One turn of the loop of `dns_srv_lookup`. -/
def dnsSrvLookupTurn (env : QueryEnv) (currentName : Bytes) (aggregate : SrvResult)
    (chainTtl : UInt32) : LookupTurn SrvRecord :=
  match dnsQueryExact env with
  | .error status => .done status aggregate
  | .ok (responseSize, queryId, message) =>
    if responseSize > nsMaxmsg then .done .truncated aggregate
    else
      let (parseStatus, response) := dnsSrvResponseParse env message currentName queryId
      if response.questionName ≠ [] ∧ ¬ dnsNameEqual response.questionName currentName then
        .done .malformed aggregate
      else
        let lookupStatus := dnsSrvLookupParseStatus parseStatus response.rcode
        let appended := dnsSrvLookupChainAppend env.appendAllocated aggregate response chainTtl
        if parseStatus = .nodata ∨ parseStatus = .nxdomain then
          match appended with
          | .error status => .done status aggregate
          | .ok (aggregate, chainTtl) =>
            let negative := response.negative
            .done lookupStatus { aggregate with
              negative := if negative.valid then
                  { negative with effectiveTtl := ttlMin chainTtl negative.effectiveTtl }
                else negative }
        else if parseStatus ≠ .ok ∧ parseStatus ≠ .aliasOnly then
          if ¬ dnsSrvLookupStatusKeepsResult lookupStatus then .done lookupStatus aggregate
          else if aggregate.questionName = [] then .done lookupStatus response
          else .done lookupStatus { aggregate with rcode := response.rcode }
        else
          match appended with
          | .error status => .done status aggregate
          | .ok (aggregate, chainTtl) =>
            if parseStatus = .ok then
              .done .ok { aggregate with records := response.records.map fun r =>
                { r with effectiveTtl := ttlMin chainTtl r.effectiveTtl } }
            else .ask aggregate.canonicalName aggregate chainTtl

/-- The loop of `dns_srv_lookup`; `none` is a loop that is still running when the fuel is spent. -/
def dnsSrvLookupLoop (queries : Nat → QueryEnv) :
    Nat → Nat → Bytes → SrvResult → UInt32 → Option (LookupStatus × SrvResult)
  | 0, _, _, _, _ => none
  | fuel + 1, turn, currentName, aggregate, chainTtl =>
    match dnsSrvLookupTurn (queries turn) currentName aggregate chainTtl with
    | .done status aggregate =>
      some (status, if dnsSrvLookupStatusKeepsResult status then aggregate else {})
    | .ask currentName aggregate chainTtl =>
      dnsSrvLookupLoop queries fuel (turn + 1) currentName aggregate chainTtl

/-- The names the loop queries within the fuel, in order. -/
def dnsSrvLookupNames (queries : Nat → QueryEnv) :
    Nat → Nat → Bytes → SrvResult → UInt32 → List Bytes
  | 0, _, _, _, _ => []
  | fuel + 1, turn, currentName, aggregate, chainTtl =>
    currentName :: match dnsSrvLookupTurn (queries turn) currentName aggregate chainTtl with
      | .done _ _ => []
      | .ask currentName aggregate chainTtl =>
        dnsSrvLookupNames queries fuel (turn + 1) currentName aggregate chainTtl

/-- `dns_srv_lookup` into a zeroed result. -/
def dnsSrvLookup (env : LookupEnv) (queryName : Bytes) : Option (LookupStatus × SrvResult) :=
  if queryName = [] ∨ queryName.length ≥ nsMaxdname then some (.badArgument, {})
  else if ¬ env.resolverReady then some (.permanentError, {})
  else if ¬ env.responseAllocated then some (.memory, {})
  else dnsSrvLookupLoop env.queries lookupFuel 0 queryName {} 0xFFFFFFFF

/-- The names `dns_srv_lookup` queries when its loop has the fuel. -/
def dnsSrvQueried (env : LookupEnv) (queryName : Bytes) (fuel : Nat) : List Bytes :=
  if queryName = [] ∨ queryName.length ≥ nsMaxdname ∨ ¬ env.resolverReady ∨ ¬ env.responseAllocated
  then []
  else dnsSrvLookupNames env.queries fuel 0 queryName {} 0xFFFFFFFF

/-! ## 3. The copy computes what its original does -/

theorem dnsSrvResponseRecordsCollect_eq :
    dnsSrvResponseRecordsCollect = responseCollect QueryType.srv.code srvCandidate := by
  funext answers
  induction answers with
  | nil => rfl
  | cons answer rest ih =>
    cases answer with
    | none => rfl
    | some answer => rw [dnsSrvResponseRecordsCollect, responseCollect, ih]

theorem dnsSrvCnameMatch_eq (current : Bytes) (cnames : List CnameRecord)
    (matching : Option CnameRecord) (ttl : UInt32) :
    dnsSrvCnameMatch current cnames matching ttl = cnameMatch current cnames matching ttl := by
  induction cnames generalizing matching ttl with
  | nil => rfl
  | cons cname rest ih => cases matching <;> simp [dnsSrvCnameMatch, cnameMatch, ih]

theorem dnsSrvChainLoop_eq (records : List (Candidate SrvRecord)) (cnames : List CnameRecord)
    (depth : Nat) (chain : List CnameRecord) (current : Bytes) (chainTtl : UInt32) :
    dnsSrvChainLoop records cnames depth chain current chainTtl =
      chainLoop (fun name => records.any fun r => dnsNameEqual r.owner name) cnames depth chain
        current chainTtl := by
  induction depth generalizing chain current chainTtl with
  | zero =>
    rewrite [dnsSrvChainLoop, chainLoop, dnsSrvCnameMatch_eq]
    rcases cnameMatch current cnames none 0xFFFFFFFF with _ | ⟨_ | matching, ttl⟩ <;> rfl
  | succ depth ih =>
    rewrite [dnsSrvChainLoop, chainLoop, dnsSrvCnameMatch_eq]
    rcases cnameMatch current cnames none 0xFFFFFFFF with _ | ⟨_ | matching, ttl⟩
    · rfl
    · rfl
    · dsimp only
      rw [ih]

theorem dnsSrvResponseChainBuild_eq (env : QueryEnv) (records : List (Candidate SrvRecord))
    (cnames : List CnameRecord) (result : SrvResult) :
    dnsSrvResponseChainBuild env records cnames result = chainBuild env records cnames result := by
  unfold dnsSrvResponseChainBuild chainBuild
  rw [dnsSrvChainLoop_eq]
  split
  · rfl
  · rcases chainLoop _ cnames cnameDepthLimit [] result.questionName 0xFFFFFFFF with
      _ | ⟨_, _, _⟩ <;> rfl

theorem dnsSrvResponseFinish_eq (response : Message) (status : ParseStatus) (result : SrvResult) :
    dnsSrvResponseFinish response status result = responseFinish response status result := by
  unfold dnsSrvResponseFinish responseFinish responseClassify negativeAttach
  rcases dnsNegativeResponseParse response result.canonicalName result.cnames with
    failure | negative
  · by_cases hrcode : result.rcode = rcodeNxdomain <;> cases status <;>
      simp [hrcode, ParseStatus.keepsResult] <;> cases failure <;> simp
  · by_cases hrcode : result.rcode = rcodeNxdomain <;> cases status <;>
      simp [hrcode, ParseStatus.keepsResult]

theorem dnsSrvResponseParse_eq :
    dnsSrvResponseParse = responseParse .srv srvRecordLimit
      (responseCollect QueryType.srv.code srvCandidate) := by
  funext env message expectedName expectedId
  unfold dnsSrvResponseParse responseParse
  rw [dnsSrvResponseRecordsCollect_eq]
  cases message with
  | none => rfl
  | some response =>
    dsimp only
    match response.questions with
    | [] | _ :: _ :: _ | [none] => rfl
    | [some question] =>
      dsimp only
      cases dnsNameNormalize question.name with
      | none => rfl
      | some questionName =>
        dsimp only
        cases responseCollect QueryType.srv.code srvCandidate response.answers with
        | none => simp only [dnsSrvResponseFinish_eq]
        | some collected => simp only [dnsSrvResponseFinish_eq, dnsSrvResponseChainBuild_eq]

theorem dnsSrvLookupParseStatus_eq (status : ParseStatus) (rcode : UInt8) :
    dnsSrvLookupParseStatus status rcode = lookupParseStatus status rcode := by
  cases status <;> rfl

theorem dnsSrvLookupStatusKeepsResult_eq (status : LookupStatus) :
    dnsSrvLookupStatusKeepsResult status = status.keepsResult := by
  cases status <;> rfl

theorem dnsSrvCnamesAppend_eq (target source : List CnameRecord) (chainTtl : UInt32) :
    dnsSrvCnamesAppend target source chainTtl = cnamesAppend target source chainTtl := by
  induction source generalizing target chainTtl with
  | nil => rfl
  | cons cname source ih => rw [dnsSrvCnamesAppend, cnamesAppend, ih]

theorem dnsSrvLookupChainAppend_eq (allocated : Bool) (target source : SrvResult)
    (chainTtl : UInt32) :
    dnsSrvLookupChainAppend allocated target source chainTtl =
      chainAppend allocated target source chainTtl := by
  unfold dnsSrvLookupChainAppend chainAppend chainTarget
  by_cases hfirst : target.questionName = [] <;>
    simp only [hfirst, dnsSrvCnamesAppend_eq, dnsNameEqual, ite_true, ite_false, ne_eq,
      not_true_eq_false, not_false_eq_true, decide_true, false_and, true_and] <;>
    cases cnamesAppend target.cnames source.cnames chainTtl <;> rfl

theorem dnsSrvLookupTurn_eq (env : QueryEnv) (currentName : Bytes) (aggregate : SrvResult)
    (chainTtl : UInt32) :
    dnsSrvLookupTurn env currentName aggregate chainTtl =
      lookupTurn dnsSrvResponseParse env currentName aggregate chainTtl := by
  unfold dnsSrvLookupTurn lookupTurn lookupResponse
  simp only [dnsSrvLookupParseStatus_eq, dnsSrvLookupStatusKeepsResult_eq,
    dnsSrvLookupChainAppend_eq]
  rcases dnsQueryExact env with failure | ⟨size, queryId, message⟩
  · rfl
  · dsimp only
    rcases dnsSrvResponseParse env message currentName queryId with ⟨parseStatus, response⟩
    dsimp only
    rcases chainAppend env.appendAllocated aggregate response chainTtl with
      failure | ⟨next, ttl⟩ <;> cases parseStatus <;> rfl

theorem dnsSrvLookupLoop_eq (queries : Nat → QueryEnv) (fuel turn : Nat) (currentName : Bytes)
    (aggregate : SrvResult) (chainTtl : UInt32) :
    dnsSrvLookupLoop queries fuel turn currentName aggregate chainTtl =
        lookupLoop dnsSrvResponseParse queries fuel turn currentName aggregate chainTtl ∧
      dnsSrvLookupNames queries fuel turn currentName aggregate chainTtl =
        lookupNames dnsSrvResponseParse queries fuel turn currentName aggregate chainTtl := by
  induction fuel generalizing turn currentName aggregate chainTtl with
  | zero => exact ⟨rfl, rfl⟩
  | succ fuel ih =>
    rewrite [dnsSrvLookupLoop, lookupLoop, dnsSrvLookupNames, lookupNames, dnsSrvLookupTurn_eq]
    cases lookupTurn dnsSrvResponseParse (queries turn) currentName aggregate chainTtl with
    | done status aggregate =>
      dsimp only
      rewrite [dnsSrvLookupStatusKeepsResult_eq]
      exact ⟨rfl, rfl⟩
    | ask currentName aggregate chainTtl =>
      obtain ⟨hloop, hnames⟩ := ih (turn + 1) currentName aggregate chainTtl
      exact ⟨hloop, congrArg (_ :: ·) hnames⟩

theorem dnsSrvLookup_eq : dnsSrvLookup = lookup dnsSrvResponseParse := by
  funext env queryName
  unfold dnsSrvLookup lookup
  rw [(dnsSrvLookupLoop_eq ..).1]

theorem dnsSrvQueried_eq : dnsSrvQueried = lookupQueried dnsSrvResponseParse := by
  funext env queryName fuel
  unfold dnsSrvQueried lookupQueried
  rw [(dnsSrvLookupLoop_eq ..).2]

end MinecraftRelay
