/-
  File:      Resolver/Dns/Twins.lean
  Subject:   THE ADDRESS AND THE SRV SIDE AGREE (resolver/dns.c).

  Two replies are twins when they differ only in the type and the data of the answers that are no
  CNAMEs: where one has an address of the family asked for, the other has an SRV record, with the
  same owner and TTL.  From twins the two sides compute the same, step by step.

  * `chainBuild_twin`, `responseParse_twin` -- one reply;
  * `lookupTurn_twin`, `lookupLoop_twin` -- a simulation of one loop by the other;
  * `address_srv_agree` -- **the two sides agree.**
-/
import MinecraftRelay.Resolver.Dns.Soundness

namespace MinecraftRelay

/-! ## 1. Records and results -/

/-- Two candidates with one owner and one TTL. -/
structure CandidateTwin (c : Candidate AddressRecord) (d : Candidate SrvRecord) : Prop where
  owner : c.owner = d.owner
  ttl : c.record.recordTtl = d.record.recordTtl

/-- Two records with the same TTLs. -/
structure RecordTwin (r : AddressRecord) (s : SrvRecord) : Prop where
  ttl : r.recordTtl = s.recordTtl
  effective : r.effectiveTtl = s.effectiveTtl

/-- Two results that differ in the data of their records only. -/
structure ResultTwin (r : AddressResult) (s : SrvResult) : Prop where
  records : List.Forall₂ RecordTwin r.records s.records
  canonicalName : r.canonicalName = s.canonicalName
  cnames : r.cnames = s.cnames
  negative : r.negative = s.negative
  questionName : r.questionName = s.questionName
  rcode : r.rcode = s.rcode

/-- A status and a result on either side. -/
structure ParseTwin (parsed : ParseStatus × AddressResult) (parsed' : ParseStatus × SrvResult) :
    Prop where
  status : parsed.1 = parsed'.1
  result : ResultTwin parsed.2 parsed'.2

theorem ResultTwin.empty : ResultTwin {} {} := ⟨.nil, rfl, rfl, rfl, rfl, rfl⟩

theorem ParseTwin.dropped (status : ParseStatus) : ParseTwin (status, {}) (status, {}) :=
  ⟨rfl, .empty⟩

/-! ## 2. Chain building -/

section Chain

variable {records : List (Candidate AddressRecord)} {records' : List (Candidate SrvRecord)}

section

variable (h : List.Forall₂ CandidateTwin records records')

include h

theorem recordAt_twin : recordAt records = recordAt records' := by
  funext name
  unfold recordAt
  induction h with
  | nil => rfl
  | cons hc _ ih => rw [List.any_cons, List.any_cons, ih, hc.owner]

theorem recordsOf_twin (name : Bytes) :
    List.Forall₂ CandidateTwin (recordsOf records name) (recordsOf records' name) := by
  unfold recordsOf
  induction h with
  | nil => exact .nil
  | cons hc _ ih =>
    rw [List.filter_cons, List.filter_cons, hc.owner]
    split
    · exact .cons hc ih
    · exact ih

/-- The records of the result, under the TTL of the chain. -/
theorem effectiveTtl_twin (ttl : UInt32) :
    List.Forall₂ RecordTwin
      (records.map fun r => { r.record with effectiveTtl := ttlMin ttl r.record.recordTtl })
      (records'.map fun r => { r.record with effectiveTtl := ttlMin ttl r.record.recordTtl }) := by
  induction h with
  | nil => exact .nil
  | cons hc _ ih => exact .cons ⟨hc.ttl, congrArg (ttlMin ttl) hc.ttl⟩ ih

end

/-- **Chain building on both sides.** -/
theorem chainBuild_twin {env env' : QueryEnv} (hchain : env.chainAllocated = env'.chainAllocated)
    (hrecords : env.recordsAllocated = env'.recordsAllocated)
    (h : List.Forall₂ CandidateTwin records records') (cnames : List CnameRecord)
    {result : AddressResult} {result' : SrvResult} (hresult : ResultTwin result result') :
    ParseTwin (dnsResponseChainBuild env records cnames result)
      (dnsSrvResponseChainBuild env' records' cnames result') := by
  rw [dnsSrvResponseChainBuild_eq]
  unfold dnsResponseChainBuild chainBuild
  rw [hchain, hrecords]
  split
  · exact ⟨rfl, hresult⟩
  generalize hloop : chainLoop _ cnames cnameDepthLimit [] result.questionName 0xFFFFFFFF = ending
  generalize hloop' : chainLoop _ cnames cnameDepthLimit [] result'.questionName
    0xFFFFFFFF = ending'
  change chainLoop (recordAt records) cnames cnameDepthLimit [] result.questionName _ =
    ending at hloop
  change chainLoop (recordAt records') cnames cnameDepthLimit [] result'.questionName _ = ending'
    at hloop'
  rw [recordAt_twin h, hresult.questionName, hloop'] at hloop
  subst hloop
  rcases ending' with status | ⟨chain, current, chainTtl⟩
  · exact ⟨rfl, hresult⟩
  have howned := recordsOf_twin h current
  change ParseTwin (if (recordsOf records current).length = 0 then _ else _)
    (if (recordsOf records' current).length = 0 then _ else _)
  rw [howned.length_eq]
  split
  · exact ⟨rfl, hresult.records, rfl, rfl, hresult.negative, hresult.questionName, hresult.rcode⟩
  split
  · exact ⟨rfl, hresult.records, rfl, rfl, hresult.negative, hresult.questionName, hresult.rcode⟩
  · exact ⟨rfl, effectiveTtl_twin howned chainTtl, rfl, rfl, hresult.negative, hresult.questionName,
      hresult.rcode⟩

end Chain

/-! ## 3. Twin replies -/

/-- Two answers of one place, to questions for the addresses of a family and for services. -/
inductive AnswerTwin (family : Family) (a a' : ResourceRecord) : Prop where
  /-- Of another class. -/
  | outside (h : a.rrClass ≠ classIn) (h' : a'.rrClass ≠ classIn)
  /-- Of the type asked for: with one owner and TTL, or unreadable on both sides. -/
  | data (hclass : a.rrClass = classIn ∧ a'.rrClass = classIn)
      (htype : a.rrType = family.queryType.code ∧ a'.rrType = QueryType.srv.code)
      (hread : Option.Rel CandidateTwin (addressCandidate family a) (srvCandidate a'))
  /-- The same CNAME. -/
  | cname (hclass : a.rrClass = classIn ∧ a'.rrClass = classIn)
      (htype : a.rrType = typeCname ∧ a'.rrType = typeCname)
      (hread : dnsNameRecordParse a = dnsNameRecordParse a')
  /-- Of no type that counts. -/
  | other (hclass : a.rrClass = classIn ∧ a'.rrClass = classIn)
      (htype : a.rrType ≠ family.queryType.code ∧ a.rrType ≠ typeCname)
      (htype' : a'.rrType ≠ QueryType.srv.code ∧ a'.rrType ≠ typeCname)

/-- Two questions for one name, each of the type it was asked for or neither. -/
structure QuestionTwin (family : Family) (q q' : ResourceRecord) : Prop where
  name : q.name = q'.name
  rrClass : q.rrClass = q'.rrClass
  rrType : q.rrType = family.queryType.code ↔ q'.rrType = QueryType.srv.code

/-- **Two replies that match up to the type and the data of the answers that are no CNAMEs.** -/
structure MessageTwin (family : Family) (m m' : Message) : Prop where
  qr : m.qr = m'.qr
  opcode : m.opcode = m'.opcode
  tc : m.tc = m'.tc
  rcode : m.rcode = m'.rcode
  questions : List.Forall₂ (Option.Rel (QuestionTwin family)) m.questions m'.questions
  answers : List.Forall₂ (Option.Rel (AnswerTwin family)) m.answers m'.answers
  authorities : m.authorities = m'.authorities

section Replies

variable {family : Family}

theorem queryType_ne_cname (type : QueryType) : type.code ≠ typeCname := by
  cases type <;> decide

/-- What the two sides collect from their answers. -/
def CollectTwin : Option (Collected AddressRecord) → Option (Collected SrvRecord) → Prop :=
  Option.Rel fun p p' => List.Forall₂ CandidateTwin p.1 p'.1 ∧ p.2 = p'.2

theorem responseCollect_twin {answers answers' : List (Option ResourceRecord)}
    (h : List.Forall₂ (Option.Rel (AnswerTwin family)) answers answers') :
    CollectTwin (dnsResponseAddressesCollect family answers)
      (dnsSrvResponseRecordsCollect answers') := by
  unfold dnsResponseAddressesCollect
  induction h with
  | nil => exact .some ⟨.nil, rfl⟩
  | cons ha _ ih =>
    cases ha with
    | none => exact .none
    | some ha =>
      rw [responseCollect, dnsSrvResponseRecordsCollect]
      cases ha with
      | outside h h' =>
        rw [if_pos h, if_pos h']
        exact ih
      | data hclass hasked hread =>
        rw [if_neg (not_not_intro hclass.1), if_neg (not_not_intro hclass.2), if_pos hasked.1,
          if_pos hasked.2]
        generalize addressCandidate family _ = read, srvCandidate _ = read' at hread
        cases hread with
        | none => exact .none
        | some hcandidate =>
          generalize responseCollect _ _ _ = rest, dnsSrvResponseRecordsCollect _ = rest' at ih
          cases ih with
          | none => exact .none
          | some hrest => exact .some ⟨.cons hcandidate hrest.1, hrest.2⟩
      | cname hclass hcname hread =>
        rw [if_neg (not_not_intro hclass.1), if_neg (not_not_intro hclass.2), hcname.1, hcname.2,
          if_neg (queryType_ne_cname _).symm, if_neg (queryType_ne_cname _).symm, if_pos rfl,
          if_pos rfl, hread]
        cases dnsNameRecordParse _ with
        | none => exact .none
        | some cname =>
          generalize responseCollect _ _ _ = rest, dnsSrvResponseRecordsCollect _ = rest' at ih
          cases ih with
          | none => exact .none
          | some hrest => exact .some ⟨hrest.1, congrArg (cname :: ·) hrest.2⟩
      | other hclass hother hother' =>
        rw [if_neg (not_not_intro hclass.1), if_neg (not_not_intro hclass.2), if_neg hother.1,
          if_neg hother'.1, if_neg hother.2, if_neg hother'.2]
        exact ih

theorem negativeAttach_twin {m m' : Message} (h : m.authorities = m'.authorities)
    {result : AddressResult} {result' : SrvResult} (hresult : ResultTwin result result')
    (status : ParseStatus) :
    ParseTwin (negativeAttach m status result) (negativeAttach m' status result') := by
  have hparse : dnsNegativeResponseParse m result.canonicalName result.cnames =
      dnsNegativeResponseParse m' result'.canonicalName result'.cnames := by
    unfold dnsNegativeResponseParse
    rw [h, hresult.canonicalName, hresult.cnames]
  unfold negativeAttach
  rw [hparse]
  split
  · exact ⟨rfl, hresult⟩
  · exact ⟨rfl, hresult.records, hresult.canonicalName, hresult.cnames, rfl, hresult.questionName,
      hresult.rcode⟩

theorem responseFinish_twin {m m' : Message} (h : m.authorities = m'.authorities)
    {parsed : ParseStatus × AddressResult} {parsed' : ParseStatus × SrvResult}
    (hparsed : ParseTwin parsed parsed') :
    ParseTwin (responseFinish m parsed.1 parsed.2)
      (dnsSrvResponseFinish m' parsed'.1 parsed'.2) := by
  rw [dnsSrvResponseFinish_eq]
  obtain ⟨hstatus, hresult⟩ := hparsed
  have hclass : ParseTwin (responseClassify m parsed.1 parsed.2)
      (responseClassify m' parsed'.1 parsed'.2) := by
    unfold responseClassify
    rw [hstatus, hresult.rcode]
    split
    · split
      · exact ⟨rfl, hresult⟩
      · exact negativeAttach_twin h hresult _
      · exact negativeAttach_twin h hresult _
      · exact ⟨rfl, hresult⟩
    split
    · exact negativeAttach_twin h hresult _
    · exact ⟨rfl, hresult⟩
  unfold responseFinish
  dsimp only
  rw [hclass.status]
  split
  · exact hclass
  · exact ⟨rfl, .empty⟩

/-- **One reply, read on both sides.** -/
theorem responseParse_twin {env env' : QueryEnv}
    (harrays : env.arraysAllocated = env'.arraysAllocated)
    (hchain : env.chainAllocated = env'.chainAllocated)
    (hrecords : env.recordsAllocated = env'.recordsAllocated) {message message' : Option Message}
    {expectedId expectedId' : Nat}
    (h : Option.Rel (fun m m' => (m.id = expectedId ↔ m'.id = expectedId') ∧
      MessageTwin family m m') message message') (expectedName : Bytes) :
    ParseTwin (dnsAddressResponseParse family env message expectedName expectedId)
      (dnsSrvResponseParse env' message' expectedName expectedId') := by
  unfold dnsAddressResponseParse responseParse dnsSrvResponseParse
  cases h with
  | none => exact .dropped _
  | some h =>
    rename_i m m'
    obtain ⟨hid, h⟩ := h
    dsimp only
    rw [h.qr, h.opcode, h.tc, h.rcode, harrays]
    by_cases hmine : m.id = expectedId
    case neg =>
      rw [if_pos hmine, if_pos (fun e => hmine (hid.2 e))]
      exact .dropped _
    rw [if_neg (not_not_intro hmine), if_neg (not_not_intro (hid.1 hmine))]
    split
    · exact .dropped _
    have hquestions := h.questions
    generalize m.questions = questions, m'.questions = questions' at hquestions
    match questions, questions', hquestions with
    | [], [], .nil => exact .dropped _
    | _ :: _ :: _, _ :: _ :: _, _ => exact .dropped _
    | [question], [question'], .cons hquestion .nil =>
      dsimp only
      split
      · exact .dropped _
      cases hquestion with
      | none => exact .dropped _
      | some hquestion =>
        rename_i q q'
        have hwrong : (q.rrClass ≠ classIn ∨ q.rrType ≠ family.queryType.code) ↔
            (q'.rrClass ≠ classIn ∨ q'.rrType ≠ QueryType.srv.code) := by
          rw [hquestion.rrClass, ne_eq q.rrType, hquestion.rrType]
        by_cases hasked : q'.rrClass ≠ classIn ∨ q'.rrType ≠ QueryType.srv.code
        case pos =>
          dsimp only
          rw [if_pos (hwrong.2 hasked), if_pos hasked]
          exact .dropped _
        dsimp only
        rw [if_neg (fun e => hasked (hwrong.1 e)), if_neg hasked, hquestion.name]
        cases dnsNameNormalize q'.name with
        | none => exact .dropped _
        | some questionName =>
          dsimp only
          split
          · exact .dropped _
          have hresult : ResultTwin { questionName, rcode := UInt8.ofNat m'.rcode }
              { questionName, rcode := UInt8.ofNat m'.rcode } := ⟨.nil, rfl, rfl, rfl, rfl, rfl⟩
          split
          · exact ⟨rfl, hresult⟩
          rw [h.answers.length_eq, show srvRecordLimit = addressRecordLimit from rfl]
          split
          · exact .dropped _
          split
          · exact .dropped _
          have hcollect := responseCollect_twin h.answers
          generalize dnsResponseAddressesCollect family m.answers = collected,
            dnsSrvResponseRecordsCollect m'.answers = collected' at hcollect ⊢
          cases hcollect with
          | none =>
            have hmalformed : ParseTwin (.malformed, _) (.malformed, _) := ⟨rfl, hresult⟩
            exact responseFinish_twin h.authorities hmalformed
          | some hcollected =>
            rename_i p p'
            obtain ⟨records, cnames⟩ := p
            obtain ⟨records', cnames'⟩ := p'
            obtain ⟨hcandidates, rfl⟩ := hcollected
            exact responseFinish_twin h.authorities
              (chainBuild_twin hchain hrecords hcandidates cnames hresult)

end Replies

/-! ## 4. Lookups -/

/-- What `res_nsend` yields on both sides, for queries with the given TXIDs. -/
inductive ReplyTwin (family : Family) (id id' : Nat) :
    Except Errno (Nat × Option Message) → Except Errno (Nat × Option Message) → Prop where
  | failed (errno : Errno) : ReplyTwin family id id' (.error errno) (.error errno)
  | replied {size size' : Nat} {message message' : Option Message}
      (hsize : size > nsMaxmsg ↔ size' > nsMaxmsg)
      (hmessage : Option.Rel (fun m m' => (m.id = id ↔ m'.id = id') ∧ MessageTwin family m m')
        message message') :
      ReplyTwin family id id' (.ok (size, message)) (.ok (size', message'))

/-- **Twin rounds of a lookup**: both fail alike, or both get twin replies. -/
structure QueryTwin (family : Family) (env env' : QueryEnv) : Prop where
  round : Option.Rel (fun id id' => ReplyTwin family id id' env.sent env'.sent) env.queryId
    env'.queryId
  arrays : env.arraysAllocated = env'.arraysAllocated
  chain : env.chainAllocated = env'.chainAllocated
  records : env.recordsAllocated = env'.recordsAllocated
  append : env.appendAllocated = env'.appendAllocated

/-- Turns that ask for the same name, or end alike. -/
inductive TurnTwin : LookupTurn AddressRecord → LookupTurn SrvRecord → Prop where
  | done {aggregate : AddressResult} {aggregate' : SrvResult} (status : LookupStatus)
      (h : ResultTwin aggregate aggregate') :
        TurnTwin (.done status aggregate) (.done status aggregate')
  | ask {aggregate : AddressResult} {aggregate' : SrvResult} (queryName : Bytes) (chainTtl : UInt32)
      (h : ResultTwin aggregate aggregate') :
      TurnTwin (.ask queryName aggregate chainTtl) (.ask queryName aggregate' chainTtl)

section Turn

variable {aggregate source : AddressResult} {aggregate' source' : SrvResult}

theorem chainTarget_twin (h : ResultTwin aggregate aggregate') (hs : ResultTwin source source') :
    ResultTwin (chainTarget aggregate source) (chainTarget aggregate' source') := by
  unfold chainTarget
  rw [h.questionName]
  split
  · exact ⟨h.records, hs.questionName, h.cnames, h.negative, hs.questionName, h.rcode⟩
  · exact h

/-- What an append leads to on both sides. -/
inductive AppendTwin : Except LookupStatus (AddressResult × UInt32) →
    Except LookupStatus (SrvResult × UInt32) → Prop where
  | failed (status : LookupStatus) : AppendTwin (.error status) (.error status)
  | appended {result : AddressResult} {result' : SrvResult} (h : ResultTwin result result')
      (chainTtl : UInt32) : AppendTwin (.ok (result, chainTtl)) (.ok (result', chainTtl))

theorem chainAppend_twin (h : ResultTwin aggregate aggregate') (hs : ResultTwin source source')
    (allocated : Bool) (chainTtl : UInt32) :
    AppendTwin (chainAppend allocated aggregate source chainTtl)
      (chainAppend allocated aggregate' source' chainTtl) := by
  have htarget := chainTarget_twin h hs
  unfold chainAppend
  dsimp only
  rw [htarget.canonicalName, htarget.cnames, hs.questionName, hs.cnames]
  split
  · exact .failed _
  split
  · exact .failed _
  split
  · exact .failed _
  split
  · exact .failed _
  · refine .appended ?_ _
    exact ⟨htarget.records, hs.canonicalName, rfl, htarget.negative, htarget.questionName, hs.rcode⟩

/-- The records of a response, under the TTL of the whole chain. -/
theorem records_twin {records : List AddressRecord} {records' : List SrvRecord}
    (h : List.Forall₂ RecordTwin records records') (ttl : UInt32) :
    List.Forall₂ RecordTwin
      (records.map fun r => { r with effectiveTtl := ttlMin ttl r.effectiveTtl })
      (records'.map fun r => { r with effectiveTtl := ttlMin ttl r.effectiveTtl }) := by
  induction h with
  | nil => exact .nil
  | cons hr _ ih => exact .cons ⟨hr.ttl, congrArg (ttlMin ttl) hr.effective⟩ ih

theorem lookupResponse_twin {env env' : QueryEnv}
    (henv : env.appendAllocated = env'.appendAllocated)
    (queryName : Bytes) (chainTtl : UInt32) (h : ResultTwin aggregate aggregate')
    (hs : ResultTwin source source') (status : ParseStatus) :
    TurnTwin (lookupResponse env queryName aggregate chainTtl status source)
      (lookupResponse env' queryName aggregate' chainTtl status source') := by
  unfold lookupResponse
  rw [hs.questionName]
  split
  · exact .done _ h
  have happend := chainAppend_twin h hs env.appendAllocated chainTtl
  rw [← henv, hs.rcode]
  generalize chainAppend env.appendAllocated aggregate source chainTtl = appended,
    chainAppend env.appendAllocated aggregate' source' chainTtl = appended' at happend ⊢
  cases status with
  | nodata | nxdomain =>
    cases happend with
    | failed status => exact .done _ h
    | appended hnext ttl =>
      refine .done _ ⟨hnext.records, hnext.canonicalName, hnext.cnames, ?_, hnext.questionName,
        hnext.rcode⟩
      rw [hs.negative]
  | ok =>
    cases happend with
    | failed status => exact .done _ h
    | appended hnext ttl =>
      exact .done _ ⟨records_twin hs.records ttl, hnext.canonicalName, hnext.cnames, hnext.negative,
        hnext.questionName, hnext.rcode⟩
  | aliasOnly =>
    cases happend with
    | failed status => exact .done _ h
    | appended hnext ttl =>
      dsimp only
      rw [if_neg nofun, if_neg nofun, hnext.canonicalName]
      exact .ask _ _ hnext
  | rcodeError | limit | malformed | memory | truncated | badArgument =>
    dsimp only
    rw [h.questionName]
    split
    · exact .done _ h
    split
    · exact .done _ hs
    · exact .done _ ⟨h.records, h.canonicalName, h.cnames, h.negative, rfl, rfl⟩

end Turn

section Loop

variable {family : Family}

/-- **One turn on both sides.** -/
theorem lookupTurn_twin {env env' : QueryEnv} (henv : QueryTwin family env env') (queryName : Bytes)
    (chainTtl : UInt32) {aggregate : AddressResult} {aggregate' : SrvResult}
    (h : ResultTwin aggregate aggregate') :
    TurnTwin (lookupTurn (dnsAddressResponseParse family) env queryName aggregate chainTtl)
      (dnsSrvLookupTurn env' queryName aggregate' chainTtl) := by
  have hround := henv.round
  rw [dnsSrvLookupTurn_eq]
  unfold lookupTurn dnsQueryExact
  generalize env.queryId = queryId, env'.queryId = queryId' at hround ⊢
  cases hround with
  | none => exact .done _ h
  | some hreply =>
    generalize env.sent = sent, env'.sent = sent' at hreply ⊢
    cases hreply with
    | failed errno => cases errno <;> exact .done _ h
    | replied hsize hmessage =>
      rename_i size size' message message'
      have hparsed := responseParse_twin henv.arrays henv.chain henv.records hmessage queryName
      dsimp only
      by_cases hlong : size' > nsMaxmsg
      · rw [if_pos (hsize.2 hlong), if_pos hlong]
        exact .done _ h
      · rw [if_neg (fun e => hlong (hsize.1 e)), if_neg hlong, hparsed.status]
        exact lookupResponse_twin henv.append queryName chainTtl h hparsed.result _

variable {queries queries' : Nat → QueryEnv}

/-- What the loop returns on both sides. -/
def LookupTwin : Option (LookupStatus × AddressResult) → Option (LookupStatus × SrvResult) → Prop :=
  Option.Rel fun looked looked' => looked.1 = looked'.1 ∧ ResultTwin looked.2 looked'.2

/-- **The loop of one side simulates the loop of the other.** -/
theorem lookupLoop_twin (hqueries : ∀ turn, QueryTwin family (queries turn) (queries' turn))
    (fuel turn : Nat) (queryName : Bytes) (chainTtl : UInt32) {aggregate : AddressResult}
    {aggregate' : SrvResult} (h : ResultTwin aggregate aggregate') :
    LookupTwin
      (lookupLoop (dnsAddressResponseParse family) queries fuel turn queryName aggregate chainTtl)
      (dnsSrvLookupLoop queries' fuel turn queryName aggregate' chainTtl) ∧
    lookupNames (dnsAddressResponseParse family) queries fuel turn queryName aggregate chainTtl =
      dnsSrvLookupNames queries' fuel turn queryName aggregate' chainTtl := by
  induction fuel generalizing turn queryName chainTtl aggregate aggregate' with
  | zero => exact ⟨.none, rfl⟩
  | succ fuel ih =>
    have hturn := lookupTurn_twin (hqueries turn) queryName chainTtl h
    rw [lookupLoop, dnsSrvLookupLoop, lookupNames, dnsSrvLookupNames]
    generalize lookupTurn _ (queries turn) queryName aggregate chainTtl = next,
      dnsSrvLookupTurn (queries' turn) queryName aggregate' chainTtl = next' at hturn ⊢
    cases hturn with
    | done status hdone =>
      refine ⟨.some ⟨rfl, ?_⟩, rfl⟩
      dsimp only
      rw [dnsSrvLookupStatusKeepsResult_eq]
      split
      · exact hdone
      · exact .empty
    | ask queryName chainTtl hnext =>
      obtain ⟨hlooked, hnames⟩ := ih (turn + 1) queryName chainTtl hnext
      exact ⟨hlooked, congrArg (_ :: ·) hnames⟩

end Loop

/-- Lookups whose rounds are twins, in the terms of the source. -/
structure EnvTwin (family : Family) (env env' : LookupEnv) : Prop where
  ready : env.resolverReady = env'.resolverReady
  response : env.responseAllocated = env'.responseAllocated
  queries : ∀ turn, QueryTwin family (env.queries turn) (env'.queries turn)

/-- **What the two sides agree on.** -/
structure SidesAgree (family : Family) : Prop where
  /-- Chain building: the same status, chain, canonical name and effective TTLs. -/
  chains : ∀ env addresses records cnames question rcode,
    List.Forall₂ CandidateTwin addresses records →
      ParseTwin (dnsResponseChainBuild env addresses cnames { questionName := question, rcode })
        (dnsSrvResponseChainBuild env records cnames { questionName := question, rcode })
  /-- Lookups: the same names asked in the same order ... -/
  asked : ∀ env env' hostname fuel, EnvTwin family env env' →
    dnsAddressQueried env hostname family fuel = dnsSrvQueried env' hostname fuel
  /-- ... and both return, with one status and twin results. -/
  returned : ∀ env env' hostname, EnvTwin family env env' →
    ∃ status result result', dnsAddressLookup env hostname family = some (status, result) ∧
      dnsSrvLookup env' hostname = some (status, result') ∧ ResultTwin result result'

/-- **Address and SRV resolution agree**, for every question and every pair of twin replies. -/
theorem address_srv_agree (family : Family) : SidesAgree family where
  chains _ _ _ cnames _ _ h := chainBuild_twin rfl rfl h cnames ⟨.nil, rfl, rfl, rfl, rfl, rfl⟩
  asked env env' hostname fuel h := by
    unfold dnsAddressQueried lookupQueried dnsSrvQueried
    rw [h.ready, h.response]
    split
    · rfl
    · exact (lookupLoop_twin h.queries fuel 0 hostname _ .empty).2
  returned env env' hostname h := by
    have htwin : LookupTwin (dnsAddressLookup env hostname family)
        (dnsSrvLookup env' hostname) := by
      unfold dnsAddressLookup lookup dnsSrvLookup
      rw [h.ready, h.response]
      split
      · exact .some ⟨rfl, .empty⟩
      split
      · exact .some ⟨rfl, .empty⟩
      split
      · exact .some ⟨rfl, .empty⟩
      · exact (lookupLoop_twin h.queries _ 0 hostname _ .empty).1
    obtain ⟨status, result, hlooked, -⟩ := (dnsAddressLookup_ends family).returns env hostname
    rw [hlooked] at htwin ⊢
    generalize dnsSrvLookup env' hostname = looked' at htwin ⊢
    cases htwin with
    | some htwin =>
      rename_i looked'
      obtain ⟨status', result'⟩ := looked'
      obtain ⟨rfl, hresult⟩ := htwin
      exact ⟨_, result, result', rfl, rfl, hresult⟩

/-- A record of the class IN for the name `a`. -/
def twinRecord (type : Nat) (rdata : Bytes) : ResourceRecord where
  name := [97]
  rrType := type
  rrClass := classIn
  ttl := 60
  rdata := rdata
  rdataInside := true
  uncompress _ := some ([98], 1)

/-- One round that is answered with one record of the type asked for. -/
def twinEnv (type : QueryType) (rdata : Bytes) : LookupEnv where
  queries _ := {
    queryId := some 7
    sent := .ok (40, some {
      id := 7, qr := true, opcode := opcodeQuery, tc := false, rcode := Message.noerror
      questions := [some (twinRecord type.code [])]
      answers := [some (twinRecord type.code rdata)]
      authorities := [] }) }

/-- An address for the name on one side, a service on the other. -/
theorem address_srv_agree_answered :
    EnvTwin .inet (twinEnv .a [1, 2, 3, 4]) (twinEnv .srv [0, 1, 0, 2, 0, 3, 0]) ∧
      dnsAddressQueried (twinEnv .a [1, 2, 3, 4]) [97] .inet lookupFuel =
        dnsSrvQueried (twinEnv .srv [0, 1, 0, 2, 0, 3, 0]) [97] lookupFuel := by
  have htwin : EnvTwin .inet (twinEnv .a [1, 2, 3, 4]) (twinEnv .srv [0, 1, 0, 2, 0, 3, 0]) := by
    refine ⟨rfl, rfl, fun _ => ⟨.some (.replied Iff.rfl (.some ⟨Iff.rfl, ?_⟩)), rfl, rfl, rfl, rfl⟩⟩
    refine ⟨rfl, rfl, rfl, rfl, .cons (.some ⟨rfl, rfl, by decide⟩) .nil,
      .cons (.some ?_) .nil, rfl⟩
    exact .data ⟨rfl, rfl⟩ ⟨rfl, rfl⟩ (.some ⟨rfl, rfl⟩)
  exact ⟨htwin, (address_srv_agree .inet).asked _ _ [97] lookupFuel htwin⟩

end MinecraftRelay
