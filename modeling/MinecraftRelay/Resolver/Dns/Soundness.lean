/-
  File:      Resolver/Dns/Soundness.lean
  Subject:   WHAT A LOOKUP RETURNS (resolver/dns.c).

  Nothing is assumed about the replies: all names count up to `dns_name_equal`.  What is known of
  the names in them, if anything, is the predicate `N`.

  * `Parsed`, `responseParse_parsed` -- what one response is parsed to, status by status;
  * `Gathered` -- what a lookup carries from one query to the next;
  * `lookupTurn_turns` -- a turn ends the lookup, or makes the chain longer;
  * `lookup_found`, `lookupNames_length` -- so every lookup returns a result of the shape `Found`
    says, after at most 17 queries;
  * `lookups_sound` -- **both lookups, for every reply.**
-/
import MinecraftRelay.Resolver.Dns.Srv
import MinecraftRelay.Resolver.Dns.Walk

namespace MinecraftRelay

open Chains

variable {canonicalName : Bytes} {cnames : List CnameRecord} {negative : NegativeRecord}
  {allocated : Bool} {ttl : UInt32}

/-! ## 1. Chains -/

/-- Only the empty name has the empty key. -/
theorem nameKey_eq_nil {name : Bytes} : nameKey name = [] ↔ name = [] := by
  unfold nameKey rootDropped
  rw [List.map_eq_nil_iff]
  split
  · rw [← List.length_eq_zero_iff, List.length_dropLast, ← List.length_eq_zero_iff]
    omega
  · exact Iff.rfl

/-- **A chain of aliases from the question to the canonical name**, at most 16 of them, none of
    which points back. -/
structure SoundChain (N : Bytes → Prop) (question canonical : Bytes) (cnames : List CnameRecord) :
    Prop where
  start : N question
  finish : N canonical
  names : ∀ c ∈ cnames, N c.owner ∧ N c.target
  linked : Linked CnameRecord.ownerKey CnameRecord.targetKey (nameKey question) cnames
    (nameKey canonical)
  simple : Simple CnameRecord.ownerKey CnameRecord.targetKey cnames
  length_le : cnames.length ≤ cnameDepthLimit

variable {N : Bytes → Prop}

theorem SoundChain.owners_nodup {question canonical : Bytes}
    (h : SoundChain N question canonical cnames) : (cnames.map CnameRecord.ownerKey).Nodup :=
  (h.linked.nodup h.simple).sublist h.linked.owners_prefix.sublist

/-- Two chains that meet make one, if the second does not point back into the first. -/
theorem SoundChain.append {question middle middle' canonical : Bytes}
    {cnames cnames' : List CnameRecord} (h : SoundChain N question middle cnames)
    (h' : SoundChain N middle' canonical cnames') (hmeet : nameKey middle = nameKey middle')
    (hcross : ∀ b ∈ cnames', ∀ a ∈ cnames, b.targetKey ≠ a.ownerKey)
    (hlength : cnames.length + cnames'.length ≤ cnameDepthLimit) :
    SoundChain N question canonical (cnames ++ cnames') where
  start := h.start
  finish := h'.finish
  names c hc := by
    rcases List.mem_append.1 hc with hc | hc
    · exact h.names c hc
    · exact h'.names c hc
  linked := linked_append.2 ⟨nameKey middle, h.linked, hmeet ▸ h'.linked⟩
  simple := h.simple.append h'.simple hcross
  length_le := by
    rw [List.length_append]
    exact hlength

/-- The CNAME loop of an append: every alias of the source is new to the target. -/
theorem cnamesAppend_eq {target source cnames : List CnameRecord} {chainTtl chainTtl' : UInt32}
    (httl : chainTtl = dnsCnameTtlMin target)
    (h : cnamesAppend target source chainTtl = some (cnames, chainTtl')) :
    cnames = target ++ source ∧ chainTtl' = dnsCnameTtlMin cnames ∧
      ∀ b ∈ source, ∀ a ∈ target, b.targetKey ≠ a.ownerKey := by
  induction source generalizing target chainTtl with
  | nil =>
    cases h
    exact ⟨(List.append_nil _).symm, httl, nofun⟩
  | cons cname source ih =>
    unfold cnamesAppend at h
    split at h
    · cases h
    · rename_i hfresh
      obtain ⟨h1, h2, h3⟩ := ih (by rw [dnsCnameTtlMin_concat, httl]) h
      refine ⟨by rw [h1, List.append_assoc]; rfl, h2, ?_⟩
      intro b hb a ha
      rcases List.mem_cons.1 hb with rfl | hb
      · intro he
        exact hfresh (List.any_eq_true.2 ⟨a, ha, dnsNameEqual_iff_key.2 he.symm⟩)
      · exact h3 b hb a (List.mem_append_left _ ha)

/-! ## 2. Candidates and negative data -/

/-- The names that are read off a record. -/
structure ResourceRecord.Yields (N : Bytes → Prop) (record : ResourceRecord) : Prop where
  owner : ∀ name, dnsNameNormalize record.name = some name → N name
  rdata : ∀ offset target consumed name, record.uncompress offset = some (target, consumed) →
    dnsNameNormalize target = some name → N name

/-- The names that are read off a message. -/
structure Message.Yields (N : Bytes → Prop) (message : Message) : Prop where
  questions : ∀ record, some record ∈ message.questions → record.Yields N
  answers : ∀ record, some record ∈ message.answers → record.Yields N
  authorities : ∀ record, some record ∈ message.authorities → record.Yields N

/-- The addresses of a lookup are of its family. -/
def OfFamily (family : Family) (record : AddressRecord) : Prop := record.address.family = family

variable {ρ : Type}

/-- A collector that turns answers into candidates with the property `P`, at most one per answer. -/
def Collects (N : Bytes → Prop) (P : ρ → Prop)
    (collect : List (Option ResourceRecord) → Option (Collected ρ)) : Prop :=
  ∀ answers records cnames, (∀ rr, some rr ∈ answers → ResourceRecord.Yields N rr) →
    collect answers = some (records, cnames) →
      (∀ r ∈ records, P r.record) ∧ (∀ c ∈ cnames, N c.owner ∧ N c.target) ∧
        records.length ≤ answers.length

theorem dnsNameRecordParse_names {answer : ResourceRecord} (h : answer.Yields N)
    {cname : CnameRecord} (hp : dnsNameRecordParse answer = some cname) :
    N cname.owner ∧ N cname.target := by
  simp only [dnsNameRecordParse, Option.bind_eq_bind, Option.bind_eq_some_iff,
    Option.guard_eq_some'] at hp
  obtain ⟨-, -, ⟨target, consumed⟩, hu, -, -, owner, ho, target', ht, e⟩ := hp
  cases e
  exact ⟨h.owner _ ho, h.rdata _ _ _ _ hu ht⟩

theorem responseCollect_collects {P : ρ → Prop} {type : Nat}
    {candidate : ResourceRecord → Option (Candidate ρ)}
    (hc : ∀ rr r, ResourceRecord.Yields N rr → candidate rr = some r → P r.record) :
    Collects N P (responseCollect type candidate) := by
  intro answers
  induction answers with
  | nil =>
    intro records cnames _ h
    cases h
    exact ⟨nofun, nofun, Nat.le_refl _⟩
  | cons answer rest ih =>
    intro records cnames hw h
    have hrest : ∀ rr, some rr ∈ rest → ResourceRecord.Yields N rr :=
      fun rr hm => hw rr (List.mem_cons_of_mem _ hm)
    cases answer with
    | none => cases h
    | some answer =>
      have hanswer := hw answer List.mem_cons_self
      unfold responseCollect at h
      rw [List.length_cons]
      split at h
      · obtain ⟨h1, h2, h3⟩ := ih _ _ hrest h
        exact ⟨h1, h2, by omega⟩
      · split at h
        · simp only [Option.bind_eq_bind, Option.bind_eq_some_iff] at h
          obtain ⟨r, hr, ⟨records', cnames'⟩, hrec, e⟩ := h
          cases e
          obtain ⟨h1, h2, h3⟩ := ih _ _ hrest hrec
          refine ⟨?_, h2, Nat.succ_le_succ h3⟩
          intro x hx
          rcases List.mem_cons.1 hx with rfl | hx
          · exact hc answer x hanswer hr
          · exact h1 x hx
        · split at h
          · simp only [Option.bind_eq_bind, Option.bind_eq_some_iff] at h
            obtain ⟨c, hcname, ⟨records', cnames'⟩, hrec, e⟩ := h
            cases e
            obtain ⟨h1, h2, h3⟩ := ih _ _ hrest hrec
            refine ⟨h1, ?_, Nat.le_succ_of_le h3⟩
            intro x hx
            rcases List.mem_cons.1 hx with rfl | hx
            · exact dnsNameRecordParse_names hanswer hcname
            · exact h2 x hx
          · obtain ⟨h1, h2, h3⟩ := ih _ _ hrest h
            exact ⟨h1, h2, by omega⟩

theorem dnsResponseAddressesCollect_collects (family : Family) :
    Collects N (OfFamily family) (dnsResponseAddressesCollect family) := by
  refine responseCollect_collects ?_
  intro rr r hw h
  unfold addressCandidate at h
  split at h
  · simp only [Option.bind_eq_bind, Option.bind_eq_some_iff, Option.guard_eq_some'] at h
    obtain ⟨-, -, owner, ho, e⟩ := h
    cases e
    exact rfl
  · cases h

theorem dnsSrvResponseRecordsCollect_collects :
    Collects N (fun r => N r.target) dnsSrvResponseRecordsCollect := by
  rw [dnsSrvResponseRecordsCollect_eq]
  refine responseCollect_collects ?_
  intro rr r hw h
  simp only [srvCandidate, Option.bind_eq_bind, Option.bind_eq_some_iff, Option.guard_eq_some'] at h
  obtain ⟨-, -, -, -, ⟨target, consumed⟩, hu, -, -, owner, ho, target', ht, e⟩ := h
  cases e
  exact hw.rdata _ _ _ _ hu ht

/-- The negative data of a name: an enclosing zone and the TTLs of its SOA record, under the
    smallest TTL of the chain; or no data at all. -/
def NegativeFits (N : Bytes → Prop) (canonicalName : Bytes) (chainTtl : UInt32)
    (negative : NegativeRecord) : Prop :=
  if negative.valid then
    N negative.owner ∧ nameEncloses negative.owner canonicalName = true ∧
      negative.effectiveTtl = ttlMin chainTtl (ttlMin negative.minimum negative.recordTtl)
  else negative = {}

theorem NegativeFits.empty (canonicalName : Bytes) (chainTtl : UInt32) :
    NegativeFits N canonicalName chainTtl {} := rfl

/-- A shorter chain TTL takes over. -/
theorem NegativeFits.under {chainTtl : UInt32}
    (h : NegativeFits N canonicalName chainTtl negative) (ttl : UInt32) :
    NegativeFits N canonicalName (ttlMin ttl chainTtl)
      (if negative.valid then { negative with effectiveTtl := ttlMin ttl negative.effectiveTtl }
        else negative) := by
  unfold NegativeFits at h ⊢
  split at h
  · rename_i hv
    rw [if_pos hv, if_pos hv]
    refine ⟨h.1, h.2.1, ?_⟩
    rw [h.2.2, ttlMin_assoc]
  · rename_i hv
    rw [if_neg hv, if_neg hv]
    exact h

/-- Negative data is valid no longer than the chain. -/
theorem NegativeFits.le {chainTtl : UInt32}
    (h : NegativeFits N canonicalName chainTtl negative) (hvalid : negative.valid = true) :
    negative.effectiveTtl ≤ chainTtl := by
  unfold NegativeFits at h
  rw [if_pos hvalid] at h
  rw [h.2.2]
  exact (ttlMin_le _ _).1

theorem dnsNegativeRecordParse_spec {authority : ResourceRecord} (h : authority.Yields N)
    {candidate : NegativeRecord} (hp : dnsNegativeRecordParse authority = some candidate) :
    candidate.valid = true ∧ N candidate.owner ∧
      candidate.effectiveTtl = ttlMin candidate.minimum candidate.recordTtl := by
  simp only [dnsNegativeRecordParse, Option.bind_eq_bind, Option.bind_eq_some_iff,
    Option.guard_eq_some'] at hp
  obtain ⟨_, -, _, -, _, -, _, -, _, -, _, -, owner, ho, e⟩ := hp
  cases e
  exact ⟨rfl, h.owner _ ho, rfl⟩

/-- The loop over the authority section keeps negative data that fits, whatever SOA records it
    takes in. -/
theorem negativeCollect_fits {authorities : List (Option ResourceRecord)}
    (hw : ∀ rr, some rr ∈ authorities → ResourceRecord.Yields N rr)
    {result negative : NegativeRecord} (hfits : NegativeFits N canonicalName 0xFFFFFFFF result)
    (h : negativeCollect canonicalName authorities result = some negative) :
    NegativeFits N canonicalName 0xFFFFFFFF negative := by
  induction authorities generalizing result with
  | nil =>
    cases h
    exact hfits
  | cons authority rest ih =>
    have hrest : ∀ rr, some rr ∈ rest → ResourceRecord.Yields N rr :=
      fun rr hm => hw rr (List.mem_cons_of_mem _ hm)
    cases authority with
    | none => cases h
    | some authority =>
      unfold negativeCollect at h
      split at h
      · exact ih hrest hfits h
      split at h
      · cases h
      rename_i candidate hcandidate
      obtain ⟨hv, ho, ht⟩ :=
        dnsNegativeRecordParse_spec (hw authority List.mem_cons_self) hcandidate
      split at h
      · exact ih hrest hfits h
      rename_i hencloses
      split at h
      · -- the candidate's zone is closer, or the first
        refine ih hrest ?_ h
        unfold NegativeFits
        rw [if_pos hv, ttlMin_max]
        exact ⟨ho, by simpa using hencloses, ht⟩
      · rename_i hkeep
        split at h
        · -- the zone again: the smaller TTLs
          have hvalid : result.valid = true := by
            by_contra hno
            exact hkeep (Or.inl hno)
          refine ih hrest ?_ h
          unfold NegativeFits at hfits ⊢
          rw [if_pos hvalid] at hfits
          rw [if_pos hvalid, ttlMin_max]
          exact ⟨hfits.1, hfits.2.1, rfl⟩
        · exact ih hrest hfits h

theorem dnsNegativeResponseParse_fits {response : Message} (hw : response.Yields N)
    (h : dnsNegativeResponseParse response canonicalName cnames = .ok negative) :
    NegativeFits N canonicalName (dnsCnameTtlMin cnames) negative := by
  unfold dnsNegativeResponseParse at h
  split at h
  · cases h
  · split at h
    · cases h
    · rename_i result hresult
      have hfits := negativeCollect_fits hw.authorities (.empty _ _) hresult
      cases h
      have hunder := hfits.under (dnsCnameTtlMin cnames)
      rwa [ttlMin_comm (dnsCnameTtlMin cnames) 0xFFFFFFFF, ttlMin_max] at hunder

theorem dnsNegativeResponseParse_error {response : Message} {status : ParseStatus}
    (h : dnsNegativeResponseParse response canonicalName cnames = .error status) :
    status = .limit ∨ status = .malformed := by
  unfold dnsNegativeResponseParse at h
  split at h
  · cases h
    exact Or.inl rfl
  · split at h
    · cases h
      exact Or.inr rfl
    · cases h

/-! ## 3. One response -/

/-- The name that was asked for, as a response spells it. -/
structure Spelled (N : Bytes → Prop) (name question : Bytes) : Prop where
  key : nameKey question = nameKey name
  known : N question

/-- The result is about the name: its question is the name, and its chain leads from there to its
    canonical name. -/
structure Titled (N : Bytes → Prop) (name : Bytes) (result : DnsResult ρ) : Prop where
  question : nameKey result.questionName = nameKey name
  chain : SoundChain N result.questionName result.canonicalName result.cnames

/-- Every record has the property `P` and the smaller of its TTL and the chain's. -/
structure RecordsFit [TtlRecord ρ] (P : ρ → Prop) (result : DnsResult ρ) : Prop where
  ne_nil : result.records ≠ []
  length_le : result.records.length ≤ addressRecordLimit
  fit : ∀ r ∈ result.records, P r ∧ TtlRecord.effectiveTtl r =
    ttlMin (dnsCnameTtlMin result.cnames) (TtlRecord.recordTtl r)

section

variable [TtlRecord ρ] (N : Bytes → Prop) (P : ρ → Prop) (name : Bytes) (status : ParseStatus)
  (result : DnsResult ρ)

/-- What `..._chain_build` leaves in the result. -/
def Built : Prop :=
  match status with
  | .ok => Titled N name result ∧ RecordsFit P result
  | .aliasOnly => Titled N name result ∧ result.records = [] ∧ result.cnames ≠ []
  | .nodata => Titled N name result ∧ result.records = []
  | .limit | .malformed | .memory => True
  | .nxdomain | .rcodeError | .truncated | .badArgument => False

/-- **What a response is parsed to**, status by status. -/
def Parsed : Prop :=
  match status with
  | .ok => Titled N name result ∧ result.rcode = rcodeNoerror ∧ result.negative = {} ∧
      RecordsFit P result
  | .aliasOnly => Titled N name result ∧ result.rcode = rcodeNoerror ∧ result.negative = {} ∧
      result.records = [] ∧ result.cnames ≠ []
  | .nodata => Titled N name result ∧ result.rcode = rcodeNoerror ∧ result.records = [] ∧
      NegativeFits N result.canonicalName (dnsCnameTtlMin result.cnames) result.negative
  | .nxdomain => Titled N name result ∧ result.rcode = rcodeNxdomain ∧ result.records = [] ∧
      NegativeFits N result.canonicalName (dnsCnameTtlMin result.cnames) result.negative
  | .rcodeError => (∃ questionName rcode, Spelled N name questionName ∧
      result = { questionName, rcode }) ∧
      result.rcode ≠ rcodeNoerror ∧ result.rcode ≠ rcodeNxdomain ∧ result.rcode ≤ 15
  | .limit | .malformed | .memory | .truncated => result = {}
  | .badArgument => False

end

section Parse

variable [TtlRecord ρ] {P : ρ → Prop} {name : Bytes}

theorem chainBuild_built (hP : ∀ r ttl, P r → P (TtlRecord.withEffectiveTtl r ttl))
    {question : Bytes} (hquestion : Spelled N name question) {env : QueryEnv}
    {records : List (Candidate ρ)} (hr : ∀ r ∈ records, P r.record)
    (hlength : records.length ≤ addressRecordLimit)
    (hc : ∀ c ∈ cnames, N c.owner ∧ N c.target) {rcode : UInt8} {status : ParseStatus}
    {result : DnsResult ρ}
    (h : chainBuild env records cnames { questionName := question, rcode } = (status, result)) :
    Built N P name status result ∧ result.rcode = rcode ∧ result.negative = {} := by
  have hends := chainLoop_ends records cnames question
  unfold chainBuild at h
  split at h
  · cases h
    exact ⟨trivial, rfl, rfl⟩
  generalize hloop : chainLoop _ cnames cnameDepthLimit [] question 0xFFFFFFFF = ending at h
  change chainLoop (recordAt records) cnames cnameDepthLimit [] question 0xFFFFFFFF =
    ending at hloop
  rw [hloop] at hends
  rcases ending with failure | ⟨chain, canonical, ttl⟩
  · cases h
    refine ⟨?_, rfl, rfl⟩
    rcases hends.1 with e | e
    · rw [e]
      trivial
    · rw [e]
      trivial
  obtain ⟨path, hwalked, rfl, rfl, hend, hdepth⟩ := hends
  obtain ⟨hcanonical, hnames⟩ := hwalked.names hquestion.known hc
  have hchain : SoundChain N question canonical (path.map (stamped cnames)) :=
    ⟨hquestion.known, hcanonical, hnames, linked_map_iff.2 hwalked.along.linked,
      simple_map_iff.2 (hwalked.simple hend), (List.length_map (stamped cnames)).trans_le hdepth⟩
  dsimp only at h
  split at h
  · cases h
    refine ⟨?_, rfl, rfl⟩
    split
    · exact ⟨⟨hquestion.key, hchain⟩, rfl⟩
    · rename_i hne
      exact ⟨⟨hquestion.key, hchain⟩, rfl, fun e => hne (List.length_eq_zero_iff.2 e)⟩
  split at h
  · cases h
    exact ⟨trivial, rfl, rfl⟩
  · rename_i hne _
    cases h
    refine ⟨⟨⟨hquestion.key, hchain⟩, ?_, ?_, ?_⟩, rfl, rfl⟩
    · intro e
      exact hne (List.length_eq_zero_iff.2 (List.map_eq_nil_iff.1 e))
    · rw [List.length_map]
      exact Nat.le_trans (List.length_filter_le _ _) hlength
    · intro r hmem
      obtain ⟨candidate, hcandidate, e⟩ := List.mem_map.1 hmem
      have hin := (List.mem_filter.1 hcandidate).1
      rw [← e, TtlRecord.effectiveTtl_with, TtlRecord.recordTtl_with]
      exact ⟨hP _ _ (hr candidate hin), rfl⟩

/-- A status and its result before the last check: the result counts only if it is kept. -/
def Classified (N : Bytes → Prop) (P : ρ → Prop) (name : Bytes)
    (parsed : ParseStatus × DnsResult ρ) : Prop :=
  parsed.1.keepsResult = true ∧ Parsed N P name parsed.1 parsed.2 ∨
    parsed.1 = .limit ∨ parsed.1 = .malformed ∨ parsed.1 = .memory

theorem negativeAttach_classified {response : Message} (hw : response.Yields N)
    {result : DnsResult ρ} (htitled : Titled N name result) (hrecords : result.records = []) :
    (result.rcode = rcodeNoerror →
      Classified N P name (negativeAttach response .nodata result)) ∧
    (result.rcode = rcodeNxdomain →
      Classified N P name (negativeAttach response .nxdomain result)) := by
  unfold negativeAttach
  split
  · rename_i failure hfail
    have hdropped : failure = .limit ∨ failure = .malformed ∨ failure = .memory := by
      rcases dnsNegativeResponseParse_error hfail with e | e
      · exact Or.inl e
      · exact Or.inr (Or.inl e)
    exact ⟨fun _ => Or.inr hdropped, fun _ => Or.inr hdropped⟩
  · rename_i negative hnegative
    have hfits := dnsNegativeResponseParse_fits hw hnegative
    have htitled' : Titled N name { result with negative } := ⟨htitled.question, htitled.chain⟩
    exact ⟨fun hr => Or.inl ⟨rfl, htitled', hr, hrecords, hfits⟩,
      fun hr => Or.inl ⟨rfl, htitled', hr, hrecords, hfits⟩⟩

section

variable {response : Message} (hw : response.Yields N) {status : ParseStatus} {result : DnsResult ρ}
  (h : Built N P name status result)
  (hrcode : result.rcode = rcodeNoerror ∨ result.rcode = rcodeNxdomain)
  (hnegative : result.negative = {})

include hw h hrcode hnegative

theorem responseClassify_classified :
    Classified N P name (responseClassify response status result) := by
  unfold responseClassify
  split
  · rename_i hnx
    cases status with
    | ok => exact Or.inr (Or.inr (Or.inl rfl))
    | aliasOnly => exact (negativeAttach_classified hw h.1 h.2.1).2 hnx
    | nodata => exact (negativeAttach_classified hw h.1 h.2).2 hnx
    | limit => exact Or.inr (Or.inl rfl)
    | malformed => exact Or.inr (Or.inr (Or.inl rfl))
    | memory => exact Or.inr (Or.inr (Or.inr rfl))
    | nxdomain | rcodeError | truncated | badArgument => exact h.elim
  · rename_i hnx
    have hno : result.rcode = rcodeNoerror := hrcode.resolve_right hnx
    cases status with
    | ok => exact Or.inl ⟨rfl, h.1, hno, hnegative, h.2⟩
    | aliasOnly => exact Or.inl ⟨rfl, h.1, hno, hnegative, h.2⟩
    | nodata => exact (negativeAttach_classified hw h.1 h.2).1 hno
    | limit => exact Or.inr (Or.inl rfl)
    | malformed => exact Or.inr (Or.inr (Or.inl rfl))
    | memory => exact Or.inr (Or.inr (Or.inr rfl))
    | nxdomain | rcodeError | truncated | badArgument => exact h.elim

theorem responseFinish_parsed :
    Parsed N P name (responseFinish response status result).1
      (responseFinish response status result).2 := by
  have hclassified := responseClassify_classified hw h hrcode hnegative
  unfold responseFinish
  dsimp only
  rcases hclassified with ⟨hkept, hparsed⟩ | hdropped
  · rw [if_pos hkept]
    exact hparsed
  · rcases hdropped with e | e | e <;> rw [e] <;> rfl

end

/-- The rcode of a message is a nibble. -/
theorem rcode_le (rcode : Fin 16) : UInt8.ofNat rcode ≤ 15 := by
  show (rcode : Nat) % 256 ≤ 15
  omega

/-- A parser of responses that gives what `Parsed` says. -/
def Parses (N : Bytes → Prop) (P : ρ → Prop)
    (parse : QueryEnv → Option Message → Bytes → Nat → ParseStatus × DnsResult ρ) : Prop :=
  ∀ env message name queryId, (∀ m, message = some m → m.Yields N) →
    Parsed N P name (parse env message name queryId).1 (parse env message name queryId).2

/-- **Every response to a query for the name is parsed to what its status says.** -/
theorem responseParse_parsed (hP : ∀ r ttl, P r → P (TtlRecord.withEffectiveTtl r ttl))
    {collect : List (Option ResourceRecord) → Option (Collected ρ)}
    (hcollect : Collects N P collect) {type : QueryType} {recordLimit : Nat}
    (hlimit : recordLimit ≤ addressRecordLimit) :
    Parses N P (responseParse type recordLimit collect) := by
  intro env message name expectedId hw
  unfold responseParse
  split
  · rfl
  rename_i response
  have hw := hw response rfl
  split
  · rfl
  split
  · rfl
  split
  · rename_i question hquestions
    split
    · rfl
    split
    · rfl
    rename_i question
    have hyields : question.Yields N := by
      refine hw.questions question ?_
      rw [hquestions]
      exact List.mem_singleton_self _
    split
    · rfl
    split
    · rfl
    rename_i questionName hnormal
    split
    · rfl
    rename_i hequal
    have hspelled : Spelled N name questionName :=
      ⟨dnsNameEqual_iff_key.1 (by simpa using hequal), hyields.owner _ hnormal⟩
    dsimp only
    split
    · rename_i hrcode
      exact ⟨⟨_, _, hspelled, rfl⟩, hrcode.1, hrcode.2, rcode_le response.rcode⟩
    rename_i hrcode
    have hrcode : UInt8.ofNat response.rcode = rcodeNoerror ∨
        UInt8.ofNat response.rcode = rcodeNxdomain := by
      by_contra hno
      exact hrcode (not_or.1 hno)
    split
    · rfl
    split
    · rfl
    split
    · have hmalformed : Built N P name .malformed
          { questionName, rcode := UInt8.ofNat response.rcode } := trivial
      exact responseFinish_parsed hw hmalformed hrcode rfl
    · rename_i records cnames hcollected
      obtain ⟨hr, hc, hlength⟩ := hcollect _ _ _ hw.answers hcollected
      generalize hb : chainBuild env records cnames _ = built
      obtain ⟨status, built⟩ := built
      obtain ⟨hbuilt, hrcode', hnegative⟩ := chainBuild_built hP hspelled hr (by omega) hc hb
      rw [← hrcode'] at hrcode
      exact responseFinish_parsed hw hbuilt hrcode hnegative
  · rfl

end Parse

/-! ## 4. The chain of a lookup -/

section Outcomes

variable (N spelled : Bytes → Prop) (titled : DnsResult ρ → Prop)

/-- The result of a query that failed: nothing is known, or only the question, or the chain that
    was followed so far. -/
structure Unanswered (result : DnsResult ρ) : Prop where
  records : result.records = []
  negative : result.negative = {}
  rcode : result.rcode ≤ 15
  shape : result = {} ∨
    spelled result.questionName ∧ result.canonicalName = [] ∧ result.cnames = [] ∨
    titled result ∧ result.cnames ≠ []

/-- **What a lookup returns**, status by status; `spelled` says of a question, and `titled` of a
    result, that it is about the name that was looked up. -/
def Outcome [TtlRecord ρ] (P : ρ → Prop) (status : LookupStatus) (result : DnsResult ρ) : Prop :=
  match status with
  | .ok => titled result ∧ result.rcode = rcodeNoerror ∧ result.negative = {} ∧
      RecordsFit P result
  | .nodata => titled result ∧ result.rcode = rcodeNoerror ∧ result.records = [] ∧
      NegativeFits N result.canonicalName (dnsCnameTtlMin result.cnames) result.negative
  | .notFound => titled result ∧ result.rcode = rcodeNxdomain ∧ result.records = [] ∧
      NegativeFits N result.canonicalName (dnsCnameTtlMin result.cnames) result.negative
  | .permanentError => Unanswered spelled titled result ∧ result.rcode ≠ rcodeNxdomain ∧
      result.rcode ≠ rcodeServfail
  | .temporaryError => Unanswered spelled titled result ∧
      (result.rcode = rcodeNoerror ∨ result.rcode = rcodeServfail)
  | .badArgument | .limit | .malformed | .memory | .truncated => result = {}

end Outcomes

/-- All names count up to `dns_name_equal`. -/
abbrev Found [TtlRecord ρ] (N : Bytes → Prop) (P : ρ → Prop) (name : Bytes) :
    LookupStatus → DnsResult ρ → Prop :=
  Outcome N (Spelled N name) (Titled N name) P

/-- What a lookup has gathered before a query: nothing yet, or a chain from the name to the name
    that is queried next. -/
structure Gathered (N : Bytes → Prop) (name queryName : Bytes) (aggregate : DnsResult ρ)
    (chainTtl : UInt32) : Prop where
  name_ne : name ≠ []
  ttl : chainTtl = dnsCnameTtlMin aggregate.cnames
  records : aggregate.records = []
  negative : aggregate.negative = {}
  rcode : aggregate.rcode = rcodeNoerror
  shape : aggregate = {} ∧ queryName = name ∨
    Titled N name aggregate ∧ aggregate.cnames ≠ [] ∧ queryName = aggregate.canonicalName

theorem Gathered.empty {name : Bytes} (h : name ≠ []) :
    Gathered N name name ({} : DnsResult ρ) 0xFFFFFFFF :=
  ⟨h, rfl, rfl, rfl, rfl, Or.inl ⟨rfl, rfl⟩⟩

/-- The aggregate after a response was appended. -/
structure Extended (N : Bytes → Prop) (name : Bytes) (aggregate source aggregate' : DnsResult ρ)
    (chainTtl : UInt32) : Prop where
  titled : Titled N name aggregate'
  ttl : chainTtl = dnsCnameTtlMin aggregate'.cnames
  records : aggregate'.records = []
  negative : aggregate'.negative = {}
  rcode : aggregate'.rcode = source.rcode
  canonical : aggregate'.canonicalName = source.canonicalName
  cnames : aggregate'.cnames = aggregate.cnames ++ source.cnames

section Append

variable {name queryName : Bytes} {aggregate source : DnsResult ρ} {chainTtl : UInt32}

section

variable (h : Gathered N name queryName aggregate chainTtl)

include h

/-- An aggregate with a chain has a question. -/
theorem Gathered.question_ne (htitled : Titled N name aggregate) : aggregate.questionName ≠ [] := by
  intro hnil
  have hkey := htitled.question
  rw [nameKey_eq_nil.2 hnil] at hkey
  exact h.name_ne (nameKey_eq_nil.1 hkey.symm)

/-- An aggregate that has no question yet takes that of the response. -/
theorem Gathered.target (hs : Titled N queryName source) :
    Titled N name (chainTarget aggregate source) ∧
      (chainTarget aggregate source).cnames = aggregate.cnames ∧
      (chainTarget aggregate source).records = [] ∧
      (chainTarget aggregate source).negative = {} := by
  unfold chainTarget
  rcases h.shape with ⟨rfl, rfl⟩ | ⟨htitled, -, -⟩
  · exact ⟨⟨hs.question, hs.chain.start, hs.chain.start, nofun, rfl, .nil, Nat.zero_le _⟩, rfl, rfl,
      rfl⟩
  · rw [if_neg (h.question_ne htitled)]
    exact ⟨htitled, rfl, h.records, h.negative⟩

theorem chainAppend_extended (hs : Titled N queryName source) {aggregate' : DnsResult ρ}
    (happend : chainAppend allocated aggregate source chainTtl = .ok (aggregate', ttl)) :
    Extended N name aggregate source aggregate' ttl := by
  obtain ⟨htitled, hcnames, hrecords, hnegative⟩ := h.target hs
  unfold chainAppend at happend
  dsimp only at happend
  split at happend
  · cases happend
  rename_i hmeet
  have hmeet := dnsNameEqual_iff_key.1 (not_not.1 hmeet)
  split at happend
  · cases happend
  split at happend
  · cases happend
  split at happend
  · cases happend
  · rename_i cnames ttl' hloop
    cases happend
    obtain ⟨he, httl, hcross⟩ := cnamesAppend_eq (by rw [hcnames]; exact h.ttl) hloop
    have hlength := htitled.chain.length_le
    exact {
      titled := ⟨htitled.question, by
        rw [he]
        exact htitled.chain.append hs.chain hmeet hcross (by omega)⟩
      ttl := httl
      records := hrecords
      negative := hnegative
      rcode := rfl
      canonical := rfl
      cnames := by rw [he, hcnames] }

end

theorem chainAppend_error {status : LookupStatus}
    (happend : chainAppend allocated aggregate source chainTtl = .error status) :
    status = .malformed ∨ status = .limit ∨ status = .memory := by
  unfold chainAppend at happend
  dsimp only at happend
  split at happend
  · cases happend
    exact Or.inl rfl
  split at happend
  · cases happend
    exact Or.inr (Or.inl rfl)
  split at happend
  · cases happend
    exact Or.inr (Or.inr rfl)
  split at happend
  · cases happend
    exact Or.inl rfl
  · cases happend

end Append

/-! ## 5. Lookups -/

/-- What a turn of a lookup leads to. -/
def Turns [TtlRecord ρ] (N : Bytes → Prop) (P : ρ → Prop) (name : Bytes) (aggregate : DnsResult ρ) :
    LookupTurn ρ → Prop
  | .done status result => status.keepsResult = true → Found N P name status result
  | .ask queryName aggregate' chainTtl => Gathered N name queryName aggregate' chainTtl ∧
      aggregate.cnames.length < aggregate'.cnames.length

theorem dnsQueryExact_error {env : QueryEnv} {status : LookupStatus}
    (h : dnsQueryExact env = .error status) :
    status = .permanentError ∨ status = .temporaryError ∨ status.keepsResult = false := by
  unfold dnsQueryExact at h
  split at h
  · cases h
    exact Or.inl rfl
  · split at h <;> cases h
    · exact Or.inr (Or.inr rfl)
    · exact Or.inr (Or.inr rfl)
    all_goals first
      | exact Or.inl rfl
      | exact Or.inr (Or.inl rfl)

theorem dnsQueryExact_ok {env : QueryEnv} {size queryId : Nat} {message : Option Message}
    (h : dnsQueryExact env = .ok (size, queryId, message)) : env.sent = .ok (size, message) := by
  unfold dnsQueryExact at h
  split at h
  · cases h
  · split at h <;> cases h
    assumption

section Lookups

variable [TtlRecord ρ] {P : ρ → Prop} {name queryName : Bytes} {aggregate response : DnsResult ρ}
  {chainTtl : UInt32} {env : QueryEnv}

theorem turns_append_error {status : LookupStatus}
    (happend : chainAppend allocated aggregate response chainTtl = .error status) :
    Turns N P name aggregate (.done status aggregate) := by
  intro hkept
  rcases chainAppend_error happend with e | e | e <;> rw [e] at hkept <;> cases hkept

/-- The records of the last response, under the TTL of the whole chain. -/
theorem RecordsFit.under (hP : ∀ r ttl, P r → P (TtlRecord.withEffectiveTtl r ttl))
    {aggregate' : DnsResult ρ}
    (happend : Extended N name aggregate response aggregate' ttl) (h : RecordsFit P response) :
    RecordsFit P { aggregate' with
      records := response.records.map fun r =>
        TtlRecord.withEffectiveTtl r (ttlMin ttl (TtlRecord.effectiveTtl r)) } := by
  refine ⟨fun e => h.ne_nil (List.map_eq_nil_iff.1 e), ?_, fun r hr => ?_⟩
  · rw [List.length_map]
    exact h.length_le
  · obtain ⟨x, hx, e⟩ := List.mem_map.1 hr
    obtain ⟨hPx, hfit⟩ := h.fit x hx
    refine ⟨e ▸ hP x _ hPx, ?_⟩
    rw [← e, TtlRecord.effectiveTtl_with, TtlRecord.recordTtl_with, hfit, happend.ttl,
      happend.cnames]
    exact ttlMin_dnsCnameTtlMin_append _ _ _

omit [TtlRecord ρ] in
/-- The negative data of the last response, under the TTL of the whole chain. -/
theorem NegativeFits.appended {aggregate' : DnsResult ρ}
    (happend : Extended N name aggregate response aggregate' ttl)
    (h : NegativeFits N response.canonicalName (dnsCnameTtlMin response.cnames)
      response.negative) :
    NegativeFits N aggregate'.canonicalName (dnsCnameTtlMin aggregate'.cnames)
      (if response.negative.valid then
          { response.negative with
            effectiveTtl := ttlMin ttl response.negative.effectiveTtl }
        else response.negative) := by
  have hunder := h.under ttl
  have httl : ttlMin ttl (dnsCnameTtlMin response.cnames) = dnsCnameTtlMin aggregate'.cnames := by
    have hpart := ttlMin_dnsCnameTtlMin_append aggregate.cnames response.cnames 0xFFFFFFFF
    rw [← happend.cnames, ← happend.ttl, ttlMin_comm (dnsCnameTtlMin response.cnames), ttlMin_max,
      ttlMin_comm ttl 0xFFFFFFFF, ttlMin_max] at hpart
    rw [hpart, happend.ttl]
  rw [httl] at hunder
  rw [happend.canonical]
  exact hunder

/-- An error code ends the lookup.  Its status tells a server failure from other codes. -/
theorem turns_rcodeError (h : Gathered N name queryName aggregate chainTtl)
    (hp : Parsed N P queryName .rcodeError response) :
    Turns N P name aggregate
      (if ¬ (lookupParseStatus .rcodeError response.rcode).keepsResult then
          .done (lookupParseStatus .rcodeError response.rcode) aggregate
        else if aggregate.questionName = [] then
          .done (lookupParseStatus .rcodeError response.rcode) response
        else
          .done (lookupParseStatus .rcodeError response.rcode)
            { aggregate with rcode := response.rcode }) := by
  obtain ⟨⟨questionName, rcode, hspelled, hresponse⟩, hno, hnx, hle⟩ := hp
  -- whatever of the two results is kept, its rcode is that of the response
  have hfound : ∀ result : DnsResult ρ, Unanswered (Spelled N name) (Titled N name) result →
      result.rcode = response.rcode →
      Turns N P name aggregate
        (.done (lookupParseStatus .rcodeError response.rcode) result) := by
    intro result hu hr _
    show Found N P name
      (if response.rcode = rcodeServfail then .temporaryError else .permanentError) result
    split
    · rename_i hserv
      exact ⟨hu, Or.inr (hr.trans hserv)⟩
    · rename_i hserv
      exact ⟨hu, fun e => hnx (hr.symm.trans e), fun e => hserv (hr.symm.trans e)⟩
  split
  · rename_i hdropped
    intro hkept
    exact absurd hkept hdropped
  split
  · rename_i hnil
    refine hfound response ?_ rfl
    rcases h.shape with ⟨-, rfl⟩ | ⟨htitled, -, -⟩
    · rw [hresponse] at hle ⊢
      exact ⟨rfl, rfl, hle, Or.inr (Or.inl ⟨hspelled, rfl, rfl⟩)⟩
    · exact absurd hnil (h.question_ne htitled)
  · rename_i hne
    refine hfound _ ?_ rfl
    rcases h.shape with ⟨he, -⟩ | ⟨htitled, hcnames, -⟩
    · rw [he] at hne
      exact absurd rfl hne
    · exact ⟨h.records, h.negative, hle,
        Or.inr (Or.inr ⟨⟨htitled.question, htitled.chain⟩, hcnames⟩)⟩

/-- **One response**: the lookup ends with a result that fits its status, or it has a longer
    chain and asks for the name at its end. -/
theorem lookupResponse_turns (hP : ∀ r ttl, P r → P (TtlRecord.withEffectiveTtl r ttl))
    (h : Gathered N name queryName aggregate chainTtl) {status : ParseStatus}
    (hp : Parsed N P queryName status response) :
    Turns N P name aggregate
      (lookupResponse env queryName aggregate chainTtl status response) := by
  unfold lookupResponse
  split
  · exact nofun
  cases status with
  | ok =>
    obtain ⟨htitled, hrcode, -, hfit⟩ := hp
    dsimp only
    split
    · exact turns_append_error ‹_›
    · rename_i aggregate' ttl happend
      have happend := chainAppend_extended h htitled happend
      intro _
      exact ⟨⟨happend.titled.question, happend.titled.chain⟩, happend.rcode.trans hrcode,
        happend.negative, hfit.under hP happend⟩
  | aliasOnly =>
    obtain ⟨htitled, hrcode, -, -, hne⟩ := hp
    dsimp only
    split
    · exact turns_append_error ‹_›
    · rename_i aggregate' ttl happend
      have happend := chainAppend_extended h htitled happend
      have hlength := congrArg List.length happend.cnames
      have hpos := List.length_pos_iff.2 hne
      rw [List.length_append] at hlength
      refine ⟨⟨h.name_ne, happend.ttl, happend.records, happend.negative,
        happend.rcode.trans hrcode, Or.inr ⟨happend.titled, ?_, rfl⟩⟩, by omega⟩
      intro hnil
      rw [hnil, List.length_nil] at hlength
      omega
  | nodata | nxdomain =>
    obtain ⟨htitled, hrcode, -, hfits⟩ := hp
    dsimp only
    split
    · exact turns_append_error ‹_›
    · rename_i aggregate' ttl happend
      have happend := chainAppend_extended h htitled happend
      have hfits := hfits.appended happend
      intro _
      exact ⟨⟨happend.titled.question, happend.titled.chain⟩, happend.rcode.trans hrcode,
        happend.records, hfits⟩
  | rcodeError => exact turns_rcodeError h hp
  | limit | malformed | memory | truncated => exact nofun
  | badArgument => exact hp.elim

variable {parse : QueryEnv → Option Message → Bytes → Nat → ParseStatus × DnsResult ρ}

/-- One turn, whatever libresolv returns. -/
theorem lookupTurn_turns (hP : ∀ r ttl, P r → P (TtlRecord.withEffectiveTtl r ttl))
    (hparse : Parses N P parse)
    (hw : ∀ size message, env.sent = .ok (size, some message) → message.Yields N)
    (h : Gathered N name queryName aggregate chainTtl) :
    Turns N P name aggregate (lookupTurn parse env queryName aggregate chainTtl) := by
  have hfailed : Unanswered (Spelled N name) (Titled N name) aggregate := by
    refine ⟨h.records, h.negative, by rw [h.rcode]; decide, ?_⟩
    rcases h.shape with ⟨he, -⟩ | ⟨htitled, hne, -⟩
    · exact Or.inl he
    · exact Or.inr (Or.inr ⟨htitled, hne⟩)
  unfold lookupTurn
  split
  · -- the query failed: the aggregate is kept for the two errors of the resolver only
    rename_i status hfail
    rcases dnsQueryExact_error hfail with e | e | e
    · intro _
      rw [e]
      exact ⟨hfailed, by rw [h.rcode]; decide, by rw [h.rcode]; decide⟩
    · intro _
      rw [e]
      exact ⟨hfailed, Or.inl h.rcode⟩
    · intro hkept
      rw [e] at hkept
      cases hkept
  · rename_i size queryId message hquery
    split
    · exact nofun
    · refine lookupResponse_turns hP h (hparse env message queryName queryId ?_)
      intro m hm
      rw [hm] at hquery
      exact hw size m (dnsQueryExact_ok hquery)

omit [TtlRecord ρ] in
theorem Gathered.length_le (h : Gathered N name queryName aggregate chainTtl) :
    aggregate.cnames.length ≤ cnameDepthLimit := by
  rcases h.shape with ⟨he, -⟩ | ⟨htitled, -, -⟩
  · rw [he]
    exact Nat.zero_le _
  · exact htitled.chain.length_le

theorem found_dropped {status : LookupStatus} (h : status.keepsResult = false) :
    Found N P name status ({} : DnsResult ρ) := by
  cases status with
  | ok | nodata | notFound | permanentError | temporaryError => cases h
  | badArgument | limit | malformed | memory | truncated => rfl

section Runs

variable {queries : Nat → QueryEnv} (hP : ∀ r ttl, P r → P (TtlRecord.withEffectiveTtl r ttl))
  (hparse : Parses N P parse)
  (hw : ∀ turn size message, (queries turn).sent = .ok (size, some message) → message.Yields N)

include hP hparse hw

/-- **The loop ends**: the chain grows with every turn that asks on, and it has at most 16
    aliases. -/
theorem lookupLoop_found {fuel turn : Nat} (h : Gathered N name queryName aggregate chainTtl)
    (hfuel : cnameDepthLimit < aggregate.cnames.length + fuel) :
    ∃ status result, lookupLoop parse queries fuel turn queryName aggregate chainTtl =
      some (status, result) ∧ Found N P name status result := by
  induction fuel generalizing turn queryName aggregate chainTtl with
  | zero =>
    have hlength := h.length_le
    omega
  | succ fuel ih =>
    have hturn := lookupTurn_turns hP hparse (hw turn) h
    unfold lookupLoop
    split
    · rename_i status result he
      rw [he] at hturn
      refine ⟨status, _, rfl, ?_⟩
      cases hk : status.keepsResult with
      | true => exact hturn hk
      | false => exact found_dropped hk
    · rename_i queryName' aggregate' chainTtl' he
      rw [he] at hturn
      obtain ⟨h', hlonger⟩ := hturn
      exact ih h' (by omega)

/-- Every query but the last makes the chain longer. -/
theorem lookupNames_length {turn : Nat} (fuel : Nat)
    (h : Gathered N name queryName aggregate chainTtl) :
    (lookupNames parse queries fuel turn queryName aggregate chainTtl).length +
      aggregate.cnames.length ≤ cnameDepthLimit + 1 := by
  have hlength := h.length_le
  induction fuel generalizing turn queryName aggregate chainTtl with
  | zero =>
    rw [lookupNames, List.length_nil]
    omega
  | succ fuel ih =>
    have hturn := lookupTurn_turns hP hparse (hw turn) h
    rw [lookupNames, List.length_cons]
    generalize lookupTurn parse (queries turn) queryName aggregate chainTtl = next at hturn ⊢
    cases next with
    | done status result =>
      rw [List.length_nil]
      omega
    | ask queryName' aggregate' chainTtl' =>
      obtain ⟨hgathered, hlonger⟩ := hturn
      have hrest : (lookupNames parse queries fuel (turn + 1) _ _ _).length + _ ≤ _ :=
        ih hgathered hgathered.length_le
      dsimp only
      omega

end Runs

/-- **Every lookup returns**, and its result fits its status. -/
theorem lookup_found (hP : ∀ r ttl, P r → P (TtlRecord.withEffectiveTtl r ttl))
    (hparse : Parses N P parse) {env : LookupEnv}
    (hw : ∀ turn size message, (env.queries turn).sent = .ok (size, some message) →
      message.Yields N) (name : Bytes) :
    ∃ status result, lookup parse env name = some (status, result) ∧
      Found N P name status result := by
  have hrcode : rcodeNoerror ≤ 15 ∧ rcodeNoerror ≠ rcodeNxdomain ∧
      rcodeNoerror ≠ rcodeServfail := by
    decide
  have hfuel : cnameDepthLimit < 0 + lookupFuel := by decide
  unfold lookup
  split
  · exact ⟨_, _, rfl, rfl⟩
  rename_i hvalid
  split
  · exact ⟨_, _, rfl, ⟨rfl, rfl, hrcode.1, Or.inl rfl⟩, hrcode.2⟩
  split
  · exact ⟨_, _, rfl, rfl⟩
  · exact lookupLoop_found hP hparse hw (.empty fun e => hvalid (Or.inl e)) hfuel

end Lookups

/-! ## 6. Whatever the servers reply -/

/-- **What holds of an answer**: its chain has at most 16 aliases, starts at the name, has no gap
    and no owner twice, ends at the canonical name, and its TTLs bound all others. -/
structure LookupSound [TtlRecord ρ] (name : Bytes) (result : DnsResult ρ) : Prop where
  length_le : result.cnames.length ≤ 16
  question : nameKey result.questionName = nameKey name
  linked : Linked CnameRecord.ownerKey CnameRecord.targetKey (nameKey result.questionName)
    result.cnames (nameKey result.canonicalName)
  owners : (result.cnames.map CnameRecord.ownerKey).Nodup
  records : ∀ c ∈ result.cnames, ∀ r ∈ result.records, TtlRecord.effectiveTtl r ≤ c.ttl
  negative : result.negative.valid = true →
    ∀ c ∈ result.cnames, result.negative.effectiveTtl ≤ c.ttl

/-- The statuses of an answer. -/
def LookupStatus.decides (status : LookupStatus) : Prop :=
  status = .ok ∨ status = .nodata ∨ status = .notFound

section Answers

variable [TtlRecord ρ] {P : ρ → Prop} {name : Bytes} {status : LookupStatus} {result : DnsResult ρ}

/-- A sound result from the smallest TTL of its chain. -/
theorem Titled.sound (h : Titled N name result)
    (hrecords : ∀ r ∈ result.records, TtlRecord.effectiveTtl r ≤ dnsCnameTtlMin result.cnames)
    (hnegative : result.negative.valid = true →
      result.negative.effectiveTtl ≤ dnsCnameTtlMin result.cnames) : LookupSound name result where
  length_le := h.chain.length_le
  question := h.question
  linked := h.chain.linked
  owners := h.chain.owners_nodup
  records _ hc r hr := UInt32.le_trans (hrecords r hr) (dnsCnameTtlMin_le hc)
  negative hv _ hc := UInt32.le_trans (hnegative hv) (dnsCnameTtlMin_le hc)

theorem Found.sound (h : Found N P name status result) (hdecides : status.decides) :
    LookupSound name result := by
  rcases hdecides with rfl | rfl | rfl
  · obtain ⟨htitled, -, hnegative, hfit⟩ := h
    refine htitled.sound (fun r hr => ?_) (fun hv => ?_)
    · rw [(hfit.fit r hr).2]
      exact (ttlMin_le _ _).1
    · rw [hnegative] at hv
      cases hv
  all_goals
    obtain ⟨htitled, -, hrecords, hfits⟩ := h
    refine htitled.sound (fun r hr => ?_) hfits.le
    rw [hrecords] at hr
    cases hr

end Answers

/-- A lookup that ends after at most 17 queries, and whose answers are sound. -/
structure LookupEnds [TtlRecord ρ]
    (lookup : LookupEnv → Bytes → Option (LookupStatus × DnsResult ρ))
    (queried : LookupEnv → Bytes → Nat → List Bytes) : Prop where
  /-- However long the loop may run, it sends at most 17 queries. -/
  queries : ∀ env hostname fuel, (queried env hostname fuel).length ≤ 17
  returns : ∀ env hostname, ∃ status result, lookup env hostname = some (status, result) ∧
    (status.decides → LookupSound hostname result)

/-- Of names nothing is known. -/
theorem Message.yields (message : Message) : message.Yields fun _ => True := by
  have hrecord : ∀ record : ResourceRecord, record.Yields fun _ => True := fun _ =>
    ⟨fun _ _ => trivial, fun _ _ _ _ _ _ => trivial⟩
  exact ⟨fun r _ => hrecord r, fun r _ => hrecord r, fun r _ => hrecord r⟩

theorem lookup_ends [TtlRecord ρ] {P : ρ → Prop}
    (hP : ∀ r ttl, P r → P (TtlRecord.withEffectiveTtl r ttl))
    {parse : QueryEnv → Option Message → Bytes → Nat → ParseStatus × DnsResult ρ}
    (hparse : Parses (fun _ => True) P parse) :
    LookupEnds (lookup parse) (lookupQueried parse) where
  queries env hostname fuel := by
    unfold lookupQueried
    split
    · exact Nat.zero_le _
    · rename_i hvalid
      exact lookupNames_length hP hparse (fun _ _ message _ => message.yields) fuel
        (.empty fun e => hvalid (Or.inl e))
  returns env hostname := by
    obtain ⟨status, result, hreturns, hfound⟩ :=
      lookup_found hP hparse (fun _ _ message _ => message.yields) hostname
    exact ⟨status, result, hreturns, hfound.sound⟩

theorem dnsAddressLookup_ends (family : Family) :
    LookupEnds (fun env hostname => dnsAddressLookup env hostname family)
      fun env hostname => dnsAddressQueried env hostname family :=
  lookup_ends (fun _ _ h => h) (responseParse_parsed (fun _ _ h => h)
    (dnsResponseAddressesCollect_collects family) (Nat.le_refl _))

theorem dnsSrvResponseParse_parsed : Parses N (fun r => N r.target) dnsSrvResponseParse := by
  have hcollects := dnsSrvResponseRecordsCollect_collects (N := N)
  rw [dnsSrvResponseRecordsCollect_eq] at hcollects
  rw [dnsSrvResponseParse_eq]
  exact responseParse_parsed (fun _ _ h => h) hcollects (Nat.le_refl _)

/-- **Both lookups end after at most 17 queries, and every answer they give has a sound chain**,
    whatever the servers reply. -/
theorem lookups_sound :
    (∀ family, LookupEnds (fun env hostname => dnsAddressLookup env hostname family)
      fun env hostname => dnsAddressQueried env hostname family) ∧
    LookupEnds dnsSrvLookup dnsSrvQueried :=
  ⟨dnsAddressLookup_ends, dnsSrvLookup_eq ▸ dnsSrvQueried_eq ▸
    lookup_ends (fun _ _ h => h) dnsSrvResponseParse_parsed⟩

end MinecraftRelay
