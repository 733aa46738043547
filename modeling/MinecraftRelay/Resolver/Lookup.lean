/-
  File:      Resolver/Lookup.lean
  Subject:   LOOKUPS OF WELL FORMED NAMES (resolver/dns.c).

  libresolv is assumed to hand out well formed presentation names, and nothing else.

  * `Found.looked` -- on normalized names the results of a lookup are about the name itself;
  * `dnsAddressLookup_looked`, `dnsSrvLookup_looked` -- **every lookup returns**, and with every
    status the result has the shape `Looked` says: what the helper sends is read off from it.
-/
import MinecraftRelay.Resolver.Dns.Soundness

namespace MinecraftRelay

open Chains

/-! ## 1. Names -/

/-- A presentation name as libresolv writes it into a name buffer.  A dot ends such a name only
    when the name is the root or the dot is escaped, so no name ends in two of them. -/
structure Presentation (name : Bytes) : Prop where
  ne_nil : name ≠ []
  no_nul : (0 : UInt8) ∉ name
  length_lt : name.length < nsMaxdname
  no_double_dot : ∀ stem, name ≠ stem ++ [dot, dot]

theorem presentation_singleton {c : UInt8} (h : c ≠ 0) : Presentation [c] where
  ne_nil := List.cons_ne_nil _ _
  no_nul hm := h (List.mem_singleton.1 hm).symm
  length_lt := by
    show 1 < nsMaxdname
    decide
  no_double_dot stem he := by
    have hlength := congrArg List.length he
    rw [List.length_append] at hlength
    simp at hlength

/-- A name without its root dot: not empty, part of the name, and without another dot. -/
theorem Presentation.rootDropped {name : Bytes} (h : Presentation name) :
    rootDropped name ≠ [] ∧ (0 : UInt8) ∉ rootDropped name ∧
      (rootDropped name).length < nsMaxdname ∧
      (1 < (rootDropped name).length → (rootDropped name).getLast? ≠ some dot) := by
  have hlt := h.length_lt
  unfold MinecraftRelay.rootDropped
  split
  · rename_i hroot
    obtain ⟨hlong, hlast⟩ := hroot
    have hlength : name.dropLast.length = name.length - 1 := List.length_dropLast
    refine ⟨?_, fun hm => h.no_nul (List.dropLast_subset _ hm), by omega, ?_⟩
    · intro hnil
      have := congrArg List.length hnil
      rw [hlength, List.length_nil] at this
      omega
    · intro _ hdot
      obtain ⟨stem, hstem⟩ := List.getLast?_eq_some_iff.1 hdot
      obtain ⟨whole, hwhole⟩ := List.getLast?_eq_some_iff.1 hlast
      refine h.no_double_dot stem ?_
      rw [hwhole, List.dropLast_concat] at hstem
      rw [hwhole, hstem, List.append_assoc]
      rfl
  · rename_i hroot
    exact ⟨h.ne_nil, h.no_nul, hlt, fun hlong hlast => hroot ⟨hlong, hlast⟩⟩

/-- `dns_name_normalize` of a presentation name delivers a normalized name. -/
theorem dnsNameNormalize_normalized {source name : Bytes} (h : Presentation source)
    (hn : dnsNameNormalize source = some name) : Normalized name := by
  obtain ⟨hnil, hnul, hlt, hdot⟩ := h.rootDropped
  unfold dnsNameNormalize at hn
  rw [if_neg (by omega)] at hn
  cases hn
  refine ⟨?_, not_mem_map_asciiLower hnul, ?_, map_asciiLower_map_asciiLower _, ?_⟩
  · intro he
    exact hnil (List.map_eq_nil_iff.1 he)
  · rw [List.length_map]
    exact hlt
  · intro hlong hlast
    rw [List.length_map] at hlong
    exact hdot hlong (getLast?_map_asciiLower_eq_dot hlast)

/-! ## 2. The assumption on libresolv -/

/-- Every name of a resource record is a presentation name. -/
structure ResourceRecord.WellFormed (record : ResourceRecord) : Prop where
  name : Presentation record.name
  rdata : ∀ offset name consumed, record.uncompress offset = some (name, consumed) →
    Presentation name

/-- Every name of a message is a presentation name. -/
structure Message.WellFormed (message : Message) : Prop where
  questions : ∀ record, some record ∈ message.questions → record.WellFormed
  answers : ∀ record, some record ∈ message.answers → record.WellFormed
  authorities : ∀ record, some record ∈ message.authorities → record.WellFormed

/-- libresolv only yields well formed presentation names. -/
def LookupEnv.WellFormed (env : LookupEnv) : Prop :=
  ∀ turn size message, (env.queries turn).sent = .ok (size, some message) → message.WellFormed

/-- The names that are read off well formed records are normalized. -/
theorem ResourceRecord.WellFormed.yields {record : ResourceRecord} (h : record.WellFormed) :
    record.Yields Normalized :=
  ⟨fun _ hn => dnsNameNormalize_normalized h.name hn,
    fun _ _ _ _ hu hn => dnsNameNormalize_normalized (h.rdata _ _ _ hu) hn⟩

theorem Message.WellFormed.yields {message : Message} (h : message.WellFormed) :
    message.Yields Normalized :=
  ⟨fun r hr => (h.questions r hr).yields, fun r hr => (h.answers r hr).yields,
    fun r hr => (h.authorities r hr).yields⟩

/-! ## 3. Results about the name -/

/-- **A chain of aliases from the question to the canonical name**, at most 16 of them, none of
    which points back. -/
structure Chained (question canonical : Bytes) (cnames : List CnameRecord) : Prop where
  start : Normalized question
  linked : Linked CnameRecord.owner CnameRecord.target question cnames canonical
  simple : Simple CnameRecord.owner CnameRecord.target cnames
  normal : ∀ c ∈ cnames, c.Normal
  length_le : cnames.length ≤ cnameDepthLimit

theorem Chained.canonical {question canonical : Bytes} {cnames : List CnameRecord}
    (h : Chained question canonical cnames) : Normalized canonical := by
  rw [h.linked.last]
  cases hl : cnames.getLast? with
  | none => exact h.start
  | some c => exact (h.normal c (List.mem_of_getLast? hl)).target

/-- On normalized names the keys are the names. -/
theorem SoundChain.chained {question canonical : Bytes} {cnames : List CnameRecord}
    (h : SoundChain Normalized question canonical cnames) : Chained question canonical cnames := by
  have howner : ∀ c ∈ cnames, c.ownerKey = c.owner := fun c hc =>
    nameKey_of_normalized (h.names c hc).1
  have htarget : ∀ c ∈ cnames, c.targetKey = c.target := fun c hc =>
    nameKey_of_normalized (h.names c hc).2
  have hlinked := h.linked.congr howner htarget
  rw [nameKey_of_normalized h.start, nameKey_of_normalized h.finish] at hlinked
  exact ⟨h.start, hlinked, h.simple.congr howner htarget,
    fun c hc => ⟨(h.names c hc).1, (h.names c hc).2⟩, h.length_le⟩

/-- The targets of an SRV lookup are normalized. -/
def TargetNormal (record : SrvRecord) : Prop := Normalized record.target

variable {ρ : Type}

/-- The result is about the name: its question is the name, and its chain leads from there to its
    canonical name. -/
structure Named (name : Bytes) (result : DnsResult ρ) : Prop where
  question : result.questionName = name
  chain : Chained name result.canonicalName result.cnames

/-- Normalized names count as they are. -/
abbrev Looked [TtlRecord ρ] (P : ρ → Prop) (name : Bytes) :
    LookupStatus → DnsResult ρ → Prop :=
  Outcome Normalized (· = name) (Named name) P

section Named

variable {name : Bytes} {result : DnsResult ρ}

theorem Spelled.eq {question : Bytes} (hname : Normalized name)
    (h : Spelled Normalized name question) : question = name := by
  have hkey := h.key
  rwa [nameKey_of_normalized h.known, nameKey_of_normalized hname] at hkey

theorem Titled.named (hname : Normalized name) (h : Titled Normalized name result) :
    Named name result := by
  have hquestion : result.questionName = name := Spelled.eq hname ⟨h.question, h.chain.start⟩
  exact ⟨hquestion, hquestion ▸ h.chain.chained⟩

theorem Found.looked [TtlRecord ρ] {P : ρ → Prop} {status : LookupStatus} (hname : Normalized name)
    (h : Found Normalized P name status result) : Looked P name status result := by
  cases status with
  | ok | nodata | notFound => exact ⟨h.1.named hname, h.2⟩
  | permanentError | temporaryError =>
    have hshape := h.1.shape.imp_right (Or.imp (And.imp_left (Spelled.eq hname))
      (And.imp_left (Titled.named hname)))
    exact ⟨{ h.1 with shape := hshape }, h.2⟩
  | badArgument | limit | malformed | memory | truncated => exact h

end Named

theorem dnsAddressLookup_looked {env : LookupEnv} (hw : env.WellFormed) {name : Bytes}
    (hname : Normalized name) (family : Family) :
    ∃ status result, dnsAddressLookup env name family = some (status, result) ∧
      Looked (OfFamily family) name status result := by
  obtain ⟨status, result, hreturns, hfound⟩ := lookup_found (fun _ _ h => h)
    (responseParse_parsed (fun _ _ h => h) (dnsResponseAddressesCollect_collects family)
      (Nat.le_refl _)) (fun _ _ _ hsent => (hw _ _ _ hsent).yields) name
  exact ⟨status, result, hreturns, hfound.looked hname⟩

theorem dnsSrvLookup_looked {env : LookupEnv} (hw : env.WellFormed) {name : Bytes}
    (hname : Normalized name) :
    ∃ status result, dnsSrvLookup env name = some (status, result) ∧
      Looked TargetNormal name status result := by
  rw [dnsSrvLookup_eq]
  obtain ⟨status, result, hreturns, hfound⟩ := lookup_found (fun _ _ h => h)
    dnsSrvResponseParse_parsed (fun _ _ _ hsent => (hw _ _ _ hsent).yields) name
  exact ⟨status, result, hreturns, hfound.looked hname⟩

end MinecraftRelay
