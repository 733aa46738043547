/-
  File:      Resolver/Dns/Negative.lean
  Subject:   WHICH SOA RECORD BACKS A NEGATIVE ANSWER (dns_negative_response_parse, resolver/dns.c).

  The source compares presentation names by length and suffix.  What is meant are zones: a zone
  encloses a name if its labels are the last labels of the name; dots inside a label are escaped.

  * `ZoneEncloses` -- zones label by label; `ZoneEncloses.nameEncloses` -- the source accepts them;
  * `Picked`, `foldl_picked` -- what the loop over the authority section has taken;
  * `SoaChosen` -- the deepest zone with the smallest TTLs; `negativeSoa_iff` -- **the source finds
    it in every order of the records, except where its comparison of names is not that of zones.**
-/
import MinecraftRelay.Resolver.Lookup
import Mathlib.Order.Bounds.Basic

namespace MinecraftRelay

/-! ## 1. Zones -/

/-- `'\\'`. -/
def backslash : UInt8 := 92

/-- `text` in front of the first label. -/
def labelExtend (text : Bytes) : List Bytes → List Bytes
  | [] => [text]
  | label :: rest => (text ++ label) :: rest

/-- The parts of a presentation name between its dots; an escaped character is no dot. -/
def splitLabels : Bytes → List Bytes
  | [] => [[]]
  | [b] => if b = dot then [[], []] else [[b]]
  | b :: c :: rest =>
    if b = dot then [] :: splitLabels (c :: rest)
    else if b = backslash then labelExtend [b, c] (splitLabels rest)
    else labelExtend [b] (splitLabels (c :: rest))

/-- The labels of a name.  The root has none. -/
def labels (name : Bytes) : List Bytes := if name = [dot] then [] else splitLabels name

/-- The zone's labels are the last of the name's. -/
def ZoneEncloses (zone name : Bytes) : Prop := labels zone <:+ labels name

instance (zone name : Bytes) : Decidable (ZoneEncloses zone name) :=
  inferInstanceAs (Decidable (labels zone <:+ labels name))

/-- Labels with a dot between each two. -/
def joinLabels : List Bytes → Bytes
  | [] => []
  | [label] => label
  | label :: rest => label ++ dot :: joinLabels rest

theorem joinLabels_labelExtend (text : Bytes) (l : List Bytes) :
    joinLabels (labelExtend text l) = text ++ joinLabels l := by
  match l with
  | [] => simp [labelExtend, joinLabels]
  | [label] => rfl
  | label :: second :: rest => simp [labelExtend, joinLabels]

theorem splitLabels_ne_nil (name : Bytes) : splitLabels name ≠ [] := by
  have hextend : ∀ text l, labelExtend text l ≠ [] := fun text l => by cases l <;> exact nofun
  fun_cases splitLabels name <;> simp [hextend]

theorem joinLabels_splitLabels (name : Bytes) : joinLabels (splitLabels name) = name := by
  fun_induction splitLabels name with
  | case1 => rfl
  | case2 => simp [joinLabels, *]
  | case3 => rfl
  | case4 c rest ih =>
    rw [joinLabels, ih]
    · rfl
    · exact splitLabels_ne_nil _
  | case5 c rest _ ih => rw [joinLabels_labelExtend, ih]; rfl
  | case6 b c rest _ _ ih => rw [joinLabels_labelExtend, ih]; rfl

theorem joinLabels_append {l l' : List Bytes} (h : l ≠ []) (h' : l' ≠ []) :
    joinLabels (l ++ l') = joinLabels l ++ dot :: joinLabels l' := by
  induction l with
  | nil => exact absurd rfl h
  | cons label l ih =>
    cases l with
    | nil =>
      cases l' with
      | nil => exact absurd rfl h'
      | cons => rfl
    | cons second l =>
      have hrest := ih nofun
      simp only [List.cons_append, joinLabels, List.append_assoc] at hrest ⊢
      rw [hrest]

/-- Names with the same labels are the same. -/
theorem labels_injective {name name' : Bytes} (h : labels name = labels name') : name = name' := by
  unfold labels at h
  split at h <;> split at h
  · simp [*]
  · exact absurd h.symm (splitLabels_ne_nil _)
  · exact absurd h (splitLabels_ne_nil _)
  · rw [← joinLabels_splitLabels name, h, joinLabels_splitLabels]

/-- A name with more labels is longer, and has a dot in front of the others. -/
theorem eq_append_of_labels {zone name : Bytes} {front : List Bytes} (hzone : zone ≠ [dot])
    (hfront : front ≠ []) (h : front ++ labels zone = labels name) :
    name = joinLabels front ++ dot :: zone := by
  unfold labels at h
  rw [if_neg hzone] at h
  split at h
  · simp [hfront] at h
  · rw [← joinLabels_splitLabels name, ← h, joinLabels_append hfront (splitLabels_ne_nil _),
      joinLabels_splitLabels]

/-- **What encloses a name label by label is accepted by `resolver_name_encloses`.** -/
theorem ZoneEncloses.nameEncloses {zone name : Bytes} (h : ZoneEncloses zone name) :
    nameEncloses zone name = true := by
  unfold MinecraftRelay.nameEncloses
  split
  · rfl
  · rename_i hzone
    obtain ⟨front, hfront⟩ := h
    by_cases hnil : front = []
    · subst hnil
      rw [labels_injective hfront]
      simp
    · rw [eq_append_of_labels hzone hnil hfront]
      simp [show (joinLabels front).length + (zone.length + 1) - zone.length =
        (joinLabels front).length + 1 by omega, List.drop_append]
      omega

/-- Of two zones of a name the one with more labels is the longer, unless the other is the root. -/
theorem ZoneEncloses.length_lt {zone zone' name : Bytes} (h : ZoneEncloses zone name)
    (h' : ZoneEncloses zone' name) (hlt : (labels zone).length < (labels zone').length)
    (hroot : zone ≠ [dot]) : zone.length < zone'.length := by
  obtain ⟨front, hfront⟩ := List.suffix_of_suffix_length_le h h' hlt.le
  have hne : front ≠ [] := by
    rintro rfl
    rw [← hfront] at hlt
    exact absurd hlt (lt_irrefl _)
  rw [eq_append_of_labels hroot hne hfront]
  simp
  omega

/-! ## 2. The loop -/

/-- The SOA record of class IN that an authority record holds. -/
def soaOf (authority : Option ResourceRecord) : Option NegativeRecord :=
  authority.bind fun record =>
    if record.rrClass ≠ classIn ∨ record.rrType ≠ typeSoa then none
    else dnsNegativeRecordParse record

/-- The record can be parsed, and if it is a SOA record its data can. -/
def SoaReadable (authority : Option ResourceRecord) : Prop :=
  ∃ record, authority = some record ∧ (record.rrClass = classIn → record.rrType = typeSoa →
    (dnsNegativeRecordParse record).isSome)

/-- One round of the loop over the authority section. -/
def negativeStep (canonicalName : Bytes) (result candidate : NegativeRecord) : NegativeRecord :=
  if ¬ nameEncloses candidate.owner canonicalName then result
  else if ¬ result.valid ∨ candidate.owner.length > result.owner.length then candidate
  else if candidate.owner = result.owner then
    { result with
      minimum := ttlMin candidate.minimum result.minimum
      recordTtl := ttlMin candidate.recordTtl result.recordTtl
      effectiveTtl := ttlMin (ttlMin candidate.minimum result.minimum)
        (ttlMin candidate.recordTtl result.recordTtl) }
  else result

theorem negativeCollect_eq {canonicalName : Bytes} {authorities : List (Option ResourceRecord)}
    (h : ∀ a ∈ authorities, SoaReadable a) (result : NegativeRecord) :
    negativeCollect canonicalName authorities result =
      some ((authorities.filterMap soaOf).foldl (negativeStep canonicalName) result) := by
  induction authorities generalizing result with
  | nil => rfl
  | cons authority rest ih =>
    have hrest := ih fun a ha => h a (List.mem_cons_of_mem _ ha)
    obtain ⟨record, rfl, hread⟩ := h authority List.mem_cons_self
    unfold negativeCollect
    by_cases hother : record.rrClass ≠ classIn ∨ record.rrType ≠ typeSoa
    · rw [if_pos hother, hrest, List.filterMap_cons_none (by simp [soaOf, hother])]
    · obtain ⟨candidate, hc⟩ := Option.isSome_iff_exists.1
        (hread (not_not.1 (not_or.1 hother).1) (not_not.1 (not_or.1 hother).2))
      have hsoa : soaOf (some record) = some candidate := by simp only [soaOf, Option.bind_some,
        if_neg hother, hc]
      rw [if_neg hother, hc, List.filterMap_cons_some hsoa, List.foldl_cons, negativeStep]
      dsimp only
      split
      · exact hrest _
      split
      · exact hrest _
      split <;> exact hrest _

/-- The smallest value among the records of the owner. -/
def Least (records : List NegativeRecord) (owner : Bytes) (value : NegativeRecord → UInt32)
    (least : UInt32) : Prop :=
  IsLeast {v | ∃ r ∈ records, r.owner = owner ∧ value r = v} least

/-- What the loop has taken of `records`: nothing, or a longest of the accepted owners with the
    smallest values of its records. -/
structure Picked (canonicalName : Bytes) (records : List NegativeRecord) (result : NegativeRecord) :
    Prop where
  blank : result.valid = false →
    result = {} ∧ ∀ r ∈ records, nameEncloses r.owner canonicalName = false
  accepted : result.valid = true → nameEncloses result.owner canonicalName = true
  longest : ∀ r ∈ records, nameEncloses r.owner canonicalName = true →
    r.owner.length ≤ result.owner.length
  minimum : result.valid = true →
    Least records result.owner NegativeRecord.minimum result.minimum
  recordTtl : result.valid = true →
    Least records result.owner NegativeRecord.recordTtl result.recordTtl
  effectiveTtl : result.effectiveTtl = ttlMin result.minimum result.recordTtl

section Loop

variable {canonicalName owner : Bytes} {records : List NegativeRecord}
  {result candidate : NegativeRecord} {value : NegativeRecord → UInt32} {least : UInt32}

/-- A record of another owner. -/
theorem Least.other (h : Least records owner value least) (ho : candidate.owner ≠ owner) :
    Least (records ++ [candidate]) owner value least := by
  simpa [Least, or_and_right, exists_or, ho] using h

/-- The smaller of the smallest value so far and the next one is the smallest. -/
theorem Least.again (h : Least records owner value least) (ho : candidate.owner = owner) :
    Least (records ++ [candidate]) owner value (ttlMin (value candidate) least) := by
  obtain ⟨⟨r, hr, hro, hrv⟩, hleast⟩ := h
  obtain ⟨hle, hle'⟩ := ttlMin_le (value candidate) least
  refine ⟨?_, ?_⟩
  · rcases ttlMin_mem (value candidate) least with e | e
    · exact ⟨candidate, by simp, ho, e.symm⟩
    · exact ⟨r, by simp [hr], hro, hrv.trans e.symm⟩
  · rintro v ⟨x, hx, hxo, rfl⟩
    rcases List.mem_append.1 hx with hx | hx
    · exact UInt32.le_trans hle' (hleast ⟨x, hx, hxo, rfl⟩)
    · rw [List.mem_singleton.1 hx]
      exact hle

/-- The first record of its owner. -/
theorem Least.first (h : ∀ r ∈ records, r.owner ≠ candidate.owner) :
    Least (records ++ [candidate]) candidate.owner value (value candidate) := by
  refine ⟨⟨candidate, by simp⟩, ?_⟩
  rintro v ⟨x, hx, hxo, rfl⟩
  rcases List.mem_append.1 hx with hx | hx
  · exact absurd hxo (h x hx)
  · rw [List.mem_singleton.1 hx]
    exact UInt32.le_refl _

/-- A record that changes nothing: its zone is not accepted, or is another one and not longer. -/
theorem Picked.skip (h : Picked canonicalName records result)
    (hc : nameEncloses candidate.owner canonicalName = true →
      result.valid = true ∧ candidate.owner ≠ result.owner ∧
        candidate.owner.length ≤ result.owner.length) :
    Picked canonicalName (records ++ [candidate]) result := by
  have hother : result.valid = true → candidate.owner ≠ result.owner := fun hv ho =>
    (hc (ho ▸ h.accepted hv)).2.1 ho
  refine ⟨fun hv => ⟨(h.blank hv).1, fun r hr => ?_⟩, h.accepted, fun r hr he => ?_,
    fun hv => (h.minimum hv).other (hother hv), fun hv => (h.recordTtl hv).other (hother hv),
    h.effectiveTtl⟩
  · rcases List.mem_append.1 hr with hr | hr
    · exact (h.blank hv).2 r hr
    · rw [List.mem_singleton.1 hr]
      by_contra he
      exact absurd (hc (by simpa using he)).1 (by simp [hv])
  · rcases List.mem_append.1 hr with hr | hr
    · exact h.longest r hr he
    · rw [List.mem_singleton.1 hr] at he ⊢
      exact (hc he).2.2

/-- What `dns_negative_record_parse` delivers: a valid record with the smaller of its TTLs. -/
structure SoaRecord (record : NegativeRecord) : Prop where
  valid : record.valid = true
  effectiveTtl : record.effectiveTtl = ttlMin record.minimum record.recordTtl
  owner_ne : record.owner ≠ []

theorem Picked.step (h : Picked canonicalName records result) (hc : SoaRecord candidate) :
    Picked canonicalName (records ++ [candidate])
      (negativeStep canonicalName result candidate) := by
  unfold negativeStep
  split
  · rename_i hnot
    exact h.skip fun he => absurd he hnot
  rename_i haccepted
  rw [not_not] at haccepted
  split
  · -- the first, or longer than all before: no earlier record has this owner
    rename_i hnew
    have hshorter : ∀ r ∈ records, nameEncloses r.owner canonicalName = true →
        r.owner.length < candidate.owner.length := by
      intro r hr he
      rcases hnew with hv | hlonger
      · exact absurd ((h.blank (by simpa using hv)).2 r hr) (by simp [he])
      · exact lt_of_le_of_lt (h.longest r hr he) hlonger
    have hfresh : ∀ r ∈ records, r.owner ≠ candidate.owner := fun r hr ho =>
      absurd (hshorter r hr (ho ▸ haccepted)) (by simp [ho])
    refine ⟨fun hv => absurd hc.valid (by simp [hv]), fun _ => haccepted, fun r hr he => ?_,
      fun _ => .first hfresh, fun _ => .first hfresh, hc.effectiveTtl⟩
    rcases List.mem_append.1 hr with hr | hr
    · exact (hshorter r hr he).le
    · rw [List.mem_singleton.1 hr]
  rename_i hold
  simp only [not_or, Bool.not_eq_true, Bool.not_eq_false, not_lt] at hold
  split
  · rename_i hagain
    refine ⟨fun hv => absurd hold.1 (by simp [show result.valid = false from hv]), h.accepted,
      fun r hr he => ?_, fun hv => (h.minimum hv).again hagain,
      fun hv => (h.recordTtl hv).again hagain, rfl⟩
    rcases List.mem_append.1 hr with hr | hr
    · exact h.longest r hr he
    · rw [List.mem_singleton.1 hr]
      exact hold.2
  · rename_i hother
    exact h.skip fun _ => ⟨hold.1, hother, hold.2⟩

theorem foldl_picked (h : ∀ r ∈ records, SoaRecord r) :
    Picked canonicalName records (records.foldl (negativeStep canonicalName) {}) := by
  induction records using List.reverseRecOn with
  | nil => exact ⟨fun _ => ⟨rfl, nofun⟩, nofun, nofun, nofun, nofun, rfl⟩
  | append_singleton records candidate ih =>
    rw [List.foldl_concat]
    exact (ih fun r hr => h r (List.mem_append_left _ hr)).step (h candidate (by simp))

/-- A longest accepted owner that comes first stays. -/
theorem foldl_owner (hvalid : result.valid = true)
    (h : ∀ r ∈ records, nameEncloses r.owner canonicalName = true →
      r.owner.length ≤ result.owner.length) :
    (records.foldl (negativeStep canonicalName) result).owner = result.owner ∧
      (records.foldl (negativeStep canonicalName) result).valid = true := by
  induction records generalizing result with
  | nil => exact ⟨rfl, hvalid⟩
  | cons candidate records ih =>
    obtain ⟨hhead, hrest⟩ := List.forall_mem_cons.1 h
    rw [List.foldl_cons]
    unfold negativeStep
    split
    · exact ih hvalid hrest
    rename_i haccepted
    rw [if_neg (by simp [hvalid, hhead (not_not.1 haccepted)])]
    split
    · exact ih hvalid hrest
    · exact ih hvalid hrest

end Loop

/-! ## 3. The chosen record -/

/-- **The record that backs a negative answer**: of the zones that enclose the name the one with the
    most labels, with the smallest values of its records and of the chain. -/
structure SoaChosen (canonicalName : Bytes) (cnames : List CnameRecord)
    (records : List NegativeRecord) (result : NegativeRecord) : Prop where
  none_iff : result.valid = false ↔ ∀ r ∈ records, ¬ ZoneEncloses r.owner canonicalName
  encloses : result.valid = true → ZoneEncloses result.owner canonicalName
  deepest : ∀ r ∈ records, ZoneEncloses r.owner canonicalName →
    (labels r.owner).length ≤ (labels result.owner).length
  minimum : result.valid = true →
    Least records result.owner NegativeRecord.minimum result.minimum
  recordTtl : result.valid = true →
    Least records result.owner NegativeRecord.recordTtl result.recordTtl
  effectiveTtl : result.valid = true → result.effectiveTtl =
    ttlMin (dnsCnameTtlMin cnames) (ttlMin result.minimum result.recordTtl)
  blank : result.valid = false → result = {}

/-- Where the comparison of names is that of zones: every longest accepted owner encloses the name
    label by label, and if it is the root no other owner is accepted. -/
def ZonesClear (canonicalName : Bytes) (records : List NegativeRecord) : Prop :=
  ∀ r ∈ records, nameEncloses r.owner canonicalName = true →
    (∀ x ∈ records, nameEncloses x.owner canonicalName = true →
      x.owner.length ≤ r.owner.length) →
    ZoneEncloses r.owner canonicalName ∧
      (r.owner = [dot] → ∀ x ∈ records, nameEncloses x.owner canonicalName = true →
        x.owner = [dot])

section Chosen

variable {canonicalName : Bytes} {cnames : List CnameRecord} {records : List NegativeRecord}
  {result result' : NegativeRecord}

theorem SoaChosen.perm {records' : List NegativeRecord}
    (h : SoaChosen canonicalName cnames records result) (hp : records.Perm records') :
    SoaChosen canonicalName cnames records' result where
  none_iff := by simpa only [hp.mem_iff] using h.none_iff
  encloses := h.encloses
  deepest r hr := h.deepest r (hp.mem_iff.2 hr)
  minimum hv := by simpa only [Least, hp.mem_iff] using h.minimum hv
  recordTtl hv := by simpa only [Least, hp.mem_iff] using h.recordTtl hv
  effectiveTtl := h.effectiveTtl
  blank := h.blank

/-- The end of `dns_negative_response_parse`: the chain's TTL. -/
def chainLimited (cnames : List CnameRecord) (result : NegativeRecord) : NegativeRecord :=
  if result.valid then
    { result with effectiveTtl := ttlMin (dnsCnameTtlMin cnames) result.effectiveTtl }
  else result

/-- There is only one such record. -/
theorem SoaChosen.unique (h : SoaChosen canonicalName cnames records result)
    (h' : SoaChosen canonicalName cnames records result') : result = result' := by
  have hvalid : result.valid = result'.valid := by
    simpa using h.none_iff.trans h'.none_iff.symm
  cases hv : result.valid with
  | false => rw [h.blank hv, h'.blank (hvalid ▸ hv)]
  | true =>
    have hv' := hvalid ▸ hv
    obtain ⟨⟨r, hr, hro, -⟩, -⟩ := h.minimum hv
    obtain ⟨⟨r', hr', hro', -⟩, -⟩ := h'.minimum hv'
    have hsuffix := h.encloses hv
    have hsuffix' := h'.encloses hv'
    have hle := h'.deepest r hr (hro ▸ hsuffix)
    have hle' := h.deepest r' hr' (hro' ▸ hsuffix')
    rw [hro] at hle
    rw [hro'] at hle'
    have howner : result.owner = result'.owner := labels_injective
      ((List.suffix_of_suffix_length_le hsuffix hsuffix' hle).eq_of_length (le_antisymm hle hle'))
    have hminimum := h.minimum hv
    have hrecord := h.recordTtl hv
    rw [howner] at hminimum hrecord
    have hminimum := UInt32.le_antisymm (hminimum.2 (h'.minimum hv').1)
      ((h'.minimum hv').2 hminimum.1)
    have hrecord := UInt32.le_antisymm (hrecord.2 (h'.recordTtl hv').1)
      ((h'.recordTtl hv').2 hrecord.1)
    have heffective := h.effectiveTtl hv
    rw [hminimum, hrecord, ← h'.effectiveTtl hv'] at heffective
    cases result
    cases result'
    simp_all

/-- The chain's TTL comes on top of what the loop has taken. -/
theorem Picked.chosen (cnames : List CnameRecord) (hclear : ZonesClear canonicalName records)
    (h : Picked canonicalName records result) :
    SoaChosen canonicalName cnames records (chainLimited cnames result) := by
  unfold chainLimited
  cases hv : result.valid with
  | false =>
    obtain ⟨hblank, hnone⟩ := h.blank hv
    have hnot : ∀ r ∈ records, ¬ ZoneEncloses r.owner canonicalName := fun r hr hz =>
      absurd (hnone r hr) (by simp [hz.nameEncloses])
    exact ⟨⟨fun _ => hnot, fun _ => hv⟩, fun he => absurd he (by simp [hv]),
      fun r hr hz => absurd hz (hnot r hr), h.minimum, h.recordTtl,
      fun he => absurd he (by simp [hv]), fun _ => hblank⟩
  | true =>
    obtain ⟨⟨r, hr, hro, -⟩, -⟩ := h.minimum hv
    have haccepted := h.accepted hv
    obtain ⟨hzone, hroot⟩ := hclear r hr (hro ▸ haccepted) (hro ▸ h.longest)
    rw [hro] at hzone hroot
    refine ⟨⟨nofun, fun hnot => absurd (hro ▸ hzone) (hnot r hr)⟩, fun _ => hzone,
      fun x hx hz => ?_, fun _ => h.minimum hv, fun _ => h.recordTtl hv,
      fun _ => congrArg (ttlMin _) h.effectiveTtl, nofun⟩
    by_contra hdeeper
    have hdeeper : (labels result.owner).length < (labels x.owner).length := not_le.1 hdeeper
    by_cases hdot : result.owner = [dot]
    · rw [hroot hdot x hx hz.nameEncloses, hdot] at hdeeper
      exact lt_irrefl _ hdeeper
    · exact absurd (h.longest x hx hz.nameEncloses) (not_le.2 (hzone.length_lt hz hdeeper hdot))

/-! ## 4. Responses -/

theorem dnsNegativeResponseParse_eq {response : Message}
    (hlimit : response.authorities.length ≤ authorityRecordLimit)
    (hread : ∀ a ∈ response.authorities, SoaReadable a) :
    dnsNegativeResponseParse response canonicalName cnames = .ok (chainLimited cnames
      ((response.authorities.filterMap soaOf).foldl (negativeStep canonicalName) {})) := by
  unfold dnsNegativeResponseParse
  rw [if_neg (not_lt.2 hlimit), negativeCollect_eq hread]
  rfl

theorem soaRecord_of_soaOf {response : Message} (hw : response.WellFormed) :
    ∀ r ∈ response.authorities.filterMap soaOf, SoaRecord r := by
  intro r hr
  obtain ⟨_ | record, ha, hsoa⟩ := List.mem_filterMap.1 hr
  · cases hsoa
  · simp only [soaOf, Option.bind_some, Option.ite_none_left_eq_some] at hsoa
    obtain ⟨hvalid, howner, hteffective⟩ :=
      dnsNegativeRecordParse_spec (hw.authorities record ha).yields hsoa.2
    exact ⟨hvalid, hteffective, howner.ne_nil⟩

/-- Where every order gives the same record, it is of every longest accepted owner: that owner may
    come first. -/
theorem owner_of_longest {response : Message} {negative r : NegativeRecord}
    (hlimit : response.authorities.length ≤ authorityRecordLimit)
    (hread : ∀ a ∈ response.authorities, SoaReadable a)
    (hsoa : ∀ r ∈ response.authorities.filterMap soaOf, SoaRecord r)
    (h : ∀ response' : Message, response'.authorities.Perm response.authorities →
      dnsNegativeResponseParse response' canonicalName cnames = .ok negative)
    (hr : r ∈ response.authorities.filterMap soaOf)
    (haccepted : nameEncloses r.owner canonicalName = true)
    (hlongest : ∀ x ∈ response.authorities.filterMap soaOf,
      nameEncloses x.owner canonicalName = true → x.owner.length ≤ r.owner.length) :
    negative.owner = r.owner ∧ negative.valid = true := by
  obtain ⟨a, ha, har⟩ := List.mem_filterMap.1 hr
  obtain ⟨front, back, hsplit⟩ := List.append_of_mem ha
  have hperm : (a :: (front ++ back)).Perm response.authorities :=
    hsplit ▸ List.perm_middle.symm
  have hparse := h { response with authorities := a :: (front ++ back) } hperm
  rw [dnsNegativeResponseParse_eq (hperm.length_eq ▸ hlimit)
    fun x hx => hread x (hperm.subset hx)] at hparse
  have hfirst : negativeStep canonicalName {} r = r := by simp [negativeStep, haccepted]
  rw [List.filterMap_cons_some har, List.foldl_cons, hfirst] at hparse
  have hrest : ∀ x ∈ (front ++ back).filterMap soaOf, nameEncloses x.owner canonicalName = true →
      x.owner.length ≤ r.owner.length := fun x hx => hlongest x
    ((hperm.filterMap soaOf).subset (List.filterMap_cons_some har ▸ List.mem_cons_of_mem _ hx))
  obtain ⟨howner, hvalid⟩ := foldl_owner (hsoa r hr).valid hrest
  unfold chainLimited at hparse
  rw [if_pos hvalid] at hparse
  cases hparse
  exact ⟨howner, hvalid⟩

/-- **Every order of the authority section gives the record of the deepest enclosing zone exactly if
    the longest accepted owners are enclosing zones and the root does not meet a zone of one
    character.** -/
theorem negativeSoa_iff (response : Message) (canonicalName : Bytes) (cnames : List CnameRecord)
    (hlimit : response.authorities.length ≤ authorityRecordLimit) (hw : response.WellFormed)
    (hread : ∀ a ∈ response.authorities, SoaReadable a) :
    (∃ negative, SoaChosen canonicalName cnames (response.authorities.filterMap soaOf) negative ∧
      ∀ response' : Message, response'.authorities.Perm response.authorities →
        dnsNegativeResponseParse response' canonicalName cnames = .ok negative) ↔
      ZonesClear canonicalName (response.authorities.filterMap soaOf) := by
  have hsoa := soaRecord_of_soaOf hw
  constructor
  · rintro ⟨negative, hchosen, hparse⟩ r hr haccepted hlongest
    obtain ⟨howner, hvalid⟩ := owner_of_longest hlimit hread hsoa hparse hr haccepted hlongest
    refine ⟨howner ▸ hchosen.encloses hvalid, fun hroot x hx hxa => ?_⟩
    -- an accepted owner beside the root has one character, so it is a longest one too
    have hone : x.owner.length = r.owner.length := by
      have hle := hlongest x hx hxa
      have hpos := List.length_pos_iff.2 (hsoa x hx).owner_ne
      rw [hroot] at hle ⊢
      exact le_antisymm hle hpos
    have hxowner := (owner_of_longest hlimit hread hsoa hparse hx hxa (hone ▸ hlongest)).1
    rw [← hxowner, howner, hroot]
  · intro hclear
    have hchosen := (foldl_picked hsoa).chosen cnames hclear
    refine ⟨_, hchosen, fun response' hperm => ?_⟩
    rw [dnsNegativeResponseParse_eq (hperm.length_eq ▸ hlimit)
      fun a ha => hread a (hperm.subset ha)]
    have hrecords := hperm.filterMap soaOf
    have hclear' : ZonesClear canonicalName (response'.authorities.filterMap soaOf) := by
      intro r hr he hlongest
      obtain ⟨hzone, hroot⟩ := hclear r (hrecords.subset hr) he fun x hx =>
        hlongest x (hrecords.symm.subset hx)
      exact ⟨hzone, fun hdot x hx => hroot hdot x (hrecords.subset hx)⟩
    have hchosen' := (foldl_picked fun r hr => hsoa r (hrecords.subset hr)).chosen
      cnames hclear'
    rw [(hchosen'.perm hrecords).unique hchosen]

end Chosen

/-- A response whose authority section holds a SOA record of each owner. -/
def soaMessage (owners : List Bytes) : Message where
  id := 0
  qr := true
  opcode := 0
  tc := false
  rcode := Message.noerror
  questions := []
  answers := []
  authorities := owners.map fun owner => some ⟨owner, typeSoa, classIn, 300,
    List.replicate 21 0 ++ [60], true, fun _ => some ([dot], 1)⟩

theorem soaMessage_wellFormed {owners : List Bytes} (h : ∀ owner ∈ owners, Presentation owner) :
    (soaMessage owners).WellFormed := by
  refine ⟨nofun, nofun, fun record hr => ?_⟩
  obtain ⟨owner, howner, e⟩ := List.mem_map.1 hr
  cases e
  refine ⟨h owner howner, fun offset name consumed hname => ?_⟩
  cases hname
  exact presentation_singleton (by decide)

/-- The zones `b` and `a.b` enclose `a.b`: whichever comes first, the deeper one backs the negative
    answer. -/
theorem negativeSoa_iff_nested : let name : Bytes := [97, dot, 98]
    ∃ negative, SoaChosen name [] ((soaMessage [[98], name]).authorities.filterMap soaOf) negative ∧
      dnsNegativeResponseParse (soaMessage [[98], name]) name [] = .ok negative ∧
      dnsNegativeResponseParse (soaMessage [name, [98]]) name [] = .ok negative ∧
      negative.owner = name := by
  intro name
  have hname : Presentation name :=
    ⟨nofun, by decide, by decide,
      fun stem he => by simpa [name, dot] using congrArg List.getLast? he⟩
  have hread : ∀ a ∈ (soaMessage [[98], name]).authorities, SoaReadable a := by
    simp only [soaMessage, List.map_cons, List.forall_mem_cons]
    exact ⟨⟨_, rfl, fun _ _ => by decide⟩, ⟨_, rfl, fun _ _ => by decide⟩, nofun⟩
  have hclear : ZonesClear name ((soaMessage [[98], name]).authorities.filterMap soaOf) := by
    unfold ZonesClear
    decide
  obtain ⟨negative, hchosen, hparse⟩ := (negativeSoa_iff (soaMessage [[98], name]) name []
    (by decide) (soaMessage_wellFormed (by simp [hname, presentation_singleton])) hread).2 hclear
  have hfirst := hparse (soaMessage [[98], name]) (.refl _)
  have howner : (dnsNegativeResponseParse (soaMessage [[98], name]) name []).toOption.map
      (·.owner) = some name := by decide
  rw [hfirst] at howner
  exact ⟨negative, hchosen, hfirst, hparse _ (.swap _ _ _), Option.some.inj howner⟩

/-- The root before the zone `a` is kept for `a`, behind it the zone is; and the zone `b` is taken
    for the one label `a\.b`. -/
theorem negativeSoa_root_first :
    (dnsNegativeResponseParse (soaMessage [[dot], [97]]) [97] []).toOption.map (·.owner) =
        some [dot] ∧
      (dnsNegativeResponseParse (soaMessage [[97], [dot]]) [97] []).toOption.map (·.owner) =
        some [97] ∧
      (labels [dot]).length < (labels [97]).length ∧ ZoneEncloses [97] [97] ∧
      (dnsNegativeResponseParse (soaMessage [[98]]) [97, backslash, dot, 98] []).toOption.map
        (·.owner) = some [98] ∧
      ¬ ZoneEncloses [98] [97, backslash, dot, 98] := by
  decide

end MinecraftRelay
