/-
  File:      Resolver/Dns/Walk.lean
  Subject:   THE WALK ALONG THE ALIASES OF ONE RESPONSE (resolver/dns.c).

  Names count up to `dns_name_equal`: two names are one when their keys are.

  * `cnameMatch_cases` -- the search of one turn: the name is torn, has no alias, or has one;
  * `chainLoop_walked` -- the loop goes a path over the answer's aliases, and gives up only where
    that path fails;
  * `WalkFails` -- a path from the question meets a torn name, an alias beside a record, a name
    again, or a 17th alias;
  * `chainLoop_same` -- the order of the answers does not count;
  * `dnsResponseChainBuild_walks` -- **chain building is that walk.**
-/
import Mathlib.Data.List.Perm.Basic
import MinecraftRelay.Library.Chains
import MinecraftRelay.Resolver.Dns

namespace MinecraftRelay

open Chains

/-! ## 1. Names -/

/-- What `dns_name_equal` compares. -/
def nameKey (name : Bytes) : Bytes := (rootDropped name).map asciiLower

theorem dnsNameEqual_iff_key {left right : Bytes} :
    dnsNameEqual left right = true ↔ nameKey left = nameKey right := decide_eq_true_iff

theorem rootDropped_of_normalized {name : Bytes} (h : Normalized name) :
    rootDropped name = name := by
  unfold rootDropped
  rw [if_neg]
  intro hroot
  exact h.no_terminal_dot hroot.1 hroot.2

/-- A normalized name is its own key. -/
theorem nameKey_of_normalized {name : Bytes} (h : Normalized name) : nameKey name = name := by
  unfold nameKey
  rw [rootDropped_of_normalized h, h.lower]

def CnameRecord.ownerKey (c : CnameRecord) : Bytes := nameKey c.owner

def CnameRecord.targetKey (c : CnameRecord) : Bytes := nameKey c.target

/-- Both names of an alias are normalized. -/
structure CnameRecord.Normal (c : CnameRecord) : Prop where
  owner : Normalized c.owner
  target : Normalized c.target

/-! ## 2. TTLs -/

theorem ttlMin_comm (left right : UInt32) : ttlMin left right = ttlMin right left := by
  rw [← UInt32.toNat_inj, ttlMin_toNat, ttlMin_toNat, Nat.min_comm]

theorem ttlMin_assoc (a b c : UInt32) : ttlMin (ttlMin a b) c = ttlMin a (ttlMin b c) := by
  rw [← UInt32.toNat_inj]
  simp only [ttlMin_toNat]
  omega

theorem ttlMin_le (left right : UInt32) : ttlMin left right ≤ left ∧ ttlMin left right ≤ right := by
  rw [UInt32.le_iff_toNat_le, UInt32.le_iff_toNat_le, ttlMin_toNat]
  omega

theorem ttlMin_max (ttl : UInt32) : ttlMin 0xFFFFFFFF ttl = ttl := by
  have hmax : (0xFFFFFFFF : UInt32).toNat = 4294967295 := rfl
  have hlt := ttl.toNat_lt
  rw [← UInt32.toNat_inj, ttlMin_toNat]
  omega

/-- The smaller of two TTLs is one of them. -/
theorem ttlMin_mem (left right : UInt32) :
    ttlMin left right = left ∨ ttlMin left right = right := by
  unfold ttlMin
  split
  · exact Or.inl rfl
  · exact Or.inr rfl

@[simp] theorem dnsCnameTtlMin_nil : dnsCnameTtlMin [] = 0xFFFFFFFF := rfl

theorem dnsCnameTtlMin_concat (cnames : List CnameRecord) (c : CnameRecord) :
    dnsCnameTtlMin (cnames ++ [c]) = ttlMin c.ttl (dnsCnameTtlMin cnames) := by
  simp [dnsCnameTtlMin, List.foldl_append]

theorem dnsCnameTtlMin_append (cnames cnames' : List CnameRecord) :
    dnsCnameTtlMin (cnames ++ cnames') =
      ttlMin (dnsCnameTtlMin cnames) (dnsCnameTtlMin cnames') := by
  induction cnames' using List.reverseRecOn with
  | nil => rw [List.append_nil, dnsCnameTtlMin_nil, ttlMin_comm, ttlMin_max]
  | append_singleton cnames' c ih =>
    rw [← List.append_assoc, dnsCnameTtlMin_concat, dnsCnameTtlMin_concat, ih, ← ttlMin_assoc,
      ← ttlMin_assoc, ttlMin_comm c.ttl]

theorem dnsCnameTtlMin_cons (c : CnameRecord) (cnames : List CnameRecord) :
    dnsCnameTtlMin (c :: cnames) = ttlMin c.ttl (dnsCnameTtlMin cnames) := by
  have hc := dnsCnameTtlMin_concat [] c
  rw [List.nil_append, dnsCnameTtlMin_nil, ttlMin_comm, ttlMin_max] at hc
  rw [← List.singleton_append, dnsCnameTtlMin_append, hc]

/-- Under the TTL of the whole chain, the TTL of a part does not count. -/
theorem ttlMin_dnsCnameTtlMin_append (cnames cnames' : List CnameRecord) (ttl : UInt32) :
    ttlMin (dnsCnameTtlMin (cnames ++ cnames')) (ttlMin (dnsCnameTtlMin cnames') ttl) =
      ttlMin (dnsCnameTtlMin (cnames ++ cnames')) ttl := by
  rw [dnsCnameTtlMin_append, ← UInt32.toNat_inj]
  simp only [ttlMin_toNat]
  omega

theorem dnsCnameTtlMin_perm {cnames cnames' : List CnameRecord} (h : cnames.Perm cnames') :
    dnsCnameTtlMin cnames = dnsCnameTtlMin cnames' := by
  induction h with
  | nil => rfl
  | cons c _ ih => rw [dnsCnameTtlMin_cons, dnsCnameTtlMin_cons, ih]
  | swap a b l =>
    rw [dnsCnameTtlMin_cons, dnsCnameTtlMin_cons, dnsCnameTtlMin_cons, dnsCnameTtlMin_cons,
      ← ttlMin_assoc, ttlMin_comm b.ttl, ttlMin_assoc]
  | trans _ _ ih ih' => rw [ih, ih']

/-- The TTL is the minimum of the list. -/
structure LeastTtl (ttls : List UInt32) (ttl : UInt32) : Prop where
  mem : ttl ∈ ttls
  le : ∀ t ∈ ttls, ttl ≤ t

/-- The TTL of a chain, taken together with one more TTL. -/
theorem leastTtl_chain (ttl : UInt32) (cnames : List CnameRecord) :
    LeastTtl (ttl :: cnames.map CnameRecord.ttl) (ttlMin (dnsCnameTtlMin cnames) ttl) := by
  induction cnames with
  | nil =>
    rw [dnsCnameTtlMin_nil, ttlMin_max]
    exact ⟨List.mem_cons_self, fun t ht => by
      rw [List.mem_singleton.1 ht]
      exact UInt32.le_refl ttl⟩
  | cons c cnames ih =>
    rw [dnsCnameTtlMin_cons, ttlMin_assoc, List.map_cons]
    have hle := ttlMin_le c.ttl (ttlMin (dnsCnameTtlMin cnames) ttl)
    refine ⟨?_, fun t ht => ?_⟩
    · rcases ttlMin_mem c.ttl (ttlMin (dnsCnameTtlMin cnames) ttl) with h | h
      · rw [h]
        exact List.mem_cons_of_mem _ List.mem_cons_self
      · rw [h]
        rcases List.mem_cons.1 ih.mem with hm | hm
        · rw [hm]
          exact List.mem_cons_self
        · exact List.mem_cons_of_mem _ (List.mem_cons_of_mem _ hm)
    · rcases List.mem_cons.1 ht with rfl | ht
      · exact UInt32.le_trans hle.2 (ih.le t List.mem_cons_self)
      · rcases List.mem_cons.1 ht with rfl | ht
        · exact hle.1
        · exact UInt32.le_trans hle.2 (ih.le t (List.mem_cons_of_mem _ ht))

/-- The TTL of a chain that is not empty. -/
theorem leastTtl_aliases {cnames : List CnameRecord} (h : cnames ≠ []) :
    LeastTtl (cnames.map CnameRecord.ttl) (dnsCnameTtlMin cnames) := by
  cases cnames with
  | nil => exact absurd rfl h
  | cons c cnames =>
    rw [dnsCnameTtlMin_cons, ttlMin_comm]
    exact leastTtl_chain c.ttl cnames

theorem dnsCnameTtlMin_le {cnames : List CnameRecord} {c : CnameRecord} (h : c ∈ cnames) :
    dnsCnameTtlMin cnames ≤ c.ttl :=
  (leastTtl_aliases (List.ne_nil_of_mem h)).le c.ttl (List.mem_map_of_mem h)

/-! ## 3. The aliases of one name -/

/-- The aliases of a name, in the order of the answer. -/
def aliasesOf (cnames : List CnameRecord) (name : Bytes) : List CnameRecord :=
  cnames.filter fun c => dnsNameEqual c.owner name

theorem mem_aliasesOf {cnames : List CnameRecord} {name : Bytes} {c : CnameRecord} :
    c ∈ aliasesOf cnames name ↔ c ∈ cnames ∧ c.ownerKey = nameKey name := by
  rw [aliasesOf, List.mem_filter, dnsNameEqual_iff_key]
  rfl

theorem dnsNameEqual_congr {left left' right right' : Bytes} (hl : nameKey left = nameKey left')
    (hr : nameKey right = nameKey right') :
      dnsNameEqual left right = dnsNameEqual left' right' := by
  rw [Bool.eq_iff_iff, dnsNameEqual_iff_key, dnsNameEqual_iff_key, hl, hr]

/-- The aliases of a name depend on its key only. -/
theorem aliasesOf_key (cnames : List CnameRecord) {name name' : Bytes}
    (h : nameKey name = nameKey name') : aliasesOf cnames name = aliasesOf cnames name' :=
  List.filter_congr fun _ _ => dnsNameEqual_congr rfl h

theorem cnameMatch_aliasesOf (current : Bytes) (cnames : List CnameRecord)
    (matching : Option CnameRecord) (ttl : UInt32) :
    cnameMatch current cnames matching ttl =
      cnameMatch current (aliasesOf cnames current) matching ttl := by
  induction cnames generalizing matching ttl with
  | nil => rfl
  | cons c cnames ih =>
    cases h : dnsNameEqual c.owner current with
    | false =>
      have hfilter : aliasesOf (c :: cnames) current = aliasesOf cnames current :=
        List.filter_cons_of_neg (by rw [h]; exact Bool.false_ne_true)
      rw [cnameMatch.eq_def, hfilter]
      dsimp only
      rw [h, if_pos Bool.false_ne_true, ih]
    | true =>
      have hfilter : aliasesOf (c :: cnames) current = c :: aliasesOf cnames current :=
        List.filter_cons_of_pos h
      rw [hfilter]
      cases matching with
      | none => rw [cnameMatch, cnameMatch, ih, ih]
      | some found => rw [cnameMatch, cnameMatch, ih, ih]

/-- Once an alias is found, the others only have to agree with it. -/
theorem cnameMatch_found {current : Bytes} {aliases : List CnameRecord}
    (hown : ∀ c ∈ aliases, dnsNameEqual c.owner current = true) (found : CnameRecord)
    (ttl : UInt32) :
    cnameMatch current aliases (some found) ttl =
      if ∀ c ∈ aliases, c.targetKey = found.targetKey then
        some (some found, ttlMin (dnsCnameTtlMin aliases) ttl)
      else none := by
  induction aliases generalizing ttl with
  | nil =>
    rw [if_pos nofun, dnsCnameTtlMin_nil, ttlMin_max]
    rfl
  | cons c aliases ih =>
    rw [cnameMatch, if_neg (not_not_intro (hown c List.mem_cons_self)),
      ih fun x hx => hown x (List.mem_cons_of_mem c hx)]
    by_cases hc : c.targetKey = found.targetKey
    · have hsame : dnsNameEqual found.target c.target = true := dnsNameEqual_iff_key.2 hc.symm
      rw [if_neg (not_not_intro hsame), dnsCnameTtlMin_cons,
        ttlMin_comm c.ttl (dnsCnameTtlMin aliases), ttlMin_assoc]
      simp only [List.forall_mem_cons, hc, true_and]
    · have hdiffers : ¬ dnsNameEqual found.target c.target = true :=
        fun h => hc (dnsNameEqual_iff_key.1 h).symm
      rw [if_pos hdiffers, if_neg fun h => hc (h c List.mem_cons_self)]

/-- The alias of a name: all aliases of the name have its target. -/
structure Alias (cnames : List CnameRecord) (name : Bytes) (c : CnameRecord) : Prop where
  mem : c ∈ cnames
  owner : c.ownerKey = nameKey name
  unique : ∀ a ∈ cnames, a.ownerKey = nameKey name → a.targetKey = c.targetKey

/-- **The search of one turn**: the name is torn, or it has no alias, or it has one. -/
theorem cnameMatch_cases (current : Bytes) (cnames : List CnameRecord) :
    (cnameMatch current cnames none 0xFFFFFFFF = none ∧
        Torn CnameRecord.ownerKey CnameRecord.targetKey cnames (nameKey current)) ∨
      (cnameMatch current cnames none 0xFFFFFFFF = some (none, 0xFFFFFFFF) ∧
        ∀ c ∈ cnames, c.ownerKey ≠ nameKey current) ∨
      ∃ c, cnameMatch current cnames none 0xFFFFFFFF =
          some (some c, dnsCnameTtlMin (aliasesOf cnames current)) ∧ Alias cnames current c := by
  rw [cnameMatch_aliasesOf]
  have hmem : ∀ c, c ∈ aliasesOf cnames current ↔ c ∈ cnames ∧ c.ownerKey = nameKey current :=
    fun c => mem_aliasesOf
  have hown : ∀ c ∈ aliasesOf cnames current, dnsNameEqual c.owner current = true :=
    fun c hc => dnsNameEqual_iff_key.2 ((hmem c).1 hc).2
  generalize aliasesOf cnames current = aliases at hmem hown ⊢
  cases aliases with
  | nil =>
    refine Or.inr (Or.inl ⟨rfl, fun c hc he => ?_⟩)
    exact List.not_mem_nil ((hmem c).2 ⟨hc, he⟩)
  | cons m aliases =>
    have hm := (hmem m).1 List.mem_cons_self
    rw [cnameMatch, if_neg (not_not_intro (hown m List.mem_cons_self)),
      cnameMatch_found fun c hc => hown c (List.mem_cons_of_mem m hc)]
    split
    · rename_i hagree
      refine Or.inr (Or.inr ⟨m, ?_, hm.1, hm.2, fun a ha ho => ?_⟩)
      · rw [ttlMin_comm m.ttl, ttlMin_max, ttlMin_comm, ← dnsCnameTtlMin_cons]
      · rcases List.mem_cons.1 ((hmem a).2 ⟨ha, ho⟩) with rfl | ha
        · rfl
        · exact hagree a ha
    · rename_i hagree
      obtain ⟨c, hc⟩ := not_forall.1 hagree
      obtain ⟨hca, hct⟩ := Classical.not_imp.1 hc
      have hc' := (hmem c).1 (List.mem_cons_of_mem m hca)
      exact Or.inl ⟨rfl, c, hc'.1, m, hm.1, hc'.2, hm.2, hct⟩

/-! ## 4. The loop -/

section Turns

variable {recordAt : Bytes → Bool} {cnames chain : List CnameRecord} {current : Bytes}
  {chainTtl ttl : UInt32} {c : CnameRecord}

theorem chainLoop_torn (h : cnameMatch current cnames none 0xFFFFFFFF = none) (depth : Nat) :
    chainLoop recordAt cnames depth chain current chainTtl = .error .malformed := by
  rw [chainLoop.eq_def]
  simp only [h]

theorem chainLoop_ended (h : cnameMatch current cnames none 0xFFFFFFFF = some (none, ttl))
    (depth : Nat) :
    chainLoop recordAt cnames depth chain current chainTtl = .ok (chain, current, chainTtl) := by
  rw [chainLoop.eq_def]
  simp only [h]

theorem chainLoop_zero (h : cnameMatch current cnames none 0xFFFFFFFF = some (some c, ttl)) :
    chainLoop recordAt cnames 0 chain current chainTtl =
      .error (if recordAt current then .malformed else .limit) := by
  rw [chainLoop.eq_def]
  simp only [h]

theorem chainLoop_succ (h : cnameMatch current cnames none 0xFFFFFFFF = some (some c, ttl))
    (depth : Nat) :
    chainLoop recordAt cnames (depth + 1) chain current chainTtl =
      if recordAt current then .error .malformed
      else if chain.any fun a => dnsNameEqual a.owner c.target then .error .malformed
      else chainLoop recordAt cnames depth (chain ++ [{ c with ttl }]) c.target
        (ttlMin ttl chainTtl) := by
  rw [chainLoop.eq_def]
  simp only [h]

end Turns

/-- An alias as the chain takes it up: with the smallest TTL of the aliases of its owner. -/
def stamped (cnames : List CnameRecord) (c : CnameRecord) : CnameRecord :=
  { c with ttl := dnsCnameTtlMin (aliasesOf cnames c.owner) }

/-- What is behind the loop when it is at the name `current`.  `Q` holds of the names with records.
    Only the last alias can point to itself, and then the loop is still at the name of that alias.
    -/
structure Walked (Q : Bytes → Prop) (cnames : List CnameRecord) (question : Bytes)
    (path : List CnameRecord) (current : Bytes) : Prop where
  along : Path CnameRecord.ownerKey CnameRecord.targetKey cnames (nameKey question) path
    (nameKey current)
  here : current = (path.getLast?.map CnameRecord.target).getD question
  agree : ∀ a ∈ path, Alias cnames a.owner a
  bare : ∀ a ∈ path, ¬ Q a.ownerKey
  fresh : path.Pairwise fun a b => b.targetKey ≠ a.ownerKey
  itself : ∀ a ∈ path, a.targetKey = a.ownerKey → a.ownerKey = nameKey current

/-- **The walk from the question fails**: a path over the aliases comes to a name with two different
    targets, with an alias and a record, that was left before, or that is more than 16 aliases
    away. -/
def WalkFails (Q : Bytes → Prop) (cnames : List CnameRecord) (question : Bytes) : Prop :=
  ∃ path name, Path CnameRecord.ownerKey CnameRecord.targetKey cnames (nameKey question) path name ∧
    (Torn CnameRecord.ownerKey CnameRecord.targetKey cnames name ∨
      ((∃ c ∈ cnames, c.ownerKey = name) ∧ Q name) ∨
      (∃ c ∈ path, c.ownerKey = name) ∨
      cnameDepthLimit < path.length)

section Loop

variable {Q : Bytes → Prop} {recordAt : Bytes → Bool} {cnames path : List CnameRecord}
  {question current : Bytes}

theorem Walked.nil : Walked Q cnames question [] question :=
  ⟨.nil, rfl, nofun, nofun, .nil, nofun⟩

section

variable (h : Walked Q cnames question path current)

include h

/-- One turn: the alias of the current name is appended, unless it points back. -/
theorem Walked.step {c : CnameRecord} (hc : Alias cnames current c) (hbare : ¬ Q (nameKey current))
    (hback : ∀ a ∈ path, a.ownerKey ≠ c.targetKey) :
    Walked Q cnames question (path ++ [c]) c.target where
  along := Chains.Path.concat (hc.owner ▸ h.along) hc.mem
  here := by rw [List.getLast?_concat]; rfl
  agree := List.forall_mem_append.2 ⟨h.agree, List.forall_mem_singleton.2
    ⟨hc.mem, rfl, fun a ha ho => hc.unique a ha (ho.trans hc.owner)⟩⟩
  bare := List.forall_mem_append.2 ⟨h.bare, List.forall_mem_singleton.2 (hc.owner ▸ hbare)⟩
  fresh := List.pairwise_append.2 ⟨h.fresh, List.pairwise_singleton _ _, fun a ha b hb => by
    rw [List.mem_singleton.1 hb]
    exact (hback a ha).symm⟩
  itself := by
    intro a ha hself
    rcases List.mem_append.1 ha with ha | ha
    · -- an alias that points to itself is the one of the current name, which was refused
      have hcur := h.itself a ha hself
      have htarget : a.targetKey = c.targetKey :=
        hc.unique a (h.along.mem a ha) hcur
      exact absurd (hself.symm.trans htarget) (hback a ha)
    · rw [List.mem_singleton.1 ha] at hself ⊢
      exact hself.symm

section

variable (hend : ∀ c ∈ cnames, c.ownerKey ≠ nameKey current)

include hend

/-- At the end of the walk no alias points back. -/
theorem Walked.simple :
    Simple CnameRecord.ownerKey CnameRecord.targetKey path :=
  ⟨h.fresh, fun a ha hself => hend a (h.along.mem a ha) (h.itself a ha hself)⟩

/-- Every path over the aliases is a beginning of a walk that has come to its end. -/
theorem Walked.cut {path' : List CnameRecord} {name : Bytes}
    (hpath' : Path CnameRecord.ownerKey CnameRecord.targetKey cnames (nameKey question)
      path' name) :
    ∃ l₁ l₂, path = l₁ ++ l₂ ∧ l₁.map CnameRecord.ownerKey = path'.map CnameRecord.ownerKey ∧
      l₁.map CnameRecord.targetKey = path'.map CnameRecord.targetKey ∧
      Linked CnameRecord.ownerKey CnameRecord.targetKey (nameKey question) l₁ name ∧
      Linked CnameRecord.ownerKey CnameRecord.targetKey name l₂ (nameKey current) :=
  h.along.linked.cut_of_path (fun a ha b hb ho => (h.agree a ha).unique b hb ho) hend hpath'

/-- A walk that has come to its end does not fail. -/
theorem Walked.not_fails (hlength : path.length ≤ cnameDepthLimit) :
    ¬ WalkFails Q cnames question := by
  rintro ⟨path', name, hpath', hfail⟩
  obtain ⟨l₁, l₂, hsplit, howners, htargets, h₁, h₂⟩ := h.cut hend hpath'
  -- a name with an alias is the owner of an alias of the walk
  have hnext : ∀ c ∈ cnames, c.ownerKey = name → ∃ a ∈ path, a.ownerKey = name := by
    intro c hc ho
    cases l₂ with
    | nil => exact absurd (ho.trans h₂) (hend c hc)
    | cons a l₂ =>
      exact ⟨a, hsplit ▸ List.mem_append_right l₁ List.mem_cons_self, h₂.1⟩
  rcases hfail with ⟨a, ha, b, hb, hao, hbo, hne⟩ | ⟨⟨c, hc, ho⟩, hq⟩ | ⟨c, hc, ho⟩ | hlong
  · obtain ⟨x, hx, hxo⟩ := hnext a ha hao
    have hxa := (h.agree x hx).unique a ha (hao.trans hxo.symm)
    have hxb := (h.agree x hx).unique b hb (hbo.trans hxo.symm)
    exact hne (hxa.trans hxb.symm)
  · obtain ⟨x, hx, hxo⟩ := hnext c hc ho
    exact h.bare x hx (hxo ▸ hq)
  · -- the walk would come back to an owner
    have hmem : name ∈ l₁.map CnameRecord.ownerKey := by
      rw [howners, ← ho]
      exact List.mem_map_of_mem hc
    obtain ⟨x, hx, hxo⟩ := List.mem_map.1 hmem
    have hsimple := h.simple hend
    rw [hsplit] at hsimple
    have hfront : Simple CnameRecord.ownerKey CnameRecord.targetKey l₁ :=
      ⟨(List.pairwise_append.1 hsimple.fresh).1,
        fun a ha => hsimple.proper a (List.mem_append_left l₂ ha)⟩
    exact h₁.owner_ne_end hfront hx hxo
  · have hsame := congrArg List.length howners
    have hall := congrArg List.length hsplit
    rw [List.length_map, List.length_map] at hsame
    rw [List.length_append] at hall
    omega

end

end

/-- How the loop ends: it gives up, and the walk fails, or it has walked to a name without an
    alias. -/
def WalkEnds (Q : Bytes → Prop) (cnames : List CnameRecord) (question : Bytes) : ChainEnd → Prop
  | .error status => (status = .malformed ∨ status = .limit) ∧ WalkFails Q cnames question
  | .ok (chain, canonical, ttl) => ∃ path, Walked Q cnames question path canonical ∧
      chain = path.map (stamped cnames) ∧ ttl = dnsCnameTtlMin chain ∧
      (∀ c ∈ cnames, c.ownerKey ≠ nameKey canonical) ∧ path.length ≤ cnameDepthLimit

/-- **The loop of chain building is the walk.** -/
theorem chainLoop_walked (hat : ∀ name, recordAt name = true ↔ Q (nameKey name)) {depth : Nat}
    (h : Walked Q cnames question path current) (hdepth : path.length + depth = cnameDepthLimit) :
    WalkEnds Q cnames question (chainLoop recordAt cnames depth (path.map (stamped cnames)) current
      (dnsCnameTtlMin (path.map (stamped cnames)))) := by
  induction depth generalizing path current
  all_goals
    rcases cnameMatch_cases current cnames with ⟨hm, htorn⟩ | ⟨hm, hend⟩ | ⟨c, hm, hc⟩
    · rw [chainLoop_torn hm]
      exact ⟨Or.inl rfl, path, _, h.along, Or.inl htorn⟩
    · rw [chainLoop_ended hm]
      exact ⟨path, h, rfl, rfl, hend, by omega⟩
    have hmore : Path CnameRecord.ownerKey CnameRecord.targetKey cnames (nameKey question)
        (path ++ [c]) c.targetKey := Chains.Path.concat (hc.owner ▸ h.along) hc.mem
    -- a record beside the alias
    have hboth : recordAt current = true → WalkFails Q cnames question := fun hrec =>
      ⟨path, _, h.along, Or.inr (Or.inl ⟨⟨c, hc.mem, hc.owner⟩, (hat _).1 hrec⟩)⟩
  case zero =>
    rw [chainLoop_zero hm]
    split
    · rename_i hrec
      exact ⟨Or.inl rfl, hboth hrec⟩
    · -- the 17th alias
      refine ⟨Or.inr rfl, path ++ [c], _, hmore, Or.inr (Or.inr (Or.inr ?_))⟩
      rw [List.length_append, List.length_singleton]
      omega
  case succ depth ih =>
    rw [chainLoop_succ hm]
    split
    · rename_i hrec
      exact ⟨Or.inl rfl, hboth hrec⟩
    rename_i hrec
    split
    · -- the alias points back
      rename_i hback
      obtain ⟨a, ha, he⟩ := List.any_eq_true.1 hback
      obtain ⟨b, hb, rfl⟩ := List.mem_map.1 ha
      refine ⟨Or.inl rfl, path ++ [c], _, hmore, Or.inr (Or.inr (Or.inl ?_))⟩
      exact ⟨b, List.mem_append_left _ hb, dnsNameEqual_iff_key.1 he⟩
    · rename_i hback
      have hforth : ∀ a ∈ path, a.ownerKey ≠ c.targetKey := by
        intro a ha he
        exact hback (List.any_eq_true.2
          ⟨stamped cnames a, List.mem_map_of_mem ha, dnsNameEqual_iff_key.2 he⟩)
      have hstep := h.step hc (fun hq => hrec ((hat _).2 hq)) hforth
      have hnext := ih hstep (by rw [List.length_append, List.length_singleton]; omega)
      have hstamped : ({ c with ttl := dnsCnameTtlMin (aliasesOf cnames current) } : CnameRecord) =
          stamped cnames c := by
        rw [stamped, aliasesOf_key cnames hc.owner]
      rw [List.map_append, List.map_singleton, dnsCnameTtlMin_concat, ← hstamped] at hnext
      exact hnext

end Loop

/-! ## 5. The order of the answers -/

/-- Two aliases between the same names, with the same TTL. -/
structure SameAlias (c c' : CnameRecord) : Prop where
  owner : c.ownerKey = c'.ownerKey
  target : c.targetKey = c'.targetKey
  ttl : c.ttl = c'.ttl

/-- Two ends of the loop that tell the same. -/
def SameEnd : ChainEnd → ChainEnd → Prop
  | .error status, .error status' => status = status'
  | .ok (chain, canonical, ttl), .ok (chain', canonical', ttl') =>
    List.Forall₂ SameAlias chain chain' ∧ nameKey canonical = nameKey canonical' ∧ ttl = ttl'
  | _, _ => False

section Order

variable {cnames cnames' chain chain' : List CnameRecord} {current current' : Bytes}
  {recordAt recordAt' : Bytes → Bool}

/-- The search of one turn finds the same in every order. -/
theorem cnameMatch_same (hc : cnames.Perm cnames') (hcur : nameKey current = nameKey current') :
    (cnameMatch current cnames none 0xFFFFFFFF = none ∧
        cnameMatch current' cnames' none 0xFFFFFFFF = none) ∨
      (cnameMatch current cnames none 0xFFFFFFFF = some (none, 0xFFFFFFFF) ∧
        cnameMatch current' cnames' none 0xFFFFFFFF = some (none, 0xFFFFFFFF)) ∨
      ∃ c c' ttl, cnameMatch current cnames none 0xFFFFFFFF = some (some c, ttl) ∧
        cnameMatch current' cnames' none 0xFFFFFFFF = some (some c', ttl) ∧
        c.ownerKey = c'.ownerKey ∧ c.targetKey = c'.targetKey := by
  have httl : dnsCnameTtlMin (aliasesOf cnames current) =
      dnsCnameTtlMin (aliasesOf cnames' current') := by
    rw [aliasesOf_key cnames hcur]
    exact dnsCnameTtlMin_perm (hc.filter _)
  rcases cnameMatch_cases current cnames with ⟨hm, a, ha, b, hb, hao, hbo, hne⟩ | ⟨hm, hend⟩ |
    ⟨c, hm, halias⟩
  · rcases cnameMatch_cases current' cnames' with ⟨hm', -⟩ | ⟨-, hend'⟩ | ⟨c', -, halias'⟩
    · exact Or.inl ⟨hm, hm'⟩
    · exact absurd (hao.trans hcur) (hend' a (hc.mem_iff.1 ha))
    · have hac := halias'.unique a (hc.mem_iff.1 ha) (hao.trans hcur)
      have hbc := halias'.unique b (hc.mem_iff.1 hb) (hbo.trans hcur)
      exact absurd (hac.trans hbc.symm) hne
  · rcases cnameMatch_cases current' cnames' with
      ⟨-, a, ha, -, -, hao, -⟩ | ⟨hm', -⟩ | ⟨c', -, halias'⟩
    · exact absurd (hao.trans hcur.symm) (hend a (hc.mem_iff.2 ha))
    · exact Or.inr (Or.inl ⟨hm, hm'⟩)
    · exact absurd (halias'.owner.trans hcur.symm) (hend c' (hc.mem_iff.2 halias'.mem))
  · rcases cnameMatch_cases current' cnames' with ⟨-, a, ha, b, hb, hao, hbo, hne⟩ | ⟨-, hend'⟩ |
      ⟨c', hm', halias'⟩
    · have hac := halias.unique a (hc.mem_iff.2 ha) (hao.trans hcur.symm)
      have hbc := halias.unique b (hc.mem_iff.2 hb) (hbo.trans hcur.symm)
      exact absurd (hac.trans hbc.symm) hne
    · exact absurd (halias.owner.trans hcur) (hend' c (hc.mem_iff.1 halias.mem))
    · refine Or.inr (Or.inr ⟨c, c', _, hm, httl ▸ hm', ?_, ?_⟩)
      · rw [halias.owner, halias'.owner, hcur]
      · exact halias'.unique c (hc.mem_iff.1 halias.mem) (halias.owner.trans hcur)

theorem any_owner_same (h : List.Forall₂ SameAlias chain chain') {target target' : Bytes}
    (ht : nameKey target = nameKey target') :
    (chain.any fun c => dnsNameEqual c.owner target) =
      chain'.any fun c => dnsNameEqual c.owner target' := by
  induction h with
  | nil => rfl
  | cons hc _ ih => rw [List.any_cons, List.any_cons, ih, dnsNameEqual_congr hc.owner ht]

/-- **The loop tells the same in every order of the aliases.** -/
theorem chainLoop_same (hc : cnames.Perm cnames')
    (hat : ∀ name name', nameKey name = nameKey name' → recordAt name = recordAt' name')
    (hchain : List.Forall₂ SameAlias chain chain') (hcur : nameKey current = nameKey current')
    (depth : Nat) (chainTtl : UInt32) :
    SameEnd (chainLoop recordAt cnames depth chain current chainTtl)
      (chainLoop recordAt' cnames' depth chain' current' chainTtl) := by
  induction depth generalizing chain chain' current current' chainTtl
  all_goals
    rcases cnameMatch_same hc hcur with
      ⟨hm, hm'⟩ | ⟨hm, hm'⟩ | ⟨c, c', ttl, hm, hm', howner, htarget⟩
    · rw [chainLoop_torn hm, chainLoop_torn hm']
      rfl
    · rw [chainLoop_ended hm, chainLoop_ended hm']
      exact ⟨hchain, hcur, rfl⟩
  case zero =>
    rw [chainLoop_zero hm, chainLoop_zero hm', hat current current' hcur]
    rfl
  case succ depth ih =>
    rw [chainLoop_succ hm, chainLoop_succ hm', hat current current' hcur,
      any_owner_same hchain htarget]
    split
    · rfl
    split
    · rfl
    · have hlink : SameAlias { c with ttl } { c' with ttl } := ⟨howner, htarget, rfl⟩
      exact ih (List.rel_append hchain (.cons hlink .nil)) htarget _

/-- Aliases with normalized names that tell the same are the same. -/
theorem SameAlias.eq {c c' : CnameRecord} (h : SameAlias c c') (hn : c.Normal) (hn' : c'.Normal) :
    c = c' := by
  have howner := h.owner
  have htarget := h.target
  rw [CnameRecord.ownerKey, CnameRecord.ownerKey, nameKey_of_normalized hn.owner,
    nameKey_of_normalized hn'.owner] at howner
  rw [CnameRecord.targetKey, CnameRecord.targetKey, nameKey_of_normalized hn.target,
    nameKey_of_normalized hn'.target] at htarget
  cases c
  cases c'
  cases howner
  cases htarget
  cases h.ttl
  rfl

theorem sameAlias_eq (h : List.Forall₂ SameAlias chain chain') (hn : ∀ c ∈ chain, c.Normal)
    (hn' : ∀ c ∈ chain', c.Normal) : chain = chain' := by
  induction h with
  | nil => rfl
  | cons hc _ ih =>
    rw [hc.eq (hn _ List.mem_cons_self) (hn' _ List.mem_cons_self),
      ih (fun c hc => hn c (List.mem_cons_of_mem _ hc))
        (fun c hc => hn' c (List.mem_cons_of_mem _ hc))]

end Order

/-! ## 6. Chain building -/

variable {ρ : Type}

variable (records : List (Candidate ρ))

/-- A record is owned by the name. -/
def HasRecord (name : Bytes) : Prop :=
  ∃ r ∈ records, nameKey r.owner = name

/-- The records of a name, in the order of the answer. -/
def recordsOf (name : Bytes) : List (Candidate ρ) :=
  records.filter fun r => dnsNameEqual r.owner name

/-- The status of a response whose walk has come to its end. -/
def walkStatus (chain : List CnameRecord) (canonical : Bytes) : ParseStatus :=
  match recordsOf records canonical, chain with
  | _ :: _, _ => .ok
  | [], [] => .nodata
  | [], _ :: _ => .aliasOnly

/-- What chain building delivers when the walk does not fail. -/
structure WalkResult [TtlRecord ρ] (records : List (Candidate ρ)) (cnames : List CnameRecord)
    (question : Bytes) (status : ParseStatus) (result : DnsResult ρ) : Prop where
  /-- The chain is a path from the question to the canonical name ... -/
  walk : ∃ path, result.cnames = path.map (stamped cnames) ∧
    Path CnameRecord.ownerKey CnameRecord.targetKey cnames (nameKey question) path
      (nameKey result.canonicalName)
  /-- ... of which every path is a beginning. -/
  whole : ∀ path name,
    Path CnameRecord.ownerKey CnameRecord.targetKey cnames (nameKey question) path name →
      path.map CnameRecord.ownerKey <+: result.cnames.map CnameRecord.ownerKey ∧
      path.map CnameRecord.targetKey <+: result.cnames.map CnameRecord.targetKey
  length_le : result.cnames.length ≤ cnameDepthLimit
  /-- An alias has the smallest TTL of its copies. -/
  linkTtl : ∀ c ∈ result.cnames, LeastTtl ((aliasesOf cnames c.owner).map CnameRecord.ttl) c.ttl
  canonical : ∀ c ∈ cnames, c.ownerKey ≠ nameKey result.canonicalName
  /-- The records are those of the canonical name; only their effective TTL is set. -/
  records_eq : result.records = (recordsOf records result.canonicalName).map fun r =>
    TtlRecord.withEffectiveTtl r.record
      (ttlMin (dnsCnameTtlMin result.cnames) (TtlRecord.recordTtl r.record))
  recordTtl : ∀ r ∈ result.records,
    LeastTtl (TtlRecord.recordTtl r :: result.cnames.map CnameRecord.ttl) (TtlRecord.effectiveTtl r)
  status_eq : status = walkStatus records result.cnames result.canonicalName

/-- What chain building says about the order of its inputs. -/
structure SameWalk (built built' : ParseStatus × DnsResult ρ) : Prop where
  status : built.1 = built'.1
  chain : List.Forall₂ SameAlias built.2.cnames built'.2.cnames
  canonical : nameKey built.2.canonicalName = nameKey built'.2.canonicalName

/-- **Chain building is the walk along the aliases**: it fails exactly when the walk fails, delivers
    the walk otherwise, and does not depend on the order of the answers. -/
structure ChainWalk [TtlRecord ρ]
    (build : List (Candidate ρ) → List CnameRecord → Bytes → ParseStatus × DnsResult ρ) : Prop where
  fails : ∀ records cnames question,
    ((build records cnames question).1 = .malformed ∨ (build records cnames question).1 = .limit) ↔
      WalkFails (HasRecord records) cnames question
  walks : ∀ records cnames question, ¬ WalkFails (HasRecord records) cnames question →
    WalkResult records cnames question (build records cnames question).1
      (build records cnames question).2
  order : ∀ records records' cnames cnames' question, records.Perm records' → cnames.Perm cnames' →
    SameWalk (build records cnames question) (build records' cnames' question)
  /-- Normalized names are the same to the letter. -/
  letter : ∀ records records' cnames cnames' question, records.Perm records' →
    cnames.Perm cnames' → Normalized question → (∀ c ∈ cnames, c.Normal) →
      (build records cnames question).2.cnames = (build records' cnames' question).2.cnames ∧
      (build records cnames question).2.canonicalName =
        (build records' cnames' question).2.canonicalName

/-- The loop asks for the records of a name. -/
def recordAt (name : Bytes) : Bool :=
  records.any fun r => dnsNameEqual r.owner name

theorem recordAt_iff {records : List (Candidate ρ)} (name : Bytes) :
    recordAt records name = true ↔ HasRecord records (nameKey name) := by
  rw [recordAt, List.any_eq_true]
  simp only [dnsNameEqual_iff_key]
  rfl

theorem recordAt_perm {records records' : List (Candidate ρ)} (h : records.Perm records')
    (name name' : Bytes) (hname : nameKey name = nameKey name') :
    recordAt records name = recordAt records' name' := by
  rw [Bool.eq_iff_iff, recordAt_iff, recordAt_iff, hname]
  unfold HasRecord
  simp only [h.mem_iff]

theorem recordsOf_ne_nil_iff {records : List (Candidate ρ)} {name : Bytes} :
    recordsOf records name ≠ [] ↔ recordAt records name = true := by
  rw [recordsOf, recordAt, List.any_eq_true, ne_eq, List.filter_eq_nil_iff]
  simp only [not_forall, not_not, exists_prop]

/-- The loop on a whole response. -/
theorem chainLoop_ends (cnames : List CnameRecord) (question : Bytes) :
    WalkEnds (HasRecord records) cnames question
      (chainLoop (recordAt records) cnames cnameDepthLimit [] question 0xFFFFFFFF) :=
  chainLoop_walked recordAt_iff .nil (Nat.zero_add _)

theorem walkStatus_ne (chain : List CnameRecord) (canonical : Bytes) :
    ¬ (walkStatus records chain canonical = .malformed ∨
      walkStatus records chain canonical = .limit) := by
  unfold walkStatus
  split <;> simp

section Build

variable [TtlRecord ρ] {env : QueryEnv} {records records' : List (Candidate ρ)}
  {cnames cnames' : List CnameRecord} {question : Bytes} {rcode : UInt8}

/-- Chain building around its loop, where the allocations succeed. -/
def walkBuild (records : List (Candidate ρ)) (question : Bytes) (rcode : UInt8) :
    ChainEnd → ParseStatus × DnsResult ρ
  | .error status => (status, { questionName := question, rcode })
  | .ok (chain, canonical, ttl) => (walkStatus records chain canonical,
      { questionName := question, rcode, cnames := chain, canonicalName := canonical,
        records := (recordsOf records canonical).map fun r =>
          TtlRecord.withEffectiveTtl r.record (ttlMin ttl (TtlRecord.recordTtl r.record)) })

theorem chainBuild_eq (hchain : env.chainAllocated = true)
    (hrecords : env.recordsAllocated = true) :
    chainBuild env records cnames { questionName := question, rcode } =
      walkBuild records question rcode
        (chainLoop (recordAt records) cnames cnameDepthLimit [] question 0xFFFFFFFF) := by
  unfold chainBuild
  rw [if_neg (fun h => h.2 hchain)]
  show (match chainLoop (recordAt records) cnames cnameDepthLimit [] question 0xFFFFFFFF with
    | .error status => _
    | .ok (chain, current, chainTtl) => _) = _
  rcases chainLoop (recordAt records) cnames cnameDepthLimit [] question 0xFFFFFFFF with
    status | ⟨chain, current, chainTtl⟩
  · rfl
  · dsimp only [walkBuild, walkStatus]
    have hfold : records.filter (fun r => dnsNameEqual r.owner current) =
      recordsOf records current := rfl
    rw [hfold]
    cases recordsOf records current with
    | nil => cases chain <;> rfl
    | cons r owned => rw [if_neg nofun, if_neg (not_not_intro hrecords)]

/-- Where the walk ends, chain building delivers it. -/
theorem walkResult_of_walked {path : List CnameRecord} {canonical : Bytes}
    (h : Walked (HasRecord records) cnames question path canonical)
    (hend : ∀ c ∈ cnames, c.ownerKey ≠ nameKey canonical)
    (hlength : path.length ≤ cnameDepthLimit) :
    WalkResult records cnames question (walkStatus records (path.map (stamped cnames)) canonical)
      { questionName := question, rcode, cnames := path.map (stamped cnames),
        canonicalName := canonical,
        records := (recordsOf records canonical).map fun r => TtlRecord.withEffectiveTtl r.record
          (ttlMin (dnsCnameTtlMin (path.map (stamped cnames)))
            (TtlRecord.recordTtl r.record)) } where
  walk := ⟨path, rfl, h.along⟩
  whole := by
    intro path' name hpath'
    obtain ⟨l₁, l₂, rfl, howners, htargets, -, -⟩ := h.cut hend hpath'
    rw [← howners, ← htargets]
    refine ⟨⟨l₂.map CnameRecord.ownerKey, ?_⟩, ⟨l₂.map CnameRecord.targetKey, ?_⟩⟩
    · rw [← List.map_append, List.map_map]
      rfl
    · rw [← List.map_append, List.map_map]
      rfl
  length_le := (List.length_map (stamped cnames)).trans_le hlength
  linkTtl := by
    intro c hc
    obtain ⟨a, ha, rfl⟩ := List.mem_map.1 hc
    have hmem : a ∈ aliasesOf cnames a.owner := mem_aliasesOf.2 ⟨h.along.mem a ha, rfl⟩
    exact leastTtl_aliases (List.ne_nil_of_mem hmem)
  canonical := hend
  records_eq := rfl
  recordTtl := by
    intro r hr
    obtain ⟨candidate, -, rfl⟩ := List.mem_map.1 hr
    rw [TtlRecord.recordTtl_with, TtlRecord.effectiveTtl_with]
    exact leastTtl_chain _ _
  status_eq := rfl

/-- Both failures and results of chain building are those of the walk. -/
theorem walkBuild_spec {ending : ChainEnd}
    (h : WalkEnds (HasRecord records) cnames question ending) :
    (((walkBuild records question rcode ending).1 = .malformed ∨
        (walkBuild records question rcode ending).1 = .limit) ↔
      WalkFails (HasRecord records) cnames question) ∧
    (¬ WalkFails (HasRecord records) cnames question →
      WalkResult records cnames question (walkBuild records question rcode ending).1
        (walkBuild records question rcode ending).2) := by
  rcases ending with status | ⟨chain, canonical, ttl⟩
  · exact ⟨⟨fun _ => h.2, fun _ => h.1⟩, fun hno => absurd h.2 hno⟩
  · obtain ⟨path, hwalked, rfl, rfl, hend, hlength⟩ := h
    have hnot := hwalked.not_fails hend hlength
    exact ⟨⟨fun hs => absurd hs (walkStatus_ne _ _ _), fun hs => absurd hs hnot⟩,
      fun _ => walkResult_of_walked hwalked hend hlength⟩

theorem walkBuild_same {ending ending' : ChainEnd}
    (hr : records.Perm records') (h : SameEnd ending ending') :
    SameWalk (walkBuild records question rcode ending)
      (walkBuild records' question rcode ending') := by
  rcases ending with status | ⟨chain, canonical, ttl⟩ <;>
    rcases ending' with status' | ⟨chain', canonical', ttl'⟩
  · exact ⟨h, .nil, rfl⟩
  · exact h.elim
  · exact h.elim
  · obtain ⟨hchain, hcanonical, -⟩ := h
    refine ⟨?_, hchain, hcanonical⟩
    show walkStatus records chain canonical = walkStatus records' chain' canonical'
    have howned := recordAt_perm hr _ _ hcanonical
    rw [Bool.eq_iff_iff, ← recordsOf_ne_nil_iff, ← recordsOf_ne_nil_iff] at howned
    unfold walkStatus
    generalize recordsOf records canonical = owned at howned ⊢
    generalize recordsOf records' canonical' = owned' at howned ⊢
    cases owned with
    | nil =>
      cases owned' with
      | nil => cases hchain <;> rfl
      | cons => exact absurd rfl (howned.2 nofun)
    | cons =>
      cases owned' with
      | nil => exact absurd rfl (howned.1 nofun)
      | cons => rfl

/-- What holds of the question and of all names of the aliases holds of those the walk comes to. -/
theorem Walked.names {Q N : Bytes → Prop} {path : List CnameRecord} {current : Bytes}
    (h : Walked Q cnames question path current) (hquestion : N question)
    (hn : ∀ c ∈ cnames, N c.owner ∧ N c.target) :
    N current ∧ ∀ c ∈ path.map (stamped cnames), N c.owner ∧ N c.target := by
  refine ⟨?_, ?_⟩
  · rw [h.here]
    cases hl : path.getLast? with
    | none => exact hquestion
    | some c => exact (hn c (h.along.mem c (List.mem_of_getLast? hl))).2
  · intro c hc
    obtain ⟨a, ha, rfl⟩ := List.mem_map.1 hc
    exact hn a (h.along.mem a ha)

theorem walkBuild_letter {ending ending' : ChainEnd}
    (hends : WalkEnds (HasRecord records) cnames question ending)
    (hends' : WalkEnds (HasRecord records') cnames' question ending') (h : SameEnd ending ending')
    (hquestion : Normalized question) (hn : ∀ c ∈ cnames, c.Normal)
    (hn' : ∀ c ∈ cnames', c.Normal) :
    (walkBuild records question rcode ending).2.cnames =
        (walkBuild records' question rcode ending').2.cnames ∧
      (walkBuild records question rcode ending).2.canonicalName =
        (walkBuild records' question rcode ending').2.canonicalName := by
  rcases ending with status | ⟨chain, canonical, ttl⟩ <;>
    rcases ending' with status' | ⟨chain', canonical', ttl'⟩
  · exact ⟨rfl, rfl⟩
  · exact h.elim
  · exact h.elim
  · obtain ⟨path, hwalked, rfl, -⟩ := hends
    obtain ⟨path', hwalked', rfl, -⟩ := hends'
    obtain ⟨hchain, hcanonical, -⟩ := h
    obtain ⟨hname, hnormal⟩ :=
      hwalked.names hquestion fun c hc => ⟨(hn c hc).owner, (hn c hc).target⟩
    obtain ⟨hname', hnormal'⟩ :=
      hwalked'.names hquestion fun c hc => ⟨(hn' c hc).owner, (hn' c hc).target⟩
    rw [nameKey_of_normalized hname, nameKey_of_normalized hname'] at hcanonical
    exact ⟨sameAlias_eq hchain (fun c hc => ⟨(hnormal c hc).1, (hnormal c hc).2⟩)
      (fun c hc => ⟨(hnormal' c hc).1, (hnormal' c hc).2⟩), hcanonical⟩

end Build

/-- **`dns_response_chain_build` is the walk along the aliases of the answer.** -/
theorem dnsResponseChainBuild_walks (env : QueryEnv) (rcode : UInt8)
    (hchain : env.chainAllocated = true) (hrecords : env.recordsAllocated = true) :
    ChainWalk fun addresses cnames question =>
      dnsResponseChainBuild env addresses cnames { questionName := question, rcode } := by
  have heq : ∀ (addresses : List (Candidate AddressRecord)) cnames question,
      dnsResponseChainBuild env addresses cnames { questionName := question, rcode } =
        walkBuild addresses question rcode
          (chainLoop (recordAt addresses) cnames cnameDepthLimit [] question 0xFFFFFFFF) :=
    fun _ _ _ => chainBuild_eq hchain hrecords
  have hsame : ∀ (addresses addresses' : List (Candidate AddressRecord)) cnames cnames' question,
      addresses.Perm addresses' → cnames.Perm cnames' →
        SameEnd (chainLoop (recordAt addresses) cnames cnameDepthLimit [] question 0xFFFFFFFF)
          (chainLoop (recordAt addresses') cnames' cnameDepthLimit [] question 0xFFFFFFFF) :=
    fun _ _ _ _ _ ha hc => chainLoop_same hc (recordAt_perm ha) .nil rfl _ _
  constructor
  · intro addresses cnames question
    rw [heq]
    exact (walkBuild_spec (chainLoop_ends addresses cnames question)).1
  · intro addresses cnames question
    rw [heq]
    exact (walkBuild_spec (chainLoop_ends addresses cnames question)).2
  · intro addresses addresses' cnames cnames' question ha hc
    rw [heq, heq]
    exact walkBuild_same ha (hsame _ _ _ _ question ha hc)
  · intro addresses addresses' cnames cnames' question ha hc hquestion hn
    rw [heq, heq]
    exact walkBuild_letter (chainLoop_ends addresses cnames question)
      (chainLoop_ends addresses' cnames' question) (hsame _ _ _ _ question ha hc) hquestion hn
      (fun c hmem => hn c (hc.mem_iff.2 hmem))

/-- Two copies of an alias with different TTLs, and an address behind it. -/
theorem dnsResponseChainBuild_walks_copies :
    let env : QueryEnv := { queryId := some 1, sent := .error .other }
    env.chainAllocated = true ∧ env.recordsAllocated = true ∧
      ChainWalk (fun addresses cnames question =>
        dnsResponseChainBuild env addresses cnames { questionName := question }) ∧
      (dnsResponseChainBuild env
        [⟨[98], { address := ⟨.inet, [1, 2, 3, 4], rfl⟩, effectiveTtl := 0, recordTtl := 9 }⟩]
        [⟨[97], [98], 7⟩, ⟨[97], [98], 5⟩] { questionName := [97] }).2.cnames = [⟨[97], [98], 5⟩] :=
  ⟨rfl, rfl, dnsResponseChainBuild_walks _ 0 rfl rfl, by decide⟩

end MinecraftRelay
