/-
  File:      Resolver/Cache/Freshness.lean
  Subject:   WHAT A VIEW OF THE CACHE SHOWS, over every run of its calls.

  The history of a run is read off its calls: `latestStored` is the last publication to an entry
  that returned STORED.  The payload an entry holds is always that publication, so a view needs no
  other memory of the past.

  * `Publication`, `Publication.expiry` -- a publication, and the time it is good for, in the terms
    of its records;
  * `Held` -- the history invariant; `Held.call`, `Held.calls` -- kept by a call, hence by a run;
  * `run_cacheFresh` -- views are fresh, of the latest publication, and expiry is final.
-/
import MinecraftRelay.Resolver.Cache.Accounting

namespace MinecraftRelay

/-! ## 1. Publications and the time they are good for -/

/-- One call of `resolver_cache_entry_publish_address` or `..._srv`. -/
structure Publication where
  lookupStatus : LookupStatus
  completedAt : Timespec
  result : AnyResult
deriving Repr, DecidableEq

namespace AnyResult

def addresses : AnyResult → List AddressRecord
  | .address result => result.records
  | .srv _ => []

def srvRecords : AnyResult → List SrvRecord
  | .address _ => []
  | .srv result => result.records

/-- The effective TTLs of the records. -/
def recordTtls : AnyResult → List Nat
  | .address result => result.records.map (·.effectiveTtl.toNat)
  | .srv result => result.records.map (·.effectiveTtl.toNat)

def negative : AnyResult → NegativeRecord
  | .address result => result.negative
  | .srv result => result.negative

end AnyResult

namespace Publication

/-- The TTLs a publication depends on: those of its records, or that of the negative answer. -/
def ttls (p : Publication) : List Nat :=
  if p.lookupStatus = .ok then p.result.recordTtls else [p.result.negative.effectiveTtl.toNat]

/-- The completion time plus the smallest effective TTL. -/
def expiry (p : Publication) : Option Timespec :=
  p.ttls.min?.map fun (ttl : Nat) => { p.completedAt with sec := p.completedAt.sec + ttl }

/-- The kind of answer of the lookup. -/
def kind (p : Publication) : MetricsPayloadKind :=
  match p.lookupStatus with
  | .ok => .positive
  | .nodata => .nodata
  | _ => .nxdomain

end Publication

/-- The payload is what the publication brought. -/
structure Payload.Of (payload : Payload) (p : Publication) : Prop where
  result : payload.result = p.result
  completedAt : payload.completedAt = p.completedAt
  kind : payload.kind = p.kind
  expiresAt : p.expiry = some payload.expiresAt

theorem foldl_ttlMin_toNat (ttls : List UInt32) (ttl : UInt32) :
    (ttls.foldl (fun ttl r => ttlMin r ttl) ttl).toNat =
      (ttls.map UInt32.toNat).foldl min ttl.toNat := by
  induction ttls generalizing ttl with
  | nil => rfl
  | cons r ttls ih =>
    rw [List.foldl_cons, ih, ttlMin_toNat, List.map_cons, List.foldl_cons, Nat.min_comm]

/-- The running minimum of the validators starts above every TTL. -/
theorem min?_eq_foldl_ttlMin {ttls : List UInt32} (h : ttls ≠ []) :
    (ttls.map UInt32.toNat).min? =
      some (ttls.foldl (fun ttl r => ttlMin r ttl) 0xFFFFFFFF).toNat := by
  rw [foldl_ttlMin_toNat]
  cases ttls with
  | nil => exact absurd rfl h
  | cons ttl ttls =>
    have hmax : min (0xFFFFFFFF : UInt32).toNat ttl.toNat = ttl.toNat := by
      have hlt := ttl.toNat_lt
      show min 4294967295 _ = _
      omega
    rw [List.map_cons, List.foldl_cons, hmax, List.min?_cons']

section Validate

variable {ρ : Type} {typeValid : Bool} {recordLimit : Nat} {recordValid : ρ → Bool}
  {effectiveTtl : ρ → UInt32} {entry : Entry} {lookupStatus : LookupStatus} {result : DnsResult ρ}
  {ttl : UInt32} {kind : MetricsPayloadKind}

/-- A validator's TTL is the smallest the publication depends on, and its kind is the answer's. -/
theorem resultValidate_spec
    (h : resultValidate typeValid recordLimit recordValid effectiveTtl entry lookupStatus result =
      some (ttl, kind)) (httl : ttl ≠ 0) (completedAt : Timespec) (published : AnyResult)
    (hrecords : published.recordTtls = result.records.map fun r => (effectiveTtl r).toNat)
    (hnegative : published.negative = result.negative) :
    (⟨lookupStatus, completedAt, published⟩ : Publication).ttls.min? = some ttl.toNat ∧
      (⟨lookupStatus, completedAt, published⟩ : Publication).kind = kind := by
  unfold resultValidate at h
  unfold Publication.ttls Publication.kind
  split at h
  · cases h
  split at h
  · rename_i hok
    split at h
    · cases h
    rename_i hshape
    split at h
    · cases h
    cases h
    rw [hok]
    refine ⟨?_, rfl⟩
    rw [if_pos rfl, hrecords, ← min?_eq_foldl_ttlMin, List.map_map]
    · rfl
    · intro hnil
      exact hshape (Or.inr (Or.inl (List.map_eq_nil_iff.1 hnil)))
  rename_i hok
  split at h
  · cases h
  rename_i hstatus
  split at h
  · cases h
  cases h
  rw [if_neg hok, hnegative]
  refine ⟨?_, ?_⟩
  · split at httl
    · rename_i hvalid
      rw [if_pos hvalid]
      rfl
    · exact absurd rfl httl
  · have hcases : lookupStatus = .nodata ∨ lookupStatus = .notFound := by
      by_contra hn
      exact hstatus (Or.inr ⟨fun h => hn (Or.inl h), fun h => hn (Or.inr h)⟩)
    rcases hcases with rfl | rfl
    · rfl
    · rfl

end Validate

/-- The expiry is the sum in seconds. -/
theorem expiryCalculate_eq_add (completedAt : Timespec) (ttl : UInt32) :
    expiryCalculate completedAt ttl = timeutilAddSeconds completedAt ttl.toNat := by
  unfold expiryCalculate timeutilAddSeconds
  split
  · simp [*]
  · simp [*]

theorem expiryCalculate_eq {completedAt expiresAt : Timespec} {ttl : UInt32}
    (h : expiryCalculate completedAt ttl = some expiresAt) :
    expiresAt = { completedAt with sec := completedAt.sec + ttl.toNat } := by
  rw [expiryCalculate_eq_add] at h
  obtain ⟨-, -, hsec, hnsec⟩ := timeutilAddSeconds_spec h
  exact Timespec.ext hsec hnsec

/-! ## 2. The history of a run -/

/-- The publication a call stored, and where. -/
def stored (limits : CacheLimits) (c : Cache) : CacheCall → Option (EntryId × Publication)
  | .publishAddress e lookupStatus completedAt result allocated =>
    if (entryPublishAddress limits c e lookupStatus completedAt result allocated).2.1 = .stored
    then some (e, ⟨lookupStatus, completedAt, .address result⟩) else none
  | .publishSrv e lookupStatus completedAt result allocated =>
    if (entryPublishSrv limits c e lookupStatus completedAt result allocated).2.1 = .stored
    then some (e, ⟨lookupStatus, completedAt, .srv result⟩) else none
  | _ => none

/-- The history after one more call. -/
def history (limits : CacheLimits) (c : Cache) (latest : EntryId → Option Publication)
    (call : CacheCall) : EntryId → Option Publication :=
  match stored limits c call with
  | some (e, p) => Function.update latest e (some p)
  | none => latest

/-- The latest stored publication to each entry, after further calls. -/
def latestFrom (limits : CacheLimits) : Cache → (EntryId → Option Publication) →
    List CacheCall → EntryId → Option Publication
  | _, latest, [] => latest
  | c, latest, call :: calls =>
    latestFrom limits (cacheCall limits c call) (history limits c latest call) calls

/-- The latest publication of a run to an entry that was stored. -/
def latestStored (limits : CacheLimits) (calls : List CacheCall) : EntryId → Option Publication :=
  latestFrom limits (cacheCreate limits) (fun _ => none) calls

/-- The run stores nothing in the entry. -/
def NothingStored (limits : CacheLimits) (e : EntryId) : Cache → List CacheCall → Prop
  | _, [] => True
  | c, call :: calls =>
    (∀ p, stored limits c call ≠ some (e, p)) ∧
      NothingStored limits e (cacheCall limits c call) calls

/-- Every payload is the latest publication to its entry. -/
def Held (c : Cache) (latest : EntryId → Option Publication) : Prop :=
  ∀ e payload, c.payload e = some payload → ∃ p, latest e = some p ∧ payload.Of p

section History

variable {limits : CacheLimits} {c c' : Cache} {e : EntryId} {latest : EntryId → Option Publication}

theorem Held.kept (h : Held c latest) (hk : PayloadsKept c c') : Held c' latest := by
  intro x payload hp
  rcases hk x with hx | hx
  · rw [hx] at hp
    exact h x payload hp
  · rw [hx] at hp
    cases hp

/-- What a publication call does to the payloads and what it reports, for either kind of result. -/
theorem publication_cases {ρ : Type} (limits : CacheLimits) (c : Cache) (e : EntryId)
    (type : DnsResult ρ → AnyResult) {validate : ResultCheck} (size : Option Nat) (p : Publication)
    (result : DnsResult ρ) (allocated : Bool) (hresult : p.result = type result)
    (hvalidate : ∀ entry ttl kind, validate entry = some (ttl, kind) → ttl ≠ 0 →
      p.ttls.min? = some ttl.toNat ∧ p.kind = kind) :
    let r := entryPublish limits c e type validate size p.completedAt result allocated
    (r.2.1 = .stored ∧ (∀ x, x ≠ e → r.1.payload x = c.payload x) ∧
      ∃ payload, r.1.payload e = some payload ∧ payload.Of p) ∨
      (r.2.1 ≠ .stored ∧ PayloadsKept c r.1) := by
  generalize hr : entryPublish limits c e type validate size p.completedAt result allocated = r
  obtain ⟨c', r⟩ := r
  cases entryPublish_published hr with
  | refused hs ht h => exact Or.inr ⟨hs, .of_eq h.payload⟩
  | published hentry hvalid h =>
    cases h with
    | @stored expiresAt httl hexpiry hbytes h =>
      obtain ⟨hmin, hkind⟩ := hvalidate _ _ _ hvalid httl
      have hpayload := h.payload e
      rw [Cache.store_payload, if_pos rfl] at hpayload
      refine Or.inl ⟨rfl, fun x hx => ?_, _, hpayload, hresult.symm, rfl, hkind.symm, ?_⟩
      · rw [h.payload, Cache.store_payload, if_neg hx]
      · rw [Publication.expiry, hmin, Option.map_some, expiryCalculate_eq hexpiry]
    | transient httl h => exact Or.inr ⟨nofun, payloadClear_kept.trans (.of_eq h.payload)⟩
    | refused hs ht h => exact Or.inr ⟨hs, .of_eq h.payload⟩

/-- What a call does to the payloads: it stores a publication, or shows nothing new. -/
theorem cacheCall_payloads (limits : CacheLimits) (c : Cache) (call : CacheCall) :
    (∃ e p, stored limits c call = some (e, p) ∧
      (∀ x, x ≠ e → (cacheCall limits c call).payload x = c.payload x) ∧
      ∃ payload, (cacheCall limits c call).payload e = some payload ∧ payload.Of p) ∨
      (stored limits c call = none ∧ PayloadsKept c (cacheCall limits c call)) := by
  cases call with
  | acquire queryName queryType allocated => exact Or.inr ⟨rfl, entryAcquire_kept⟩
  | retain e => exact Or.inr ⟨rfl, .of_eq entryRetain_payload⟩
  | release e => exact Or.inr ⟨rfl, entryRelease_kept⟩
  | view e now => exact Or.inr ⟨rfl, entryView_kept now⟩
  | publishAddress e lookupStatus completedAt result allocated =>
    rcases publication_cases limits c e .address (resultSize sizeofAddressRecord result)
      ⟨lookupStatus, completedAt, .address result⟩ result allocated rfl
      (fun entry ttl kind hv httl => resultValidate_spec
        (show addressResultValidate entry lookupStatus result = some (ttl, kind) from hv) httl
        completedAt (.address result) rfl rfl) with ⟨hs, hother, hself⟩ | ⟨hs, hk⟩
    · exact Or.inl ⟨e, _, if_pos hs, hother, hself⟩
    · exact Or.inr ⟨if_neg hs, hk⟩
  | publishSrv e lookupStatus completedAt result allocated =>
    rcases publication_cases limits c e .srv (resultSize sizeofSrvRecord result)
      ⟨lookupStatus, completedAt, .srv result⟩ result allocated rfl
      (fun entry ttl kind hv httl => resultValidate_spec
        (show srvResultValidate entry lookupStatus result = some (ttl, kind) from hv) httl
        completedAt (.srv result) rfl rfl) with ⟨hs, hother, hself⟩ | ⟨hs, hk⟩
    · exact Or.inl ⟨e, _, if_pos hs, hother, hself⟩
    · exact Or.inr ⟨if_neg hs, hk⟩

/-- One call keeps the payloads in step with the history. -/
theorem Held.call (h : Held c latest) (call : CacheCall) :
    Held (cacheCall limits c call) (history limits c latest call) := by
  unfold history
  rcases cacheCall_payloads limits c call with ⟨e, p, hs, hother, payload, hp, hof⟩ | ⟨hs, hk⟩
  · rw [hs]
    intro x found hx
    have hold := h x found
    have hrest := hother x
    grind [Function.update_apply]
  · rw [hs]
    exact h.kept hk

theorem Held.calls (limits : CacheLimits) (h : Held c latest) (calls : List CacheCall) :
    Held (calls.foldl (cacheCall limits) c) (latestFrom limits c latest calls) := by
  induction calls generalizing c latest with
  | nil => exact h
  | cons call calls ih => exact ih (h.call call)

/-- An entry without payload stays so until something is stored in it. -/
theorem payload_none_calls (hnone : c.payload e = none) (calls : List CacheCall)
    (hnothing : NothingStored limits e c calls) :
    (calls.foldl (cacheCall limits) c).payload e = none := by
  induction calls generalizing c with
  | nil => exact hnone
  | cons call calls ih =>
    obtain ⟨hcall, hcalls⟩ := hnothing
    refine ih ?_ hcalls
    rcases cacheCall_payloads limits c call with ⟨x, p, hs, hother, -⟩ | ⟨hs, hk⟩
    · have hxe : e ≠ x := fun hex => hcall p (by rw [hs, hex])
      rw [hother e hxe, hnone]
    · exact hk.none hnone

end History

/-! ## 3. Views -/

section Views

variable {c : Cache} {e : EntryId} {now : Timespec} {view : View}

/-- A view that shows something shows the entry's payload, before its expiry. -/
theorem entryView_fresh {kind : MetricsPayloadKind} (h : (entryView c e now).2 = some view)
    (hs : view.status = .fresh kind) :
    ∃ payload, c.payload e = some payload ∧ now < payload.expiresAt ∧ view = payload.view ∧
      payload.kind = kind := by
  unfold entryView at h
  split at h
  · cases h
  rename_i entry he
  split at h
  · cases h
  simp only [Option.some.injEq] at h
  subst h
  -- whatever is there after the expiry check was there before, and passed it
  cases hp : (payloadExpire c e now).payload e with
  | none =>
    rw [hp] at hs
    cases hs
  | some payload =>
    rw [hp, Option.map_some, Option.getD_some] at hs
    have hkept : c.payload e = some payload := by
      have hkept : PayloadsKept c (payloadExpire c e now) := payloadExpire_kept
      rcases hkept e with hk | hk
      · rw [← hk, hp]
      · rw [hk] at hp
        cases hp
    refine ⟨payload, hkept, ?_, rfl, ?_⟩
    · have hentry : entry.payload = some payload := by
        rw [Cache.payload, he] at hkept
        exact hkept
      unfold payloadExpire at hp
      rw [he] at hp
      dsimp only at hp
      rw [hentry] at hp
      dsimp only at hp
      split at hp
      · rename_i hlt
        exact (timeutilCompare_eq_lt ..).1 hlt
      · rw [payloadClear_payload, if_pos rfl] at hp
        cases hp
    · unfold Payload.view at hs
      split at hs
      · cases hs
        rfl
      · cases hs
        rfl

theorem entryView_none (h : (entryView c e now).2 = some view) (hnone : c.payload e = none) :
    view.status = .empty := by
  cases hs : view.status with
  | empty => rfl
  | fresh kind =>
    obtain ⟨payload, hp, -⟩ := entryView_fresh h hs
    rw [hnone] at hp
    cases hp

end Views

/-- What the views of a run show. -/
structure CacheFresh (limits : CacheLimits) (calls : List CacheCall) : Prop where
  /-- a view shows the latest stored publication to its entry, before the completion time plus the
      smallest effective TTL -/
  fresh : ∀ e now view kind, (entryView (cacheRun limits calls) e now).2 = some view →
    view.status = .fresh kind →
    ∃ p expiry, latestStored limits calls e = some p ∧ p.expiry = some expiry ∧ now < expiry ∧
      kind = p.kind ∧ view.completedAt = p.completedAt ∧ view.expiresAt = expiry ∧
      view.addresses = p.result.addresses ∧ view.srvRecords = p.result.srvRecords
  /-- once a view finds nothing, or nothing fresh, no later one shows anything until a publication
      to the entry is stored, whatever times are asked for -/
  expired : ∀ e now view later now' view', (entryView (cacheRun limits calls) e now).2 = some view →
    view.status = .empty →
    NothingStored limits e (cacheRun limits (calls ++ [.view e now])) later →
    (entryView (cacheRun limits (calls ++ .view e now :: later)) e now').2 = some view' →
    view'.status = .empty

/-- **Freshness of the cache in every run.** -/
theorem run_cacheFresh (limits : CacheLimits) (calls : List CacheCall) :
    CacheFresh limits calls := by
  constructor
  · intro e now view kind hview hs
    obtain ⟨payload, hp, hlt, rfl, hkind⟩ := entryView_fresh hview hs
    have hstart : Held (cacheCreate limits) fun _ => none := nofun
    obtain ⟨p, hlatest, hof⟩ := hstart.calls limits calls e payload hp
    refine ⟨p, payload.expiresAt, hlatest, hof.expiresAt, hlt, ?_, ?_⟩
    · rw [← hkind, hof.kind]
    · rw [← hof.result, ← hof.completedAt]
      unfold Payload.view
      split <;> rename_i hr <;> rw [hr] <;> exact ⟨rfl, rfl, rfl, rfl⟩
  · intro e now view later now' view' hview hs hnothing hview'
    refine entryView_none hview' ?_
    have hsplit : cacheRun limits (calls ++ .view e now :: later) =
        later.foldl (cacheCall limits) (cacheRun limits (calls ++ [.view e now])) := by
      simp [cacheRun]
    have hcall : cacheRun limits (calls ++ [.view e now]) =
        (entryView (cacheRun limits calls) e now).1 := by
      simp [cacheRun, cacheCall]
    rw [hsplit]
    refine payload_none_calls ?_ later hnothing
    rw [hcall]
    exact entryView_empty (Prod.ext rfl hview) hs

end MinecraftRelay
