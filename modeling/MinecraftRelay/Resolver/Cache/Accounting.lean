/-
  File:      Resolver/Cache/Accounting.lean
  Subject:   CHAINS, COUNTS AND BYTES OF THE CACHE, over every run of its calls.

  A run is `resolver_cache_create` followed by any calls with any arguments, times, results and
  outcomes of `calloc`.  Every call is a sequence of `CacheMove`s; the invariant is proved of the
  moves and of nothing else.

  * `CacheMove`, `cacheCall_moves` -- what a call can do to the entries, the chains and the counts;
  * `CacheSound` -- the invariant: chains by hash, unique names, references, exact byte count;
  * `CacheMove.sound`, `run_cacheSound` -- kept by every move, hence true in every run; the ids
    of a run's entries increase;
  * `entryPublish_atomic` -- a publication takes the whole result, or nothing, and leaves the other
    entries and their bytes alone.
-/
import MinecraftRelay.Library.Placement
import MinecraftRelay.Resolver.Cache
import Mathlib.Algebra.Order.BigOperators.Group.List

namespace MinecraftRelay

open Placement
open Function (update update_apply update_eq_self update_idem update_of_ne update_self)

/-! ## 1. Calls and runs -/

/-- The public calls of the cache that can change it. -/
inductive CacheCall where
  | acquire (queryName : Bytes) (queryType : Nat) (allocated : Bool)
  | retain (e : EntryId)
  | release (e : EntryId)
  | publishAddress (e : EntryId) (lookupStatus : LookupStatus) (completedAt : Timespec)
      (result : AddressResult) (allocated : Bool)
  | publishSrv (e : EntryId) (lookupStatus : LookupStatus) (completedAt : Timespec)
      (result : SrvResult) (allocated : Bool)
  | view (e : EntryId) (now : Timespec)

variable (limits : CacheLimits)

/-- The cache after a call. -/
def cacheCall (c : Cache) : CacheCall → Cache
  | .acquire queryName queryType allocated =>
    (entryAcquire limits c queryName queryType allocated).1
  | .retain e => (entryRetain c e).1
  | .release e => entryRelease limits c e
  | .publishAddress e lookupStatus completedAt result allocated =>
    (entryPublishAddress limits c e lookupStatus completedAt result allocated).1
  | .publishSrv e lookupStatus completedAt result allocated =>
    (entryPublishSrv limits c e lookupStatus completedAt result allocated).1
  | .view e now => (entryView c e now).1

/-- The cache after a run. -/
def cacheRun (calls : List CacheCall) : Cache :=
  calls.foldl (cacheCall limits) (cacheCreate limits)

/-! ## 2. Moves -/

/-- A new entry at the head of its chain. -/
def Cache.create (c : Cache) (name : Bytes) (type : QueryType) : Cache :=
  let bucket := cacheBucket limits (cacheHash name type)
  { c with
    buckets := update c.buckets bucket (c.nextEntryId :: c.buckets bucket)
    entries := update c.entries c.nextEntryId (some
      { hash := cacheHash name type, name, payload := none, queryType := type,
        referenceCount := 1 })
    entryCount := c.entryCount + 1
    nextEntryId := if c.nextEntryId = uint64Max then 0 else c.nextEntryId + 1
    ownedBytes := c.ownedBytes + sizeofCacheEntry }

/-- The cache has room for a new entry of this question. -/
structure Cache.Admits (limits : CacheLimits) (c : Cache) (name : Bytes) (type : QueryType) :
    Prop where
  normal : Normalized name
  fresh : entryFind limits c name type (cacheHash name type) = none
  room : c.entryCount ≠ limits.entryLimit
  id : c.nextEntryId ≠ 0
  bytes : c.ownedBytes + sizeofCacheEntry ≤ limits.ownedByteLimit

/-- What a call does, step by step, with the id of the entry the step creates. -/
inductive CacheMove (limits : CacheLimits) : Cache → List EntryId → Cache → Prop where
  | record {c c' : Cache} (h : Recorded c c') : CacheMove limits c [] c'
  | count {c : Cache} {e : EntryId} {entry : Entry} {n : Nat} (h : c.entries e = some entry)
      (hn : 0 < n) : CacheMove limits c [] (c.setEntry e { entry with referenceCount := n })
  | create {c : Cache} {name : Bytes} {type : QueryType} (hnew : c.Admits limits name type) :
      CacheMove limits c [c.nextEntryId] (c.create limits name type)
  | clear (c : Cache) (e : EntryId) : CacheMove limits c [] (payloadClear c e)
  | store {c : Cache} {e : EntryId} {entry : Entry} {payload : Payload}
      (h : c.entries e = some entry)
      (hbytes : c.ownedBytes - (entry.payload.map (·.ownedBytes)).getD 0 + payload.ownedBytes ≤
        limits.ownedByteLimit) : CacheMove limits c [] (c.store e entry payload)
  | free {c : Cache} {e : EntryId} {entry : Entry} (h : c.entries e = some entry) :
      CacheMove limits c [] (entryFree limits c e entry)

/-- Moves one after another, with the ids they create in order. -/
inductive CacheMoves (limits : CacheLimits) : Cache → List EntryId → Cache → Prop where
  | refl (c : Cache) : CacheMoves limits c [] c
  | step {c c' c'' : Cache} {ids ids' : List EntryId} (h : CacheMove limits c ids c')
      (hs : CacheMoves limits c' ids' c'') : CacheMoves limits c (ids ++ ids') c''

theorem CacheMoves.trans {limits : CacheLimits} {c c' c'' : Cache} {ids ids' : List EntryId}
    (h : CacheMoves limits c ids c') (h' : CacheMoves limits c' ids' c'') :
    CacheMoves limits c (ids ++ ids') c'' := by
  induction h with
  | refl c => exact h'
  | step hm _ ih =>
    rw [List.append_assoc]
    exact .step hm (ih h')

/-- A move, and the counters recorded after it. -/
theorem CacheMove.recorded {limits : CacheLimits} {c c' c'' : Cache} {ids : List EntryId}
    (h : CacheMove limits c ids c') (hr : Recorded c' c'') : CacheMoves limits c ids c'' := by
  have hmoves := CacheMoves.step h (.step (.record hr) (.refl c''))
  rwa [List.append_nil, List.append_nil] at hmoves

theorem CacheMove.moves {limits : CacheLimits} {c c' : Cache} {ids : List EntryId}
    (h : CacheMove limits c ids c') : CacheMoves limits c ids c' := h.recorded (.refl c')

theorem Recorded.moves {limits : CacheLimits} {c c' : Cache} (h : Recorded c c') :
    CacheMoves limits c [] c' := (CacheMove.record h).moves

section Calls

variable {limits : CacheLimits} {c : Cache} {e : EntryId}

theorem entryRetain_cases (c : Cache) (e : EntryId) :
    entryRetain c e = (c, false) ∨ ∃ entry, c.entries e = some entry ∧
      entryRetain c e =
        (c.setEntry e { entry with referenceCount := entry.referenceCount + 1 }, true) := by
  unfold entryRetain
  split
  · exact Or.inl rfl
  · rename_i entry h
    split
    · exact Or.inl rfl
    · exact Or.inr ⟨entry, h, rfl⟩

/-- Everything `resolver_cache_entry_acquire` can do: refuse, count a reference, create. -/
inductive Acquired (limits : CacheLimits) (c c' : Cache) : Option EntryId → Prop where
  | refused (h : Recorded c c') : Acquired limits c c' none
  | reused {e : EntryId} {entry : Entry} (h : c.entries e = some entry)
      (h' : Recorded (c.setEntry e { entry with referenceCount := entry.referenceCount + 1 }) c') :
      Acquired limits c c' (some e)
  | created {name : Bytes} {type : QueryType} (hnew : c.Admits limits name type)
      (h' : Recorded (c.create limits name type) c') :
      Acquired limits c c' (some c.nextEntryId)

theorem entryAcquire_acquired (limits : CacheLimits) (c : Cache) (queryName : Bytes)
    (queryType : Nat) (allocated : Bool) :
    Acquired limits c (entryAcquire limits c queryName queryType allocated).1
      (entryAcquire limits c queryName queryType allocated).2.2 := by
  unfold entryAcquire
  split
  · exact .refused (.increment c _ _)
  · exact .refused (.increment c _ _)
  rename_i type name _ hname
  dsimp only
  split
  · rename_i e hfind
    rcases entryRetain_cases c e with hr | ⟨entry, hentry, hr⟩
    · rw [hr]
      exact .refused (.increment c _ _)
    · rw [hr]
      exact .reused hentry (.increment _ _ _)
  rename_i hfind
  split
  · exact .refused (.increment c _ _)
  rename_i hroom
  split
  · exact .refused (.increment c _ _)
  rename_i hid
  split
  · exact .refused (.increment c _ _)
  split
  · exact .refused (.increment c _ _)
  · exact .created ⟨nameNormalize_normalized hname, hfind, hroom, hid, by omega⟩ ⟨_, rfl⟩

theorem entryRetain_moves : CacheMoves limits c [] (entryRetain c e).1 := by
  rcases entryRetain_cases c e with hr | ⟨entry, hentry, hr⟩
  · rw [hr]
    exact .refl c
  · rw [hr]
    exact (CacheMove.count hentry (Nat.succ_pos _)).moves

theorem entryRelease_moves : CacheMoves limits c [] (entryRelease limits c e) := by
  unfold entryRelease
  split
  · exact .refl c
  · rename_i entry h
    split
    · exact .refl c
    · split
      · exact (CacheMove.count h (by omega)).moves
      · exact (CacheMove.free h).moves

theorem entryPublish_moves {ρ : Type} {type : DnsResult ρ → AnyResult} {validate : ResultCheck}
    {size : Option Nat} {completedAt : Timespec} {result : DnsResult ρ} {allocated : Bool} :
    CacheMoves limits c []
      (entryPublish limits c e type validate size completedAt result allocated).1 := by
  generalize hr : entryPublish limits c e type validate size completedAt result allocated = r
  obtain ⟨c', r⟩ := r
  cases entryPublish_published hr with
  | refused hs ht h => exact h.moves
  | published hentry hvalid h =>
    cases h with
    | stored httl hexpiry hbytes h => exact (CacheMove.store hentry hbytes).recorded h
    | transient httl h => exact (CacheMove.clear c e).recorded h
    | refused hs ht h => exact h.moves

theorem entryView_moves {now : Timespec} : CacheMoves limits c [] (entryView c e now).1 := by
  unfold entryView
  split
  · exact .refl c
  split
  · exact .refl c
  unfold payloadExpire
  split
  · exact .refl c
  split
  · exact .refl c
  split
  · exact .refl c
  · exact (Recorded.increment c _ _).moves.trans (CacheMove.clear _ e).moves

end Calls

/-! ## 3. The invariant -/

namespace Cache

/-- The chain an entry hangs in. -/
def place (c : Cache) (limits : CacheLimits) (e : EntryId) : Option Nat :=
  (c.entries e).map fun entry => cacheBucket limits entry.hash

/-- The entries a walk over all chains meets. -/
def residents (c : Cache) (limits : CacheLimits) : List EntryId := chain limits.entryLimit c.buckets

/-- The bytes of an entry's payload. -/
def payloadBytes (c : Cache) (e : EntryId) : Nat := ((c.payload e).map (·.ownedBytes)).getD 0

/-- The bytes of an entry with its payload. -/
def entryBytes (c : Cache) (e : EntryId) : Nat := sizeofCacheEntry + c.payloadBytes e

end Cache

/-- The bytes of the cache itself: its header and its buckets. -/
def headerBytes : Nat := sizeofCache + limits.entryLimit * sizeofPointer

/-- **The structural invariant of the cache.** -/
structure CacheSound (limits : CacheLimits) (c : Cache) : Prop where
  /-- every resident entry hangs, once, in the chain of its hash, and nothing else does -/
  chains : Holds c.buckets (c.place limits)
  /-- names are normalized, and the hash is the hash of the name and the type -/
  named : ∀ e entry, c.entries e = some entry →
    Normalized entry.name ∧ entry.hash = cacheHash entry.name entry.queryType
  unique : ∀ e e' entry entry', c.entries e = some entry → c.entries e' = some entry' →
    entry.name = entry'.name → entry.queryType = entry'.queryType → e = e'
  referenced : ∀ e entry, c.entries e = some entry → 0 < entry.referenceCount
  count : c.entryCount = (c.residents limits).length
  count_le : c.entryCount ≤ limits.entryLimit
  bytes : c.ownedBytes = headerBytes limits + ((c.residents limits).map c.entryBytes).sum
  bytes_le : c.ownedBytes ≤ limits.ownedByteLimit
  /-- ids are nonzero, and below the next one as long as there is a next one -/
  ids : ∀ e entry, c.entries e = some entry → e ≠ 0 ∧ (c.nextEntryId ≠ 0 → e < c.nextEntryId)

theorem cacheBucket_lt (hash : UInt64) :
    cacheBucket limits hash < limits.entryLimit := Nat.mod_lt _ limits.entryLimit_pos

section Sound

variable {limits : CacheLimits} {c c' : Cache} {e : EntryId} {entry : Entry}

theorem Cache.place_lt {k : Nat} (h : c.place limits e = some k) : k < limits.entryLimit := by
  obtain ⟨entry, -, rfl⟩ := Option.map_eq_some_iff.1 h
  exact cacheBucket_lt limits entry.hash

theorem Cache.payloadBytes_eq (h : c.entries e = some entry) :
    c.payloadBytes e = (entry.payload.map (·.ownedBytes)).getD 0 := by
  rw [Cache.payloadBytes, Cache.payload, h]
  rfl

namespace CacheSound

variable (h : CacheSound limits c)

include h

theorem mem_residents : e ∈ c.residents limits ↔ c.entries e ≠ none := by
  unfold Cache.residents
  rw [mem_chain h.chains fun a k hk => Cache.place_lt hk]
  unfold Cache.place
  rw [ne_eq, Option.map_eq_none_iff]

theorem residents_nodup : (c.residents limits).Nodup := nodup_chain h.chains

/-- An entry's bytes are part of the bytes the cache owns. -/
theorem entryBytes_le (he : c.entries e = some entry) :
    headerBytes limits + c.entryBytes e ≤ c.ownedBytes := by
  have hmem : e ∈ c.residents limits := h.mem_residents.2 (by rw [he]; exact nofun)
  rw [h.bytes]
  exact Nat.add_le_add_left (List.le_sum_of_mem (List.mem_map_of_mem hmem)) _

theorem entryCount_pos (he : c.entries e = some entry) : 0 < c.entryCount := by
  rw [h.count]
  exact List.length_pos_of_mem (h.mem_residents.2 (by rw [he]; exact nofun))

/-- The next id belongs to no entry. -/
theorem next_free (hid : c.nextEntryId ≠ 0) : c.entries c.nextEntryId = none := by
  cases he : c.entries c.nextEntryId with
  | none => rfl
  | some entry => exact absurd ((h.ids _ entry he).2 hid) (Nat.lt_irrefl _)

theorem recorded (hr : Recorded c c') : CacheSound limits c' := by
  obtain ⟨m, rfl⟩ := hr
  exact ⟨h.chains, h.named, h.unique, h.referenced, h.count, h.count_le, h.bytes, h.bytes_le,
    h.ids⟩

/-- One entry is rewritten and stays what it is: same hash, name and type. -/
theorem rewrite {entry' : Entry} {n : Nat} (he : c.entries e = some entry)
    (hhash : entry'.hash = entry.hash) (hname : entry'.name = entry.name)
    (htype : entry'.queryType = entry.queryType) (href : 0 < entry'.referenceCount)
    (hbytes : n + c.payloadBytes e = c.ownedBytes + (entry'.payload.map (·.ownedBytes)).getD 0)
    (hle : n ≤ limits.ownedByteLimit) :
    CacheSound limits { c.setEntry e entry' with ownedBytes := n } := by
  have hself : update c.entries e (some entry') e = some entry' := update_self ..
  have hplace : ({ c.setEntry e entry' with ownedBytes := n } : Cache).place limits =
      c.place limits := by
    funext x
    unfold Cache.place
    show (update c.entries e (some entry') x).map _ = _
    grind [update_apply]
  have hmem : e ∈ c.residents limits := h.mem_residents.2 (by rw [he]; exact nofun)
  -- the entry an update finds has the name, type and references of one that was there
  have hold : ∀ x (found : Entry), update c.entries e (some entry') x = some found →
      ∃ before, c.entries x = some before ∧ found.name = before.name ∧
        found.queryType = before.queryType ∧ found.hash = before.hash ∧
        (0 < before.referenceCount → 0 < found.referenceCount) := by
    intro x found hx
    rcases update_some hx with ⟨rfl, rfl⟩ | ⟨_, hx⟩
    · exact ⟨entry, he, hname, htype, hhash, fun _ => href⟩
    · exact ⟨found, hx, rfl, rfl, rfl, id⟩
  refine ⟨by rw [hplace]; exact h.chains, ?_, ?_, ?_, h.count, h.count_le, ?_, hle, ?_⟩
  · intro x found hx
    obtain ⟨before, hb, hn, ht, hh, -⟩ := hold x found hx
    rw [hn, ht, hh]
    exact h.named x before hb
  · intro x y found found' hx hy hn ht
    obtain ⟨before, hb, hn₁, ht₁, -, -⟩ := hold x found hx
    obtain ⟨before', hb', hn₂, ht₂, -, -⟩ := hold y found' hy
    exact h.unique x y before before' hb hb' (by rw [← hn₁, hn, hn₂]) (by rw [← ht₁, ht, ht₂])
  · intro x found hx
    obtain ⟨before, hb, -, -, -, hr⟩ := hold x found hx
    exact hr (h.referenced x before hb)
  · have hsum := sum_map_change h.residents_nodup hmem (w := c.entryBytes)
      (v := ({ c.setEntry e entry' with ownedBytes := n } : Cache).entryBytes) (by
        intro x hx
        show sizeofCacheEntry + _ = sizeofCacheEntry + _
        congr 1
        unfold Cache.payloadBytes
        rw [show ({ c.setEntry e entry' with ownedBytes := n } : Cache).payload x = _ from
          Cache.setEntry_payload entry' x, if_neg hx])
    have hnew : ({ c.setEntry e entry' with ownedBytes := n } : Cache).payloadBytes e =
        (entry'.payload.map (·.ownedBytes)).getD 0 :=
      Cache.payloadBytes_eq (c := { c.setEntry e entry' with ownedBytes := n }) hself
    have hbefore := h.bytes
    unfold Cache.entryBytes at hsum hbefore ⊢
    show n = _ + (((c.residents limits).map _).sum)
    omega
  · intro x found hx
    obtain ⟨before, hb, -⟩ := hold x found hx
    exact h.ids x before hb

end CacheSound

/-- Dropping the payload of a resident entry. -/
theorem payloadClear_eq (he : c.entries e = some entry) :
    payloadClear c e = { c.setEntry e { entry with payload := none } with
      ownedBytes := c.ownedBytes - c.payloadBytes e } := by
  rw [Cache.payloadBytes_eq he]
  unfold payloadClear
  rw [he]
  dsimp only
  split
  · rename_i hp
    have hsame : ({ entry with payload := none } : Entry) = entry := by rw [← hp]
    rw [hsame, Cache.setEntry, ← he, update_eq_self, hp]
    rfl
  · rename_i p hp
    rw [hp]
    congr 1
    show (if p.ownedBytes ≤ c.ownedBytes then _ else _) = c.ownedBytes - p.ownedBytes
    split
    · rfl
    · omega

theorem Cache.store_eq (he : c.entries e = some entry) (payload : Payload) :
    c.store e entry payload = { c.setEntry e { entry with payload := some payload } with
      ownedBytes := c.ownedBytes - c.payloadBytes e + payload.ownedBytes } := by
  unfold Cache.store
  rw [payloadClear_eq he]
  simp only [Cache.setEntry, update_idem]

/-- The cache without one of its entries. -/
def Cache.without (c : Cache) (limits : CacheLimits) (e : EntryId) (entry : Entry) : Cache :=
  { c with
    buckets := update c.buckets (cacheBucket limits entry.hash)
      ((c.buckets (cacheBucket limits entry.hash)).erase e)
    entries := update c.entries e none
    entryCount := c.entryCount - 1
    ownedBytes := c.ownedBytes - c.payloadBytes e - sizeofCacheEntry }

theorem entryFree_eq (he : c.entries e = some entry) :
    entryFree limits c e entry = c.without limits e entry := by
  unfold entryFree Cache.without
  dsimp only
  rw [payloadClear_eq (c := { c with
    buckets := update c.buckets (cacheBucket limits entry.hash)
      ((c.buckets (cacheBucket limits entry.hash)).erase e) }) he]
  simp only [Cache.setEntry, update_idem, Cache.mk.injEq, true_and]
  refine ⟨?_, ?_⟩
  · show (if 0 < c.entryCount then c.entryCount - 1 else c.entryCount) = c.entryCount - 1
    split <;> omega
  · split
    · rfl
    · rename_i hn
      exact (Nat.sub_eq_zero_of_le (Nat.le_of_not_le hn)).symm

/-! ## 4. Every move keeps the invariant -/

namespace CacheSound

variable (h : CacheSound limits c)

include h

theorem setReferences {n : Nat} (he : c.entries e = some entry) (hn : 0 < n) :
    CacheSound limits (c.setEntry e { entry with referenceCount := n }) :=
  h.rewrite he rfl rfl rfl hn (by rw [Cache.payloadBytes_eq he]) h.bytes_le

theorem payloadClear (e : EntryId) : CacheSound limits (payloadClear c e) := by
  cases he : c.entries e with
  | none =>
    unfold MinecraftRelay.payloadClear
    rw [he]
    exact h
  | some entry =>
    have hle := h.entryBytes_le he
    have hlimit := h.bytes_le
    unfold Cache.entryBytes at hle
    rw [payloadClear_eq he]
    refine h.rewrite he rfl rfl rfl (h.referenced e entry he) ?_ (by omega)
    show _ = c.ownedBytes + 0
    omega

theorem store {payload : Payload} (he : c.entries e = some entry)
    (hbytes : c.ownedBytes - (entry.payload.map (·.ownedBytes)).getD 0 + payload.ownedBytes ≤
      limits.ownedByteLimit) : CacheSound limits (c.store e entry payload) := by
  have hle := h.entryBytes_le he
  unfold Cache.entryBytes at hle
  rw [← Cache.payloadBytes_eq he] at hbytes
  rw [Cache.store_eq he]
  refine h.rewrite he rfl rfl rfl (h.referenced e entry he) ?_ hbytes
  show _ = c.ownedBytes + payload.ownedBytes
  omega

/-- A name the chains do not have belongs to no entry. -/
theorem find_none {name : Bytes} {type : QueryType}
    (hnew : entryFind limits c name type (cacheHash name type) = none)
    (he : c.entries e = some entry) : ¬ (entry.name = name ∧ entry.queryType = type) := by
  rintro ⟨rfl, rfl⟩
  have hhash := (h.named e entry he).2
  have hmem : e ∈ c.buckets (cacheBucket limits entry.hash) := by
    rw [h.chains.mem, Cache.place, he]
    rfl
  unfold entryFind at hnew
  rw [← hhash, List.find?_eq_none] at hnew
  refine hnew e hmem ?_
  rw [he]
  simp

theorem create {name : Bytes} {type : QueryType} (hadmits : c.Admits limits name type) :
    CacheSound limits (c.create limits name type) := by
  obtain ⟨hname, hnew, hroom, hid, hbytes⟩ := hadmits
  have hfree := h.next_free hid
  have hbucket := cacheBucket_lt limits (cacheHash name type)
  have hlt := Nat.lt_of_le_of_ne h.count_le hroom
  have hplace : (c.create limits name type).place limits = update (c.place limits)
      c.nextEntryId (some (cacheBucket limits (cacheHash name type))) := map_update ..
  have hbuckets := chain_insert_perm c.buckets hbucket
    (List.Perm.refl (c.nextEntryId :: c.buckets (cacheBucket limits (cacheHash name type))))
  refine ⟨?_, ?_, ?_, ?_, ?_, hlt, ?_, hbytes, ?_⟩
  · rw [hplace]
    exact h.chains.cons (by rw [Cache.place, hfree]; rfl)
  · intro e entry he
    rcases update_some he with ⟨-, rfl⟩ | ⟨-, he⟩
    · exact ⟨hname, rfl⟩
    · exact h.named e entry he
  · intro e e' entry entry' he he' hn ht
    rcases update_some he with ⟨h₁, rfl⟩ | ⟨-, he⟩
    · rcases update_some he' with ⟨h₂, rfl⟩ | ⟨-, he'⟩
      · rw [h₁, h₂]
      · exact absurd ⟨hn.symm, ht.symm⟩ (h.find_none hnew he')
    · rcases update_some he' with ⟨-, rfl⟩ | ⟨-, he'⟩
      · exact absurd ⟨hn, ht⟩ (h.find_none hnew he)
      · exact h.unique e e' entry entry' he he' hn ht
  · intro e entry he
    rcases update_some he with ⟨-, rfl⟩ | ⟨-, he⟩
    · exact Nat.one_pos
    · exact h.referenced e entry he
  · show c.entryCount + 1 = _
    rw [h.count]
    exact hbuckets.length_eq.symm
  · -- the new entry has no payload, and no other entry's bytes change
    have hnone : c.nextEntryId ∉ c.residents limits := by
      rw [h.mem_residents, hfree]
      exact fun hn => hn rfl
    have hself : (c.create limits name type).entryBytes c.nextEntryId = sizeofCacheEntry := by
      simp [Cache.entryBytes, Cache.payloadBytes, Cache.payload, Cache.create]
    have hother : (c.residents limits).map (c.create limits name type).entryBytes =
        (c.residents limits).map c.entryBytes := by
      apply List.map_congr_left
      intro x hx
      have hne : x ≠ c.nextEntryId := fun hxn => hnone (hxn ▸ hx)
      simp [Cache.entryBytes, Cache.payloadBytes, Cache.payload, Cache.create, hne]
    have hsum := (hbuckets.map (c.create limits name type).entryBytes).sum_eq
    rw [List.map_cons, List.sum_cons, hself] at hsum
    show c.ownedBytes + sizeofCacheEntry = _ + _
    have hbefore := h.bytes
    rw [← hother] at hbefore
    unfold Cache.residents at hbefore ⊢
    change ((chain limits.entryLimit (c.create limits name type).buckets).map _).sum = _ at hsum
    omega
  · intro e entry he
    have hnext : ∀ x ≤ c.nextEntryId, (c.create limits name type).nextEntryId ≠ 0 →
        x < (c.create limits name type).nextEntryId := by
      intro x hx
      simp only [Cache.create]
      split <;> omega
    rcases update_some he with ⟨rfl, -⟩ | ⟨-, he⟩
    · exact ⟨hid, hnext _ (Nat.le_refl _)⟩
    · obtain ⟨h₁, h₂⟩ := h.ids e entry he
      exact ⟨h₁, hnext e (Nat.le_of_lt (h₂ hid))⟩

theorem free (he : c.entries e = some entry) : CacheSound limits (entryFree limits c e entry) := by
  have hmem : e ∈ c.buckets (cacheBucket limits entry.hash) := by
    rw [h.chains.mem, Cache.place, he]
    rfl
  have hperm := chain_erase_perm (cacheBucket_lt limits entry.hash) hmem
  have hlimit := h.bytes_le
  have hcount := h.count_le
  have hold : ∀ x (found : Entry), update c.entries e none x = some found →
      c.entries x = some found := fun _ _ hx => (update_none hx).2
  have hplace : (c.without limits e entry).place limits = update (c.place limits) e none :=
    map_update ..
  rw [entryFree_eq he]
  refine ⟨?_, fun x found hx => h.named x found (hold x found hx), ?_,
    fun x found hx => h.referenced x found (hold x found hx), ?_, ?_, ?_, ?_,
    fun x found hx => h.ids x found (hold x found hx)⟩
  · rw [hplace]
    exact h.chains.remove (by rw [Cache.place, he]; rfl)
  · intro x y found found' hx hy
    exact h.unique x y found found' (hold x found hx) (hold y found' hy)
  · show c.entryCount - 1 = _
    rw [h.count]
    exact Nat.sub_eq_of_eq_add hperm.length_eq
  · show c.entryCount - 1 ≤ limits.entryLimit
    omega
  · have hsum := (hperm.map c.entryBytes).sum_eq
    have hbefore := h.bytes
    have hnodup := hperm.nodup_iff.1 h.residents_nodup
    have hother : ((c.without limits e entry).residents limits).map
        (c.without limits e entry).entryBytes =
        ((c.without limits e entry).residents limits).map c.entryBytes := by
      apply List.map_congr_left
      intro x hx
      have hne : x ≠ e := fun hxe => (List.nodup_cons.1 hnodup).1 (hxe ▸ hx)
      simp [Cache.entryBytes, Cache.payloadBytes, Cache.payload, Cache.without, hne]
    change ((c.residents limits).map c.entryBytes).sum =
      _ + (((c.without limits e entry).residents limits).map c.entryBytes).sum at hsum
    rw [hother]
    show c.ownedBytes - c.payloadBytes e - sizeofCacheEntry = _
    rw [Cache.entryBytes] at hsum
    omega
  · show c.ownedBytes - c.payloadBytes e - sizeofCacheEntry ≤ limits.ownedByteLimit
    omega

end CacheSound

theorem CacheMove.sound {ids : List EntryId} (hm : CacheMove limits c ids c')
    (h : CacheSound limits c) :
    CacheSound limits c' := by
  cases hm with
  | record hr => exact h.recorded hr
  | count he hn => exact h.setReferences he hn
  | create hnew => exact h.create hnew
  | clear e => exact h.payloadClear _
  | store he hbytes => exact h.store he hbytes
  | free he => exact h.free he

theorem CacheMoves.sound {ids : List EntryId} (hm : CacheMoves limits c ids c')
    (h : CacheSound limits c) : CacheSound limits c' := by
  induction hm with
  | refl c => exact h
  | step hstep _ ih => exact ih (hstep.sound h)

theorem cacheCreate_sound (limits : CacheLimits) : CacheSound limits (cacheCreate limits) := by
  have hnone : ∀ e entry, (cacheCreate limits).entries e ≠ some entry :=
    fun e entry he => Option.some_ne_none entry he.symm
  have hempty : (cacheCreate limits).residents limits = [] :=
    List.flatMap_eq_nil_iff.2 fun _ _ => rfl
  refine ⟨⟨fun _ => List.nodup_nil, fun k e => ?_⟩, fun e entry he => absurd he (hnone e entry),
    fun e _ entry _ he => absurd he (hnone e entry), fun e entry he => absurd he (hnone e entry),
    ?_, Nat.zero_le _, ?_, limits.header_le, fun e entry he => absurd he (hnone e entry)⟩
  · exact iff_of_false List.not_mem_nil (Option.some_ne_none k).symm
  · rw [hempty]
    rfl
  · rw [hempty]
    rfl

end Sound

/-! ## 5. Runs, and the ids of a run -/

/-- The id of the entry a call creates. -/
def created (c : Cache) : CacheCall → List EntryId
  | .acquire queryName queryType allocated =>
    ((entryAcquire limits c queryName queryType allocated).2.2.filter fun e =>
      (c.entries e).isNone).toList
  | _ => []

/-- The ids of the entries a run creates, in the order of their creation. -/
def creations (limits : CacheLimits) : Cache → List CacheCall → List EntryId
  | _, [] => []
  | c, call :: calls => created limits c call ++ creations limits (cacheCall limits c call) calls

section Runs

variable {limits : CacheLimits} {c c' : Cache} {ids : List EntryId}

theorem entryAcquire_moves (h : CacheSound limits c) (queryName : Bytes) (queryType : Nat)
    (allocated : Bool) :
    CacheMoves limits c (created limits c (.acquire queryName queryType allocated))
      (entryAcquire limits c queryName queryType allocated).1 := by
  have ha := entryAcquire_acquired limits c queryName queryType allocated
  unfold created
  dsimp only
  generalize (entryAcquire limits c queryName queryType allocated).1 = c' at ha ⊢
  generalize (entryAcquire limits c queryName queryType allocated).2.2 = found at ha ⊢
  cases ha with
  | refused hr => exact hr.moves
  | reused he hr =>
    rw [Option.filter_some, he]
    exact (CacheMove.count he (Nat.succ_pos _)).recorded hr
  | created hnew hr =>
    rw [Option.filter_some, h.next_free hnew.id]
    exact (CacheMove.create hnew).recorded hr

/-- Every call is a sequence of moves. -/
theorem cacheCall_moves (h : CacheSound limits c) (call : CacheCall) :
    CacheMoves limits c (created limits c call) (cacheCall limits c call) := by
  cases call with
  | acquire queryName queryType allocated => exact entryAcquire_moves h ..
  | retain e => exact entryRetain_moves
  | release e => exact entryRelease_moves
  | publishAddress e lookupStatus completedAt result allocated => exact entryPublish_moves
  | publishSrv e lookupStatus completedAt result allocated => exact entryPublish_moves
  | view e now => exact entryView_moves

theorem cacheCalls_moves (h : CacheSound limits c) (calls : List CacheCall) :
    CacheMoves limits c (creations limits c calls) (calls.foldl (cacheCall limits) c) := by
  induction calls generalizing c with
  | nil => exact .refl c
  | cons call calls ih =>
    have hcall := cacheCall_moves h call
    exact hcall.trans (ih (hcall.sound h))

theorem payloadClear_nextEntryId (c : Cache) (e : EntryId) :
    (payloadClear c e).nextEntryId = c.nextEntryId := by
  unfold payloadClear
  split
  · rfl
  · split <;> rfl

/-- A created entry takes the next id, and the next id is behind it or used up. -/
theorem CacheMove.next (hm : CacheMove limits c ids c') :
    (ids = [] ∧ c'.nextEntryId = c.nextEntryId) ∨
      (ids = [c.nextEntryId] ∧ c.nextEntryId ≠ 0 ∧
        (c'.nextEntryId = 0 ∨ c'.nextEntryId = c.nextEntryId + 1)) := by
  cases hm with
  | record hr =>
    obtain ⟨m, rfl⟩ := hr
    exact Or.inl ⟨rfl, rfl⟩
  | count he hn => exact Or.inl ⟨rfl, rfl⟩
  | create hnew =>
    refine Or.inr ⟨rfl, hnew.id, ?_⟩
    show (if c.nextEntryId = uint64Max then 0 else c.nextEntryId + 1) = 0 ∨
      (if c.nextEntryId = uint64Max then 0 else c.nextEntryId + 1) = _
    split
    · exact Or.inl rfl
    · exact Or.inr rfl
  | clear e => exact Or.inl ⟨rfl, payloadClear_nextEntryId _ _⟩
  | store he hbytes => exact Or.inl ⟨rfl, payloadClear_nextEntryId _ _⟩
  | free he => exact Or.inl ⟨rfl, payloadClear_nextEntryId _ _⟩

/-- Ids are created in increasing order, from the next one on. -/
theorem CacheMoves.increasing (hm : CacheMoves limits c ids c') :
    ids.Pairwise (· < ·) ∧ ∀ e ∈ ids, c.nextEntryId ≠ 0 ∧ c.nextEntryId ≤ e := by
  induction hm with
  | refl c => exact ⟨.nil, nofun⟩
  | @step c c' c'' ids ids' hm _ ih =>
    obtain ⟨hpairs, hbounds⟩ := ih
    rcases hm.next with ⟨rfl, hnext⟩ | ⟨rfl, hid, hnext⟩
    · rw [hnext] at hbounds
      exact ⟨hpairs, hbounds⟩
    · -- what follows is behind the created id, or there is no further id at all
      have hlater : ∀ e ∈ ids', c.nextEntryId < e := by
        intro e he
        obtain ⟨hne, hle⟩ := hbounds e he
        rcases hnext with hzero | hsucc
        · exact absurd hzero hne
        · omega
      rw [List.singleton_append, List.pairwise_cons]
      refine ⟨⟨hlater, hpairs⟩, fun e he => ⟨hid, ?_⟩⟩
      rcases List.mem_cons.1 he with rfl | he
      · exact Nat.le_refl _
      · exact Nat.le_of_lt (hlater e he)

/-- A resident entry was resident before, or was created. -/
theorem CacheMove.resident (hm : CacheMove limits c ids c') {e : EntryId}
    (he : c'.entries e ≠ none) : c.entries e ≠ none ∨ e ∈ ids := by
  have hself : ∀ {x : EntryId} {entry found : Entry}, c.entries x = some entry →
      update c.entries x (some found) e ≠ none → c.entries e ≠ none := by
    intro x entry found hx he
    by_cases hex : e = x
    · rw [hex, hx]
      exact nofun
    · rwa [update_of_ne hex] at he
  cases hm with
  | record hr =>
    obtain ⟨m, rfl⟩ := hr
    exact Or.inl he
  | count hx hn => exact Or.inl (hself hx he)
  | create hnew =>
    by_cases hex : e = c.nextEntryId
    · exact Or.inr (List.mem_singleton.2 hex)
    · left
      change update c.entries c.nextEntryId _ e ≠ none at he
      rwa [update_of_ne hex] at he
  | clear x =>
    cases hx : c.entries x with
    | none =>
      unfold payloadClear at he
      rw [hx] at he
      exact Or.inl he
    | some entry =>
      rw [payloadClear_eq hx] at he
      exact Or.inl (hself hx he)
  | store hx hbytes =>
    rw [Cache.store_eq hx] at he
    exact Or.inl (hself hx he)
  | free hx =>
    rw [entryFree_eq hx] at he
    refine Or.inl fun hnone => he ?_
    show update c.entries _ none e = none
    rw [update_apply]
    split
    · rfl
    · exact hnone

theorem CacheMoves.resident (hm : CacheMoves limits c ids c') {e : EntryId}
    (he : c'.entries e ≠ none) : c.entries e ≠ none ∨ e ∈ ids := by
  induction hm with
  | refl c => exact Or.inl he
  | step hm _ ih =>
    rcases ih he with h | h
    · rcases hm.resident h with h | h
      · exact Or.inl h
      · exact Or.inr (List.mem_append_left _ h)
    · exact Or.inr (List.mem_append_right _ h)

end Runs

/-- The subtractions of the code stay above zero: what leaves with a payload or an entry has been
    counted. -/
def Unclamped (c : Cache) : Prop :=
  ∀ e entry, c.entries e = some entry →
    c.payloadBytes e ≤ c.ownedBytes ∧ sizeofCacheEntry ≤ (payloadClear c e).ownedBytes ∧
      0 < c.entryCount

theorem CacheSound.unclamped {limits : CacheLimits} {c : Cache} (h : CacheSound limits c) :
    Unclamped c := by
  intro e entry he
  have hle := h.entryBytes_le he
  unfold Cache.entryBytes at hle
  refine ⟨by omega, ?_, h.entryCount_pos he⟩
  rw [payloadClear_eq he]
  show sizeofCacheEntry ≤ c.ownedBytes - c.payloadBytes e
  omega

/-- What holds of the cache after a run. -/
structure CacheRunSound (limits : CacheLimits) (calls : List CacheCall) : Prop where
  sound : CacheSound limits (cacheRun limits calls)
  unclamped : Unclamped (cacheRun limits calls)
  increasing : (creations limits (cacheCreate limits) calls).Pairwise (· < ·)
  nonzero : 0 ∉ creations limits (cacheCreate limits) calls
  resident : ∀ e, (cacheRun limits calls).entries e ≠ none →
    e ∈ creations limits (cacheCreate limits) calls

/-- **The structure of the cache in every run.**  Names are unique by type, every entry hangs in
    the chain of its hash with at least one reference, the counts of entries and of bytes are exact
    and within their limits, no subtraction is clamped, and ids are created nonzero and increasing.
    -/
theorem run_cacheSound (limits : CacheLimits) (calls : List CacheCall) :
    CacheRunSound limits calls := by
  have hstart := cacheCreate_sound limits
  have hmoves : CacheMoves limits (cacheCreate limits)
      (creations limits (cacheCreate limits) calls) (cacheRun limits calls) :=
    cacheCalls_moves hstart calls
  obtain ⟨hpairs, hbounds⟩ := hmoves.increasing
  have hsound := hmoves.sound hstart
  refine ⟨hsound, hsound.unclamped, hpairs, ?_, ?_⟩
  · intro hzero
    exact absurd (hbounds 0 hzero).2 (Nat.not_succ_le_zero 0)
  · intro e he
    rcases hmoves.resident he with h | h
    · exact absurd rfl h
    · exact h

/-! ## 6. Publications -/

/-- One entry's payload was replaced and nothing else happened: the entry keeps its identity and its
    references, and the bytes owned change by those of this payload. -/
structure PayloadReplaced (limits : CacheLimits) (c c' : Cache) (e : EntryId) : Prop where
  entry : c'.entries e = (c.entries e).map fun entry => { entry with payload := c'.payload e }
  others : ∀ x, x ≠ e → c'.entries x = c.entries x
  frame : c'.buckets = c.buckets ∧ c'.entryCount = c.entryCount ∧ c'.nextEntryId = c.nextEntryId
  bytes : CacheSound limits c → c'.ownedBytes + c.payloadBytes e = c.ownedBytes + c'.payloadBytes e

/-- What one publication does: `before` and `after` are the caller's result, and `result` is what
    an entry that takes it over holds. -/
structure PublishAtomic {ρ : Type} (limits : CacheLimits) (c c' : Cache) (e : EntryId)
    (status : PublishStatus) (completedAt : Timespec) (result : AnyResult)
    (before after : DnsResult ρ) : Prop extends PayloadReplaced limits c c' e where
  /-- the entry has the whole result, the caller has nothing -/
  stored : status = .stored → after = {} ∧
    ∃ p, c'.payload e = some p ∧ p.result = result ∧ p.completedAt = completedAt
  /-- the entry has nothing, the caller keeps the result -/
  transient : status = .transient → after = before ∧ c'.payload e = none
  /-- both sides are as they were, and so is everything else -/
  refused : status ≠ .stored → status ≠ .transient → after = before ∧ Recorded c c'

section Publications

variable {limits : CacheLimits} {c c' : Cache} {e : EntryId} {entry : Entry} {n : Nat}

theorem PayloadReplaced.of_setEntry {payload : Option Payload} (he : c.entries e = some entry)
    (hbytes : CacheSound limits c →
      n + c.payloadBytes e = c.ownedBytes + (payload.map (·.ownedBytes)).getD 0)
    (hr : Recorded { c.setEntry e { entry with payload } with ownedBytes := n } c') :
    PayloadReplaced limits c c' e ∧ c'.payload e = payload := by
  obtain ⟨m, rfl⟩ := hr
  have hself : ({ { c.setEntry e { entry with payload } with ownedBytes := n } with
      metrics := m } : Cache).entries e = some { entry with payload } := update_self ..
  have hpayload : ({ { c.setEntry e { entry with payload } with ownedBytes := n } with
      metrics := m } : Cache).payload e = payload := by
    rw [Cache.payload, hself]
    rfl
  refine ⟨⟨?_, fun x hx => update_of_ne hx .., ⟨rfl, rfl, rfl⟩, fun h => ?_⟩, hpayload⟩
  · rw [hpayload, hself, he]
    rfl
  · rw [Cache.payloadBytes_eq hself]
    exact hbytes h

theorem PayloadReplaced.recorded (limits : CacheLimits) (e : EntryId) (hr : Recorded c c') :
    PayloadReplaced limits c c' e := by
  obtain ⟨m, rfl⟩ := hr
  refine ⟨?_, fun _ _ => rfl, ⟨rfl, rfl, rfl⟩, fun _ => rfl⟩
  unfold Cache.payload
  cases c.entries e <;> rfl

theorem PayloadReplaced.cleared (limits : CacheLimits) (he : c.entries e = some entry)
    (hr : Recorded (payloadClear c e) c') :
    PayloadReplaced limits c c' e ∧ c'.payload e = none := by
  rw [payloadClear_eq he] at hr
  refine PayloadReplaced.of_setEntry he (fun h => ?_) hr
  have hle := h.entryBytes_le he
  unfold Cache.entryBytes at hle
  show _ = c.ownedBytes + 0
  omega

theorem PayloadReplaced.stored (limits : CacheLimits) {payload : Payload}
    (he : c.entries e = some entry) (hr : Recorded (c.store e entry payload) c') :
    PayloadReplaced limits c c' e ∧ c'.payload e = some payload := by
  rw [Cache.store_eq he] at hr
  refine PayloadReplaced.of_setEntry he (fun h => ?_) hr
  have hle := h.entryBytes_le he
  unfold Cache.entryBytes at hle
  show _ = c.ownedBytes + payload.ownedBytes
  omega

/-- Both publication calls: the caller's result is emptied where it is stored, and only there. -/
theorem EntryPublished.atomic {ρ : Type} {type : DnsResult ρ → AnyResult} {validate : ResultCheck}
    {completedAt : Timespec} {result : DnsResult ρ} {r : PublishStatus × DnsResult ρ}
    (h : EntryPublished limits c e type validate completedAt result c' r) :
    PublishAtomic limits c c' e r.1 completedAt (type result) result r.2 := by
  cases h with
  | refused hs ht hr =>
    exact ⟨.recorded limits e hr, fun h => absurd h hs, fun h => absurd h ht,
      fun _ _ => ⟨rfl, hr⟩⟩
  | published he hvalid h =>
    cases h with
    | stored httl hexpiry hsize hr =>
      obtain ⟨hreplaced, hpayload⟩ := PayloadReplaced.stored limits he hr
      exact ⟨hreplaced, fun _ => ⟨rfl, _, hpayload, rfl, rfl⟩, nofun, fun h => absurd rfl h⟩
    | transient httl hr =>
      obtain ⟨hreplaced, hpayload⟩ := PayloadReplaced.cleared limits he hr
      exact ⟨hreplaced, nofun, fun _ => ⟨rfl, hpayload⟩, fun _ h => absurd rfl h⟩
    | refused hs ht hr =>
      exact ⟨.recorded limits e hr, fun h => absurd h hs, fun h => absurd h ht,
        fun _ _ => ⟨rfl, hr⟩⟩

end Publications

/-- **Publications are atomic**, whatever the cache, the entry, the lookup's status, the time and
    the outcome of `calloc`, for addresses and for SRV records. -/
theorem entryPublish_atomic (limits : CacheLimits) (c : Cache) (e : EntryId)
    (lookupStatus : LookupStatus) (completedAt : Timespec) (allocated : Bool)
    (addresses : AddressResult) (srv : SrvResult) :
    (let r := entryPublishAddress limits c e lookupStatus completedAt addresses allocated
     PublishAtomic limits c r.1 e r.2.1 completedAt (.address addresses) addresses r.2.2) ∧
    (let r := entryPublishSrv limits c e lookupStatus completedAt srv allocated
     PublishAtomic limits c r.1 e r.2.1 completedAt (.srv srv) srv r.2.2) :=
  ⟨(entryPublish_published rfl).atomic, (entryPublish_published rfl).atomic⟩

end MinecraftRelay
