/-
  File:      Resolver/Cache/References.lean
  Subject:   THE REFERENCES TO THE ENTRIES, and what an entry stands for while it is referenced.

  Whoever keeps a pointer to an entry holds one of its references.  As long as the holders of an
  entry together hold no more references than the entry counts, no pointer of theirs dangles, and
  the entry keeps its name and its type.

  * `Counted` -- what a call does to the count of an entry and to its name and type, with one lemma
    for each call.
-/
import MinecraftRelay.Resolver.Cache.Accounting

namespace MinecraftRelay

open Placement
open Function (update update_apply update_of_ne update_self)

/-- The references to an entry; a pointer that finds no entry has none. -/
def Cache.references (c : Cache) (e : EntryId) : Nat :=
  ((c.entries e).map (·.referenceCount)).getD 0

/-- The name and the type of an entry. -/
def Cache.question (c : Cache) (e : EntryId) : Option (Bytes × QueryType) :=
  (c.entries e).map fun entry => (entry.name, entry.queryType)

/-- The entries have these references now, and those referenced all along are the same. -/
structure Counted (c c' : Cache) (references : EntryId → Nat) : Prop where
  count : ∀ x, c'.references x = references x
  same : ∀ x, 0 < c.references x → 0 < c'.references x → c'.question x = c.question x

section Counts

variable {c c' : Cache} {e : EntryId} {entry : Entry}

theorem Cache.references_pos (h : 0 < c.references e) : ∃ entry, c.entries e = some entry := by
  unfold Cache.references at h
  cases he : c.entries e with
  | none =>
    rw [he] at h
    exact absurd h (Nat.lt_irrefl 0)
  | some entry => exact ⟨entry, rfl⟩

theorem Cache.references_eq (h : c.entries e = some entry) :
    c.references e = entry.referenceCount := by
  unfold Cache.references
  rw [h]
  rfl

theorem Recorded.references (h : Recorded c c') (x : EntryId) :
    c'.references x = c.references x := by
  obtain ⟨m, rfl⟩ := h
  rfl

theorem Recorded.question (h : Recorded c c') (x : EntryId) : c'.question x = c.question x := by
  obtain ⟨m, rfl⟩ := h
  rfl

theorem Counted.refl (c : Cache) : Counted c c c.references := ⟨fun _ => rfl, fun _ _ _ => rfl⟩

theorem Counted.recorded {c'' : Cache} {n : EntryId → Nat} (h : Counted c c' n)
    (hr : Recorded c' c'') : Counted c c'' n := by
  refine ⟨fun x => (hr.references x).trans (h.count x), fun x hx hx' => ?_⟩
  rw [hr.question]
  rw [hr.references] at hx'
  exact h.same x hx hx'

section

variable (entry' : Entry) (he : c.entries e = some entry)
  (hw : c'.entries = update c.entries e (some entry')) (hn : entry'.name = entry.name)
  (ht : entry'.queryType = entry.queryType)

include he hw hn ht

/-- An entry is rewritten, with the same name and type. -/
theorem Counted.of_write :
    Counted c c' fun x => if x = e then entry'.referenceCount else c.references x := by
  constructor
  · intro x
    unfold Cache.references
    rw [hw]
    grind [update_apply]
  · intro x _ _
    unfold Cache.question
    rw [hw]
    grind [update_apply]

/-- An entry is rewritten and keeps its references. -/
theorem Counted.of_rewrite
    (hr : entry'.referenceCount = entry.referenceCount) : Counted c c' c.references := by
  have h := Counted.of_write entry' he hw hn ht
  refine ⟨fun x => (h.count x).trans ?_, h.same⟩
  split
  · rename_i hx
    rw [hx, Cache.references_eq he, hr]
  · rfl

end

theorem entryRetain_counted (h : (entryRetain c e).2 = true) :
    Counted c (entryRetain c e).1 fun x => c.references x + if x = e then 1 else 0 := by
  rcases entryRetain_cases c e with hr | ⟨entry, he, hr⟩
  · rw [hr] at h
    cases h
  · rw [hr]
    have hw : Counted c (c.setEntry e _) _ :=
      .of_write { entry with referenceCount := entry.referenceCount + 1 } he rfl rfl rfl
    refine ⟨fun x => (hw.count x).trans ?_, hw.same⟩
    split
    · rename_i hx
      rw [hx, Cache.references_eq he]
    · rfl

theorem entryRetain_refused (h : (entryRetain c e).2 = false) : (entryRetain c e).1 = c := by
  rcases entryRetain_cases c e with hr | ⟨entry, he, hr⟩
  · rw [hr]
  · rw [hr] at h
    cases h

variable {limits : CacheLimits}

/-- A reference that is held is given back. -/
theorem entryRelease_counted (h : 0 < c.references e) :
    Counted c (entryRelease limits c e)
      fun x => c.references x - if x = e then 1 else 0 := by
  obtain ⟨entry, he⟩ := c.references_pos h
  rw [Cache.references_eq he] at h
  have hsub : ∀ x, (if x = e then entry.referenceCount - 1 else c.references x) =
      c.references x - if x = e then 1 else 0 := by
    intro x
    split
    · rename_i hx
      rw [hx, Cache.references_eq he]
    · rfl
  unfold entryRelease
  rw [he]
  dsimp only
  rw [if_neg (by omega)]
  by_cases hlast : entry.referenceCount - 1 = 0
  · -- the last one: the entry goes
    rw [if_neg (by simpa using hlast), entryFree_eq he]
    constructor
    · intro x
      rw [← hsub x]
      simp only [Cache.references, Cache.without, update_apply]
      split <;> simp [hlast]
    · intro x _ hx'
      obtain ⟨entry', he'⟩ := Cache.references_pos hx'
      have hne := (update_none he').1
      simp [Cache.question, Cache.without, update_of_ne hne]
  · rw [if_pos hlast]
    have hw : Counted c (c.setEntry e _) _ :=
      .of_write { entry with referenceCount := entry.referenceCount - 1 } he rfl rfl rfl
    exact ⟨fun x => (hw.count x).trans (hsub x), hw.same⟩

theorem payloadClear_counted : Counted c (payloadClear c e) c.references := by
  cases he : c.entries e with
  | none =>
    unfold payloadClear
    rw [he]
    exact .refl c
  | some entry =>
    rw [payloadClear_eq he]
    exact .of_rewrite { entry with payload := none } he rfl rfl rfl rfl

theorem entryPublish_counted {ρ : Type} {type : DnsResult ρ → AnyResult} {validate : ResultCheck}
    {size : Option Nat} {completedAt : Timespec} {result : DnsResult ρ} {allocated : Bool} :
    Counted c (entryPublish limits c e type validate size completedAt result allocated).1
      c.references := by
  generalize hr : entryPublish limits c e type validate size completedAt result allocated = r
  obtain ⟨c', r⟩ := r
  cases entryPublish_published hr with
  | refused _ _ hr => exact (Counted.refl c).recorded hr
  | @published entry _ _ _ _ he _ h =>
    cases h with
    | stored _ _ _ hr =>
      rw [Cache.store_eq he] at hr
      exact (Counted.of_rewrite { entry with payload := some _ } he rfl rfl rfl rfl).recorded hr
    | transient _ hr => exact payloadClear_counted.recorded hr
    | refused _ _ hr => exact (Counted.refl c).recorded hr

theorem entryView_counted {now : Timespec} : Counted c (entryView c e now).1 c.references := by
  unfold entryView
  split
  · exact .refl c
  split
  · exact .refl c
  show Counted c (payloadExpire c e now) _
  unfold payloadExpire
  split
  · exact .refl c
  split
  · exact .refl c
  split
  · exact .refl c
  · rename_i entry _ _ payload _ _
    have hclear := payloadClear_counted (e := e)
      (c := c.metricsIncrement entry.queryType.metrics (.expiry payload.kind))
    exact ⟨hclear.count, hclear.same⟩

/-- An acquired entry has one reference more. -/
theorem entryAcquire_counted (h : CacheSound limits c) (queryName : Bytes) (queryType : Nat)
    (allocated : Bool) :
    Counted c (entryAcquire limits c queryName queryType allocated).1
      fun x => c.references x +
        if (entryAcquire limits c queryName queryType allocated).2.2 = some x then 1 else 0 := by
  have ha := entryAcquire_acquired limits c queryName queryType allocated
  generalize (entryAcquire limits c queryName queryType allocated).1 = c' at ha ⊢
  generalize (entryAcquire limits c queryName queryType allocated).2.2 = found at ha ⊢
  cases ha with
  | refused hr =>
    have hsame := (Counted.refl c).recorded hr
    exact ⟨fun x => (hsame.count x).trans (by simp), hsame.same⟩
  | @reused e entry he hr =>
    have hw : Counted c (c.setEntry e _) _ :=
      .of_write { entry with referenceCount := entry.referenceCount + 1 } he rfl rfl rfl
    refine ⟨fun x => ((hw.recorded hr).count x).trans ?_, (hw.recorded hr).same⟩
    grind [Cache.references_eq he]
  | created hnew hr =>
    have hfree := h.next_free hnew.id
    constructor
    · intro x
      rw [hr.references]
      unfold Cache.references
      simp only [Cache.create, update_apply, Option.some.injEq, eq_comm (a := x)]
      split <;> simp_all
    · intro x hx _
      obtain ⟨entry, he⟩ := Cache.references_pos hx
      rw [hr.question]
      simp only [Cache.question, Cache.create, update_apply]
      split <;> simp_all

end Counts

end MinecraftRelay
